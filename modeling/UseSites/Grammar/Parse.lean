import UseSites.Grammar.Repair
import UseSites.Syntax.Cst
/-!
# From source text to concrete trees

`parse` reads a source and gives its concrete tree. Comments and stretches that were passed over become
children of the smallest node that has tokens on both sides of them. A tree starts where the first of its
tokens and comments does.
-/

namespace UseSites.Grammar

/-- What trees are cut from: the text and the row of each of its places, the text with blanks in place of
what was passed over, and the nodes of that. -/
structure SourceText where
  text : Array Char
  rows : Array Nat
  readable : Array Char
  errors : List Node := []

namespace SourceText

/-- The row of every place of a text, that of its end included. -/
def rowsOf (text : List Char) : Array Nat :=
  let (rows, last) := text.foldl
    (fun (rows, row) c => (rows.push row, if c = '\n' then row + 1 else row)) (#[], 0)
  rows.push last

def ofText (text readable : List Char) (errors : List Node) : SourceText where
  text := text.toArray
  rows := rowsOf text
  readable := readable.toArray
  errors := errors

def rowAt (source : SourceText) (place : Nat) : Nat := source.rows.getD place 0

def slice (source : SourceText) (start stop : Nat) : String :=
  String.ofList (source.text.extract start stop).toList

def commentsBetween (source : SourceText) (start stop : Nat) : List Node :=
  if start < stop then
    (commentsFrom start 0 (source.readable.extract start stop).toList).map fun (place, length) =>
      { kind := "comment", start := place, stop := place + length }
  else []

/-- Everything between two tokens that has a node. -/
def extrasBetween (source : SourceText) (start stop : Nat) : List Node :=
  let errors := source.errors.filter fun node => start ≤ node.start && node.stop ≤ stop
  if errors.isEmpty then source.commentsBetween start stop
  else (source.commentsBetween start stop ++ errors).mergeSort fun a b => a.start ≤ b.start

end SourceText

mutual

def treeOf (source : SourceText) (extras : Nat → Nat → List Cst) : Node → Cst
  | ⟨kind, named, label, start, stop, missing, children⟩ =>
    let parts := treesOf source extras start children
    { kind := kind, row := source.rowAt start, text := source.slice start stop, label := label,
      named := named, missing := missing,
      flawed := kind == "ERROR" || missing || parts.any (·.flawed), children := parts }

def treesOf (source : SourceText) (extras : Nat → Nat → List Cst) (place : Nat) : List Node → List Cst
  | [] => []
  | ⟨kind, named, label, start, stop, missing, children⟩ :: rest =>
    extras place start
      ++ treeOf source extras ⟨kind, named, label, start, stop, missing, children⟩
        :: treesOf source extras stop rest

end

def commentTrees (source : SourceText) (start stop : Nat) : List Cst :=
  (source.commentsBetween start stop).map (treeOf source fun _ _ => [])

def extraTrees (source : SourceText) (start stop : Nat) : List Cst :=
  (source.extrasBetween start stop).map (treeOf source (commentTrees source))

def programTree (source : SourceText) (nodes : List Node) : Cst :=
  let size := source.text.size
  let last := (nodes.getLast?.map Node.stop).getD 0
  let parts := treesOf source (extraTrees source) 0 nodes ++ extraTrees source last size
  let start := spanLength isBlank source.text.toList
  { kind := "program", row := source.rowAt start, text := source.slice start size,
    flawed := !source.errors.isEmpty || parts.any (·.flawed), children := parts }

/-- Reads a source, with repairs if need be. -/
def parse (dialect : Dialect) (text : String) : Cst :=
  let chars := text.toList
  let found := readProgram dialect chars
  if found.finished then programTree (.ofText chars chars []) found.nodes
  else
    let repairs := repairsFor dialect chars found
    let readable := (chars.zipIdx).map fun (c, place) =>
      if repairs.any (Repair.passes place) then blankFor c else c
    programTree (.ofText chars readable (errorNodes dialect chars repairs))
      (attempt dialect chars repairs).nodes

end UseSites.Grammar
