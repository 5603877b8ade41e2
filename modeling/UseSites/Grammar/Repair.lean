import UseSites.Grammar.Module
import UseSites.Grammar.Reading
/-!
# Repairs of broken sources

A source that the grammar cannot read to its end is repaired step by step: a closing bracket is put in
where reading got stuck, or a token is passed over there, until all of it can be read. `repairsFor` finds
repairs that change little, and `attempt` reads a source with repairs made.

A repaired source is a list of `Mended` characters, each of which knows the stretch of the source it
stands for, so that the nodes that are read can be put back into their places. What is put in stands for
an empty stretch, and what is passed over becomes blank.
-/

namespace UseSites.Grammar

inductive Repair where
  | pass (start stop : Nat)
  | insert (place : Nat) (text : List Char)
  deriving DecidableEq, Inhabited, Repr

namespace Repair

def passes (place : Nat) : Repair → Bool
  | pass start stop => start ≤ place && place < stop
  | insert _ _ => false

def insertedAt (place : Nat) : Repair → List Char
  | insert other text => if other = place then text else []
  | pass _ _ => []

end Repair

structure Mended where
  char : Char
  start : Nat
  stop : Nat
  deriving DecidableEq, Inhabited, Repr

def blankFor (c : Char) : Char := if c = '\n' then c else ' '

def mend (repairs : List Repair) (place : Nat) : List Char → List Mended
  | [] => (repairs.flatMap (Repair.insertedAt place)).map (⟨·, place, place⟩)
  | c :: rest =>
    (repairs.flatMap (Repair.insertedAt place)).map (⟨·, place, place⟩)
      ++ ⟨if repairs.any (Repair.passes place) then blankFor c else c, place, place + 1⟩
        :: mend repairs (place + 1) rest

def placeBefore (text : Array Mended) (place : Nat) : Nat :=
  match text[place]? with
  | some mended => mended.start
  | none => (text.back?.map Mended.stop).getD 0

def placeAfter (text : Array Mended) (place : Nat) : Nat :=
  match place with
  | 0 => 0
  | before + 1 => (text[before]?.map Mended.stop).getD 0

mutual

/-- A node put back into its place. A token that has been put in is missing in the source. -/
def restored (text : Array Mended) : Node → Node
  | ⟨kind, named, label, start, stop, _, children⟩ =>
    let first := placeBefore text start
    let last := if start < stop then placeAfter text stop else first
    { kind := kind, named := named, label := label, start := first, stop := last
      missing := children.isEmpty && start < stop && first == last
      children := restoredAll text children }

def restoredAll (text : Array Mended) : List Node → List Node
  | [] => []
  | node :: rest => restored text node :: restoredAll text rest

end

structure Attempt where
  nodes : List Node
  finished : Bool
  /-- Where the statements end that could be read. -/
  boundary : Nat
  /-- The furthest place at which a token was looked for. -/
  furthest : Nat
  lastStart : Nat
  lastStop : Nat
  deriving Inhabited

/-- No node lies deeper than this many goals per character of the source. -/
def depthBound (text : List Char) : Nat := 24 * (text.length + 2)

def readProgram (dialect : Dialect) (text : List Char) : Attempt :=
  let (outcome, memory) :=
    Rule.program.read dialect (readGoal rule dialect (depthBound text)) none (Place.ofText text) {}
  let (nodes, place) := outcome.getD ([], Place.ofText text)
  { nodes := nodes, finished := place.pastGap.rest.isEmpty, boundary := place.pastGap.before
    furthest := memory.furthest, lastStart := memory.lastStart, lastStop := memory.lastStop }

def attempt (dialect : Dialect) (text : List Char) (repairs : List Repair) : Attempt :=
  let mended := (mend repairs 0 text).toArray
  let found := readProgram dialect (mended.toList.map Mended.char)
  { nodes := restoredAll mended found.nodes
    finished := found.finished
    boundary := placeBefore mended found.boundary
    furthest := placeBefore mended found.furthest
    lastStart := placeBefore mended found.lastStart
    lastStop := placeAfter mended found.lastStop }

def anyTokenLength (text : List Char) : Nat :=
  ((nameLength? text).or ((numberLength? text).or (stringLength? text))).getD 1

/-- A name that is put in where one is missing, apart from its neighbours. -/
def missingName : List Char := [' ', 'x', ' ']

def endsConstruct (text : List Char) (stuck : Attempt) : Bool :=
  stuck.furthest == stuck.boundary || ["\x7d".toList, ";".toList].contains
    ((text.drop stuck.lastStart).take (stuck.lastStop - stuck.lastStart))

/-- Repairs worth trying where reading got stuck, the more likely ones first: a bracket is put in, the
token before is passed over if it is the shorter one, a name is put in, the next token is passed over.
Nothing is changed before the place when a construct ends there. At the end of the source only blocks
can be closed; everything else that is not complete there is passed over. -/
def candidates (text : List Char) (stuck : Attempt) : List Repair :=
  if stuck.furthest = text.length then
    (List.range 8).map fun count => .insert stuck.lastStop (List.replicate (count + 1) '\x7d')
  else
    let length := anyTokenLength (text.drop stuck.furthest)
    let next := Repair.pass stuck.furthest (stuck.furthest + length)
    let brackets := [')', ']', '\x7d'].map fun bracket => Repair.insert stuck.lastStop [bracket]
    let lastLength := stuck.lastStop - stuck.lastStart
    let last :=
      if 0 < lastLength ∧ lastLength ≤ length then [Repair.pass stuck.lastStart stuck.lastStop] else []
    if endsConstruct text stuck then brackets ++ [next]
    else brackets ++ last ++ [.insert stuck.lastStop missingName, next]

def Attempt.improves (better stuck : Attempt) : Bool := better.finished || stuck.furthest < better.furthest

/-- Adds repairs until the source can be read; `bound` limits their number, and what is left then is
passed over. -/
def repairsFrom (dialect : Dialect) (text : List Char) : Nat → List Repair → Attempt → List Repair
  | 0, repairs, stuck => repairs ++ [.pass stuck.boundary text.length]
  | bound + 1, repairs, stuck =>
    if stuck.finished then repairs
    else
      let tried := (candidates text stuck).map fun repair =>
        (repairs ++ [repair], attempt dialect text (repairs ++ [repair]))
      match tried.find? (·.2.improves stuck) with
      | some (repairs, better) => repairsFrom dialect text bound repairs better
      | none => repairs ++ [.pass stuck.boundary text.length]

/-- How many repairs are looked for; a long source gets fewer. -/
def repairLimit (text : List Char) : Nat := min 12 (20000 / (text.length + 1) + 1)

/-! ### What is passed over -/

def isWordToken (word : List Char) : Bool :=
  reservedWords.contains word || ["let".toList, "async".toList, "interface".toList].contains word

/-- The pieces of a stretch that is passed over: expressions where there are any, and single tokens. -/
def fragments (goals : Goal → Reader) (bound : Nat) (place : Place) : List Node :=
  match bound with
  | 0 => []
  | bound + 1 =>
    let place := place.pastGap
    if place.rest.isEmpty then []
    else
      let length := anyTokenLength place.rest
      let token := place.rest.take length
      let isName := (nameLength? token).isSome && !isWordToken token
      let leaf : Node :=
        { kind := if isName then "identifier" else String.ofList token
          named := isName, start := place.before, stop := place.before + length }
      match if isWordToken token then none else (goals .expression place {}).1 with
      | some (nodes, next) =>
        if place.before < next.before then nodes ++ fragments goals bound next
        else leaf :: fragments goals bound (place.advance length)
      | none => leaf :: fragments goals bound (place.advance length)

def errorNode (dialect : Dialect) (text : List Char) (start stop : Nat) : Node :=
  let stretch := (text.drop start).take (stop - start)
  let place : Place := ⟨start, stretch.length, stretch⟩
  { kind := "ERROR", start := place.pastGap.before, stop := stop
    children := fragments (readGoal rule dialect (depthBound stretch)) (stretch.length + 1) place }

def errorNodes (dialect : Dialect) (text : List Char) (repairs : List Repair) : List Node :=
  repairs.filterMap fun
    | .pass start stop => if start < stop then some (errorNode dialect text start stop) else none
    | .insert _ _ => none

/-! ### The choice of repairs -/

/-- How much a repair changes. What is passed over counts by its characters, lines and pieces. -/
def Repair.cost (dialect : Dialect) (text : List Char) : Repair → Nat
  | insert _ _ => 610
  | pass start stop =>
    let stretch := (text.drop start).take (stop - start)
    500 + stretch.length + 30 * stretch.count '\n'
      + 100 * (errorNode dialect text start stop).children.length

def totalCost (dialect : Dialect) (text : List Char) (repairs : List Repair) : Nat :=
  repairs.foldl (fun total repair => total + repair.cost dialect text) 0

/-- Repairs that let a source be read to its end: those that were found, or passing over all that is left
when that changes less. -/
def repairsFor (dialect : Dialect) (text : List Char) (stuck : Attempt) : List Repair :=
  let found := repairsFrom dialect text (repairLimit text) [] stuck
  let all := [Repair.pass stuck.boundary text.length]
  if totalCost dialect text all < totalCost dialect text found then all else found

end UseSites.Grammar
