import UseSites.Text.Lines
/-!
# Paths

A path is an anchor and a list of segments. Reading a path drops empty segments and single dots, so
that paths which differ only in those are equal; `..` stays. Exactly two slashes at the start are an
anchor of their own. `ofString` reads a path and `toString` writes it.
-/

namespace UseSites

/-- Where a path starts: at the working directory, at the root, or at the root written with two slashes. -/
inductive Anchor where
  | here | root | doubleRoot
  deriving DecidableEq, Inhabited, Repr

namespace Anchor

def text : Anchor → String
  | here => ""
  | root => "/"
  | doubleRoot => "//"

def ofText (text : List Char) : Anchor :=
  match (text.takeWhile (· = '/')).length with
  | 0 => here
  | 2 => doubleRoot
  | _ => root

end Anchor

structure Path where
  anchor : Anchor
  segments : List String
  deriving DecidableEq, Inhabited, Repr

namespace Path

def root : Path := ⟨.root, []⟩

def counts (segment : List Char) : Bool := !segment.isEmpty && segment != ['.']

def ofString (text : String) : Path :=
  ⟨Anchor.ofText text.toList, ((Text.pieces '/' text.toList).filter counts).map String.ofList⟩

def joinSegments (segments : List String) : String := "/".intercalate segments

/-- The path of the working directory itself is written as a dot. -/
def toString (path : Path) : String :=
  if path.anchor = .here ∧ path.segments = [] then "."
  else path.anchor.text ++ joinSegments path.segments

instance : ToString Path := ⟨toString⟩

def isAbsolute (path : Path) : Bool := path.anchor != .here

/-- A path read from another one: an absolute path stays as it is. -/
def append (base path : Path) : Path :=
  if path.isAbsolute then path else ⟨base.anchor, base.segments ++ path.segments⟩

instance : Append Path := ⟨append⟩

def child (path : Path) (segment : String) : Path := ⟨path.anchor, path.segments ++ [segment]⟩

def name (path : Path) : String := path.segments.getLast?.getD ""

/-- The part of a name from its last dot, unless the dot is the first or the last character. -/
def suffixOfName (name : String) : String :=
  let reversed := name.toList.reverse
  let ending := reversed.takeWhile (· ≠ '.')
  let stem := reversed.drop (ending.length + 1)
  if ending.isEmpty || stem.isEmpty || ending.length == reversed.length then ""
  else String.ofList ('.' :: ending.reverse)

def suffix (path : Path) : String := suffixOfName path.name

/-- The segments of a path below a directory, or nothing when it is not below it. -/
def below? (directory path : Path) : Option (List String) :=
  if directory.anchor = path.anchor ∧ directory.segments.isPrefixOf path.segments then
    some (path.segments.drop directory.segments.length)
  else none

def relativeTo? (path directory : Path) : Option Path :=
  (below? directory path).map fun segments => ⟨.here, segments⟩

end Path

end UseSites
