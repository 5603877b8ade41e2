/-!
# Globs

A glob describes names by characters and wild cards. `Glyph.ofSegment` reads the glob of one segment of
a pattern: `*` stands for any stretch without a slash, `?` for one character that is no slash, brackets
for one character of a set, and a backslash takes the meaning away from the character behind it. A
bracket that is not closed stands for itself.
-/

namespace UseSites.Ignore

inductive Glyph where
  | char (c : Char)
  | any
  | stretch
  /-- One character inside, or outside, all of the ranges. -/
  | among (negated : Bool) (ranges : List (Char × Char))
  deriving DecidableEq, Inhabited, Repr

namespace Glyph

/-- The ranges of a set: a hyphen between two characters makes a range of them. -/
def ranges : List Char → List (Char × Char)
  | low :: '-' :: high :: rest => (low, high) :: ranges rest
  | c :: rest => (c, c) :: ranges rest
  | [] => []

def isNegation (c : Char) : Bool := c == '!' || c == '^'

/-- How many characters of a set follow its first bracket, the negation included and the closing bracket
left out. A bracket right at the start belongs to the set. -/
def setLength? (text : List Char) : Option Nat :=
  let negation := (text.take 1).countP isNegation
  let rest := text.drop negation
  let opening := (rest.take 1).count ']'
  let body := (rest.drop opening).takeWhile (· ≠ ']')
  let length := negation + opening + body.length
  if length < text.length then some length else none

def ofSet (text : List Char) : Glyph :=
  if (text.head?.map isNegation).getD false then .among true (ranges text.tail)
  else .among false (ranges text)

/-- Reads a glob of which `skip` characters have been dealt with. Only a backslash at the very end cannot
be read. -/
def read? (skip : Nat) : List Char → Option (List Glyph)
  | [] => some []
  | c :: rest =>
    match skip with
    | skip + 1 => read? skip rest
    | 0 =>
      if c = '\\' then
        match rest with
        | [] => none
        | d :: _ => (read? 1 rest).map (.char d :: ·)
      else if c = '*' then (read? 0 rest).map (.stretch :: ·)
      else if c = '?' then (read? 0 rest).map (.any :: ·)
      else if c = '[' then
        match setLength? rest with
        | none => (read? 0 rest).map (.char c :: ·)
        | some length => (read? (length + 1) rest).map (ofSet (rest.take length) :: ·)
      else (read? 0 rest).map (.char c :: ·)

def ofSegment? (segment : List Char) : Option (List Glyph) := read? 0 segment

def inOrder : Glyph → Bool
  | among _ ranges => ranges.all fun (low, high) => low ≤ high
  | _ => true

def covers (c : Char) : Glyph → Bool
  | char d => c == d
  | any => c != '/'
  | stretch => false
  | among negated ranges => negated != ranges.any fun (low, high) => low ≤ c && c ≤ high

end Glyph

end UseSites.Ignore
