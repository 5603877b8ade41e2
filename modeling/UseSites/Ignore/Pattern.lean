import UseSites.Ignore.Glob
import UseSites.Text.Blank
import UseSites.Text.Lines
import UseSites.Text.Quoted
/-!
# Ignore patterns

A pattern is a line of an ignore file. It selects paths, or takes paths out of the selection when it
starts with `!`. Blank lines and comments are no patterns. A pattern with a slash anywhere but at its end
counts from the top of the project, all others hold at any depth; a slash at the end limits a pattern to
directories and what is below them; `**` stands for any number of directories.

`Pattern.ofLine` reads a line into a route, a list of steps that a path has to go through.
-/

namespace UseSites.Ignore

inductive Step where
  | glyph (glyph : Glyph)
  /-- A whole segment. -/
  | name
  | slash
  /-- Any directories from the top down, or none. -/
  | above
  /-- Any directories in between, or none. -/
  | between
  /-- A slash, which shows that the pattern holds for a directory. -/
  | inside
  /-- The end of the path, or a slash that shows that the pattern holds for a directory. -/
  | finish
  deriving DecidableEq, Inhabited, Repr

inductive Route where
  | everywhere
  /-- All paths below a directory; `folder` says whether the pattern names the directory. -/
  | belowTop (folder : Bool)
  | steps (steps : List Step)
  deriving DecidableEq, Inhabited, Repr

def Route.inOrder : Route → Bool
  | .steps route => route.all fun | .glyph glyph => glyph.inOrder | _ => true
  | _ => true

structure Pattern where
  negated : Bool
  route : Route
  deriving DecidableEq, Inhabited, Repr

inductive PatternFlaw where
  /-- Nothing is left to match, or nothing follows a backslash. -/
  | malformed (line : String)
  /-- A range in brackets goes downwards. -/
  | badRange
  deriving DecidableEq, Inhabited, Repr

def PatternFlaw.message : PatternFlaw → String
  | malformed line => "Invalid git pattern: " ++ Text.quoted line
  | badRange => "bad character range"

namespace Pattern

def anyDepth : List Char := ['*', '*']

/-- Without the blanks at the end, unless the last one is a blank with a backslash before it. -/
def withoutPadding (line : List Char) : List Char :=
  if (['\\', ' '].isSuffixOf line) then line else Text.trimmedRight line

/-- The segments of a pattern, counted from the top of the project. -/
def anchored : List (List Char) → List (List Char)
  | [] :: segments => segments
  | [segment] => if segment = anyDepth then [segment] else [anyDepth, segment]
  | [segment, []] => if segment = anyDepth then [segment, []] else [anyDepth, segment, []]
  | segments => segments

/-- What is below a directory stands for the directory. -/
def opened (segments : List (List Char)) : List (List Char) :=
  if segments.getLast? = some [] then segments.dropLast ++ [anyDepth] else segments

def collapsed : List (List Char) → List (List Char)
  | first :: second :: rest =>
    if first = anyDepth ∧ second = anyDepth then collapsed (second :: rest)
    else first :: collapsed (second :: rest)
  | segments => segments

def segmentSteps? (segment : List Char) : Option (List Step) :=
  if segment = ['*'] then some [.name] else (Glyph.ofSegment? segment).map (·.map Step.glyph)

/-- The steps of the segments behind the first one. A slash comes before each, except where `**` has its
own. -/
def laterSteps? (folder : Bool) : List (List Char) → Option (List Step)
  | [] => some [.finish]
  | [segment] =>
    if segment = anyDepth then some [if folder then .inside else .slash]
    else (segmentSteps? segment).map fun steps => .slash :: (steps ++ [.finish])
  | segment :: rest =>
    if segment = anyDepth then (laterSteps? folder rest).map (.between :: ·)
    else
      (segmentSteps? segment).bind fun steps =>
        (laterSteps? folder rest).map fun others => .slash :: (steps ++ others)

def steps? (folder : Bool) : List (List Char) → Option (List Step)
  | [] => none
  | first :: rest =>
    if first = anyDepth then
      match laterSteps? folder rest with
      | some (.slash :: others) => some (.above :: others)
      | other => other
    else
      (segmentSteps? first).bind fun steps => (laterSteps? folder rest).map (steps ++ ·)

def route? (folder : Bool) (segments : List (List Char)) : Option Route :=
  if segments = [anyDepth] then some (if folder then .belowTop true else .everywhere)
  else if segments = [anyDepth, ['*']] then some .everywhere
  else if segments = [anyDepth, ['*'], anyDepth] then some (.belowTop folder)
  else (steps? folder segments).map .steps

/-- Lines that are no patterns: blank ones, comments, and a slash alone. -/
def isSilent (line : List Char) : Bool := line.isEmpty || line.head? == some '#' || line == ['/']

def ofRule (line : String) (rule : List Char) : Except PatternFlaw Pattern :=
  let negated := rule.head? == some '!'
  let segments := Text.pieces '/' (if negated then rule.tail else rule)
  let folder := segments.getLast? == some []
  match route? folder (collapsed (opened (anchored segments))) with
  | none => .error (.malformed line)
  | some route => if route.inOrder then .ok ⟨negated, route⟩ else .error .badRange

def ofLine (line : String) : Except PatternFlaw (Option Pattern) :=
  let rule := withoutPadding line.toList
  if isSilent rule then .ok none else (ofRule line rule).map some

/-- The patterns of all lines. The first line that cannot be read is the one reported. -/
def ofLines : List String → Except PatternFlaw (List Pattern)
  | [] => .ok []
  | line :: lines => do
    let pattern ← ofLine line
    let patterns ← ofLines lines
    return pattern.toList ++ patterns

end Pattern

end UseSites.Ignore
