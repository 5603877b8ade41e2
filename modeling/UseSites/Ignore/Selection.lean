import UseSites.Ignore.Pattern
/-!
# Selected paths

`Pattern.reach?` says whether a pattern holds for a path, and whether it does so because it holds for the
path itself or for a directory above it. `selects` decides a path by all patterns together: the last
pattern that holds for the path itself has the say; only when there is none, the last one that holds for
a directory above. A pattern that can hold in several ways takes in as many directories as it can.
-/

namespace UseSites.Ignore

/-- In what way a pattern holds for a path. -/
inductive Reach where
  | itself
  | folder
  deriving DecidableEq, Inhabited, Repr

/-- Goes on behind the longest possible stretch of characters with a property, or else behind a shorter
one. -/
def longest (p : Char → Bool) (next : List Char → Option Reach) : List Char → Option Reach
  | [] => next []
  | c :: rest =>
    if p c then
      match longest p next rest with
      | some reach => some reach
      | none => next (c :: rest)
    else next (c :: rest)

def deepest (next : List Char → Option Reach) : List Char → Option Reach
  | [] => none
  | c :: rest =>
    if c = '\n' then none
    else
      match deepest next rest with
      | some reach => some reach
      | none => if c = '/' then next rest else none

namespace Step

/-- Lets a step take its part of a path; `next` has to find its way in the rest. -/
def take (next : List Char → Option Reach) : Step → List Char → Option Reach
  | glyph .stretch, text => longest (· ≠ '/') next text
  | glyph other, c :: rest => if other.covers c then next rest else none
  | name, c :: rest => if c ≠ '/' then longest (· ≠ '/') next rest else none
  | slash, '/' :: rest => next rest
  | above, c :: rest =>
    match if c ≠ '\n' then deepest next rest else none with
    | some reach => some reach
    | none => next (c :: rest)
  | above, [] => next []
  | between, '/' :: c :: rest =>
    match if c ≠ '\n' then longest (· ≠ '\n') next rest else none with
    | some reach => some reach
    | none => next ('/' :: c :: rest)
  | between, text => next text
  | inside, '/' :: _ => some .folder
  | finish, [] => some .itself
  | finish, '/' :: _ => some .folder
  | finish, ['\n'] => some .itself
  | _, _ => none

def reach? : List Step → List Char → Option Reach
  | [], _ => some .itself
  | step :: steps, text => step.take (reach? steps) text

end Step

def Route.reach? (path : List Char) : Route → Option Reach
  | .everywhere => if path.any (· ≠ '\n') then some .itself else none
  | .belowTop folder =>
    if path.contains '/' then some (if folder then .folder else .itself) else none
  | .steps route => Step.reach? route path

def Pattern.reach? (pattern : Pattern) (path : String) : Option Reach :=
  pattern.route.reach? path.toList

def holding (reach : Reach) (patterns : List Pattern) (path : String) : List Pattern :=
  patterns.filter fun pattern => pattern.reach? path == some reach

def selects (patterns : List Pattern) (path : String) : Bool :=
  match ((holding .itself patterns path).getLast?).or (holding .folder patterns path).getLast? with
  | some pattern => !pattern.negated
  | none => false

end UseSites.Ignore
