import UseSites.Syntax.Outline
/-!
# Uses of a symbol in one file

A symbol is used in four roles. Each role has its list of lines in document order: `importLines`,
`directCallLines`, `methodCallLines`, and for callbacks first `accessLines` and then
`identifierLines`. `uses` merges the five lists into one: a line is reported at most once in each
role, and as a callback only if nothing else was found on it before.

Uses are found by name alone. A local variable that happens to have the name of the symbol counts.
-/

namespace UseSites

inductive Role where
  | imported | directCall | methodCall | callback
  deriving DecidableEq, Inhabited, Repr

namespace Role

def all : List Role := [imported, directCall, methodCall, callback]

def name : Role → String
  | imported => "import"
  | directCall => "direct-call"
  | methodCall => "method-call"
  | callback => "callback"

/-- Roles of a smaller rank come first among the uses on one line. -/
def rank : Role → Nat
  | imported => 0
  | directCall => 1
  | methodCall => 1
  | callback => 2

end Role

structure Use where
  line : Int
  role : Role
  deriving DecidableEq, Inhabited, Repr

namespace Outline

def importLines (symbol : String) (sites : List Site) : List Int :=
  sites.flatMap fun site =>
    match site.node with
    | .imported _ _ bindings => (bindings.filter (·.name == symbol)).map (·.line)
    | _ => []

def directCallLines (symbol : String) (sites : List Site) : List Int :=
  sites.filterMap fun site =>
    match site.node with
    | .call line (.identifier name _) _ => if name == symbol then some line else none
    | _ => none

def methodCallLines (symbol : String) (sites : List Site) : List Int :=
  sites.filterMap fun site =>
    match site.node with
    | .call line (.member name _ _) _ => if name == symbol then some line else none
    | _ => none

/-- The lines of the accesses `object.symbol` that are not called. -/
def accessLines (symbol : String) (sites : List Site) : List Int :=
  sites.filterMap fun site =>
    match site.node with
    | .member name line _ => if name == symbol && !site.called then some line else none
    | _ => none

def identifierLines (symbol : String) (sites : List Site) : List Int :=
  sites.filterMap fun site =>
    match site.node with
    | .identifier name line => if name == symbol && !site.called then some line else none
    | _ => none

/-- Adds a use found on a line, unless the line has one in that role already. A use that yields is
also dropped when the line has one in any role. -/
def accept (role : Role) (yields : Bool) (found : List Use) (line : Int) : List Use :=
  if yields && found.any (·.line == line) then found
  else if found.contains ⟨line, role⟩ then found
  else found ++ [⟨line, role⟩]

/-- The uses of a symbol in an outline, in the order in which they are found: imports, direct calls,
method calls, accesses, other identifiers. -/
def uses (symbol : String) (root : Outline) : List Use :=
  let sites := root.sites
  let found := (importLines symbol sites).foldl (accept .imported false) []
  let found := (directCallLines symbol sites).foldl (accept .directCall false) found
  let found := (methodCallLines symbol sites).foldl (accept .methodCall false) found
  let found := (accessLines symbol sites).foldl (accept .callback true) found
  (identifierLines symbol sites).foldl (accept .callback true) found

end Outline

end UseSites
