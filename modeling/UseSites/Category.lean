import UseSites.Text.Lines
import UseSites.Text.LowerCase
/-!
# Categories of files

The place of a file in a project says what part of the architecture it belongs to. The decision uses
the path alone, in lower case and with `/` between its segments: the first rule with a marker that
occurs in the path wins. Service files belong to a business domain, which is the segment right after
the service marker; `inScope` decides which of them a search limited to one domain looks at.

A caller passes the path below the project root with a `/` in front, so that nothing above the root
has an influence.
-/

namespace UseSites

inductive Category where
  | api | service | internal | test | database
  deriving DecidableEq, Inhabited, Repr

namespace Category

def all : List Category := [api, service, internal, test, database]

def name : Category → String
  | api => "api"
  | service => "service"
  | internal => "internal"
  | test => "test"
  | database => "database"

def normalPath (path : String) : String :=
  Text.lower (String.ofList (path.toList.map fun c => if c = '\\' then '/' else c))

def segments (path : String) : List String :=
  (Text.pieces '/' (normalPath path).toList).map String.ofList

def serviceMarkers : List String := ["/domains/", "/services/"]

def rules : List (Category × List String) :=
  [(api, ["/api/"]),
    (database, ["/database/"]),
    (test, ["/__tests__/", "/tests/", "/test/", ".test.", ".spec."]),
    (service, serviceMarkers)]

def occursIn (marker : List Char) : List Char → Bool
  | [] => marker.isEmpty
  | c :: rest => marker.isPrefixOf (c :: rest) || occursIn marker rest

def ofPath (path : String) : Category :=
  let text := (normalPath path).toList
  ((rules.find? fun rule => rule.2.any fun marker => occursIn marker.toList text).map (·.1)).getD
    internal

/-- Where a marker first occurs, and what follows it there. -/
def afterMarker? (marker : List Char) : List Char → Option (Nat × List Char)
  | [] => if marker.isEmpty then some (0, []) else none
  | c :: rest =>
    if marker.isPrefixOf (c :: rest) then some (0, (c :: rest).drop marker.length)
    else (afterMarker? marker rest).map fun (position, remainder) => (position + 1, remainder)

def earlier : Option (Nat × List Char) → Option (Nat × List Char) → Option (Nat × List Char)
  | none, found => found
  | found, none => found
  | some first, some second => if second.1 < first.1 then some second else some first

/-- The segment a remainder of a path starts with, provided something follows the segment. -/
def leadingSegment? (remainder : List Char) : Option String :=
  let segment := remainder.takeWhile (· ≠ '/')
  if segment.isEmpty || !remainder.contains '/' then none else some (String.ofList segment)

/-- The business domain of a file: the segment after the first service marker. A file directly below
the marker has none. -/
def domain? (path : String) : Option String :=
  let text := (normalPath path).toList
  let found := serviceMarkers.foldl (fun best marker => earlier best (afterMarker? marker.toList text)) none
  found.bind fun (_, remainder) => leadingSegment? remainder

/-- The filter that stands for all domains. -/
def everyDomain : String := "database"

/-- Whether a search limited to a domain looks at a file. Only service files are left out, and only
those that belong to another domain. -/
def inScope (path : String) (category : Category) (filter : String) : Bool :=
  filter == everyDomain || category != service ||
    match domain? path with
    | none => true
    | some domain => domain == Text.lower filter

end Category

end UseSites
