import UseSites.Category
import UseSites.Use
import UseSites.Json.Basic
/-!
# References and their summary

A reference is a use of the symbol together with the file it is in, the category of the file and an
excerpt of its text. References are put in order by file, line, rank of the role and name of the role;
`Reference.before` is that order. A summary counts references by role and by category, with an entry
for every role and every category.
-/

namespace UseSites

structure Reference where
  file : String
  line : Int
  role : Role
  category : Category
  context : String
  deriving DecidableEq, Inhabited, Repr

namespace Reference

def before (a b : Reference) : Bool :=
  if a.file ≠ b.file then decide (a.file < b.file)
  else if a.line ≠ b.line then decide (a.line < b.line)
  else if a.role.rank ≠ b.role.rank then decide (a.role.rank < b.role.rank)
  else decide (a.role.name < b.role.name)

/-- References in order. Those that share file, line and role stay as they were. -/
def sorted (references : List Reference) : List Reference :=
  references.mergeSort fun a b => !before b a

def toJson (reference : Reference) : Json :=
  .object
    [("file", .text reference.file), ("line", .int reference.line),
      ("type", .text reference.role.name), ("category", .text reference.category.name),
      ("context", .text reference.context)]

end Reference

structure Summary where
  byRole : List (Role × Nat)
  byCategory : List (Category × Nat)
  deriving DecidableEq, Inhabited, Repr

namespace Summary

def ofReferences (references : List Reference) : Summary where
  byRole := Role.all.map fun role => (role, references.countP (·.role == role))
  byCategory := Category.all.map fun category => (category, references.countP (·.category == category))

def toJson (summary : Summary) : Json :=
  .object
    [("countsByType", .object (summary.byRole.map fun (role, count) => (role.name, .int count))),
      ("countsByCategory",
        .object (summary.byCategory.map fun (category, count) => (category.name, .int count)))]

end Summary

def referencesText (references : List Reference) : String :=
  (Json.array (references.map Reference.toJson)).pretty

def payloadText (references : List Reference) (summary : Summary) : String :=
  (Json.object
    [("references", .array (references.map Reference.toJson)), ("summary", summary.toJson)]).pretty

end UseSites
