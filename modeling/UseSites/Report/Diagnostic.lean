import UseSites.Report.Failure
import UseSites.Report.Reference
import UseSites.Terminal.Markup
import UseSites.Terminal.Table
/-!
# Messages for people

While the result goes to standard output, everything meant for people is a `Diagnostic`: a message to
print, a message to log, or a table. Texts that come from outside are escaped, so that only the markup
of the message itself has an effect.
-/

namespace UseSites

inductive Diagnostic where
  | print (markup : String)
  | log (markup : String)
  | table (table : Terminal.Table)
  deriving Inhabited

namespace Diagnostic

open Terminal.Markup (escaped)

/-- One message for each file that could not be read. -/
def skippedFiles (root : Path) (failures : List Failure) : List Diagnostic :=
  failures.map fun failure =>
    .log ("[yellow]⚠ Skipped unparsable file[/yellow] " ++ escaped (failure.shownPath root) ++ ": "
      ++ escaped failure.reason)

def roleTable (counts : List (String × Int)) : Terminal.Table :=
  ⟨"References by Type", "Type", "Count", counts⟩

def categoryTable (counts : List (String × Int)) : Terminal.Table :=
  ⟨"References by Category", "Category", "Count", counts⟩

def summaryTables (summary : Summary) : List Diagnostic :=
  [.table (roleTable (summary.byRole.map fun (role, count) => (role.name, count))),
    .table (categoryTable (summary.byCategory.map fun (category, count) => (category.name, count)))]

end Diagnostic

end UseSites
