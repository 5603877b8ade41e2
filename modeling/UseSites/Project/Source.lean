import UseSites.Dialect
import UseSites.Files.Disk
import UseSites.Grammar.Parse
import UseSites.Report.Failure
import UseSites.Syntax.Lowering
import UseSites.Text.Utf8
/-!
# Source files

A source file is its text and the outline of it. Loading one can fail in four ways, which are tried in
this order: the name has no grammar, and then the file is not read; the file cannot be read; its bytes are
no text; its text is no program. The last one counts only in a strict search, because there is an outline
also of a text with errors.

Files are read through a function, so that nothing here depends on where they are.
-/

namespace UseSites

structure Source where
  path : Path
  text : String
  outline : Outline
  deriving Inhabited

abbrev Reads := Path → Except Trouble ByteArray

namespace Source

/-- The outline of a tree, unless the search is strict and the tree has an error. -/
def ofTree (path : Path) (text : String) (strict : Bool) (tree : Cst) : Except Flaw Source :=
  if strict && tree.flawed then .error (.notAProgram tree.firstErrorLine)
  else .ok ⟨path, text, tree.outline⟩

def load (reads : Reads) (strict : Bool) (path : Path) : Except Flaw Source :=
  match Dialect.ofPath? path with
  | none => .error (.noGrammar path.suffix)
  | some dialect =>
    match reads path with
    | .error trouble => .error (.unreadable trouble.message)
    | .ok bytes =>
      match Text.Utf8.decode bytes.toList with
      | .error position => .error (.notUtf8 position)
      | .ok text => ofTree path text strict (Grammar.parse dialect text)

end Source

end UseSites
