import UseSites.Path
/-!
# Files that could not be read

A `Failure` says why one file has no references: nothing knows its grammar, it cannot be opened, its
bytes are no text, or its text is not a program. The search goes on without it.
-/

namespace UseSites

inductive Flaw where
  | noGrammar (suffix : String)
  /-- The system refused the file, in the given words. -/
  | unreadable (reason : String)
  /-- The bytes before this position are well formed. -/
  | notUtf8 (position : Nat)
  | notAProgram (line : Int)
  deriving DecidableEq, Inhabited, Repr

def Flaw.reason : Flaw → String
  | noGrammar suffix => "no grammar for '" ++ suffix ++ "' files"
  | unreadable reason => "cannot read file (" ++ reason ++ ")"
  | notUtf8 position => "not valid UTF-8 (byte " ++ toString position ++ ")"
  | notAProgram line => "syntax error near line " ++ toString line

structure Failure where
  path : String
  reason : String
  deriving DecidableEq, Inhabited, Repr

namespace Failure

def message (failure : Failure) : String := failure.path ++ ": " ++ failure.reason

/-- The path of the file as messages show it: below the root of the project, if it is there. -/
def shownPath (root : Path) (failure : Failure) : String :=
  match (Path.ofString failure.path).relativeTo? root with
  | some path => path.toString
  | none => failure.path

end Failure

end UseSites
