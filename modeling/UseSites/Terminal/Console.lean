import UseSites.Terminal.Icons
import UseSites.Terminal.Layout
/-!
# What a console shows

A console is bound to a terminal when it is made. It prints a message as it is, followed by a line
end, and logs a message in lines filled up to its width. On a terminal that does not understand UTF-8
icons are replaced in both, and the busy sign is an ASCII one.
-/

namespace UseSites.Terminal

structure Console where
  encoding : Option String
  width : Nat := 80

namespace Console

def printed (console : Console) (text : String) : String := safeText console.encoding text ++ "\n"

/-- A logged message: its lines, broken to the width of the console and filled up. -/
def logged (console : Console) (text : String) : String :=
  let lines := wrapped console.width (safeText console.encoding text).toList
  String.ofList (lines.flatMap fun line => padRight console.width line ++ ['\n'])

def spinner (console : Console) : String :=
  if understandsUtf8 console.encoding then "dots" else "line"

end Console

end UseSites.Terminal
