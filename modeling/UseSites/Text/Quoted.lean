import UseSites.Text.LowerCase
import UseSites.Text.PrintTable
/-!
# Texts in messages

A message shows a text from outside between quotes, so that blanks and control characters in it can be
seen. The quotes are single ones unless the text has a single quote and no double one. Backslashes and
the quote itself get a backslash in front; a character that cannot be printed is written by its number.
-/

namespace UseSites.Text

def isPrintable (c : Char) : Bool := inRanges PrintTable.ranges c.toNat

def hexDigit (n : Nat) : Char := "0123456789abcdef".toList.getD n '0'

def hexDigits : Nat → Nat → List Char
  | 0, _ => []
  | width + 1, n => hexDigits width (n / 16) ++ [hexDigit (n % 16)]

/-- A character by its number, in the shortest of three forms. -/
def numbered (c : Char) : List Char :=
  let n := c.toNat
  if n < 0x100 then '\\' :: 'x' :: hexDigits 2 n
  else if n < 0x10000 then '\\' :: 'u' :: hexDigits 4 n
  else '\\' :: 'U' :: hexDigits 8 n

def quotedChar (quote c : Char) : List Char :=
  if c = quote || c = '\\' then ['\\', c]
  else if c = '\n' then ['\\', 'n']
  else if c = '\r' then ['\\', 'r']
  else if c = '\t' then ['\\', 't']
  else if isPrintable c then [c]
  else numbered c

/-- The quote that needs fewer backslashes; single quotes are preferred. -/
def quoteFor (text : List Char) : Char :=
  if text.contains '\'' && !text.contains '"' then '"' else '\''

def quoted (text : String) : String :=
  let quote := quoteFor text.toList
  String.ofList (quote :: (text.toList.flatMap (quotedChar quote) ++ [quote]))

end UseSites.Text
