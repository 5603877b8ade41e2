/-!
# JSON values and their text

`Json.pretty` writes a value with two blanks of indentation for each level. Members keep their order.
In a string, quotes, backslashes and the control characters below the blank are escaped, and every
other character stands for itself. An empty array or object is written without a line break.
-/

namespace UseSites

/-- The JSON values that reports are made of: numbers are integers. -/
inductive Json where
  | int (value : Int)
  | text (value : String)
  | array (items : List Json)
  | object (members : List (String × Json))
  deriving Inhabited

namespace Json

def hexDigit (n : Nat) : Char := "0123456789abcdef".toList.getD n '0'

/-- The escape of a control character that has no short form. -/
def unicodeEscape (c : Char) : List Char :=
  ['\\', 'u', '0', '0', hexDigit (c.toNat / 16), hexDigit (c.toNat % 16)]

def escapeChar (c : Char) : List Char :=
  if c = '"' then ['\\', '"']
  else if c = '\\' then ['\\', '\\']
  else if c = '\n' then ['\\', 'n']
  else if c = '\r' then ['\\', 'r']
  else if c = '\t' then ['\\', 't']
  else if c.toNat = 8 then ['\\', 'b']
  else if c.toNat = 12 then ['\\', 'f']
  else if c.toNat < 32 then unicodeEscape c
  else [c]

def quoted (text : String) : List Char := '"' :: (text.toList.flatMap escapeChar ++ ['"'])

def newLine (level : Nat) : List Char := '\n' :: List.replicate (2 * level) ' '

mutual

def write (level : Nat) : Json → List Char
  | int value => (toString value).toList
  | text value => quoted value
  | array [] => ['[', ']']
  | array (item :: items) =>
    '[' :: (newLine (level + 1) ++ write (level + 1) item ++ writeItems (level + 1) items
      ++ newLine level ++ [']'])
  | object [] => ['\x7b', '\x7d']
  | object ((key, value) :: members) =>
    '\x7b' :: (newLine (level + 1) ++ quoted key ++ [':', ' '] ++ write (level + 1) value
      ++ writeMembers (level + 1) members ++ newLine level ++ ['\x7d'])

/-- The items of an array after the first one. -/
def writeItems (level : Nat) : List Json → List Char
  | [] => []
  | item :: items => ',' :: (newLine level ++ write level item ++ writeItems level items)

def writeMembers (level : Nat) : List (String × Json) → List Char
  | [] => []
  | (key, value) :: members =>
    ',' :: (newLine level ++ quoted key ++ [':', ' '] ++ write level value ++ writeMembers level members)

end

def pretty (value : Json) : String := String.ofList (write 0 value)

end Json

end UseSites
