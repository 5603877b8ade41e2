import UseSites.Json.Basic
/-!
# Reading JSON

`Json.read?` reads a text by the rules of the format: blanks may stand around every value and every mark, a
string may have any character but a control character in it and any escape, two escapes may make one
character between them, and no number but zero starts with a zero. It reads the values of `Json`, so that
a text with `true`, `false`, `null`, a fraction or an exponent in it has no value here.

Nothing in the reader depends on how values are written. That it reads what `write` writes is proved in the
module on the round trip.
-/

namespace UseSites.Json

def isBlank (c : Char) : Bool := c == ' ' || c == '\t' || c == '\n' || c == '\r'

def skipBlanks (text : List Char) : List Char := text.dropWhile isBlank

theorem length_skipBlanks_le (text : List Char) : (skipBlanks text).length ≤ text.length :=
  (List.dropWhile_sublist isBlank).length_le

/-! ### Numbers -/

/-- Digits such as a number can have, and what follows them. -/
def digits? (text : List Char) : Option (List Char × List Char) :=
  let digits := text.takeWhile Char.isDigit
  if digits = [] ∨ (digits.head? = some '0' ∧ digits ≠ ['0']) then none
  else some (digits, text.dropWhile Char.isDigit)

def natural? (text : List Char) : Option (Nat × List Char) :=
  (digits? text).map fun (digits, rest) => (Nat.ofDigitChars 10 digits 0, rest)

def integer? : List Char → Option (Int × List Char)
  | '-' :: digits => (natural? digits).map fun (value, rest) => (-(value : Int), rest)
  | digits => (natural? digits).map fun (value, rest) => ((value : Int), rest)

/-! ### Strings -/

def hexValue? (c : Char) : Option Nat :=
  if '0' ≤ c ∧ c ≤ '9' then some (c.toNat - '0'.toNat)
  else if 'a' ≤ c ∧ c ≤ 'f' then some (c.toNat - 'a'.toNat + 10)
  else if 'A' ≤ c ∧ c ≤ 'F' then some (c.toNat - 'A'.toNat + 10)
  else none

def unit? (a b c d : Char) : Option Nat := do
  let a ← hexValue? a
  let b ← hexValue? b
  let c ← hexValue? c
  let d ← hexValue? d
  return 16 * (16 * (16 * a + b) + c) + d

def shortEscapes : List (Char × Char) :=
  [('"', '"'), ('\\', '\\'), ('/', '/'), ('b', '\x08'), ('f', '\x0c'), ('n', '\n'), ('r', '\r'), ('t', '\t')]

/-- The numbers of the characters of a string up to the closing quote, and what follows it. Half of a character may
be among them, because an escape has room for no more than four digits. -/
def units? : List Char → Option (List Nat × List Char)
  | [] => none
  | '"' :: rest => some ([], rest)
  | '\\' :: 'u' :: a :: b :: c :: d :: rest =>
    (unit? a b c d).bind fun unit => (units? rest).map fun (units, after) => (unit :: units, after)
  | '\\' :: c :: rest =>
    (shortEscapes.lookup c).bind fun plain => (units? rest).map fun (units, after) => (plain.toNat :: units, after)
  | c :: rest => if c.toNat < 32 then none else (units? rest).map fun (units, after) => (c.toNat :: units, after)

def isHigh (unit : Nat) : Bool := 0xd800 ≤ unit && unit < 0xdc00

def isLow (unit : Nat) : Bool := 0xdc00 ≤ unit && unit < 0xe000

/-- The characters with the given numbers, made of two halves where need be. A half alone is no character. -/
def characters? : List Nat → Option (List Char)
  | [] => some []
  | unit :: rest =>
    if isHigh unit then
      match rest with
      | [] => none
      | low :: rest =>
        if isLow low then
          (characters? rest).map (Char.ofNat (0x10000 + 0x400 * (unit - 0xd800) + (low - 0xdc00)) :: ·)
        else none
    else if unit.isValidChar then (characters? rest).map (Char.ofNat unit :: ·)
    else none

def string? (text : List Char) : Option (String × List Char) :=
  (units? text).bind fun (units, rest) => (characters? units).map fun chars => (String.ofList chars, rest)

/-! ### Values -/

def key? : List Char → Option (String × List Char)
  | '"' :: inside =>
    (string? inside).bind fun (key, rest) =>
      match skipBlanks rest with
      | ':' :: after => some (key, skipBlanks after)
      | _ => none
  | _ => none

mutual

def value? (text : List Char) : Option (Json × List Char) :=
  match text with
  | '"' :: rest => (string? rest).map fun (value, after) => (.text value, after)
  | '[' :: rest =>
    match skipBlanks rest with
    | ']' :: after => some (.array [], after)
    | _ => (items? (skipBlanks rest)).map fun (items, after) => (.array items, after)
  | '\x7b' :: rest =>
    match skipBlanks rest with
    | '\x7d' :: after => some (.object [], after)
    | _ => (members? (skipBlanks rest)).map fun (members, after) => (.object members, after)
  | number => (integer? number).map fun (value, after) => (.int value, after)
termination_by (text.length, 0)
decreasing_by
  all_goals
    have := length_skipBlanks_le rest
    simp only [List.length_cons]
    exact Prod.Lex.left _ _ (by omega)

/-- The items of an array from one of them to the closing bracket, and what follows it. What follows a mark is
always shorter than the text; that it is looked at lets the recursion end. -/
def items? (text : List Char) : Option (List Json × List Char) :=
  match value? text with
  | none => none
  | some (item, rest) =>
    match skipBlanks rest with
    | ']' :: after => some ([item], after)
    | ',' :: more =>
      if (skipBlanks more).length < text.length then
        (items? (skipBlanks more)).map fun (items, after) => (item :: items, after)
      else none
    | _ => none
termination_by (text.length, 1)
decreasing_by
  · exact Prod.Lex.right _ (by omega)
  · exact Prod.Lex.left _ _ (by assumption)

def members? (text : List Char) : Option (List (String × Json) × List Char) :=
  match key? text with
  | none => none
  | some (key, rest) =>
    if rest.length < text.length then
      match value? rest with
      | none => none
      | some (value, rest) =>
        match skipBlanks rest with
        | '\x7d' :: after => some ([(key, value)], after)
        | ',' :: more =>
          if (skipBlanks more).length < text.length then
            (members? (skipBlanks more)).map fun (members, after) => ((key, value) :: members, after)
          else none
        | _ => none
    else none
termination_by (text.length, 1)
decreasing_by
  all_goals exact Prod.Lex.left _ _ (by assumption)

end

def read? (text : String) : Option Json :=
  match value? (skipBlanks text.toList) with
  | some (value, rest) => if skipBlanks rest = [] then some value else none
  | none => none

/-- A text with blanks, two escapes that make one character, and a negative number. -/
example : read? "\x7b \"a\" : [ -10 , \"\\ud83d\\uDE00\\/\" ] \x7d\n"
    = some (.object [("a", .array [.int (-10), .text "😀/"])]) := by cbv

end UseSites.Json
