import UseSites.Text.Blank
/-!
# Whole numbers

A whole number is written in decimal digits of any script, with a sign in front if need be and single
underscores between digits. `integer?` allows blanks around it, among which the separators of the old
control range do not count, and at most `maxDigits` digits.
-/

namespace UseSites.Text

/-- The zeros of the scripts that have decimal digits; the other nine digits follow each zero. -/
def zeros : List Nat :=
  [0x30, 0x660, 0x6f0, 0x7c0, 0x966, 0x9e6, 0xa66, 0xae6, 0xb66, 0xbe6, 0xc66, 0xce6, 0xd66, 0xde6,
    0xe50, 0xed0, 0xf20, 0x1040, 0x1090, 0x17e0, 0x1810, 0x1946, 0x19d0, 0x1a80, 0x1a90, 0x1b50,
    0x1bb0, 0x1c40, 0x1c50, 0xa620, 0xa8d0, 0xa900, 0xa9d0, 0xa9f0, 0xaa50, 0xabf0, 0xff10, 0x104a0,
    0x10d30, 0x11066, 0x110f0, 0x11136, 0x111d0, 0x112f0, 0x11450, 0x114d0, 0x11650, 0x116c0,
    0x11730, 0x118e0, 0x11950, 0x11c50, 0x11d50, 0x11da0, 0x16a60, 0x16ac0, 0x16b50, 0x1d7ce,
    0x1d7d8, 0x1d7e2, 0x1d7ec, 0x1d7f6, 0x1e140, 0x1e2f0, 0x1e950, 0x1fbf0]

def digit? (c : Char) : Option Nat :=
  (zeros.find? fun first => first ≤ c.toNat && c.toNat < first + 10).map (c.toNat - ·)

def maxDigits : Nat := 4300

/-- Digits with single underscores between them; the first character has to be a digit. -/
def digits? : List Char → Option (List Nat)
  | [] => none
  | c :: rest =>
    match digit? c, rest with
    | none, _ => none
    | some value, [] => some [value]
    | some value, '_' :: more => (digits? more).map (value :: ·)
    | some value, more => (digits? more).map (value :: ·)

def ofDigits (digits : List Nat) : Nat := digits.foldl (fun value digit => 10 * value + digit) 0

def natural? (text : List Char) : Option Nat :=
  (digits? text).bind fun digits => if digits.length ≤ maxDigits then some (ofDigits digits) else none

/-- Blanks that may stand around a number. -/
def isPadding (c : Char) : Bool := isBlank c && !(28 ≤ c.toNat && c.toNat ≤ 31)

def integer? (text : String) : Option Int :=
  let core := ((text.toList.dropWhile isPadding).reverse.dropWhile isPadding).reverse
  match core with
  | '-' :: rest => (natural? rest).map fun value => -(value : Int)
  | '+' :: rest => (natural? rest).map Int.ofNat
  | rest => (natural? rest).map Int.ofNat

end UseSites.Text
