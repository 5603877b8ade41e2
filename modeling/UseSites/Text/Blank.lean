/-!
# Blank characters

A character is blank when Unicode counts it as white space or as a separator of the old control
range. `trimmed` takes the blanks away at both ends of a text and leaves all others.
-/

namespace UseSites.Text

def isBlank (c : Char) : Bool :=
  let n := c.toNat
  (9 ≤ n && n ≤ 13) || (28 ≤ n && n ≤ 32) || n == 0x85 || n == 0xa0 || n == 0x1680
    || (0x2000 ≤ n && n ≤ 0x200a) || n == 0x2028 || n == 0x2029 || n == 0x202f || n == 0x205f || n == 0x3000

def trimmedLeft (text : List Char) : List Char := text.dropWhile isBlank

def trimmedRight (text : List Char) : List Char := (text.reverse.dropWhile isBlank).reverse

def trimmed (text : List Char) : List Char := trimmedRight (trimmedLeft text)

def trim (text : String) : String := String.ofList (trimmed text.toList)

def allBlank (text : String) : Bool := text.toList.all isBlank

end UseSites.Text
