/-!
# Lexemes

How many characters the token at the start of a text has. Every function here takes the rest of the
source and answers with a length, or with nothing when the text starts with something else; none of
them looks at what came before. Blanks and comments between tokens are measured by `gap`.
-/

namespace UseSites.Grammar

/-! ### Characters -/

def isBlank (c : Char) : Bool :=
  let n := c.toNat
  n == 0x20 || (9 ≤ n && n ≤ 13) || n == 0x85 || n == 0xa0 || n == 0x1680 || (0x2000 ≤ n && n ≤ 0x200b)
    || n == 0x2028 || n == 0x2029 || n == 0x202f || n == 0x205f || n == 0x2060 || n == 0x3000 || n == 0xfeff

def isLineEnd (c : Char) : Bool := c == '\n' || c.toNat == 0x2028 || c.toNat == 0x2029

def isPunctuation (c : Char) : Bool :=
  c.toNat == 0x60 || (":;\"'@#.,|^&<=>+-*/\\%?!~()[]".toList.contains c) || c == '\x7b' || c == '\x7d'

def startsName (c : Char) : Bool :=
  32 < c.toNat && !c.isDigit && !isBlank c && !isPunctuation c

def continuesName (c : Char) : Bool := startsName c || c.isDigit

def isHexDigit (c : Char) : Bool := c.isDigit || ('a' ≤ c && c ≤ 'f') || ('A' ≤ c && c ≤ 'F')

def spanLength (p : Char → Bool) (text : List Char) : Nat := (text.takeWhile p).length

/-! ### Blanks and comments -/

/-- The length of a comment after its opening `/*`, up to and including the closing `*/`. -/
def blockCommentLength? : List Char → Option Nat
  | '*' :: '/' :: _ => some 2
  | _ :: rest => (blockCommentLength? rest).map (· + 1)
  | [] => none

def lineCommentLength (text : List Char) : Nat := spanLength (fun c => !isLineEnd c && c != '\r') text

def commentLength? : List Char → Option Nat
  | '/' :: '/' :: rest => some (2 + lineCommentLength rest)
  | '/' :: '*' :: rest => (blockCommentLength? rest).map (· + 2)
  | _ => none

/-- The length of a comment in the style of markup, which starts with `<!--` or `-->`. -/
def markupCommentLength? : List Char → Option Nat
  | '<' :: '!' :: '-' :: '-' :: rest => some (4 + spanLength (fun c => !isLineEnd c) rest)
  | '-' :: '-' :: '>' :: rest => some (3 + spanLength (fun c => !isLineEnd c) rest)
  | _ => none

structure Gap where
  length : Nat := 0
  /-- A line feed is among the blanks. -/
  lineFeed : Bool := false
  /-- A line end of any kind is among the blanks. -/
  lineEnd : Bool := false
  deriving DecidableEq, Inhabited, Repr

/-- The gap before a token; line ends inside comments do not count. `skip` counts the characters of a
comment that are still to be passed. -/
def gapFrom (skip : Nat) : List Char → Gap
  | [] => {}
  | c :: rest =>
    match skip with
    | n + 1 =>
      let more := gapFrom n rest
      { more with length := more.length + 1 }
    | 0 =>
      if isBlank c then
        let more := gapFrom 0 rest
        { length := more.length + 1, lineFeed := more.lineFeed || c == '\n'
          lineEnd := more.lineEnd || isLineEnd c }
      else if c == '/' then
        match commentLength? (c :: rest) with
        | some commentLength =>
          let more := gapFrom (commentLength - 1) rest
          { more with length := more.length + 1 }
        | none => {}
      else {}

def gap (text : List Char) : Gap := gapFrom 0 text

def commentsFrom (place skip : Nat) : List Char → List (Nat × Nat)
  | [] => []
  | c :: rest =>
    match skip with
    | n + 1 => commentsFrom (place + 1) n rest
    | 0 =>
      match commentLength? (c :: rest) with
      | some length => (place, length) :: commentsFrom (place + 1) (length - 1) rest
      | none => if isBlank c then commentsFrom (place + 1) 0 rest else []

/-! ### Names -/

/-- The length of a character escape in a name, after its backslash. -/
def nameEscapeLength? : List Char → Option Nat
  | 'u' :: '\x7b' :: rest =>
    let digits := spanLength isHexDigit rest
    if digits > 0 && (rest.drop digits).head? == some '\x7d' then some (digits + 3) else none
  | 'u' :: rest => if (rest.take 4).length == 4 && (rest.take 4).all isHexDigit then some 5 else none
  | _ => none

def nameTailLength (skip : Nat) : List Char → Nat
  | [] => 0
  | c :: rest =>
    match skip with
    | n + 1 => 1 + nameTailLength n rest
    | 0 =>
      if continuesName c then 1 + nameTailLength 0 rest
      else if c == '\\' then
        match nameEscapeLength? rest with
        | some length => 1 + nameTailLength length rest
        | none => 0
      else 0

/-- The length of a name, reserved or not. -/
def nameLength? : List Char → Option Nat
  | [] => none
  | c :: rest =>
    if startsName c then some (1 + nameTailLength 0 rest)
    else if c == '\\' then
      (nameEscapeLength? rest).map fun length => 1 + length + nameTailLength 0 (rest.drop length)
    else none

def reservedWords : List (List Char) :=
  (["await", "break", "case", "catch", "class", "const", "continue", "debugger", "default", "delete", "do",
    "else", "enum", "extends", "false", "finally", "for", "function", "if", "import", "in", "instanceof",
    "new", "null", "return", "super", "switch", "this", "throw", "true", "try", "typeof", "var", "void",
    "while", "with", "yield"] : List String).map String.toList

def identifierLength? (text : List Char) : Option Nat :=
  (nameLength? text).bind fun length =>
    if reservedWords.contains (text.take length) then none else some length

def privateNameLength? : List Char → Option Nat
  | '#' :: rest => (nameLength? rest).map (· + 1)
  | _ => none

/-- Whether a text starts with a word, and not merely with a longer name. -/
def startsWithWord (word text : List Char) : Bool :=
  word.isPrefixOf text && nameTailLength 0 (text.drop word.length) == 0

def dashedNameLength? (text : List Char) : Option Nat :=
  let isPart := fun (c : Char) => c.isAlphanum || c == '_' || c == '$' || c == '-'
  let length := spanLength isPart text
  let startsWell := (text.head?.map fun c => c.isAlpha || c == '_' || c == '$').getD false
  if startsWell && (text.take length).contains '-' then some length else none

/-! ### Literals -/

/-- The length of digits of a class with single underscores between them. -/
def digitsLength (p : Char → Bool) : List Char → Nat
  | [] => 0
  | c :: rest =>
    if p c then 1 + digitsLength p rest
    else if c == '_' then
      match rest with
      | d :: _ => if p d then 1 + digitsLength p rest else 0
      | [] => 0
    else 0

def exponentLength : List Char → Nat
  | e :: rest =>
    if e == 'e' || e == 'E' then
      let sign := match rest with
        | '+' :: _ => 1
        | '-' :: _ => 1
        | _ => 0
      let digits := digitsLength Char.isDigit (rest.drop sign)
      if digits > 0 then 1 + sign + digits else 0
    else 0
  | [] => 0

/-- The length of a number written in another base, after its first two characters. -/
def basedLength? (p : Char → Bool) (text : List Char) : Option Nat :=
  let digits := digitsLength p text
  if digits == 0 then none
  else some (2 + digits + if (text.drop digits).head? == some 'n' then 1 else 0)

def decimalLength? (text : List Char) : Option Nat :=
  let whole := digitsLength Char.isDigit text
  let rest := text.drop whole
  match rest with
  | '.' :: tail =>
    let fraction := digitsLength Char.isDigit tail
    if whole + fraction == 0 then none
    else some (whole + 1 + fraction + exponentLength (tail.drop fraction))
  | 'n' :: _ => if whole == 0 then none else some (whole + 1)
  | _ => if whole == 0 then none else some (whole + exponentLength rest)

def numberLength? (text : List Char) : Option Nat :=
  match text with
  | '0' :: x :: rest =>
    if x == 'x' || x == 'X' then basedLength? isHexDigit rest
    else if x == 'o' || x == 'O' then basedLength? (fun c => '0' ≤ c && c ≤ '7') rest
    else if x == 'b' || x == 'B' then basedLength? (fun c => c == '0' || c == '1') rest
    else decimalLength? text
  | '_' :: _ => none
  | _ => decimalLength? text

/-- The length of a string after its opening quote, the closing one included. A string ends with its
line unless the line end is escaped. -/
def stringTailLength? (quote : Char) (escaped : Bool) : List Char → Option Nat
  | [] => none
  | c :: rest =>
    if escaped then (stringTailLength? quote false rest).map (· + 1)
    else if c == quote then some 1
    else if c == '\n' then none
    else (stringTailLength? quote (c == '\\') rest).map (· + 1)

def stringLength? : List Char → Option Nat
  | '"' :: rest => (stringTailLength? '"' false rest).map (· + 1)
  | '\'' :: rest => (stringTailLength? '\'' false rest).map (· + 1)
  | _ => none

/-- The length of a string in markup after its opening quote. Such a string has no escapes and may
span lines. -/
def markupStringLength? : List Char → Option Nat
  | q :: rest =>
    if q == '"' || q == '\'' then
      let length := spanLength (· != q) rest
      if length < rest.length then some (length + 2) else none
    else none
  | [] => none

/-- The length of a regular expression after its opening slash, up to and including the closing one.
A slash inside brackets does not close it. -/
def regexBodyLength? (inBrackets escaped : Bool) : List Char → Option Nat
  | [] => none
  | c :: rest =>
    if c == '\n' then none
    else if escaped then (regexBodyLength? inBrackets false rest).map (· + 1)
    else if c == '\\' then (regexBodyLength? inBrackets true rest).map (· + 1)
    else if c == '/' && !inBrackets then some 1
    else
      let inBrackets := if c == '[' then true else if c == ']' then false else inBrackets
      (regexBodyLength? inBrackets false rest).map (· + 1)

def regexLength? : List Char → Option Nat
  | '/' :: c :: rest =>
    if c == '/' || c == '*' then none
    else
      (regexBodyLength? false false (c :: rest)).map fun length =>
        1 + length + spanLength Char.isAlpha ((c :: rest).drop length)
  | _ => none

def templateLength (escaped : Bool) : List Char → Nat
  | [] => 0
  | c :: rest =>
    if escaped then 1 + templateLength false rest
    else if c.toNat == 0x60 then 0
    else if c == '$' && rest.head? == some '\x7b' then 0
    else 1 + templateLength (c == '\\') rest

def markupTextLength (text : List Char) : Nat :=
  spanLength (fun c => !(c == '<' || c == '>' || c == '\x7b' || c == '\x7d')) text

/-! ### Operators -/

def operators : List (List Char) :=
  ([">>>=", "...", "===", "!==", "**=", "<<=", ">>=", ">>>", "&&=", "||=", "??=", "=>", "==", "!=", "<=",
    ">=", "&&", "||", "??", "?.", "++", "--", "+=", "-=", "*=", "/=", "%=", "&=", "|=", "^=", "<<", ">>",
    "**", "=", "<", ">", "+", "-", "*", "/", "%", "&", "|", "^", "!", "~", "?", ":", "."] :
    List String).map String.toList

/-- The longest operator at the start of a text. A question mark before a decimal fraction stands
alone. -/
def operatorAt? (text : List Char) : Option (List Char) :=
  match text with
  | '?' :: '.' :: d :: _ => if d.isDigit then some ['?'] else some ['?', '.']
  | _ => operators.find? (·.isPrefixOf text)

end UseSites.Grammar
