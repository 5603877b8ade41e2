import UseSites.Dialect
import UseSites.Grammar.Lexeme
/-!
# Where a semicolon may be left out

A statement may end without a semicolon at the end of the source, before a closing brace, and at the
end of a line unless the next token goes on with it. `endsHere` looks at the text after the last token
of the statement. The dialects differ in the tokens that go on with a statement. Brackets on a new line
do in JavaScript; in TypeScript they do so only after an expression, which has read them already. They
also differ in what ends a line: in TypeScript nothing but a line feed does.
-/

namespace UseSites.Grammar

def startsWithWordOperator (text : List Char) : Bool :=
  startsWithWord "in".toList text || startsWithWord "instanceof".toList text

/-- Whether the token at the start of a line begins a new statement after what could end there. -/
def startsStatement (dialect : Dialect) (headOnly : Bool) (text : List Char) : Bool :=
  let next := (text.drop 1).head?
  match text with
  | [] => true
  | c :: _ =>
    if c.toNat == 0x60 || ",:;*%><=?^|&/".toList.contains c then false
    else if c == '.' then dialect == .javascript && (next.map Char.isDigit).getD false
    else if c == '(' || c == '[' then dialect != .javascript
    else if c == '\x7b' then !headOnly
    else if c == '+' || c == '-' then next == some c
    else if c == '!' then next != some '='
    else !startsWithWordOperator text

def Gap.endsLine (gap : Gap) (dialect : Dialect) : Bool :=
  if dialect = .javascript then gap.lineEnd else gap.lineFeed

/-- Whether a statement may end where the rest of the source is `text`. `headOnly` is for the head of
a function, after which a brace would open the body. -/
def endsHere (dialect : Dialect) (headOnly : Bool) (text : List Char) : Bool :=
  let before := gap text
  match text.drop before.length with
  | [] => true
  | '\x7d' :: _ => true
  | next => before.endsLine dialect && startsStatement dialect headOnly next

end UseSites.Grammar
