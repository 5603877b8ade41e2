import UseSites.Dialect
import UseSites.Grammar.Lexeme
/-!
# Grammar rules

A grammar is data: a `Rule` for every `Goal`. Rules are tried in order and do not look back. An
alternative that succeeds is final, so the modules that write rules put the more specific alternative
first.

`chain` and `wrap` stand for left recursion. After the head of a chain has read a node, every link that
succeeds wraps the node read so far into a new one, as its first child.
-/

namespace UseSites.Grammar

inductive Token where
  /-- The given characters, whatever follows. -/
  | mark (text : List Char)
  /-- The given operator, and not a longer one. -/
  | operator (text : List Char)
  | word (text : List Char)
  /-- A name that is not reserved. -/
  | identifier
  | name
  | privateName
  | dashedName
  | number
  | string
  | markupString
  | regex
  | template
  | markupText
  | markupComment
  /-- What is left of the first line. -/
  | restOfLine
  deriving Inhabited

def Token.length? (text : List Char) : Token → Option Nat
  | mark m => if m.isPrefixOf text then some m.length else none
  | operator o => if operatorAt? text == some o then some o.length else none
  | word w => if startsWithWord w text then some w.length else none
  | identifier => identifierLength? text
  | name => nameLength? text
  | privateName => privateNameLength? text
  | dashedName => dashedNameLength? text
  | number => numberLength? text
  | string => stringLength? text
  | markupString => markupStringLength? text
  | regex => regexLength? text
  | template => some (templateLength false text)
  | markupText => some (markupTextLength text)
  | markupComment => markupCommentLength? text
  | restOfLine => some (spanLength (· != '\n') text)

/-- What a rule may refer to by name, and what is read at most once at any place. -/
inductive Goal where
  | statement | block | declaration
  | expression | expressions | operand | power | reach | primary | arguments | template | element
  | plainExpression | plainOperand | plainPower
  | pattern | destructuring | parameters | signature
  | decorator | method | classBody
  | type | typeUnion | typeOperand | typeArguments | typeParameters | typeMembers
  deriving DecidableEq, Inhabited, Repr

inductive Condition where
  /-- No line ends between the last token and the next one. -/
  | sameLine
  /-- A semicolon may be left out here. -/
  | lineEnd
  /-- The same after the head of a function that may have a body. -/
  | headEnd
  /-- Nothing but blanks and comments follows. -/
  | sourceEnd
  deriving Inhabited

inductive Rule where
  | nothing
  /-- A token after blanks and comments; a token with a kind is a named node. -/
  | token (kind : Option String) (token : Token)
  /-- A token right at the place, unless it is empty. -/
  | tight (kind : Option String) (token : Token)
  | seq (first second : Rule)
  | alt (first second : Rule)
  | many (rule : Rule)
  | node (kind : String) (body : Rule)
  | labelled (label : String) (body : Rule)
  | goal (goal : Goal)
  | chain (head links : Rule)
  | wrap (kind : String) (label : Option String) (body : Rule)
  /-- The node read last has one of the given kinds. -/
  | lastIs (kinds : List String)
  | ahead (rule : Rule)
  | notAhead (rule : Rule)
  | require (condition : Condition)
  | only (dialects : List Dialect) (rule : Rule)
  deriving Inhabited

namespace Rule

instance : Append Rule := ⟨seq⟩

instance : OrOp Rule := ⟨alt⟩

def mark (text : String) : Rule := .token none (.mark text.toList)

def op (text : String) : Rule := .token none (.operator text.toList)

def word (text : String) : Rule := .token none (.word text.toList)

/-- A token that is a named node. -/
def leaf (kind : String) (token : Token) : Rule := .token (some kind) token

def wordNode (text : String) : Rule := .token (some text) (.word text.toList)

def opt (rule : Rule) : Rule := rule ||| nothing

def oneOf (rules : List Rule) : Rule := rules.foldr alt (.notAhead .nothing)

def many1 (rule : Rule) : Rule := rule ++ many rule

def separated (rule : Rule) : Rule := rule ++ many (mark "," ++ rule)

/-- Any number of items with commas between them, where a comma may also end the list. -/
def listed (rule : Rule) : Rule := opt (separated rule ++ opt (mark ","))

/-- A list in which items may be left out between commas. -/
def listedWithHoles (rule : Rule) : Rule := opt rule ++ many (mark "," ++ opt rule)

def typed (rule : Rule) : Rule := only [.typescript, .tsx] rule

def untyped (rule : Rule) : Rule := only [.javascript] rule

/-- Dialects with markup in expressions. -/
def markup (rule : Rule) : Rule := only [.tsx, .javascript] rule

def identifier : Rule := leaf "identifier" .identifier

def typeIdentifier : Rule := leaf "type_identifier" .identifier

def string : Rule := leaf "string" .string

/-- The end of a statement: a semicolon, or a place where it may be left out. -/
def semicolon : Rule := mark ";" ||| require .lineEnd

def openBrace : Rule := mark "\x7b"

def closeBrace : Rule := mark "\x7d"

def braced (rule : Rule) : Rule := openBrace ++ rule ++ closeBrace

def parens (rule : Rule) : Rule := mark "(" ++ rule ++ mark ")"

def brackets (rule : Rule) : Rule := mark "[" ++ rule ++ mark "]"

/-- A word in front of a declared name, and not the name itself. -/
def modifier (text : String) : Rule :=
  word text ++ notAhead (oneOf (["(", ")", "=", ";", ",", "\x7d", ":", "?", "!", "<"].map mark))

end Rule

end UseSites.Grammar
