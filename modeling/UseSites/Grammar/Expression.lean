import UseSites.Grammar.Pattern
/-!
# Rules for expressions

From the inside out: a `primary` expression stands alone; a `reach` follows members, subscripts and
calls from there; an `operand` is a reach with what may be put before or behind it, an assignment to it
or an arrow function; binary operators join operands level by level; and an `expression` may choose
between two by a condition.

An assignment belongs to the operand on its left, because everything on its right belongs to it.
-/

namespace UseSites.Grammar.Rule

/-! ### Primary expressions -/

def spread : Rule := node "spread_element" (op "..." ++ goal .expression)

def arguments : Rule :=
  node "arguments" (parens (listedWithHoles (spread ||| goal .expression)))

def array : Rule := node "array" (brackets (listedWithHoles (spread ||| goal .expression)))

def pair : Rule :=
  node "pair" (labelled "key" propertyName ++ mark ":" ++ labelled "value" (goal .expression))

def object : Rule :=
  node "object"
    (braced (listedWithHoles
      (spread ||| goal .method ||| pair ||| leaf "shorthand_property_identifier" .identifier)))

def parenthesized : Rule :=
  node "parenthesized_expression"
    (parens (goal .expressions ++ opt (typed (labelled "type" typeAnnotation))))

def backQuote : Token := .mark [Char.ofNat 0x60]

def substitution : Rule :=
  node "template_substitution"
    (tight none (.mark ['$', '\x7b']) ++ goal .expressions ++ closeBrace)

def template : Rule :=
  node "template_string"
    (token none backQuote ++ many (tight (some "string_fragment") .template ||| substitution)
      ++ tight none backQuote)

def metaProperty : Rule :=
  node "meta_property"
    (word "new" ++ op "." ++ word "target" ||| word "import" ++ op "." ++ word "meta")

def optionalAsync : Rule := opt (word "async" ++ require .sameLine)

def functionExpression : Rule :=
  node "function_expression"
      (optionalAsync ++ word "function" ++ opt (labelled "name" identifier) ++ goal .signature
        ++ labelled "body" (goal .block))
    ||| node "generator_function"
      (optionalAsync ++ word "function" ++ mark "*" ++ opt (labelled "name" identifier)
        ++ goal .signature ++ labelled "body" (goal .block))

/-- The name of a class, which is a type in TypeScript. -/
def className : Rule := typed typeIdentifier ||| untyped identifier

def extendsClause : Rule :=
  node "extends_clause"
    (word "extends"
      ++ separated (labelled "value" (goal .reach)
        ++ opt (labelled "type_arguments" (goal .typeArguments))))

def implementsClause : Rule := node "implements_clause" (word "implements" ++ separated (goal .type))

def heritage : Rule :=
  untyped (node "class_heritage" (word "extends" ++ goal .reach))
    ||| typed (node "class_heritage" (extendsClause ++ opt implementsClause ||| implementsClause))

/-- What follows the name of a class. -/
def classTail : Rule :=
  opt (typed typeParameters) ++ opt heritage ++ labelled "body" (goal .classBody)

def decorators : Rule := many (labelled "decorator" (goal .decorator))

def classExpression : Rule :=
  node "class"
    (decorators ++ word "class" ++ opt (notAhead (word "implements") ++ labelled "name" className)
      ++ classTail)

def property : Rule :=
  labelled "property"
    (leaf "private_property_identifier" .privateName ||| leaf "property_identifier" .name)

def optionalChain : Rule := node "optional_chain" (op "?.")

def memberLink : Rule :=
  wrap "member_expression" (some "object") ((op "." ||| optionalChain) ++ property)

def subscriptLink : Rule :=
  wrap "subscript_expression" (some "object")
    (opt optionalChain ++ mark "[" ++ labelled "index" (goal .expressions) ++ mark "]")

def nonNullLink : Rule :=
  typed (wrap "non_null_expression" none (require .sameLine ++ op "!"))

def typeArguments : Rule := labelled "type_arguments" (goal .typeArguments)

def newExpression : Rule :=
  node "new_expression"
    (word "new"
      ++ labelled "constructor" (chain (goal .primary) (memberLink ||| subscriptLink ||| nonNullLink))
      ++ opt (typed typeArguments) ++ opt (labelled "arguments" (goal .arguments)))

def literal : Rule :=
  oneOf (["this", "super", "true", "false", "null"].map wordNode) ||| leaf "number" .number ||| string
    ||| leaf "regex" .regex

def primary : Rule :=
  markup (goal .element) ||| metaProperty ||| newExpression ||| functionExpression ||| classExpression
    ||| parenthesized ||| array ||| object ||| goal .template ||| literal
    ||| wordNode "import" ++ ahead (mark "(") ||| wordNode "undefined" ||| identifier

/-! ### Members and calls -/

def callLink : Rule :=
  wrap "call_expression" (some "function") (labelled "arguments" (goal .arguments ||| goal .template))
    ||| wrap "call_expression" (some "function")
      (optionalChain ++ opt (typed typeArguments) ++ labelled "arguments" (goal .arguments))
    ||| typed (wrap "call_expression" (some "function")
      (typeArguments ++ labelled "arguments" (goal .arguments ||| goal .template)))

def reach : Rule :=
  chain (goal .primary) (memberLink ||| subscriptLink ||| callLink ||| nonNullLink)

/-! ### Operands -/

/-- The next token is a brace, and what follows reads as a label as well as a property. -/
def labelAhead : Rule := ahead (openBrace ++ identifier ++ mark ":")

/-- An object where a block could stand: it wins when it starts with what would be a label. -/
def objectNotBlock : Rule := labelAhead ++ object

def arrowBody : Rule :=
  op "=>" ++ labelled "body" (objectNotBlock ||| goal .block ||| goal .expression)

def arrowHead : Rule := labelled "parameter" identifier ||| goal .signature

/-- The head of an arrow function that does not say what it returns. -/
def plainArrowHead : Rule :=
  labelled "parameter" identifier
    ||| opt (typed typeParameters) ++ labelled "parameters" (goal .parameters)

def arrowFunction (head : Rule) : Rule :=
  node "arrow_function" (word "async" ++ require .sameLine ++ head ++ arrowBody)
    ||| node "arrow_function" (head ++ arrowBody)

/-- What an operator in front applies to. -/
def argument : Rule := labelled "argument" (goal .operand)

def unary : Rule :=
  node "update_expression" ((op "++" ||| op "--") ++ argument)
    ||| node "unary_expression"
      ((oneOf (["!", "~", "-", "+"].map op) ||| oneOf (["typeof", "void", "delete"].map word)) ++ argument)
    ||| node "await_expression" (word "await" ++ goal .operand)
    ||| only [.typescript] (node "type_assertion" (goal .typeArguments ++ goal .operand))

def yieldExpression : Rule :=
  node "yield_expression"
    (word "yield" ++ (mark "*" ++ goal .expression ||| opt (require .sameLine ++ goal .expression)))

/-- Kinds of expressions that can be assigned to. -/
def assignable : List String :=
  ["identifier", "undefined", "member_expression", "subscript_expression", "parenthesized_expression",
    "non_null_expression"]

def patternAssignment : Rule :=
  node "assignment_expression"
    (labelled "left" (goal .destructuring) ++ op "=" ++ labelled "right" (goal .expression))

/-- A variable that is disposed of at the end of its scope, which TypeScript takes for an assignment. -/
def disposedAssignment : Rule :=
  typed (node "assignment_expression"
    (word "using" ++ require .sameLine ++ labelled "left" (goal .destructuring ||| goal .reach) ++ op "="
      ++ labelled "right" (goal .expression)))

def augmentedOperators : List String :=
  ["+=", "-=", "*=", "/=", "%=", "^=", "&=", "|=", ">>=", ">>>=", "<<=", "**=", "&&=", "||=", "??="]

def assignmentLink : Rule :=
  wrap "assignment_expression" (some "left")
      (lastIs assignable ++ op "=" ++ labelled "right" (goal .expression))
    ||| wrap "augmented_assignment_expression" (some "left")
      (lastIs assignable ++ oneOf (augmentedOperators.map op) ++ labelled "right" (goal .expression))

def updateLink : Rule :=
  wrap "update_expression" (some "argument") (require .sameLine ++ (op "++" ||| op "--"))

/-- Type arguments without a call, when no operand follows that would make them comparisons. -/
def instantiationLink : Rule :=
  typed (wrap "instantiation_expression" none (typeArguments ++ notAhead (goal .operand)))

/-- A private name is an operand only in front of `in`. -/
def privateOperand : Rule := leaf "private_property_identifier" .privateName ++ ahead (word "in")

/-- An operand in which arrow functions have the given head. -/
def operandWith (head : Rule) : Rule :=
  only [.tsx] (goal .element) ||| arrowFunction head ||| unary ||| yieldExpression ||| privateOperand
    ||| disposedAssignment ||| patternAssignment
    ||| chain (chain (goal .reach) (updateLink ||| instantiationLink)) assignmentLink

def operand : Rule := operandWith arrowHead

def plainOperand : Rule := operandWith plainArrowHead

/-! ### Binary operators -/

def binaryLink (operator right : Rule) : Rule :=
  wrap "binary_expression" (some "left") (operator ++ labelled "right" right)

/-- Operators of one precedence that group from the left. -/
def level (operand : Rule) (operators : List String) : Rule :=
  chain operand (oneOf (operators.map fun text => binaryLink (op text) operand))

def power : Rule := chain (goal .operand) (binaryLink (op "**") (goal .power))

def plainPower : Rule := chain (goal .plainOperand) (binaryLink (op "**") (goal .plainPower))

def shift (power : Rule) : Rule :=
  level (level (level power ["*", "/", "%"]) ["+", "-"]) ["<<", ">>", ">>>"]

/-- Comparisons, and the changes of type that have the same precedence. -/
def relation (power : Rule) : Rule :=
  chain (shift power)
    (oneOf (["<", "<=", ">", ">="].map fun text => binaryLink (op text) (shift power))
      ||| binaryLink (word "in" ||| word "instanceof") (shift power)
      ||| typed (wrap "as_expression" none (word "as" ++ (word "const" ||| goal .type)))
      ||| typed (wrap "satisfies_expression" none (word "satisfies" ++ goal .type)))

/-- All binary operators, over operands that are read by `power`. -/
def binary (power : Rule) : Rule :=
  [["==", "===", "!=", "!=="], ["&"], ["^"], ["|"], ["&&"], ["||"], ["??"]].foldl level (relation power)

/-- A choice by a condition. What looks like the type of an arrow function after the first branch may
turn out to be the second branch. -/
def conditionalLink : Rule :=
  let alternative := mark ":" ++ labelled "alternative" (goal .expression)
  wrap "ternary_expression" (some "condition")
    (op "?"
      ++ (labelled "consequence" (goal .expression) ++ alternative
        ||| typed (labelled "consequence" (goal .plainExpression) ++ alternative)))

def expression : Rule := chain (binary (goal .power)) conditionalLink

/-- An expression that does not start with an arrow function saying what it returns. -/
def plainExpression : Rule := chain (binary (goal .plainPower)) conditionalLink

def expressions : Rule :=
  node "sequence_expression" (goal .expression ++ many1 (mark "," ++ goal .expression))
    ||| goal .expression

end UseSites.Grammar.Rule
