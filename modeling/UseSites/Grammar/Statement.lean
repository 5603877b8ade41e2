import UseSites.Grammar.Class
/-!
# Rules for statements and declarations

Statements that start with a word of their own are tried first, then declarations, then labels, and
what is left is an expression. Words that are reserved only in some places, such as `type` or
`namespace`, start a declaration when the whole declaration can be read.
-/

namespace UseSites.Grammar.Rule

/-- A statement, or a comment that is allowed only where a statement could start. -/
def statements : Rule := many (leaf "html_comment" .markupComment ||| goal .statement)

def block : Rule := node "statement_block" (braced statements)

def body : Rule := labelled "body" (goal .statement)

def condition : Rule := labelled "condition" parenthesized

/-! ### Variables -/

def boundName : Rule := goal .destructuring ||| identifier

def declarator : Rule :=
  node "variable_declarator"
    (labelled "name" boundName ++ opt (typed (opt (op "!") ++ labelled "type" typeAnnotation))
      ++ opt initializer)

/-- The words for a variable whose value is disposed of at the end of its scope. -/
def disposal : Rule := opt (word "await") ++ word "using" ++ require .sameLine

def declarators : Rule :=
  node "lexical_declaration"
      (labelled "kind" (word "let" ||| word "const") ++ separated declarator ++ semicolon)
    ||| node "variable_declaration" (word "var" ++ separated declarator ++ semicolon)
    ||| untyped (node "using_declaration" (disposal ++ separated declarator ++ semicolon))

/-! ### Functions and classes -/

def functionHead : Rule := optionalAsync ++ word "function"

def functions : Rule :=
  node "function_declaration"
      (functionHead ++ labelled "name" identifier ++ goal .signature ++ labelled "body" (goal .block))
    ||| node "generator_function_declaration"
      (functionHead ++ mark "*" ++ labelled "name" identifier ++ goal .signature
        ++ labelled "body" (goal .block))
    ||| typed (node "function_signature"
      (functionHead ++ labelled "name" identifier ++ goal .signature ++ (mark ";" ||| require .headEnd)))

def classes : Rule :=
  node "class_declaration" (decorators ++ word "class" ++ labelled "name" className ++ classTail)
    ||| typed (node "abstract_class_declaration"
      (decorators ++ word "abstract" ++ word "class" ++ labelled "name" className ++ classTail))

/-! ### Declarations of types -/

def typeAlias : Rule :=
  node "type_alias_declaration"
    (word "type" ++ labelled "name" typeIdentifier ++ opt typeParameters ++ op "="
      ++ labelled "value" (goal .type) ++ semicolon)

def extendsTypes : Rule :=
  node "extends_type_clause"
    (word "extends" ++ separated (labelled "type" (genericType ||| typeName)))

def interface : Rule :=
  node "interface_declaration"
    (word "interface" ++ labelled "name" typeIdentifier ++ opt typeParameters ++ opt extendsTypes
      ++ labelled "body" (node "interface_body" (goal .typeMembers)))

def enumMember : Rule :=
  node "enum_assignment" (labelled "name" propertyName ++ initializer) ||| labelled "name" propertyName

def enumeration : Rule :=
  node "enum_declaration"
    (opt (word "const") ++ word "enum" ++ labelled "name" identifier
      ++ labelled "body" (node "enum_body" (braced (listed enumMember))))

/-! ### Modules -/

def moduleTail : Rule := labelled "name" (string ||| dottedName 0) ++ opt (labelled "body" (goal .block))

def internalModule : Rule := node "internal_module" (word "namespace" ++ moduleTail)

def modules : Rule :=
  node "module" (word "module" ++ require .sameLine ++ moduleTail) ||| internalModule

def importAlias : Rule :=
  node "import_alias" (word "import" ++ identifier ++ op "=" ++ dottedName 0 ++ semicolon)

def ambient : Rule :=
  node "ambient_declaration"
    (word "declare"
      ++ (goal .declaration ||| word "global" ++ goal .block
        ||| word "module" ++ op "." ++ leaf "property_identifier" .name ++ mark ":" ++ goal .type
          ++ semicolon))

def declaration : Rule :=
  functions ||| classes ||| declarators
    ||| typed (modules ||| typeAlias ||| enumeration ||| interface ||| importAlias ||| ambient)

/-! ### Loops -/

def elseClause : Rule := node "else_clause" (word "else" ++ goal .statement)

def ifStatement : Rule :=
  node "if_statement"
    (word "if" ++ condition ++ labelled "consequence" (goal .statement)
      ++ opt (labelled "alternative" elseClause))

def emptyStatement : Rule := node "empty_statement" (mark ";")

/-- The part of a loop between its semicolons. -/
def loopTest : Rule := goal .expressions ++ mark ";" ||| emptyStatement

def forStatement : Rule :=
  node "for_statement"
    (word "for" ++ parens (labelled "initializer" declarators ++ labelled "condition" loopTest
          ++ opt (labelled "increment" (goal .expressions))
        ||| labelled "initializer" loopTest ++ labelled "condition" loopTest
          ++ opt (labelled "increment" (goal .expressions)))
      ++ body)

def loopVariable : Rule :=
  disposal ++ notAhead (word "of" ||| word "in") ++ labelled "left" boundName
    ||| word "var" ++ labelled "left" boundName ++ opt initializer
    ||| (word "let" ||| word "const") ++ labelled "left" boundName
    ||| labelled "left" (goal .destructuring ||| goal .reach)

def forInStatement : Rule :=
  node "for_in_statement"
    (word "for" ++ opt (word "await")
      ++ parens (loopVariable ++ labelled "operator" (word "in" ||| word "of")
        ++ labelled "right" (goal .expressions))
      ++ body)

def whileStatement : Rule := node "while_statement" (word "while" ++ condition ++ body)

def doStatement : Rule :=
  node "do_statement" (word "do" ++ body ++ word "while" ++ condition ++ opt semicolon)

/-! ### Other statements -/

def catchClause : Rule :=
  node "catch_clause"
    (word "catch"
      ++ opt (parens (labelled "parameter" boundName ++ opt (typed (labelled "type" typeAnnotation))))
      ++ labelled "body" (goal .block))

def tryStatement : Rule :=
  node "try_statement"
    (word "try" ++ labelled "body" (goal .block) ++ opt (labelled "handler" catchClause)
      ++ opt (labelled "finalizer" (node "finally_clause" (word "finally" ++ labelled "body" (goal .block)))))

def switchCase : Rule :=
  node "switch_case"
      (word "case" ++ labelled "value" (goal .expressions) ++ mark ":" ++ labelled "body" statements)
    ||| node "switch_default" (word "default" ++ mark ":" ++ labelled "body" statements)

def switchStatement : Rule :=
  node "switch_statement"
    (word "switch" ++ labelled "value" parenthesized
      ++ labelled "body" (node "switch_body" (braced (many switchCase))))

def withStatement : Rule :=
  node "with_statement" (word "with" ++ labelled "object" parenthesized ++ body)

def statementLabel : Rule := labelled "label" (leaf "statement_identifier" .identifier)

def jumpStatement : Rule :=
  node "break_statement" (word "break" ++ opt (require .sameLine ++ statementLabel) ++ semicolon)
    ||| node "continue_statement" (word "continue" ++ opt (require .sameLine ++ statementLabel) ++ semicolon)
    ||| node "return_statement" (word "return" ++ opt (require .sameLine ++ goal .expressions) ++ semicolon)
    ||| node "throw_statement" (word "throw" ++ goal .expressions ++ semicolon)
    ||| node "debugger_statement" (word "debugger" ++ semicolon)

def labeledStatement : Rule := node "labeled_statement" (statementLabel ++ mark ":" ++ body)

/-- A namespace is an expression where a statement may end after it, and a declaration elsewhere. -/
def namespaceStatement : Rule := typed (node "expression_statement" (internalModule ++ semicolon))

def expressionStatement : Rule := node "expression_statement" (goal .expressions ++ semicolon)

end UseSites.Grammar.Rule
