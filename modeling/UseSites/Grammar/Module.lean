import UseSites.Grammar.Statement
import UseSites.Grammar.Element
/-!
# Rules for imports and exports, and the whole grammar

`rule` gives the rule of every goal, and `program` reads a whole source.
-/

namespace UseSites.Grammar.Rule

/-! ### Imports -/

/-- A word that limits an import or export to types. -/
def typeOnly : Rule := typed (word "type" ||| word "typeof")

def moduleExportName : Rule :=
  identifier ||| string ||| word "default" ||| leaf "identifier" .name

def aliased : Rule :=
  labelled "name" moduleExportName ++ word "as" ++ labelled "alias" moduleExportName

def specifierEnd : Rule := ahead (mark "," ||| closeBrace)

/-- A name, perhaps with an alias, perhaps limited to types; the limiting word may also be the name. -/
def specifier (kind : String) : Rule :=
  node kind (typeOnly ++ aliased ++ specifierEnd)
    ||| node kind (typeOnly ++ labelled "name" moduleExportName ++ specifierEnd)
    ||| node kind (aliased ++ specifierEnd)
    ||| node kind (labelled "name" moduleExportName ++ specifierEnd)

def namespaceImport : Rule := node "namespace_import" (mark "*" ++ word "as" ++ identifier)

def namedImports : Rule := node "named_imports" (braced (listed (specifier "import_specifier")))

def importClause : Rule :=
  node "import_clause"
    (namespaceImport ||| namedImports
      ||| identifier ++ opt (mark "," ++ (namespaceImport ||| namedImports)))

def fromClause : Rule := word "from" ++ labelled "source" string

def importAttribute : Rule :=
  opt (node "import_attribute" ((word "with" ||| word "assert" ++ require .sameLine) ++ object))

def requireClause : Rule :=
  node "import_require_clause"
    (identifier ++ op "=" ++ word "require" ++ parens (labelled "source" string))

def importStatement : Rule :=
  node "import_statement"
    (word "import"
      ++ (typeOnly ++ importClause ++ fromClause ||| importClause ++ fromClause
        ||| typed (typeOnly ++ requireClause ||| requireClause) ||| labelled "source" string)
      ++ importAttribute ++ semicolon)

/-! ### Exports -/

def exportClause : Rule := node "export_clause" (braced (listed (specifier "export_specifier")))

def namespaceExport : Rule := node "namespace_export" (mark "*" ++ word "as" ++ moduleExportName)

def exportedNames : Rule :=
  (namespaceExport ++ fromClause ||| mark "*" ++ fromClause ||| exportClause ++ fromClause ||| exportClause)
    ++ importAttribute ++ semicolon

def exportedValue : Rule :=
  word "default"
      ++ (labelled "declaration" (goal .declaration) ||| labelled "value" (goal .expression) ++ semicolon)
    ||| labelled "declaration" (goal .declaration)

def exportStatement : Rule :=
  node "export_statement"
    (decorators ++ word "export"
      ++ (exportedNames
        ||| typed (word "type" ++ exportedNames ||| op "=" ++ goal .expression ++ semicolon
          ||| word "as" ++ word "namespace" ++ identifier ++ semicolon ||| importAlias)
        ||| exportedValue))

/-! ### The whole grammar -/

def statement : Rule :=
  node "expression_statement" (objectNotBlock ++ semicolon) ||| goal .block ||| ifStatement
    ||| forInStatement ||| forStatement ||| whileStatement ||| doStatement ||| tryStatement
    ||| switchStatement ||| withStatement ||| jumpStatement ||| emptyStatement
    ||| importStatement ||| exportStatement ||| namespaceStatement
    ||| goal .declaration ||| labeledStatement ||| expressionStatement

def hashBang : Rule := opt (ahead (mark "#!") ++ leaf "hash_bang_line" .restOfLine)

def program : Rule := hashBang ++ statements

end Rule

open Rule in
def rule : Goal → Rule
  | .statement => statement
  | .block => block
  | .declaration => declaration
  | .expression => expression
  | .plainExpression => plainExpression
  | .plainOperand => plainOperand
  | .plainPower => plainPower
  | .expressions => expressions
  | .operand => operand
  | .power => power
  | .reach => reach
  | .primary => primary
  | .arguments => arguments
  | .template => template
  | .element => element
  | .pattern => pattern
  | .destructuring => destructuring
  | .parameters => parameters
  | .signature => signature
  | .decorator => decorator
  | .method => method
  | .classBody => classBody
  | .type => type
  | .typeUnion => typeUnion
  | .typeOperand => typeOperand
  | .typeArguments => typeArgumentList
  | .typeParameters => typeParameterList
  | .typeMembers => typeMembers

end UseSites.Grammar
