import UseSites.Grammar.Expression
/-!
# Rules for types

An operand of a type is a function type, a type behind an operator in letters, or a primary type with
brackets behind it. Intersections bind tighter than unions, and a condition takes a whole union. The
members of interfaces and of object types share one rule.
-/

namespace UseSites.Grammar.Rule

/-! ### Arguments and parameters of types -/

def typeArgumentList : Rule :=
  node "type_arguments" (mark "<" ++ separated (goal .type) ++ opt (mark ",") ++ mark ">")

def typeParameter : Rule :=
  node "type_parameter"
    (opt (word "const") ++ opt (modifier "in") ++ opt (modifier "out") ++ labelled "name" typeIdentifier
      ++ opt (labelled "constraint" (node "constraint" ((word "extends" ||| mark ":") ++ goal .type)))
      ++ opt (labelled "value" (node "default_type" (op "=" ++ goal .type))))

def typeParameterList : Rule :=
  node "type_parameters" (mark "<" ++ separated typeParameter ++ opt (mark ",") ++ mark ">")

/-! ### Primary types -/

def dottedPart : Rule := op "." ++ labelled "property" (leaf "property_identifier" .name)

/-- At least one more than `count` names follow, each behind a dot. -/
def namesAhead : Nat → Rule
  | 0 => ahead dottedPart
  | count + 1 => ahead (dottedPart ++ namesAhead count)

/-- A name with dots, up to where `left` names are still to come: a plain name, or accesses of which
the outermost is a node of its own kind. -/
def dottedName (left : Nat) : Rule :=
  node "nested_identifier"
      (labelled "object"
          (chain identifier
            (wrap "member_expression" (some "object") (namesAhead (left + 1) ++ dottedPart)))
        ++ namesAhead left ++ dottedPart)
    ||| identifier

def nestedTypeIdentifier : Rule :=
  node "nested_type_identifier"
    (labelled "module" (dottedName 1) ++ op "." ++ labelled "name" typeIdentifier)

def typeName : Rule := nestedTypeIdentifier ||| typeIdentifier

def genericType : Rule :=
  node "generic_type" (labelled "name" typeName ++ labelled "type_arguments" (goal .typeArguments))

def predefinedType : Rule :=
  node "predefined_type"
    (word "unique" ++ word "symbol"
      ||| oneOf (["any", "number", "boolean", "string", "symbol", "void", "unknown", "never",
          "object"].map word)
        ++ notAhead (op "."))

def literalType : Rule :=
  node "literal_type"
    (node "unary_expression" ((op "-" ||| op "+") ++ labelled "argument" (leaf "number" .number))
      ||| leaf "number" .number ||| string
      ||| oneOf (["true", "false", "null", "undefined"].map wordNode))

def templateLiteralType : Rule :=
  node "template_literal_type"
    (token none backQuote
      ++ many (tight (some "string_fragment") .template
        ||| node "template_type" (tight none (.mark ['$', '\x7b']) ++ goal .type ++ closeBrace))
      ++ tight none backQuote)

/-- A type of the form `typeof value`. -/
def typeQuery : Rule :=
  node "type_query"
    (word "typeof"
      ++ chain
        (wordNode "import" ++ ahead (mark "(") ||| wordNode "this" ||| identifier)
        (wrap "member_expression" (some "object") ((op "." ||| op "?.") ++ property)
          ||| wrap "subscript_expression" (some "object")
            (require .sameLine ++ opt (op "?.")
              ++ brackets (labelled "index" (predefinedType ||| string ||| leaf "number" .number)))
          ||| wrap "call_expression" (some "function") (labelled "arguments" (goal .arguments)))
      ++ opt (require .sameLine ++ labelled "type_arguments" (goal .typeArguments)))

/-- A type taken from another module. -/
def importedType : Rule :=
  chain
    (node "call_expression"
      (labelled "function" (wordNode "import") ++ labelled "arguments" (goal .arguments)))
    (wrap "member_expression" (some "object") (op "." ++ property))

def tupleMember : Rule :=
  node "required_parameter"
      (labelled "name" (restPattern ||| identifier) ++ labelled "type" typeAnnotation)
    ||| node "optional_parameter"
      (labelled "name" identifier ++ mark "?" ++ labelled "type" typeAnnotation)
    ||| node "rest_type" (op "..." ++ goal .type)
    ||| node "optional_type" (goal .type ++ mark "?")
    ||| goal .type

def primaryType : Rule :=
  node "parenthesized_type" (parens (goal .type)) ||| node "object_type" (goal .typeMembers)
    ||| node "tuple_type" (brackets (listedWithHoles tupleMember)) ||| typeQuery ||| importedType
    ||| templateLiteralType ||| literalType
    ||| node "this_type" (word "this") ||| node "existential_type" (mark "*")
    ||| predefinedType ||| genericType ||| typeName
    ||| node "flow_maybe_type" (mark "?" ++ goal .typeOperand)

/-! ### Operators on types -/

/-- A primary type with brackets behind it. -/
def suffixedType : Rule :=
  chain primaryType
    (wrap "array_type" none (require .sameLine ++ mark "[" ++ mark "]")
      ||| wrap "lookup_type" none (require .sameLine ++ brackets (goal .type)))

def returnedType : Rule := labelled "return_type" (assertion ||| typePredicate ||| goal .type)

def functionType : Rule :=
  node "function_type"
    (opt typeParameters ++ labelled "parameters" (goal .parameters) ++ op "=>" ++ returnedType)

def constructorType : Rule :=
  node "constructor_type"
    (opt (word "abstract") ++ word "new" ++ opt typeParameters ++ labelled "parameters" (goal .parameters)
      ++ op "=>" ++ labelled "type" (goal .type))

/-- A name to be inferred. Its bound is read only where no condition can be meant. -/
def inferType : Rule :=
  node "infer_type"
    (word "infer" ++ typeIdentifier
      ++ opt (word "extends" ++ goal .typeUnion ++ notAhead (mark "?")))

def typeOperand : Rule :=
  functionType ||| constructorType
    ||| node "readonly_type" (word "readonly" ++ goal .typeOperand)
    ||| node "index_type_query" (word "keyof" ++ goal .typeOperand)
    ||| inferType ||| suffixedType

/-- Types joined by an operator, which may also stand in front of the first. -/
def joinedTypes (kind : String) (operator operand : Rule) : Rule :=
  chain (node kind (operator ++ operand) ||| operand) (wrap kind none (operator ++ operand))

def typeUnion : Rule :=
  joinedTypes "union_type" (op "|") (joinedTypes "intersection_type" (op "&") (goal .typeOperand))

def type : Rule :=
  chain (goal .typeUnion)
    (wrap "conditional_type" (some "left")
      (word "extends" ++ labelled "right" (goal .typeUnion) ++ mark "?"
        ++ labelled "consequence" (goal .type) ++ mark ":" ++ labelled "alternative" (goal .type)))

/-! ### Members -/

def mappedTypeClause : Rule :=
  node "mapped_type_clause"
    (labelled "name" typeIdentifier ++ word "in" ++ labelled "type" (goal .type)
      ++ opt (word "as" ++ labelled "alias" (goal .type)))

def indexedName : Rule :=
  labelled "name" identifier ++ mark ":" ++ labelled "index_type" (goal .type)

/-- The type of an indexed member, which may change whether the member is optional. -/
def indexedType : Rule :=
  node "omitting_type_annotation" (mark "-?:" ++ goal .type)
    ||| node "adding_type_annotation" (mark "+?:" ++ goal .type)
    ||| node "opting_type_annotation" (mark "?:" ++ goal .type)
    ||| typeAnnotation

def indexSignature : Rule :=
  node "index_signature"
    (opt (opt (mark "-" ||| mark "+") ++ word "readonly")
      ++ brackets (mappedTypeClause ||| indexedName) ++ labelled "type" indexedType)

def accessors : Rule := opt (modifier "get" ||| modifier "set" ||| mark "*")

/-- The modifiers of a method before its name. -/
def methodModifiers : Rule :=
  opt accessibility ++ opt (modifier "static") ++ opt overrideModifier ++ opt (modifier "readonly")
    ++ opt (modifier "async") ++ accessors

def methodSignature : Rule :=
  node "method_signature"
    (methodModifiers ++ labelled "name" propertyName ++ opt (mark "?") ++ goal .signature)

def propertySignature : Rule :=
  node "property_signature"
    (opt accessibility ++ opt (modifier "static") ++ opt overrideModifier ++ opt (modifier "readonly")
      ++ labelled "name" propertyName ++ opt (mark "?") ++ opt (labelled "type" typeAnnotation))

def constructSignature : Rule :=
  node "construct_signature"
    (opt (word "abstract") ++ word "new" ++ opt typeParameters ++ labelled "parameters" (goal .parameters)
      ++ opt (labelled "type" typeAnnotation))

def typeMember : Rule :=
  node "call_signature" (goal .signature) ||| constructSignature ||| indexSignature ||| methodSignature
    ||| propertySignature

/-- Members in braces, each ended by a comma, a semicolon or the line. -/
def typeMembers : Rule :=
  braced (opt (mark "," ||| mark ";") ++ many (typeMember ++ (mark "," ||| semicolon)))

end UseSites.Grammar.Rule
