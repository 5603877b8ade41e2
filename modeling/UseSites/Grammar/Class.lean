import UseSites.Grammar.Type
/-!
# Rules for members of classes

The dialects differ: JavaScript has fields without types and keeps decorators inside the member, while
in TypeScript a method may lack its body, members may be abstract, and the decorators of a method stand
beside it in the body of the class.
-/

namespace UseSites.Grammar.Rule

def decoratorTarget : Rule :=
  chain identifier
    (wrap "member_expression" (some "object")
        (op "." ++ labelled "property" (leaf "property_identifier" .name))
      ||| wrap "call_expression" (some "function")
        (opt (typed typeArguments) ++ labelled "arguments" (goal .arguments)))

def decorator : Rule := node "decorator" (mark "@" ++ (decoratorTarget ||| parenthesized))

/-- A method with its body, in a class or in an object. -/
def method : Rule :=
  typed (node "method_definition"
      (methodModifiers ++ labelled "name" propertyName ++ opt (mark "?") ++ goal .signature
        ++ labelled "body" (goal .block)))
    ||| untyped (node "method_definition"
      (decorators ++ opt (modifier "static") ++ opt (modifier "async") ++ accessors
        ++ labelled "name" propertyName ++ goal .signature ++ labelled "body" (goal .block)))

def staticBlock : Rule :=
  node "class_static_block" (word "static" ++ labelled "body" (goal .block))

/-! ### Members without types -/

def field : Rule :=
  node "field_definition"
    (decorators ++ opt (modifier "static") ++ opt (modifier "accessor")
      ++ labelled "property" propertyName ++ opt initializer)

def member : Rule :=
  goal .method ++ opt (mark ";") ||| staticBlock ||| field ++ semicolon ||| mark ";"

/-! ### Members with types -/

def abstractMethod : Rule :=
  node "abstract_method_signature"
    (opt accessibility ++ modifier "abstract" ++ opt overrideModifier ++ accessors
      ++ labelled "name" propertyName ++ opt (mark "?") ++ goal .signature)

def fieldModifier : Rule :=
  accessibility ||| overrideModifier
    ||| oneOf (["declare", "static", "readonly", "abstract", "accessor"].map modifier)

def typedField : Rule :=
  node "public_field_definition"
    (decorators ++ many fieldModifier ++ labelled "name" propertyName ++ opt (mark "?" ||| op "!")
      ++ opt (labelled "type" typeAnnotation) ++ opt initializer)

def memberEnd : Rule := mark "," ||| semicolon

def typedMember : Rule :=
  many (goal .decorator) ++ goal .method ++ opt semicolon
    ||| staticBlock
    ||| (abstractMethod ||| indexSignature ||| methodSignature)
      ++ (mark "," ||| mark ";" ||| require .headEnd)
    ||| typedField ++ memberEnd
    ||| mark ";"

def classBody : Rule :=
  node "class_body" (braced (many (typed typedMember ||| untyped member)))

end UseSites.Grammar.Rule
