import UseSites.Grammar.Rule
/-!
# Rules for names, patterns and parameters

A pattern stands where names are bound. It is a name, a place that can be assigned to, or an object or
array pattern, whose parts are patterns again, with or without a default. In TypeScript every parameter
is a node of its own that holds the pattern, its type and its default.
-/

namespace UseSites.Grammar.Rule

/-- The name of a property or member. -/
def propertyName : Rule :=
  leaf "property_identifier" .name ||| leaf "private_property_identifier" .privateName ||| string
    ||| leaf "number" .number ||| node "computed_property_name" (brackets (goal .expression))

def initializer : Rule := op "=" ++ labelled "value" (goal .expression)

def typeAnnotation : Rule := node "type_annotation" (mark ":" ++ goal .type)

def patternWithDefault : Rule :=
  node "assignment_pattern"
      (labelled "left" (goal .pattern) ++ op "=" ++ labelled "right" (goal .expression))
    ||| goal .pattern

/-! ### Object and array patterns -/

def shorthandPattern : Rule := leaf "shorthand_property_identifier_pattern" .identifier

def restPattern : Rule := node "rest_pattern" (op "..." ++ (goal .destructuring ||| goal .reach))

def pairPattern : Rule :=
  node "pair_pattern" (labelled "key" propertyName ++ mark ":" ++ labelled "value" patternWithDefault)

def propertyPattern : Rule :=
  restPattern ||| pairPattern
    ||| node "object_assignment_pattern"
      (labelled "left" (shorthandPattern ||| goal .destructuring) ++ op "="
        ++ labelled "right" (goal .expression))
    ||| shorthandPattern

def destructuring : Rule :=
  node "object_pattern" (braced (listedWithHoles propertyPattern))
    ||| node "array_pattern" (brackets (listedWithHoles patternWithDefault))

def pattern : Rule := restPattern ||| goal .destructuring ||| goal .reach

/-! ### Parameters -/

def accessibility : Rule :=
  node "accessibility_modifier" (modifier "public" ||| modifier "private" ||| modifier "protected")

def overrideModifier : Rule := node "override_modifier" (modifier "override")

/-- What comes before the type of a parameter. -/
def parameterPattern : Rule :=
  many (goal .decorator) ++ opt accessibility ++ opt overrideModifier ++ opt (modifier "readonly")
    ++ labelled "pattern" (wordNode "this" ||| goal .pattern)

def typedParameter : Rule :=
  node "optional_parameter"
      (parameterPattern ++ mark "?" ++ opt (labelled "type" typeAnnotation) ++ opt initializer)
    ||| node "required_parameter"
      (parameterPattern ++ opt (labelled "type" typeAnnotation) ++ opt initializer)

def parameters : Rule :=
  node "formal_parameters" (parens (listed (typed typedParameter ||| untyped patternWithDefault)))

/-! ### Signatures -/

def typePredicate : Rule :=
  node "type_predicate"
    (labelled "name" (wordNode "this" ||| identifier) ++ word "is" ++ labelled "type" (goal .type))

def assertion : Rule :=
  node "asserts" (word "asserts" ++ (typePredicate ||| wordNode "this" ||| identifier))

/-- The type a function returns, or what it says about its arguments. -/
def returnAnnotation : Rule :=
  node "asserts_annotation" (mark ":" ++ assertion)
    ||| node "type_predicate_annotation" (mark ":" ++ typePredicate)
    ||| typeAnnotation

def typeParameters : Rule := labelled "type_parameters" (goal .typeParameters)

/-- The parameters of a function with the types around them. -/
def signature : Rule :=
  opt (typed typeParameters) ++ labelled "parameters" (goal .parameters)
    ++ opt (typed (labelled "return_type" returnAnnotation))

end UseSites.Grammar.Rule
