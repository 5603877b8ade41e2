import UseSites.Grammar.Expression
/-!
# Rules for markup in expressions

An element has an opening and a closing tag with children between them, or is a single tag. The names
in the two tags are not compared. Between the tags text is taken as it stands, so it is read directly
at its place and not after blanks.
-/

namespace UseSites.Grammar.Rule

def tagWord : Rule := leaf "identifier" .dashedName ||| leaf "identifier" .name

def tagName : Rule :=
  node "jsx_namespace_name" (tagWord ++ mark ":" ++ tagWord)
    ||| chain tagWord
      (wrap "member_expression" (some "object")
        (op "." ++ labelled "property" (leaf "property_identifier" .name)))

/-- An expression in braces; a comment alone is enough. -/
def embedded : Rule := node "jsx_expression" (braced (opt (spread ||| goal .expressions)))

def tagAttributeName : Rule :=
  node "jsx_namespace_name" (tagWord ++ mark ":" ++ tagWord)
    ||| leaf "property_identifier" .dashedName ||| leaf "property_identifier" .name

def tagAttribute : Rule :=
  node "jsx_attribute"
      (tagAttributeName ++ opt (mark "=" ++ (leaf "string" .markupString ||| embedded ||| goal .element)))
    ||| embedded

def namedTag : Rule :=
  labelled "name" tagName ++ opt (typed (labelled "type_arguments" (goal .typeArguments)))
    ++ many (labelled "attribute" tagAttribute)

def openingTag : Rule := node "jsx_opening_element" (mark "<" ++ opt namedTag ++ mark ">")

def closingTag : Rule :=
  node "jsx_closing_element" (mark "</" ++ opt (labelled "name" tagName) ++ mark ">")

def elementChild : Rule := tight (some "jsx_text") .markupText ||| embedded ||| goal .element

def element : Rule :=
  node "jsx_self_closing_element" (mark "<" ++ namedTag ++ mark "/>")
    ||| node "jsx_element"
      (labelled "open_tag" openingTag ++ many elementChild ++ labelled "close_tag" closingTag)

end UseSites.Grammar.Rule
