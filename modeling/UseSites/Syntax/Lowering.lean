import UseSites.Syntax.Cst
import UseSites.Syntax.Outline
/-!
# From concrete trees to outlines

`Cst.outline` turns a concrete tree into an outline. Every node is looked at once, after its children,
with their images at hand: `Image` is what a node became, together with the images of the named
children below it, because a call takes its arguments from one level further down.

A node that is neither a use, a call, an access, an import nor a named declaration becomes a group of
the images of its named children, and nothing when there are none. Names that a construct declares
are left out where the construct has them as a direct child: the name of a declaration and the plain
name of a parameter.
-/

namespace UseSites

namespace Cst

/-- Kinds whose text is a use of a name. Type names cover annotations, return types, implemented
interfaces and generic arguments. -/
def useKinds : List String := ["identifier", "shorthand_property_identifier", "type_identifier"]

def declarationKinds : List String :=
  ["function_declaration", "generator_function_declaration", "function_expression", "function",
    "generator_function", "function_signature", "class_declaration", "abstract_class_declaration",
    "class", "interface_declaration", "type_alias_declaration", "enum_declaration", "type_parameter",
    "internal_module", "module", "method_definition", "method_signature",
    "abstract_method_signature", "variable_declarator"]

def nameTokenKinds : List String :=
  ["identifier", "property_identifier", "private_property_identifier", "type_identifier"]

/-- The label under which a construct keeps the name of its one parameter. -/
def parameterLabel? : String → Option String
  | "required_parameter" | "optional_parameter" => some "pattern"
  | "arrow_function" | "catch_clause" => some "parameter"
  | _ => none

/-- Constructs inside which a default or a rest pattern declares a parameter. -/
def parameterContainers : List String :=
  ["formal_parameters", "required_parameter", "optional_parameter"]

/-! ### Imports -/

def binding (token : Cst) : Binding := ⟨token.text, token.line⟩

def ofKind (kind : String) (nodes : List Cst) : List Cst := nodes.filter (·.kind == kind)

def specifierBinding? (specifier : Cst) : Option Binding :=
  ((specifier.child? "alias").or (specifier.child? "name")).map binding

def clausePartBindings (part : Cst) : List Binding :=
  match part.kind with
  | "identifier" => [binding part]
  | "namespace_import" => (ofKind "identifier" part.namedChildren).map binding
  | "named_imports" => (ofKind "import_specifier" part.namedChildren).filterMap specifierBinding?
  | _ => []

def importPartBindings (part : Cst) : List Binding :=
  match part.kind with
  | "import_clause" => part.namedChildren.flatMap clausePartBindings
  | "import_require_clause" => ((ofKind "identifier" part.namedChildren).take 1).map binding
  | _ => []

def importBindings (statement : Cst) : List Binding :=
  statement.namedChildren.flatMap importPartBindings

/-- The node that holds the module name: that of the statement itself, else that of its last require
clause. -/
def importSource? (statement : Cst) : Option Cst :=
  (statement.child? "source").or
    ((ofKind "import_require_clause" statement.namedChildren).getLast?.bind (·.child? "source"))

def isQuote (c : Char) : Bool := c == '"' || c == '\'' || c.toNat == 0x60

def unquoted (text : String) : String :=
  String.ofList (((text.toList.dropWhile isQuote).reverse.dropWhile isQuote).reverse)

def importOutline (statement : Cst) : Outline :=
  .imported (((importSource? statement).map (unquoted ·.text)).getD "") statement.line
    (importBindings statement)

def propertyBinding? (property : Cst) : Option Binding :=
  match property.kind with
  | "shorthand_property_identifier_pattern" => some (binding property)
  | "pair_pattern" =>
    (property.child? "value").bind fun value =>
      if value.kind == "identifier" then some (binding value) else none
  | _ => none

def patternBindings (pattern : Cst) : List Binding :=
  match pattern.kind with
  | "identifier" => [binding pattern]
  | "object_pattern" => pattern.namedChildren.filterMap propertyBinding?
  | _ => []

def requiredModule? (value : Cst) : Option Cst := do
  guard (value.kind == "call_expression")
  let callee ← value.child? "function"
  let arguments ← value.child? "arguments"
  guard (callee.text == "require")
  let first ← arguments.namedChildren.head?
  guard (first.kind == "string")
  return first

/-- A variable bound to a required module is an import, provided it binds a name. -/
def requireOutline? (declarator : Cst) : Option Outline := do
  let pattern ← declarator.child? "name"
  let value ← declarator.child? "value"
  let required ← requiredModule? value
  let bindings := patternBindings pattern
  guard !bindings.isEmpty
  return .imported (unquoted required.text) declarator.line bindings

/-! ### Names of parameters -/

def plainNameAt (node : Cst) (position : Option Nat) : List Nat :=
  match position with
  | none => []
  | some i =>
    match node.children[i]? with
    | some child => if child.kind == "identifier" then [i] else []
    | none => []

/-- The positions of the children that are declared names of parameters. `parent` is the kind of the
enclosing node. -/
def parameterNames (parent : Option String) (node : Cst) : List Nat :=
  let firstNamed := node.children.findIdx? (·.named)
  let isParameter := (parent.map parameterContainers.contains).getD false
  match node.kind with
  | "formal_parameters" =>
    (List.range node.children.length).filter fun i =>
      (node.children[i]?.map fun child => child.named && child.kind == "identifier").getD false
  | "assignment_pattern" =>
    if isParameter then plainNameAt node ((node.childIndex? "left").or firstNamed) else []
  | "rest_pattern" => if isParameter then plainNameAt node firstNamed else []
  | kind =>
    match parameterLabel? kind with
    | some label => plainNameAt node (node.childIndex? label)
    | none => []

/-! ### Images -/

/-- What a node became, and what the named children below it became. -/
structure Image where
  outline : Option Outline := none
  parts : List Outline := []
  deriving Inhabited

def partsWithout (skipped : List Nat) (images : List Image) : List Outline :=
  (images.zipIdx.filter fun image => !skipped.contains image.2).filterMap (·.1.outline)

def labelled? (node : Cst) (images : List Image) (label : String) : Option (Cst × Image) := do
  let i ← node.childIndex? label
  return (← node.children[i]?, ← images[i]?)

/-- A callee or object of which nothing is kept stands as a group without parts. -/
def orEmptyGroup (image : Option Outline) (kind : String) (line : Int) : Outline :=
  image.getD (.group kind line [])

def callOutline (node : Cst) (images : List Image) : Outline :=
  let callee := labelled? node images "function"
  let arguments := ((labelled? node images "arguments").map (·.2.parts)).getD []
  let kind := (callee.map (·.1.kind)).getD "callee"
  .call node.line (orEmptyGroup (callee.bind (·.2.outline)) kind node.line) arguments

def memberOutline? (node : Cst) (images : List Image) : Option Outline := do
  let (object, image) ← labelled? node images "object"
  let property ← node.child? "property"
  return .member property.text node.line (orEmptyGroup image.outline object.kind object.line)

def declarationOutline? (node : Cst) (images : List Image) : Option Outline := do
  let i ← node.childIndex? "name"
  let name ← node.children[i]?
  guard (nameTokenKinds.contains name.kind)
  return .declaration node.kind (some name.text) node.line (partsWithout [i] images)

def groupOutline? (parent : Option String) (node : Cst) (images : List Image) : Option Outline :=
  match partsWithout (parameterNames parent node) images with
  | [] => none
  | parts => some (.group node.kind node.line parts)

def outlineFrom (parent : Option String) (node : Cst) (images : List Image) : Option Outline :=
  if node.kind == "import_statement" then some (importOutline node)
  else
    let required := if node.kind == "variable_declarator" then requireOutline? node else none
    let member := if node.kind == "member_expression" then memberOutline? node images else none
    let declaration :=
      if declarationKinds.contains node.kind then declarationOutline? node images else none
    if let some outline := required then some outline
    else if useKinds.contains node.kind then some (.identifier node.text node.line)
    else if node.kind == "call_expression" then some (callOutline node images)
    else (member.or declaration).or (groupOutline? parent node images)

mutual

def image (parent : Option String) : Cst → Image
  | ⟨kind, row, text, label, named, missing, flawed, children⟩ =>
    let images := imageAll kind children
    ⟨outlineFrom parent ⟨kind, row, text, label, named, missing, flawed, children⟩ images,
      images.filterMap (·.outline)⟩

/-- The images of the children of a node of the given kind. Punctuation has none. -/
def imageAll (parent : String) : List Cst → List Image
  | [] => []
  | child :: rest => (if child.named then image (some parent) child else {}) :: imageAll parent rest

end

/-- The outline of a whole file, which is always a group. -/
def outline (root : Cst) : Outline :=
  match (image none root).outline with
  | some (.group kind line parts) => .group kind line parts
  | whole => .group root.kind root.line whole.toList

end Cst

end UseSites
