import Mathlib.Data.List.Basic
import UseSites.Proofs.Syntax.Images
/-!
# Roles of nodes

What a node stands for can be read off its kind and its labels: an import and its local names, a name that is used, an
access, a declaration with a name. So can the children by which it declares a name. This is said here without regard to
the order in which lowering asks for it and to the tables it looks things up in, and the lemmas say that lowering
decides the same. `mem_parameterNames_iff` is the one with most cases, because a parameter can be written in many ways.
-/

namespace UseSites

namespace Cst

/-! ### Names and imports -/

/-- Whether a node is a name that is used: a plain one, a property in its short form, or the name of a type. -/
def IsName (node : Cst) : Prop :=
  node.kind = "identifier" ∨ node.kind = "shorthand_property_identifier" ∨ node.kind = "type_identifier"

/-- The tokens of the local names in one part of an import clause. -/
def partTokens (part : Cst) : List Cst :=
  if part.kind = "identifier" then [part]
  else if part.kind = "namespace_import" then part.namedChildren.filter (·.kind = "identifier")
  else if part.kind = "named_imports" then
    (part.namedChildren.filter (·.kind = "import_specifier")).flatMap fun specifier =>
      ((specifier.child? "alias").or (specifier.child? "name")).toList
  else []

/-- The tokens of the local names of an import statement. A clause that requires its module has one name. -/
def importedTokens (node : Cst) : List Cst :=
  node.namedChildren.flatMap fun clause =>
    if clause.kind = "import_clause" then clause.namedChildren.flatMap partTokens
    else if clause.kind = "import_require_clause" then (clause.namedChildren.find? (·.kind = "identifier")).toList
    else []

def importedNames (node : Cst) : List Binding := node.importedTokens.map fun token => ⟨token.text, token.line⟩

/-- The token of the module that an import statement names, in itself or in its last clause that requires one. -/
def moduleToken? (node : Cst) : Option Cst :=
  (node.child? "source").or
    ((node.namedChildren.filter (·.kind = "import_require_clause")).getLast?.bind (·.child? "source"))

/-- The tokens of the names that a pattern takes right away: from itself, or from properties without a default. -/
def boundTokens (pattern : Cst) : List Cst :=
  if pattern.kind = "identifier" then [pattern]
  else if pattern.kind = "object_pattern" then
    pattern.namedChildren.flatMap fun property =>
      if property.kind = "shorthand_property_identifier_pattern" then [property]
      else if property.kind = "pair_pattern" then
        ((property.child? "value").filter fun value => value.kind = "identifier").toList
      else []
  else []

/-- Whether a node is a variable that takes names from `require('...')`. -/
def IsRequire (node : Cst) : Prop :=
  node.kind = "variable_declarator"
    ∧ (∃ pattern ∈ node.child? "name", boundTokens pattern ≠ [])
    ∧ ∃ value ∈ node.child? "value", value.kind = "call_expression"
      ∧ (∃ callee ∈ value.child? "function", callee.text = "require")
      ∧ ∃ arguments ∈ value.child? "arguments", ∃ first ∈ arguments.namedChildren.head?, first.kind = "string"

def firstArgument? (node : Cst) : Option Cst :=
  ((node.child? "value").bind (·.child? "arguments")).bind (·.namedChildren.head?)

/-- What a variable imports, if it is one that takes names from `require('...')`. -/
def requiredNames (node : Cst) : List Binding :=
  ((node.child? "name").toList.flatMap boundTokens).map fun token => ⟨token.text, token.line⟩

instance (node : Cst) : Decidable node.IsName := inferInstanceAs (Decidable (_ ∨ _ ∨ _))

instance (node : Cst) : Decidable node.IsRequire := inferInstanceAs (Decidable (_ ∧ _ ∧ _))

theorem isName_iff {node : Cst} : node.IsName ↔ node.kind ∈ useKinds := by
  simp only [IsName, useKinds, List.mem_cons, List.not_mem_nil, or_false]

theorem clausePartBindings_eq_map (part : Cst) : clausePartBindings part = part.partTokens.map binding := by
  unfold clausePartBindings partTokens
  split
  · rename_i hdefault
    rw [if_pos hdefault]
    rfl
  · rename_i hnamespace
    rw [if_neg (by rw [hnamespace]; decide), if_pos hnamespace]
    rfl
  · rename_i hnamed
    rw [if_neg (by rw [hnamed]; decide), if_neg (by rw [hnamed]; decide), if_pos hnamed,
      List.filterMap_eq_flatMap_toList, List.map_flatMap]
    exact List.flatMap_congr fun specifier _ => Option.toList_map ..
  · rename_i hdefault hnamespace hnamed
    rw [if_neg hdefault, if_neg hnamespace, if_neg hnamed]
    rfl

theorem importBindings_eq_map (node : Cst) : importBindings node = node.importedNames := by
  rw [importBindings, importedNames, importedTokens, List.map_flatMap]
  apply List.flatMap_congr
  intro clause _
  unfold importPartBindings
  split
  · rename_i hparts
    rw [if_pos hparts, List.map_flatMap]
    exact List.flatMap_congr fun part _ => clausePartBindings_eq_map part
  · rename_i hrequire
    rw [if_neg (by rw [hrequire]; decide), if_pos hrequire, List.take_one, ofKind, List.head?_filter]
    rfl
  · rename_i hparts hrequire
    rw [if_neg hparts, if_neg hrequire]
    rfl

theorem toList_propertyBinding? (property : Cst) :
    (propertyBinding? property).toList
      = (if property.kind = "shorthand_property_identifier_pattern" then [property]
        else if property.kind = "pair_pattern" then
          ((property.child? "value").filter fun value => value.kind = "identifier").toList
        else []).map binding := by
  unfold propertyBinding?
  split
  · rename_i hshort
    rw [if_pos hshort]
    rfl
  · rename_i hpair
    cases hvalue : property.child? "value" with
    | none => simp [hpair]
    | some value => by_cases hname : value.kind = "identifier" <;> simp [hpair, hname, Option.filter_some]
  · rename_i hshort hpair
    rw [if_neg hshort, if_neg hpair]
    rfl

theorem patternBindings_eq_map (pattern : Cst) : patternBindings pattern = (boundTokens pattern).map binding := by
  unfold patternBindings boundTokens
  split
  · rename_i hname
    rw [if_pos hname]
    rfl
  · rename_i hobject
    rw [if_neg (by rw [hobject]; decide), if_pos hobject, List.filterMap_eq_flatMap_toList, List.map_flatMap]
    exact List.flatMap_congr fun property _ => toList_propertyBinding? property
  · rename_i hname hobject
    rw [if_neg hname, if_neg hobject]
    rfl

theorem requiredModule?_eq_some_iff {value first : Cst} :
    requiredModule? value = some first ↔
      value.kind = "call_expression" ∧ (∃ callee ∈ value.child? "function", callee.text = "require")
        ∧ (value.child? "arguments").bind (·.namedChildren.head?) = some first ∧ first.kind = "string" := by
  unfold requiredModule?
  simp only [guard_eq_ite, beq_iff_eq, Option.bind_eq_bind, Option.bind_eq_some_iff, ite_eq_left_iff, reduceCtorEq,
    imp_false, not_not, Option.pure_def, Option.some.injEq, Option.mem_def]
  constructor
  · rintro ⟨-, hcall, callee, hcallee, arguments, harguments, -, hrequire, found, hfound, -, hstring, rfl⟩
    exact ⟨hcall, ⟨callee, hcallee, hrequire⟩, ⟨arguments, harguments, hfound⟩, hstring⟩
  · rintro ⟨hcall, ⟨callee, hcallee, hrequire⟩, ⟨arguments, harguments, hfirst⟩, hstring⟩
    exact ⟨(), hcall, callee, hcallee, arguments, harguments, (), hrequire, first, hfirst, (), hstring, rfl⟩

theorem requireOutline?_eq_some_iff {node : Cst} {outline : Outline} :
    requireOutline? node = some outline ↔
      ∃ pattern value first, node.child? "name" = some pattern ∧ node.child? "value" = some value
        ∧ requiredModule? value = some first ∧ boundTokens pattern ≠ []
        ∧ outline = .imported (unquoted first.text) node.line ((boundTokens pattern).map binding) := by
  unfold requireOutline?
  simp only [guard_eq_ite, Option.bind_eq_bind, Option.bind_eq_some_iff, patternBindings_eq_map, List.isEmpty_map,
    Bool.not_eq_true', List.isEmpty_eq_false_iff, ite_eq_left_iff, reduceCtorEq, imp_false, not_not, Option.pure_def,
    Option.some.injEq]
  constructor
  · rintro ⟨pattern, hpattern, value, hvalue, first, hfirst, -, hbound, rfl⟩
    exact ⟨pattern, value, first, hpattern, hvalue, hfirst, hbound, rfl⟩
  · rintro ⟨pattern, value, first, hpattern, hvalue, hfirst, hbound, rfl⟩
    exact ⟨pattern, hpattern, value, hvalue, first, hfirst, (), hbound, rfl⟩

theorem imported_firstArgument? {node pattern value first : Cst} (hpattern : node.child? "name" = some pattern)
    (hvalue : node.child? "value" = some value)
    (hfirst : (value.child? "arguments").bind (·.namedChildren.head?) = some first) :
    Outline.imported ((node.firstArgument?.map (unquoted ·.text)).getD "") node.line node.requiredNames
      = .imported (unquoted first.text) node.line ((boundTokens pattern).map binding) := by
  have hargument : node.firstArgument? = some first := by rw [firstArgument?, hvalue, Option.bind_some, hfirst]
  have hnames : node.requiredNames = (boundTokens pattern).map binding := by
    rw [requiredNames, hpattern, Option.toList_some, List.flatMap_singleton]
    rfl
  rw [hargument, hnames]
  rfl

/-- Lowering makes an import of a variable that takes names from `require('...')`, and of no other node. -/
theorem required?_eq_some_iff {node : Cst} {outline : Outline} :
    node.required? = some outline ↔ node.IsRequire
      ∧ outline = .imported ((node.firstArgument?.map (unquoted ·.text)).getD "") node.line node.requiredNames := by
  unfold required?
  constructor
  · intro h
    split at h
    · rename_i hkind
      obtain ⟨pattern, value, first, hpattern, hvalue, hmodule, hbound, rfl⟩ := requireOutline?_eq_some_iff.1 h
      obtain ⟨hcall, hcallee, hfirst, hstring⟩ := requiredModule?_eq_some_iff.1 hmodule
      obtain ⟨arguments, harguments, hhead⟩ := Option.bind_eq_some_iff.1 hfirst
      have hrequire : node.IsRequire :=
        ⟨hkind, ⟨pattern, hpattern, hbound⟩, value, hvalue, hcall, hcallee, arguments, harguments, first, hhead, hstring⟩
      exact ⟨hrequire, (imported_firstArgument? hpattern hvalue hfirst).symm⟩
    · cases h
  · rintro ⟨⟨hkind, ⟨pattern, hpattern, hbound⟩, value, hvalue, hcall, hcallee, arguments, harguments, first, hhead,
      hstring⟩, rfl⟩
    have hfirst : (value.child? "arguments").bind (·.namedChildren.head?) = some first :=
      Option.bind_eq_some_iff.2 ⟨arguments, harguments, hhead⟩
    have hmodule := requiredModule?_eq_some_iff.2 ⟨hcall, hcallee, hfirst, hstring⟩
    rw [if_pos hkind, imported_firstArgument? hpattern hvalue hfirst]
    exact requireOutline?_eq_some_iff.2 ⟨pattern, value, first, hpattern, hvalue, hmodule, hbound, rfl⟩

/-! ### Accesses and declarations -/

/-- Whether a node is an access to a property that has both the object and the property. -/
def IsAccess (node : Cst) : Prop :=
  node.kind = "member_expression" ∧ (node.child? "object").isSome ∧ (node.child? "property").isSome

def functionKinds : List String :=
  ["function_declaration", "generator_function_declaration", "function_expression", "function", "generator_function",
    "function_signature"]

def classKinds : List String := ["class_declaration", "abstract_class_declaration", "class"]

def typeKinds : List String :=
  ["interface_declaration", "type_alias_declaration", "enum_declaration", "type_parameter"]

def moduleKinds : List String := ["internal_module", "module"]

def methodKinds : List String := ["method_definition", "method_signature", "abstract_method_signature"]

def IsDeclaration (node : Cst) : Prop :=
  node.kind ∈ functionKinds ∨ node.kind ∈ classKinds ∨ node.kind ∈ typeKinds ∨ node.kind ∈ moduleKinds
    ∨ node.kind ∈ methodKinds ∨ node.kind = "variable_declarator"

def IsNameToken (token : Cst) : Prop :=
  token.kind = "identifier" ∨ token.kind = "property_identifier" ∨ token.kind = "private_property_identifier"
    ∨ token.kind = "type_identifier"

instance (node : Cst) : Decidable node.IsAccess := inferInstanceAs (Decidable (_ ∧ _ ∧ _))

instance (node : Cst) : Decidable node.IsDeclaration := inferInstanceAs (Decidable (_ ∨ _ ∨ _ ∨ _ ∨ _ ∨ _))

instance (token : Cst) : Decidable token.IsNameToken := inferInstanceAs (Decidable (_ ∨ _ ∨ _ ∨ _))

/-- The token that names what a node declares. -/
def nameToken? (node : Cst) : Option Cst :=
  if node.IsDeclaration then (node.child? "name").filter fun token => token.IsNameToken else none

theorem isDeclaration_iff {node : Cst} : node.IsDeclaration ↔ node.kind ∈ declarationKinds := by
  simp only [IsDeclaration, functionKinds, classKinds, typeKinds, moduleKinds, methodKinds, declarationKinds,
    List.mem_cons, List.not_mem_nil, or_false, or_assoc]

theorem isNameToken_iff {token : Cst} : token.IsNameToken ↔ token.kind ∈ nameTokenKinds := by
  simp only [IsNameToken, nameTokenKinds, List.mem_cons, List.not_mem_nil, or_false]

theorem isAccess_iff {node : Cst} : node.IsAccess ↔ node.accessed?.isSome = true := by
  unfold IsAccess accessed?
  split
  · rename_i hkind
    cases node.child? "object" <;> cases node.child? "property" <;> simp [hkind]
  · rename_i hkind
    simp [hkind]

theorem map_snd_declared? (node : Cst) : node.declared?.map Prod.snd = node.nameToken? := by
  unfold declared? nameToken?
  rw [child?, List.find?_eq_bind_findIdx?_getElem?, ← childIndex?]
  simp only [isDeclaration_iff]
  split
  · cases node.childIndex? "name" with
    | none => rfl
    | some i =>
      cases htoken : node.children[i]? with
      | none => simp [htoken]
      | some token =>
        by_cases hname : token.kind ∈ nameTokenKinds <;>
          simp [htoken, hname, guard_eq_ite, isNameToken_iff, Option.filter_some]
  · rfl

/-! ### Names of parameters -/

/-- Whether a node declares a parameter by the child at a position, should it be a plain name. -/
def HoldsParameter (parent : Option String) (node : Cst) (i : Nat) : Prop :=
  node.kind = "formal_parameters" ∧ (∃ child ∈ node.children[i]?, child.named = true)
    ∨ (node.kind = "required_parameter" ∨ node.kind = "optional_parameter") ∧ node.childIndex? "pattern" = some i
    ∨ (node.kind = "arrow_function" ∨ node.kind = "catch_clause") ∧ node.childIndex? "parameter" = some i
    -- a default or the rest of the parameters, right inside the parameters
    ∨ (parent = some "formal_parameters" ∨ parent = some "required_parameter" ∨ parent = some "optional_parameter")
      ∧ (node.kind = "assignment_pattern" ∧ node.childIndex? "left" = some i
        ∨ (node.kind = "assignment_pattern" ∧ node.childIndex? "left" = none ∨ node.kind = "rest_pattern")
          ∧ node.children.findIdx? (·.named) = some i)

/-- Whether the child at a position is the plain name of a parameter. -/
def NamesParameter (parent : Option String) (node : Cst) (i : Nat) : Prop :=
  HoldsParameter parent node i ∧ ∃ child ∈ node.children[i]?, child.kind = "identifier"

theorem mem_plainNameAt {node child : Cst} {i : Nat} (hchild : node.children[i]? = some child) (position : Option Nat) :
    i ∈ plainNameAt node position ↔ position = some i ∧ child.kind = "identifier" := by
  cases position with
  | none => simp [plainNameAt]
  | some j =>
    rw [plainNameAt, Option.some.injEq]
    constructor
    · intro hmem
      split at hmem
      · rename_i other hother
        split at hmem
        · rename_i hkind
          obtain rfl := List.mem_singleton.1 hmem
          cases hchild.symm.trans hother
          exact ⟨rfl, beq_iff_eq.1 hkind⟩
        · cases hmem
      · cases hmem
    · rintro ⟨rfl, hkind⟩
      simp [hchild, hkind]

theorem parameterLabel?_eq_some_iff {kind label : String} :
    parameterLabel? kind = some label ↔
      (kind = "required_parameter" ∨ kind = "optional_parameter") ∧ label = "pattern"
        ∨ (kind = "arrow_function" ∨ kind = "catch_clause") ∧ label = "parameter" := by
  unfold parameterLabel?
  split <;> simp_all [eq_comm]

/-- Lowering passes over the plain names of parameters. -/
theorem mem_parameterNames_iff {parent : Option String} {node child : Cst} {i : Nat}
    (hchild : node.children[i]? = some child) : i ∈ parameterNames parent node ↔ NamesParameter parent node i := by
  have hplain (position : Option Nat) :
      i ∈ plainNameAt node position ↔ position = some i ∧ ∃ other ∈ node.children[i]?, other.kind = "identifier" := by
    rw [mem_plainNameAt hchild, hchild]
    simp
  have hparent : (parent.map parameterContainers.contains).getD false = true ↔
      parent = some "formal_parameters" ∨ parent = some "required_parameter" ∨ parent = some "optional_parameter" := by
    cases parent with
    | none => simp
    | some kind => simp [parameterContainers]
  unfold parameterNames NamesParameter HoldsParameter
  dsimp only
  split
  · rename_i hkind
    have hbound := (List.getElem?_eq_some_iff.1 hchild).1
    simp [hkind, hbound]
  · rename_i hkind
    split
    · rename_i hinside
      rw [hplain]
      simp only [hkind, hparent.1 hinside, String.reduceEq]
      cases node.childIndex? "left" <;> simp
    · rename_i hinside
      rw [hparent] at hinside
      simp [hkind, hinside]
  · rename_i hkind
    split
    · rename_i hinside
      simp [hkind, hparent.1 hinside, hplain]
    · rename_i hinside
      rw [hparent] at hinside
      simp [hkind, hinside]
  · rename_i hformal hassignment hrest
    split
    · rename_i label hlabel
      rw [hplain]
      rcases parameterLabel?_eq_some_iff.1 hlabel with ⟨hkind | hkind, rfl⟩ | ⟨hkind | hkind, rfl⟩ <;> simp [hkind]
    · rename_i hlabel
      have hnone (label : String) : parameterLabel? node.kind ≠ some label := by simp [hlabel]
      have hpattern := hnone "pattern"
      have hparameter := hnone "parameter"
      simp only [ne_eq, parameterLabel?_eq_some_iff, and_true] at hpattern hparameter
      simp_all

/-! ### Children that are declared names -/

instance (parent : Option String) (node : Cst) (i : Nat) : Decidable (HoldsParameter parent node i) :=
  inferInstanceAs (Decidable (_ ∨ _ ∨ _ ∨ _))

instance (parent : Option String) (node : Cst) (i : Nat) : Decidable (NamesParameter parent node i) :=
  inferInstanceAs (Decidable (_ ∧ _))

/-- The positions of the children by which a node declares its own name or names parameters. -/
def ownNames (parent : Option String) (node : Cst) : List Nat :=
  (List.range node.children.length).filter fun i =>
    node.nameToken?.isSome ∧ node.childIndex? "name" = some i ∨ NamesParameter parent node i

theorem not_namesParameter {parent : Option String} {node : Cst} {i : Nat} (hdeclaration : node.IsDeclaration) :
    ¬ NamesParameter parent node i := by
  have hkind : node.kind ∉ ["formal_parameters", "required_parameter", "optional_parameter", "arrow_function",
      "catch_clause", "assignment_pattern", "rest_pattern"] := by
    have hkinds : ∀ kind ∈ declarationKinds, kind ∉ ["formal_parameters", "required_parameter", "optional_parameter",
        "arrow_function", "catch_clause", "assignment_pattern", "rest_pattern"] := by decide
    exact hkinds _ (isDeclaration_iff.1 hdeclaration)
  simp only [List.mem_cons, List.not_mem_nil, or_false, not_or] at hkind
  intro hname
  have hholds := hname.1
  simp only [HoldsParameter, hkind, false_and, or_self, and_false] at hholds

theorem mem_ownNames {parent : Option String} {node child : Cst} {i : Nat} (hchild : node.children[i]? = some child) :
    i ∈ ownNames parent node ↔
      node.nameToken?.isSome ∧ node.childIndex? "name" = some i ∨ NamesParameter parent node i := by
  have hbound := (List.getElem?_eq_some_iff.1 hchild).1
  rw [ownNames, List.mem_filter, decide_eq_true_eq, List.mem_range, and_iff_right hbound]

/-- The others depend only on which children are left out. -/
theorem others_congr {node : Cst} {skipped left : List Nat}
    (h : ∀ i child, node.children[i]? = some child → (i ∈ skipped ↔ i ∈ left)) :
    node.others skipped = node.others left := by
  unfold others
  congr 2
  apply List.filter_congr
  intro child hchild
  have hiff := h child.2 child.1 (List.mem_zipIdx_iff_getElem?.1 hchild)
  rw [Bool.not_inj_iff, Bool.eq_iff_iff, List.contains_iff_mem, List.contains_iff_mem, hiff]

theorem others_ownNames_of_declared? {parent : Option String} {node token : Cst} {position : Nat}
    (hdeclared : node.declared? = some (position, token)) :
    node.others (ownNames parent node) = node.others [position] := by
  obtain ⟨hkind, hindex, -, -⟩ := declared?_eq_some hdeclared
  have htoken : node.nameToken? = some token := by rw [← map_snd_declared?, hdeclared, Option.map_some]
  have hnone (i : Nat) : ¬ NamesParameter parent node i := not_namesParameter (isDeclaration_iff.2 hkind)
  apply others_congr
  intro i child hchild
  rw [mem_ownNames hchild, htoken, hindex]
  simp [hnone, eq_comm]

theorem others_ownNames_of_not_declared? {parent : Option String} {node : Cst} (hdeclared : node.declared? = none) :
    node.others (ownNames parent node) = node.others (parameterNames parent node) := by
  have htoken : node.nameToken? = none := by rw [← map_snd_declared?, hdeclared, Option.map_none]
  apply others_congr
  intro i child hchild
  rw [mem_ownNames hchild, mem_parameterNames_iff hchild, htoken]
  simp

/-! ### Constructs -/

/-- Lowering tells the roles of nodes apart one after the other. -/
theorem construct_eq (node : Cst) :
    node.construct =
      if node.kind = "import_statement" then .importing
      else if node.IsRequire then
        .requiring (.imported ((node.firstArgument?.map (unquoted ·.text)).getD "") node.line node.requiredNames)
      else if node.IsName then .use
      else if node.kind = "call_expression" then .call
      else match node.accessed?, node.declared? with
        | some (object, property), _ => .access object property
        | none, some (position, name) => .declaration position name
        | none, none => .plain := by
  unfold construct
  by_cases hrequire : node.IsRequire
  · rw [required?_eq_some_iff.2 ⟨hrequire, rfl⟩]
    simp only [hrequire, if_true]
  · have hrequired : node.required? = none :=
      Option.eq_none_iff_forall_ne_some.2 fun outline h => hrequire (required?_eq_some_iff.1 h).1
    rw [hrequired, if_neg hrequire]
    exact if_congr Iff.rfl rfl (if_congr isName_iff.symm rfl rfl)

end Cst

end UseSites
