import UseSites.Proofs.Syntax.Addresses
import UseSites.Use
/-!
# Declared names

A declaration takes a name or a pattern of names: `binderParts` are the places where it does, `patternParts` those
where a pattern goes on. An identifier at such a place is declared, at whatever depth. Lowering passes over a
declared name only where the construct that has it as a child is one it knows: a binder, or a default or a rest right
inside the parameters. So a plain name is never taken for a use, while a name inside a pattern nearly always is, if
lowering looks into its declaration at all. `declared_mem_useAddresses_iff` says of every declared name which of the two
it is.
-/

namespace UseSites

namespace Cst

/-- The positions at which a declaration takes a name or a pattern. -/
def binderParts (node : Cst) : List Nat :=
  match node.kind with
  | "variable_declarator" => (node.childIndex? "name").toList
  | "required_parameter" | "optional_parameter" => (node.childIndex? "pattern").toList
  | "arrow_function" | "catch_clause" => (node.childIndex? "parameter").toList
  | "formal_parameters" => List.range node.children.length
  | _ => []

/-- The positions at which a pattern takes a name or a further pattern. -/
def patternParts (node : Cst) : List Nat :=
  match node.kind with
  | "object_pattern" | "array_pattern" | "rest_pattern" => List.range node.children.length
  | "pair_pattern" => (node.childIndex? "value").toList
  | "assignment_pattern" | "object_assignment_pattern" => (node.childIndex? "left").toList
  | _ => []

/-- Whether an address is that of the name or pattern of a declaration, or of one inside such a pattern. -/
inductive PatternAt (root : Cst) : List Nat → Prop
  | binder {above : List Nat} {node : Cst} {i : Nat} (hnode : root.at? above = some node)
      (hpart : i ∈ node.binderParts) : PatternAt root (above ++ [i])
  | inner {above : List Nat} {node : Cst} {i : Nat} (hpattern : PatternAt root above)
      (hnode : root.at? above = some node) (hpart : i ∈ node.patternParts) : PatternAt root (above ++ [i])

def Declares (root : Cst) (address : List Nat) (token : Cst) : Prop :=
  PatternAt root address ∧ root.at? address = some token ∧ token.kind = "identifier"

/-- Whether the name at a position of a pattern is that of a parameter with a default or of the rest of the
parameters, provided the pattern stands right inside the parameters. -/
def Spares (parent : String) (pattern : Cst) (i : Nat) : Prop :=
  parent ∈ parameterContainers
    ∧ (pattern.kind = "assignment_pattern"
      ∨ pattern.kind = "rest_pattern" ∧ pattern.children.findIdx? (·.named) = some i)

/-! ### Places that lowering passes over -/

section Places

variable {parent : Option String} {node child : Cst} {i : Nat}

theorem kind_of_mem_parameterNames (hchild : node.children[i]? = some child) (hname : i ∈ parameterNames parent node) :
    child.kind = "identifier" := by
  obtain ⟨other, hother, hkind⟩ := ((mem_parameterNames_iff hchild).1 hname).2
  cases hchild.symm.trans hother
  exact hkind

theorem plain_of_parameterLabel? {label : String} (parent : Option String)
    (hlabel : parameterLabel? node.kind = some label) :
    node.construct = .plain ∧ parameterNames parent node = plainNameAt node (node.childIndex? label) := by
  have hkinds : node.kind ∈ ["required_parameter", "optional_parameter", "arrow_function", "catch_clause"] := by
    unfold parameterLabel? at hlabel
    split at hlabel <;> simp_all
  simp only [List.mem_cons, List.not_mem_nil, or_false] at hkinds
  constructor
  · rcases hkinds with h | h | h | h <;>
      simp [construct, h, required?, accessed?, declared?, declarationKinds, useKinds]
  · unfold parameterNames
    rcases hkinds with h | h | h | h <;> rw [h] at hlabel ⊢ <;> cases hlabel <;> rfl

theorem plain_of_formalParameters (hkind : node.kind = "formal_parameters") : node.construct = .plain := by
  simp [construct, hkind, required?, accessed?, declared?, declarationKinds, useKinds]

theorem cases_of_binderParts (hpart : i ∈ node.binderParts) :
    (node.kind = "variable_declarator" ∧ node.childIndex? "name" = some i)
      ∨ (∃ label, parameterLabel? node.kind = some label ∧ node.childIndex? label = some i)
      ∨ node.kind = "formal_parameters" ∧ i ∈ List.range node.children.length := by
  unfold binderParts at hpart
  split at hpart
  · rename_i h
    exact Or.inl ⟨h, Option.mem_toList.1 hpart⟩
  · rename_i h
    exact Or.inr (Or.inl ⟨"pattern", by rw [h]; rfl, Option.mem_toList.1 hpart⟩)
  · rename_i h
    exact Or.inr (Or.inl ⟨"pattern", by rw [h]; rfl, Option.mem_toList.1 hpart⟩)
  · rename_i h
    exact Or.inr (Or.inl ⟨"parameter", by rw [h]; rfl, Option.mem_toList.1 hpart⟩)
  · rename_i h
    exact Or.inr (Or.inl ⟨"parameter", by rw [h]; rfl, Option.mem_toList.1 hpart⟩)
  · rename_i h
    exact Or.inr (Or.inr ⟨h, hpart⟩)
  · cases hpart

theorem not_goesTo_of_binderParts (hpart : i ∈ node.binderParts) (hchild : node.children[i]? = some child)
    (hkind : child.kind = "identifier") (hnamed : child.named = true) : ¬ node.GoesTo parent i := by
  rcases cases_of_binderParts hpart with ⟨hdeclarator, hindex⟩ | ⟨label, hlabel, hindex⟩ | ⟨hparameters, hrange⟩
  · -- a variable is a declaration with a name, unless it becomes an import
    have hdeclared : node.declared? = some (i, child) := by
      simp [declared?, hdeclarator, declarationKinds, hindex, hchild, hkind, nameTokenKinds, guard]
    cases hrequired : node.required? with
    | some outline => simp [GoesTo, construct, hdeclarator, hrequired]
    | none => simp [GoesTo, construct, hdeclarator, hrequired, useKinds, accessed?, hdeclared]
  · obtain ⟨hplain, hnames⟩ := plain_of_parameterLabel? parent hlabel
    rw [goesTo_iff_of_plain hplain, hnames, not_not]
    exact (mem_plainNameAt hchild _).2 ⟨hindex, hkind⟩
  · rw [goesTo_iff_of_plain (plain_of_formalParameters hparameters), not_not]
    unfold parameterNames
    simp only [hparameters, List.mem_filter, hrange, hchild, Option.map_some, Option.getD_some, hkind, hnamed,
      beq_self_eq_true, Bool.and_self, and_self]

theorem goesTo_of_binderParts (hpart : i ∈ node.binderParts) (hchild : node.children[i]? = some child)
    (hkind : child.kind ∉ nameTokenKinds) (himport : node.required? = none) (parent : Option String) :
    node.GoesTo parent i := by
  have hplain : node.construct = .plain := by
    rcases cases_of_binderParts hpart with ⟨hdeclarator, hindex⟩ | ⟨label, hlabel, -⟩ | ⟨hparameters, -⟩
    · have hdeclared : node.declared? = none := by
        simp [declared?, hdeclarator, declarationKinds, hindex, hchild, hkind, guard]
      simp [construct, hdeclarator, himport, useKinds, accessed?, hdeclared]
    · exact (plain_of_parameterLabel? parent hlabel).1
    · exact plain_of_formalParameters hparameters
  rw [goesTo_iff_of_plain hplain]
  intro hname
  rw [kind_of_mem_parameterNames hchild hname] at hkind
  exact hkind (by decide)

theorem required?_of_goesTo (hgoes : node.GoesTo parent i) : node.required? = none := by
  cases hrequired : node.required? with
  | none => rfl
  | some outline =>
    rw [GoesTo, construct_of_required hrequired] at hgoes
    exact hgoes.elim

theorem plain_of_patternParts (hpart : i ∈ node.patternParts) :
    node.construct = .plain ∧ node.kind ∉ nameTokenKinds := by
  unfold patternParts at hpart
  split at hpart <;>
    simp_all [construct, required?, accessed?, declared?, declarationKinds, useKinds, nameTokenKinds]

theorem goesTo_of_patternParts (hpart : i ∈ node.patternParts) (hchild : node.children[i]? = some child)
    (hkind : child.kind ∉ nameTokenKinds) (parent : Option String) : node.GoesTo parent i := by
  rw [goesTo_iff_of_plain (plain_of_patternParts hpart).1]
  intro hname
  rw [kind_of_mem_parameterNames hchild hname] at hkind
  exact hkind (by decide)

theorem goesTo_iff_not_spares {above : String} (hpart : i ∈ node.patternParts) (hchild : node.children[i]? = some child)
    (hkind : child.kind = "identifier") : node.GoesTo (some above) i ↔ ¬ Spares above node i := by
  have hname (position : Option Nat) : i ∈ plainNameAt node position ↔ position = some i := by
    rw [mem_plainNameAt hchild, and_iff_left hkind]
  rw [goesTo_iff_of_plain (plain_of_patternParts hpart).1, Spares]
  refine not_congr ?_
  unfold patternParts at hpart
  unfold parameterNames
  split at hpart
  · rename_i h
    simp [h, parameterLabel?]
  · rename_i h
    simp [h, parameterLabel?]
  · rename_i hrest
    simp only [hrest]
    split <;> simp_all
  · rename_i h
    simp [h, parameterLabel?]
  · rename_i hassignment
    simp only [hassignment, Option.mem_toList.1 hpart, Option.some_or]
    split <;> simp_all
  · rename_i h
    simp [h, parameterLabel?]
  · cases hpart

end Places

/-! ### Patterns that lowering looks into -/

/-- Whether lowering looks into a declaration: it reaches the declaration and makes no import of it, or the declaration
stands in place of the arguments of a call. -/
def LooksInto (root : Cst) (address : List Nat) (declaration : Cst) : Prop :=
  (∃ kept ∈ root.retainedAt none, kept.address = address ∧ kept.node = declaration ∧ declaration.required? = none)
    ∨ ArgumentsAt none root address declaration

/-- Whether a node is the pattern of a declaration that lowering looks into, or part of it, at some address and in a
node of some kind. -/
inductive OpenPattern (root : Cst) : List Nat → String → Cst → Prop
  | binder {above : List Nat} {declaration pattern : Cst} {i : Nat} (hlooks : LooksInto root above declaration)
      (hpart : i ∈ declaration.binderParts) (hpattern : declaration.children[i]? = some pattern)
      (hnamed : pattern.named = true) : OpenPattern root (above ++ [i]) declaration.kind pattern
  | inner {above : List Nat} {parent : String} {outer pattern : Cst} {i : Nat}
      (houter : OpenPattern root above parent outer) (hpart : i ∈ outer.patternParts)
      (hpattern : outer.children[i]? = some pattern) (hnamed : pattern.named = true) :
      OpenPattern root (above ++ [i]) outer.kind pattern

section Patterns

variable {root pattern : Cst} {address : List Nat} {parent : String} {i : Nat}

theorem mem_retainedAt_of_openPattern (hopen : OpenPattern root address parent pattern)
    (hpart : i ∈ pattern.patternParts) : ⟨address, some parent, pattern⟩ ∈ root.retainedAt none := by
  induction hopen generalizing i with
  | binder hlooks hbinder hpattern hnamed =>
    -- what has parts is no name token, so no declaration passes over it
    rcases hlooks with ⟨kept, hkept, rfl, rfl, himport⟩ | harguments
    · have hgoes := goesTo_of_binderParts hbinder hpattern (plain_of_patternParts hpart).2 himport kept.parent
      exact child_mem_retainedAt hkept hpattern hnamed hgoes
    · exact argument_mem_retainedAt harguments hpattern hnamed
  | inner _ hinner hpattern hnamed ih =>
    have hgoes := goesTo_of_patternParts hinner hpattern (plain_of_patternParts hpart).2
    exact child_mem_retainedAt (ih hinner) hpattern hnamed (hgoes _)

theorem PatternAt.exists_holder {above : List Nat} (hpattern : PatternAt root (above ++ [i])) :
    ∃ node, root.at? above = some node ∧ (i ∈ node.binderParts ∨ PatternAt root above ∧ i ∈ node.patternParts) := by
  generalize haddress : above ++ [i] = address at hpattern
  cases hpattern with
  | binder hnode hpart =>
    obtain ⟨rfl, hposition⟩ := List.append_inj' haddress rfl
    cases hposition
    exact ⟨_, hnode, Or.inl hpart⟩
  | inner hpattern hnode hpart =>
    obtain ⟨rfl, hposition⟩ := List.append_inj' haddress rfl
    cases hposition
    exact ⟨_, hnode, Or.inr ⟨hpattern, hpart⟩⟩

theorem kind_of_construct {node : Cst} (hconstruct : node.construct = .call) : node.kind = "call_expression" := by
  have hfits := construct_fits node
  rw [hconstruct] at hfits
  exact hfits

/-- A call is neither a declaration nor a pattern, so its arguments are no pattern. -/
theorem not_patternAt_of_argumentsAt {arguments : Cst} (harguments : ArgumentsAt none root address arguments) :
    ¬ PatternAt root address := by
  obtain ⟨call, hcall, j, rfl, hconstruct, -⟩ := harguments
  intro hpattern
  have hkind := kind_of_construct hconstruct
  obtain ⟨outer, houter, hpart⟩ := hpattern.exists_holder
  cases houter.symm.trans (at?_of_mem_retainedAt hcall)
  rcases hpart with hpart | ⟨-, hpart⟩
  · simp [binderParts, hkind] at hpart
  · simp [patternParts, hkind] at hpart

theorem openPattern_of_mem_retainedAt {kept : Located} (hpattern : PatternAt root address)
    (hkept : kept ∈ root.retainedAt none) (haddress : kept.address = address) :
    ∃ above, kept.parent = some above ∧ OpenPattern root address above kept.node := by
  induction hpattern generalizing kept with
  | binder hnode hpart =>
    obtain ⟨hnamed, hlast⟩ := exists_last_step hkept haddress
    rcases hlast with ⟨outer, houter, rfl, hparent, hgoes, hchild⟩ | ⟨arguments, harguments, hparent, hchild⟩
    · cases hnode.symm.trans (at?_of_mem_retainedAt houter)
      have hlooks : LooksInto root outer.address outer.node :=
        Or.inl ⟨outer, houter, rfl, rfl, required?_of_goesTo hgoes⟩
      exact ⟨_, hparent, .binder hlooks hpart hchild hnamed⟩
    · cases hnode.symm.trans (at?_of_argumentsAt harguments)
      exact ⟨_, hparent, .binder (Or.inr harguments) hpart hchild hnamed⟩
  | inner hpattern hnode hpart ih =>
    obtain ⟨hnamed, hlast⟩ := exists_last_step hkept haddress
    rcases hlast with ⟨outer, houter, rfl, hparent, -, hchild⟩ | ⟨arguments, harguments, -⟩
    · cases hnode.symm.trans (at?_of_mem_retainedAt houter)
      obtain ⟨above, -, hopen⟩ := ih houter rfl
      exact ⟨_, hparent, .inner hopen hpart hchild hnamed⟩
    · exact absurd hpattern (not_patternAt_of_argumentsAt harguments)

end Patterns

/-! ### Declared names among the uses -/

/-- Whether lowering takes the name at an address for a use: it stands in a pattern that lowering looks into and that
does not spare it, or it is the plain name of a declaration in place of the arguments of a call. -/
inductive Mistaken (root : Cst) : List Nat → Prop
  | nested {above : List Nat} {parent : String} {pattern token : Cst} {i : Nat}
      (hopen : OpenPattern root above parent pattern) (hpart : i ∈ pattern.patternParts)
      (hspares : ¬ Spares parent pattern i) (htoken : pattern.children[i]? = some token) (hnamed : token.named = true) :
      Mistaken root (above ++ [i])
  | argument {above : List Nat} {declaration token : Cst} {i : Nat}
      (harguments : ArgumentsAt none root above declaration) (hpart : i ∈ declaration.binderParts)
      (htoken : declaration.children[i]? = some token) (hnamed : token.named = true) : Mistaken root (above ++ [i])

section Uses

variable {root token : Cst} {address : List Nat}

theorem mem_useAddresses_iff : address ∈ root.useAddresses ↔
    ∃ kept ∈ root.retainedAt none, kept.node.kind ∈ useKinds ∧ kept.address = address := by
  rw [useAddresses, List.mem_map]
  simp only [List.mem_filter, List.contains_iff_mem, and_assoc]

theorem mistaken_of_mem_useAddresses (hdeclares : root.Declares address token) (huse : address ∈ root.useAddresses) :
    root.Mistaken address := by
  obtain ⟨hpattern, hat, hkind⟩ := hdeclares
  obtain ⟨kept, hkept, -, haddress⟩ := mem_useAddresses_iff.1 huse
  have hname : kept.node = token := Option.some.inj ((at?_of_mem_retainedAt hkept).symm.trans (haddress ▸ hat))
  have hidentifier : kept.node.kind = "identifier" := hname ▸ hkind
  cases hpattern with
  | binder hnode hpart =>
    obtain ⟨hnamed, hlast⟩ := exists_last_step hkept haddress
    rcases hlast with ⟨outer, houter, rfl, -, hgoes, hchild⟩ | ⟨arguments, harguments, -, hchild⟩
    · cases hnode.symm.trans (at?_of_mem_retainedAt houter)
      exact absurd hgoes (not_goesTo_of_binderParts hpart hchild hidentifier hnamed)
    · cases hnode.symm.trans (at?_of_argumentsAt harguments)
      exact .argument harguments hpart hchild hnamed
  | inner hpattern hnode hpart =>
    obtain ⟨hnamed, hlast⟩ := exists_last_step hkept haddress
    rcases hlast with ⟨outer, houter, rfl, -, hgoes, hchild⟩ | ⟨arguments, harguments, -⟩
    · cases hnode.symm.trans (at?_of_mem_retainedAt houter)
      obtain ⟨above, hparent, hopen⟩ := openPattern_of_mem_retainedAt hpattern houter rfl
      rw [hparent] at hgoes
      exact .nested hopen hpart ((goesTo_iff_not_spares hpart hchild hidentifier).1 hgoes) hchild hnamed
    · exact absurd hpattern (not_patternAt_of_argumentsAt harguments)

theorem mem_useAddresses_of_mistaken (hdeclares : root.Declares address token) (hmistaken : root.Mistaken address) :
    address ∈ root.useAddresses := by
  obtain ⟨-, hat, hkind⟩ := hdeclares
  have huse : token.kind ∈ useKinds := by
    rw [hkind]
    decide
  cases hmistaken with
  | nested hopen hpart hspares hchild hnamed =>
    have hpattern := mem_retainedAt_of_openPattern hopen hpart
    rw [at?_append, at?_of_mem_retainedAt hpattern, Option.bind_some, at?_singleton] at hat
    cases hchild.symm.trans hat
    have hgoes := (goesTo_iff_not_spares hpart hat hkind).2 hspares
    exact mem_useAddresses_iff.2 ⟨_, child_mem_retainedAt hpattern hchild hnamed hgoes, huse, rfl⟩
  | argument harguments hpart hchild hnamed =>
    rw [at?_append, at?_of_argumentsAt harguments, Option.bind_some, at?_singleton] at hat
    cases hchild.symm.trans hat
    exact mem_useAddresses_iff.2 ⟨_, argument_mem_retainedAt harguments hchild hnamed, huse, rfl⟩

/-- The plain name of a declaration is no use, unless the declaration stands in place of the arguments of a call. -/
theorem not_mistaken_of_plain (hholder : ∀ node, root.at? address.dropLast = some node → node.patternParts = [])
    (houter : ∀ node, root.at? address.dropLast.dropLast = some node → node.kind ≠ "call_expression") :
    ¬ root.Mistaken address := by
  intro hmistaken
  cases hmistaken with
  | nested hopen hpart _ _ _ =>
    have hpattern := at?_of_mem_retainedAt (mem_retainedAt_of_openPattern hopen hpart)
    rw [hholder _ (by rw [List.dropLast_concat, hpattern])] at hpart
    cases hpart
  | argument harguments _ _ _ =>
    obtain ⟨call, hcall, j, rfl, hconstruct, -⟩ := harguments
    refine houter call.node ?_ (kind_of_construct hconstruct)
    rw [List.dropLast_concat, List.dropLast_concat, at?_of_mem_retainedAt hcall]

/-- Every identifier that the search reports as a callback is the token at the address of a use. -/
theorem exists_use_of_mem_identifierLines {symbol : String} {line : Int}
    (hline : line ∈ Outline.identifierLines symbol root.outline.sites) :
    ∃ use ∈ root.useAddresses, ∃ token, root.at? use = some token ∧ token.text = symbol ∧ token.line = line := by
  obtain ⟨site, hsite, hmem⟩ := List.mem_filterMap.1 hline
  split at hmem
  · rename_i name _ hnode
    split at hmem
    · rename_i hname
      cases hmem
      have hidentifier : (name, line) ∈ root.outline.identifiers :=
        List.mem_filterMap.2 ⟨site.node, List.mem_map_of_mem hsite, by simp only [hnode]⟩
      rw [identifiers_eq_useAddresses] at hidentifier
      obtain ⟨use, huse, hat⟩ := List.mem_filterMap.1 hidentifier
      obtain ⟨token, htoken, hsame⟩ := Option.map_eq_some_iff.1 hat
      cases hsame
      exact ⟨use, huse, token, htoken, beq_iff_eq.1 (Bool.and_eq_true_iff.1 hname).1, rfl⟩
    · cases hmem
  · cases hmem

/-- Identifiers of an outline and callbacks of a search stand at addresses of uses. A declared name stands there
exactly if it is mistaken for a use. -/
theorem declared_mem_useAddresses_iff (hdeclares : root.Declares address token) :
    root.outline.identifiers
        = root.useAddresses.filterMap (fun use => (root.at? use).map fun found => (found.text, found.line))
      ∧ (∀ symbol, ∀ line ∈ Outline.identifierLines symbol root.outline.sites,
        ∃ use ∈ root.useAddresses, ∃ found, root.at? use = some found ∧ found.text = symbol ∧ found.line = line)
      ∧ (address ∈ root.useAddresses ↔ root.Mistaken address) :=
  ⟨identifiers_eq_useAddresses root, fun _ _ hline => exists_use_of_mem_identifierLines hline,
    mistaken_of_mem_useAddresses hdeclares, mem_useAddresses_of_mistaken hdeclares⟩

end Uses

/-! ### Declarations of one name -/

def declaratorOf (pattern value : Cst) : Cst :=
  { kind := "variable_declarator",
    children := [{ pattern with label := some "name" }, sign "=", { value with label := some "value" }] }

def ofDeclarator (declarator : Cst) : Cst :=
  { kind := "program",
    children := [{ kind := "lexical_declaration", children := [sign "const", declarator, sign ";"] }] }

/-- The tree of `const foo = list;`. -/
def plainDeclaration : Cst := ofDeclarator (declaratorOf (token "identifier" "foo") (token "identifier" "list"))

def arrayPattern : Cst :=
  { kind := "array_pattern", text := "[foo]", children := [sign "[", token "identifier" "foo", sign "]"] }

/-- The tree of `const [foo] = list;`. -/
def arrayDeclaration : Cst := ofDeclarator (declaratorOf arrayPattern (token "identifier" "list"))

theorem declarator_mem_retainedAt {declarator : Cst} (hnamed : declarator.named = true) :
    ⟨[0, 1], some "lexical_declaration", declarator⟩ ∈ (ofDeclarator declarator).retainedAt none := by
  have hroot := self_mem_retainedAt none (ofDeclarator declarator)
  have hstatement := child_mem_retainedAt hroot rfl rfl ((goesTo_iff_of_plain rfl _ 0).2 List.not_mem_nil)
  exact child_mem_retainedAt hstatement rfl hnamed ((goesTo_iff_of_plain rfl _ 1).2 List.not_mem_nil)

theorem foo_notMem_useAddresses_plainDeclaration :
    plainDeclaration.Declares [0, 1, 0] (token "identifier" "foo" (some "name"))
      ∧ [0, 1, 0] ∉ plainDeclaration.useAddresses := by
  have hdeclares : plainDeclaration.Declares [0, 1, 0] (token "identifier" "foo" (some "name")) :=
    ⟨@PatternAt.binder _ [0, 1] _ 0 rfl (by decide), rfl, rfl⟩
  refine ⟨hdeclares, fun huse => not_mistaken_of_plain ?_ ?_ ((declared_mem_useAddresses_iff hdeclares).2.2.1 huse)⟩
  · rintro node ⟨⟩
    rfl
  · rintro node ⟨⟩
    decide

/-- A declared name in an array is a use, and it is reported as a callback. -/
theorem foo_mem_useAddresses_arrayDeclaration :
    arrayDeclaration.Declares [0, 1, 0, 1] (token "identifier" "foo")
      ∧ [0, 1, 0, 1] ∈ arrayDeclaration.useAddresses
      ∧ arrayDeclaration.outline.uses "foo" = [⟨1, .callback⟩] := by
  have hpattern : arrayDeclaration.PatternAt [0, 1, 0] := @PatternAt.binder _ [0, 1] _ 0 rfl (by decide)
  have hdeclares : arrayDeclaration.Declares [0, 1, 0, 1] (token "identifier" "foo") :=
    ⟨@PatternAt.inner _ [0, 1, 0] _ 1 hpattern rfl (by decide), rfl, rfl⟩
  have hlooks : LooksInto arrayDeclaration [0, 1] (declaratorOf arrayPattern (token "identifier" "list")) :=
    Or.inl ⟨_, declarator_mem_retainedAt rfl, rfl, rfl, rfl⟩
  have hopen := @OpenPattern.binder _ _ _ _ 0 hlooks (by decide) rfl rfl
  have hmistaken : arrayDeclaration.Mistaken [0, 1, 0, 1] :=
    @Mistaken.nested _ _ _ _ _ 1 hopen (by decide) (fun hspares => absurd hspares.2 (by decide)) rfl rfl
  refine ⟨hdeclares, mem_useAddresses_of_mistaken hdeclares hmistaken, ?_⟩
  rw [Outline.uses, Outline.sites_eq_places]
  decide

end Cst

end UseSites
