import UseSites.Proofs.Syntax.Origins
import UseSites.Text.Lines
import UseSites.Use
/-!
# Trees that are faithful to a text

A concrete tree comes from outside, and what is assumed of it is that the names which lowering reads stand in the
text on the rows that the tree gives for them. `Faithful` says so, for the nodes that lowering reaches and no
others. Then the lines of imports and of direct calls are lines on which the symbol stands.

A binding carries the line of its own token, so for imports the landmarks of the outline are enough. A direct call
carries the line of the call, while the symbol is the text of what is called. So one has to know what the callee of
a call in the outline was made from, and its origin says that (`exists_reached_of_mem_outline`).
-/

namespace UseSites

namespace Cst

/-! ### Names that lowering reads -/

/-- The tokens that one part of an import clause binds. -/
inductive ClauseBinds : Cst → Cst → Prop where
  | default {part : Cst} (hkind : part.kind = "identifier") : ClauseBinds part part
  | everything {part token : Cst} (hkind : part.kind = "namespace_import")
      (htoken : token ∈ part.namedChildren) (hname : token.kind = "identifier") : ClauseBinds part token
  | renamed {part specifier token : Cst} (hkind : part.kind = "named_imports")
      (hspecifier : specifier ∈ part.namedChildren) (hsort : specifier.kind = "import_specifier")
      (halias : specifier.child? "alias" = some token) : ClauseBinds part token
  | named {part specifier token : Cst} (hkind : part.kind = "named_imports")
      (hspecifier : specifier ∈ part.namedChildren) (hsort : specifier.kind = "import_specifier")
      (hplain : specifier.child? "alias" = none) (hname : specifier.child? "name" = some token) :
      ClauseBinds part token

/-- The tokens that the pattern of a require declarator binds. -/
inductive PatternBinds : Cst → Cst → Prop where
  | plain {pattern : Cst} (hkind : pattern.kind = "identifier") : PatternBinds pattern pattern
  | property {pattern token : Cst} (hkind : pattern.kind = "object_pattern") (htoken : token ∈ pattern.namedChildren)
      (hname : token.kind = "shorthand_property_identifier_pattern") : PatternBinds pattern token
  | renamed {pattern pair token : Cst} (hkind : pattern.kind = "object_pattern") (hpair : pair ∈ pattern.namedChildren)
      (hsort : pair.kind = "pair_pattern") (hvalue : pair.child? "value" = some token)
      (hname : token.kind = "identifier") : PatternBinds pattern token

/-- The tokens whose text lowering reads as a name when it is at a node: the node itself when it is the use of a
name, and what an import binds. -/
inductive ReadsName : Cst → Cst → Prop where
  | use {node : Cst} (hkind : node.kind ∈ useKinds) : ReadsName node node
  | clause {node clause part token : Cst} (hkind : node.kind = "import_statement")
      (hclause : clause ∈ node.namedChildren) (hsort : clause.kind = "import_clause")
      (hpart : part ∈ clause.namedChildren) (htoken : ClauseBinds part token) : ReadsName node token
  | require {node clause token : Cst} (hkind : node.kind = "import_statement") (hclause : clause ∈ node.namedChildren)
      (hsort : clause.kind = "import_require_clause")
      (htoken : clause.namedChildren.find? (·.kind == "identifier") = some token) : ReadsName node token
  | declarator {node pattern token : Cst} (hrequired : node.required?.isSome = true)
      (hpattern : node.child? "name" = some pattern) (htoken : PatternBinds pattern token) : ReadsName node token

theorem exists_clauseBinds {part : Cst} {found : Binding} (h : found ∈ clausePartBindings part) :
    ∃ token, ClauseBinds part token ∧ found = binding token := by
  unfold clausePartBindings at h
  split at h
  · rename_i hkind
    exact ⟨part, .default hkind, List.mem_singleton.1 h⟩
  · rename_i hkind
    obtain ⟨token, htoken, rfl⟩ := List.mem_map.1 h
    obtain ⟨hmem, hname⟩ := List.mem_filter.1 htoken
    exact ⟨token, .everything hkind hmem (beq_iff_eq.1 hname), rfl⟩
  · rename_i hkind
    obtain ⟨specifier, hspecifier, hbinding⟩ := List.mem_filterMap.1 h
    obtain ⟨hmem, hsort⟩ := List.mem_filter.1 hspecifier
    obtain ⟨token, htoken, rfl⟩ := Option.map_eq_some_iff.1 hbinding
    cases halias : specifier.child? "alias" with
    | some other =>
      rw [halias, Option.some_or] at htoken
      cases htoken
      exact ⟨token, .renamed hkind hmem (beq_iff_eq.1 hsort) halias, rfl⟩
    | none =>
      rw [halias, Option.none_or] at htoken
      exact ⟨token, .named hkind hmem (beq_iff_eq.1 hsort) halias htoken, rfl⟩
  · cases h

theorem exists_readsName_of_mem_importBindings {node : Cst} {found : Binding} (hkind : node.kind = "import_statement")
    (h : found ∈ importBindings node) : ∃ token, ReadsName node token ∧ found = binding token := by
  obtain ⟨clause, hclause, hfound⟩ := List.mem_flatMap.1 h
  unfold importPartBindings at hfound
  split at hfound
  · rename_i hsort
    obtain ⟨part, hpart, hfound⟩ := List.mem_flatMap.1 hfound
    obtain ⟨token, htoken, rfl⟩ := exists_clauseBinds hfound
    exact ⟨token, .clause hkind hclause hsort hpart htoken, rfl⟩
  · rename_i hsort
    obtain ⟨token, htoken, rfl⟩ := List.mem_map.1 hfound
    refine ⟨token, .require hkind hclause hsort ?_, rfl⟩
    rw [← List.head?_filter]
    rw [ofKind] at htoken
    cases hnames : clause.namedChildren.filter (·.kind == "identifier") with
    | nil =>
      rw [hnames] at htoken
      cases htoken
    | cons first rest =>
      rw [hnames, List.take_succ_cons, List.take_zero, List.mem_singleton] at htoken
      rw [htoken, List.head?_cons]
  · cases hfound

theorem exists_patternBinds {pattern : Cst} {found : Binding} (h : found ∈ patternBindings pattern) :
    ∃ token, PatternBinds pattern token ∧ found = binding token := by
  unfold patternBindings at h
  split at h
  · rename_i hkind
    exact ⟨pattern, .plain hkind, List.mem_singleton.1 h⟩
  · rename_i hkind
    obtain ⟨property, hproperty, hbinding⟩ := List.mem_filterMap.1 h
    unfold propertyBinding? at hbinding
    split at hbinding
    · rename_i hname
      exact ⟨property, .property hkind hproperty hname, (Option.some.inj hbinding).symm⟩
    · rename_i hsort
      obtain ⟨value, hvalue, hbinding⟩ := Option.bind_eq_some_iff.1 hbinding
      split at hbinding
      · rename_i hname
        exact ⟨value, .renamed hkind hproperty hsort hvalue (beq_iff_eq.1 hname), (Option.some.inj hbinding).symm⟩
      · cases hbinding
    · cases hbinding
  · cases h

theorem exists_readsName_of_required {node : Cst} {source : String} {line : Int} {bindings : List Binding}
    {found : Binding} (hrequired : node.required? = some (.imported source line bindings)) (h : found ∈ bindings) :
    ∃ token, ReadsName node token ∧ found = binding token := by
  have hsome : node.required?.isSome = true := by rw [hrequired, Option.isSome_some]
  unfold required? at hrequired
  split at hrequired
  · simp only [requireOutline?, Option.bind_eq_bind, Option.bind_eq_some_iff] at hrequired
    obtain ⟨pattern, hpattern, _, _, _, _, _, _, hreturn⟩ := hrequired
    cases hreturn
    obtain ⟨token, htoken, rfl⟩ := exists_patternBinds h
    exact ⟨token, .declarator hsome hpattern htoken, rfl⟩
  · cases hrequired

/-! ### Reading a node back off its image -/

theorem readsName_of_image {parent : Option String} {node : Cst} {source : String} {line : Int}
    {bindings : List Binding} {found : Binding}
    (himage : (image parent node).outline = some (.imported source line bindings)) (hfound : found ∈ bindings) :
    ∃ token, ReadsName node token ∧ found = binding token := by
  cases becomes_of_image himage with
  | importing hconstruct => exact exists_readsName_of_mem_importBindings (fits_of_construct hconstruct) hfound
  | requiring hconstruct => exact exists_readsName_of_required (fits_of_construct hconstruct) hfound

theorem use_of_image {parent : Option String} {node : Cst} {name : String} {line : Int}
    (himage : (image parent node).outline = some (.identifier name line)) :
    node.kind ∈ useKinds ∧ node.text = name := by
  cases becomes_of_image himage with
  | use hconstruct => exact ⟨fits_of_construct hconstruct, rfl⟩

theorem callee_of_image {parent : Option String} {node : Cst} {name : String} {line calleeLine : Int}
    {arguments : List Outline}
    (himage : (image parent node).outline = some (.call line (.identifier name calleeLine) arguments)) :
    node.kind = "call_expression" ∧ line = node.line
      ∧ ∃ callee, node.child? "function" = some callee ∧ (node.kind, callee) ∈ node.followed parent
        ∧ callee.kind ∈ useKinds ∧ callee.text = name := by
  generalize hname : Outline.identifier name calleeLine = callee at himage
  cases becomes_of_image himage with
  | call hconstruct =>
    refine ⟨fits_of_construct hconstruct, rfl, ?_⟩
    rcases orEmptyGroup_cases ((node.namedChild? "function").bind fun callee => (image (some node.kind) callee).outline)
      (((node.child? "function").map (·.kind)).getD "callee") node.line with hsome | hempty
    · rw [← hname] at hsome
      obtain ⟨callee, hnamed, himage⟩ := Option.bind_eq_some_iff.1 hsome
      obtain ⟨huse, htext⟩ := use_of_image himage
      have hchild := (Option.filter_eq_some_iff.1 hnamed).1
      refine ⟨callee, hchild, ?_, huse, htext⟩
      rw [followed_eq]
      rw [hconstruct]
      refine List.mem_append_left _ ?_
      rw [hnamed]
      exact List.mem_singleton_self _
    · rw [← hname] at hempty
      cases hempty

/-! ### Faithful trees -/

/-- The text of a token stands in the row on which the token starts. -/
def StandsIn (text : String) (token : Cst) : Prop :=
  ∃ row, (Text.pieces '\n' text.toList)[token.row]? = some row ∧ token.text.toList <:+: row

structure Faithful (text : String) (root : Cst) : Prop where
  names : ∀ node ∈ root.retained none, ∀ token, ReadsName node token → StandsIn text token
  /-- A call starts where what it calls starts. -/
  calls : ∀ node ∈ root.retained none, node.kind = "call_expression" →
    ∀ callee, node.child? "function" = some callee → callee.row = node.row

/-- The line after some row that has the symbol in it. -/
def ShownAt (text symbol : String) (line : Int) : Prop :=
  ∃ (i : Nat) (row : List Char), line = (i : Int) + 1 ∧ (Text.pieces '\n' text.toList)[i]? = some row
    ∧ symbol.toList <:+: row

variable {text symbol : String} {root : Cst} {line : Int}

theorem shownAt_of_standsIn {token : Cst} (hstands : StandsIn text token) : ShownAt text token.text token.line := by
  obtain ⟨row, hrow, hinfix⟩ := hstands
  exact ⟨token.row, row, rfl, hrow, hinfix⟩

theorem mem_preorder_of_mem_sites {site : Outline.Site} (hsite : site ∈ root.outline.sites) :
    site.node ∈ root.outline.preorder := by
  rw [← Outline.walk_eq_preorder]
  exact List.mem_map_of_mem hsite

theorem shownAt_of_importLines (hfaithful : Faithful text root)
    (hline : line ∈ Outline.importLines symbol root.outline.sites) : ShownAt text symbol line := by
  obtain ⟨site, hsite, hmem⟩ := List.mem_flatMap.1 hline
  have hnode := mem_preorder_of_mem_sites hsite
  split at hmem
  · rename_i source start bindings himported
    obtain ⟨found, hfound, rfl⟩ := List.mem_map.1 hmem
    obtain ⟨hbinding, hname⟩ := List.mem_filter.1 hfound
    rw [himported] at hnode
    obtain ⟨above, kept, hreached, himage⟩ := exists_reached_of_mem_outline hnode (by intros; simp)
    obtain ⟨token, htoken, rfl⟩ := readsName_of_image himage hbinding
    have hstands := hfaithful.names kept (hreached kept (mem_retained_self above kept)) token htoken
    rw [← beq_iff_eq.1 hname]
    exact shownAt_of_standsIn hstands
  · cases hmem

theorem shownAt_of_directCallLines (hfaithful : Faithful text root)
    (hline : line ∈ Outline.directCallLines symbol root.outline.sites) : ShownAt text symbol line := by
  obtain ⟨site, hsite, hmem⟩ := List.mem_filterMap.1 hline
  have hnode := mem_preorder_of_mem_sites hsite
  split at hmem
  · rename_i start name calleeLine arguments hcall
    split at hmem
    · rename_i hname
      cases hmem
      rw [hcall] at hnode
      obtain ⟨above, kept, hreached, himage⟩ := exists_reached_of_mem_outline hnode (by intros; simp)
      obtain ⟨hkind, rfl, callee, hchild, hfollowed, huse, rfl⟩ := callee_of_image himage
      have hkept := hreached kept (mem_retained_self above kept)
      have hcallee := hreached callee (reaches_of_mem_followed hfollowed callee (mem_retained_self _ callee))
      have hstands := hfaithful.names callee hcallee callee (.use huse)
      have hrow := hfaithful.calls kept hkept hkind callee hchild
      rw [← beq_iff_eq.1 hname, Cst.line, ← hrow]
      exact shownAt_of_standsIn hstands
    · cases hmem
  · cases hmem

end Cst

end UseSites
