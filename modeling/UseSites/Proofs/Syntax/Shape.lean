import UseSites.Proofs.Syntax.Faithful
import UseSites.Proofs.Use.Mentions
/-!
# The shape of outlines

Most of a concrete tree has no image, and what has none is dropped wherever it stands. Yet calls and accesses put
groups without parts in again, and around a whole file a group is put in any case. `OutlineShape` says what can be
relied on all the same. Each field is a statement about images, and it holds of every node of an outline because each
has an origin in the tree (`Origin`).
-/

namespace UseSites

namespace Outline

/-- The names that a node binds itself. -/
def bindings : Outline → List Binding
  | imported _ _ bindings => bindings
  | _ => []

/-- A mention carries the line of a node or of a binding. -/
theorem line_of_mem_mentions {symbol : String} {site : Site} {mention : Mention × Int}
    (hmention : mention ∈ site.mentions symbol) :
    mention.2 = site.node.line ∨ ∃ binding ∈ site.node.bindings, mention.2 = binding.line := by
  obtain ⟨node, called⟩ := site
  cases node with
  | imported source line bindings =>
    obtain ⟨binding, hbinding, rfl⟩ := List.mem_map.1 hmention
    exact Or.inr ⟨binding, (List.mem_filter.1 hbinding).1, rfl⟩
  | call line callee arguments =>
    refine Or.inl ?_
    cases callee with
    | identifier | member =>
      simp only [Site.mentions, calleeMentions] at hmention
      split at hmention
      · rw [List.mem_singleton.1 hmention]
        rfl
      · cases hmention
    | imported | call | declaration | group => cases hmention
  | member name line object | identifier name line =>
    refine Or.inl ?_
    simp only [Site.mentions] at hmention
    split at hmention
    · rw [List.mem_singleton.1 hmention]
      rfl
    · cases hmention
  | declaration | group => cases hmention

theorem line_of_mem_uses {symbol : String} {root : Outline} {use : Use} (huse : use ∈ root.uses symbol) :
    ∃ node ∈ root.walk, use.line = node.line ∨ ∃ binding ∈ node.bindings, use.line = binding.line := by
  obtain ⟨way, hline⟩ := (exists_use_iff symbol root use.line).1 ⟨use, huse, rfl⟩
  rw [linesOf_eq_flatMap_sites] at hline
  obtain ⟨site, hsite, hline⟩ := List.mem_flatMap.1 hline
  obtain ⟨mention, hmention, heq⟩ := List.mem_map.1 hline
  refine ⟨site.node, List.mem_map_of_mem hsite, ?_⟩
  rw [← heq]
  exact line_of_mem_mentions (List.mem_filter.1 hmention).1

end Outline

namespace Cst

/-! ### Declarations and imports -/

theorem declaration_of_image {above : Option String} {node : Cst} {kind : String} {name : Option String} {line : Int}
    {parts : List Outline} (himage : (image above node).outline = some (.declaration kind name line parts)) :
    ∃ position token, node.declared? = some (position, token) ∧ name = some token.text
      ∧ parts = imagesOf node.kind (node.others [position]) := by
  cases becomes_of_image himage with
  | declaration hconstruct => exact ⟨_, _, fits_of_construct hconstruct, rfl, rfl⟩

theorem binds_of_required? {node : Cst} {source : String} {line : Int} {bindings : List Binding}
    (hrequired : node.required? = some (.imported source line bindings)) :
    node.kind = "variable_declarator" ∧ bindings ≠ [] := by
  unfold required? at hrequired
  split at hrequired
  · rename_i hkind
    simp only [requireOutline?, Option.bind_eq_bind, Option.bind_eq_some_iff] at hrequired
    obtain ⟨pattern, -, value, -, required, -, _, hguard, hreturn⟩ := hrequired
    cases hreturn
    refine ⟨hkind, fun hnone => ?_⟩
    rw [hnone] at hguard
    cases hguard
  · cases hrequired

theorem imported_of_image {above : Option String} {node : Cst} {source : String} {line : Int} {bindings : List Binding}
    (himage : (image above node).outline = some (.imported source line bindings)) :
    node.kind = "import_statement" ∨ node.kind = "variable_declarator" ∧ bindings ≠ [] := by
  cases becomes_of_image himage with
  | importing hconstruct => exact Or.inl (fits_of_construct hconstruct)
  | requiring hconstruct => exact Or.inr (binds_of_required? (fits_of_construct hconstruct))

/-! ### Tokens and their places -/

theorem mem_children_of_mem_namedChildren {node child : Cst} (hchild : child ∈ node.namedChildren) :
    child ∈ node.children :=
  (List.mem_filter.1 hchild).1

theorem mem_children_of_child? {node child : Cst} {label : String} (hchild : node.child? label = some child) :
    child ∈ node.children :=
  List.mem_of_find?_eq_some hchild

theorem ClauseBinds.mem_preorder {part token : Cst} (h : ClauseBinds part token) : token ∈ part.preorder := by
  cases h with
  | default => exact mem_preorder_self part
  | everything _ htoken _ => exact mem_preorder_of_child (mem_children_of_mem_namedChildren htoken)
  | renamed _ hspecifier _ halias =>
    exact mem_preorder_of_mem_children (mem_children_of_mem_namedChildren hspecifier)
      (mem_preorder_of_child (mem_children_of_child? halias))
  | named _ hspecifier _ _ hname =>
    exact mem_preorder_of_mem_children (mem_children_of_mem_namedChildren hspecifier)
      (mem_preorder_of_child (mem_children_of_child? hname))

theorem PatternBinds.mem_preorder {pattern token : Cst} (h : PatternBinds pattern token) :
    token ∈ pattern.preorder := by
  cases h with
  | plain => exact mem_preorder_self pattern
  | property _ htoken _ => exact mem_preorder_of_child (mem_children_of_mem_namedChildren htoken)
  | renamed _ hpair _ hvalue _ =>
    exact mem_preorder_of_mem_children (mem_children_of_mem_namedChildren hpair)
      (mem_preorder_of_child (mem_children_of_child? hvalue))

theorem ReadsName.mem_preorder {node token : Cst} (h : ReadsName node token) : token ∈ node.preorder := by
  cases h with
  | use => exact mem_preorder_self node
  | clause _ hclause _ hpart htoken =>
    exact mem_preorder_of_mem_children (mem_children_of_mem_namedChildren hclause)
      (mem_preorder_of_mem_children (mem_children_of_mem_namedChildren hpart) htoken.mem_preorder)
  | require _ hclause _ htoken =>
    exact mem_preorder_of_mem_children (mem_children_of_mem_namedChildren hclause)
      (mem_preorder_of_child (mem_children_of_mem_namedChildren (List.mem_of_find?_eq_some htoken)))
  | declarator _ hpattern htoken =>
    exact mem_preorder_of_mem_children (mem_children_of_child? hpattern) htoken.mem_preorder

/-! ### Outlines of files -/

/-- Whether some node of a tree starts on a line. -/
def StartsOn (root : Cst) (line : Int) : Prop := ∃ node ∈ root.preorder, line = (node.row : Int) + 1

/-- What can be relied on in the outline of a file. -/
structure OutlineShape (root : Cst) (whole : Outline) : Prop where
  group : ∃ kind line parts, whole = .group kind line parts
  /-- A group without parts stands in for what a call calls or for the object of an access. -/
  childless : ∀ node ∈ whole.walk, ∀ i kind line, node.children[i]? = some (.group kind line []) →
    (∃ start arguments, node = .call start (.group kind line []) arguments ∧ i = 0)
      ∨ ∃ name start, node = .member name start (.group kind line []) ∧ i = 0
  /-- A declaration has its name from a token, and its parts from the children that are not this token. -/
  declaration : ∀ kind name line parts, Outline.declaration kind name line parts ∈ whole.walk →
    (∃ above, ∃ node ∈ root.preorder, (image above node).outline = some (.declaration kind name line parts))
      ∧ ∀ above node, (image above node).outline = some (.declaration kind name line parts) →
        ∃ position token, node.declared? = some (position, token) ∧ name = some token.text
          ∧ parts = imagesOf node.kind (node.others [position])
  /-- An import is made from a statement or from a declarator, which binds something. -/
  imported : ∀ source line bindings, Outline.imported source line bindings ∈ whole.walk →
    (∃ above, ∃ node ∈ root.preorder, (image above node).outline = some (.imported source line bindings))
      ∧ ∀ above node, (image above node).outline = some (.imported source line bindings) →
        node.kind = "import_statement" ∨ node.kind = "variable_declarator" ∧ bindings ≠ []
  lines : ∀ node ∈ whole.walk, root.StartsOn node.line ∧ ∀ binding ∈ node.bindings, root.StartsOn binding.line
  uses : ∀ symbol, ∀ use ∈ whole.uses symbol, root.StartsOn use.line

variable {root : Cst}

theorem outline_eq_group (root : Cst) : ∃ kind line parts, root.outline = .group kind line parts := by
  unfold outline
  split
  · exact ⟨_, _, _, rfl⟩
  · exact ⟨_, _, _, rfl⟩

theorem placeholder_of_childless {node : Outline} {i : Nat} {kind : String} {line : Int}
    (hnode : node ∈ root.outline.preorder) (hchild : node.children[i]? = some (.group kind line [])) :
    Placeholder node i (.group kind line []) := by
  cases origin_of_mem_outline hnode with
  | image _ himage =>
    rcases child_of_image himage hchild with ⟨above, kept, -, hkept⟩ | ⟨hplaceholder, -⟩
    · exact absurd hkept (image_ne_childless _ _ _ _)
    · exact hplaceholder
  | placeholder => cases hchild
  | whole =>
    -- the group around a file holds its image, and an image is no group without parts
    have himage := Option.mem_toList.1 (List.mem_of_getElem? hchild)
    exact absurd himage (image_ne_childless _ _ _ _)

theorem startsOn_of_mem_outline {node : Outline} (hnode : node ∈ root.outline.preorder) :
    root.StartsOn node.line ∧ ∀ binding ∈ node.bindings, root.StartsOn binding.line := by
  cases origin_of_mem_outline hnode with
  | image hreached himage =>
    rename_i above kept
    have hkept := mem_preorder_of_mem_retained (hreached kept (mem_retained_self above kept))
    refine ⟨⟨kept, hkept, line_of_image himage⟩, ?_⟩
    cases node with
    | imported source line bindings =>
      intro binding hbinding
      obtain ⟨token, htoken, rfl⟩ := readsName_of_image himage hbinding
      exact ⟨token, mem_preorder_trans hkept htoken.mem_preorder, rfl⟩
    | call | member | identifier | declaration | group => exact List.forall_mem_nil _
  | placeholder kind hplace => exact ⟨⟨_, hplace, rfl⟩, List.forall_mem_nil _⟩
  | whole => exact ⟨⟨root, mem_preorder_self root, rfl⟩, List.forall_mem_nil _⟩

theorem exists_image_of_mem_outline {found : Outline} (hfound : found ∈ root.outline.preorder)
    (hgroup : ∀ kind line parts, found ≠ .group kind line parts) :
    ∃ above, ∃ node ∈ root.preorder, (image above node).outline = some found := by
  obtain ⟨above, kept, hreached, himage⟩ := exists_reached_of_mem_outline hfound hgroup
  exact ⟨above, kept, mem_preorder_of_mem_retained (hreached kept (mem_retained_self above kept)), himage⟩

theorem outlineShape_outline (root : Cst) : root.OutlineShape root.outline where
  group := outline_eq_group root
  childless := by
    intro node hnode i kind line hchild
    rw [Outline.walk_eq_preorder] at hnode
    cases placeholder_of_childless hnode hchild with
    | callee start _ _ arguments => exact Or.inl ⟨start, arguments, rfl, rfl⟩
    | object name start _ _ => exact Or.inr ⟨name, start, rfl, rfl⟩
  declaration := by
    intro kind name line parts hfound
    rw [Outline.walk_eq_preorder] at hfound
    exact ⟨exists_image_of_mem_outline hfound (by intros; simp), fun above node himage => declaration_of_image himage⟩
  imported := by
    intro source line bindings hfound
    rw [Outline.walk_eq_preorder] at hfound
    exact ⟨exists_image_of_mem_outline hfound (by intros; simp), fun above node himage => imported_of_image himage⟩
  lines := by
    intro node hnode
    rw [Outline.walk_eq_preorder] at hnode
    exact startsOn_of_mem_outline hnode
  uses := by
    intro symbol use huse
    obtain ⟨node, hnode, hline⟩ := Outline.line_of_mem_uses huse
    rw [Outline.walk_eq_preorder] at hnode
    obtain ⟨hstarts, hbindings⟩ := startsOn_of_mem_outline hnode
    rcases hline with hline | ⟨binding, hbinding, hline⟩
    · exact hline ▸ hstarts
    · exact hline ▸ hbindings binding hbinding

end Cst

end UseSites
