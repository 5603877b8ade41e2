import UseSites.Proofs.Syntax.Grammatical
import UseSites.Proofs.Syntax.Retained
/-!
# What the nodes of an outline were made from

Lowering works from the leaves up, and an outline does not say where its nodes come from. An image shows what its node
was taken for (`Becomes`). Read from the root down, the children of an image are the images of nodes that lowering goes
on to (`child_of_image`), with one exception: where nothing is kept of what is called or accessed, a group without parts
stands in its place (`Placeholder`). By induction on the outline each node of it has an origin in the tree
(`origin_of_mem_outline`).
-/

namespace UseSites

namespace Cst

/-- A node that lowering reaches from another one. What it goes on to from there it reaches as well. -/
def Reaches (parent : Option String) (node : Cst) (above : Option String) (kept : Cst) : Prop :=
  ∀ other ∈ kept.retained above, other ∈ node.retained parent

theorem reaches_of_mem_followed {parent : Option String} {node child : Cst} {above : String}
    (hchild : (above, child) ∈ node.followed parent) : Reaches parent node (some above) child := by
  intro other hother
  rw [retained_eq]
  exact List.mem_cons_of_mem _ (List.mem_flatMap.2 ⟨(above, child), hchild, hother⟩)

theorem mem_retained_self (parent : Option String) (node : Cst) : node ∈ node.retained parent := by
  rw [retained_eq]
  exact List.mem_cons_self

theorem mem_preorder_of_mem_retained {parent : Option String} {node kept : Cst} (hkept : kept ∈ node.retained parent) :
    kept ∈ node.preorder := by
  rw [retained_eq] at hkept
  rcases List.mem_cons.1 hkept with rfl | hbelow
  · exact mem_preorder_self _
  · obtain ⟨⟨above, child⟩, hchild, hmem⟩ := List.mem_flatMap.1 hbelow
    have hbelow := mem_preorder_of_mem_retained hmem
    rcases mem_children_of_mem_followed hchild with hchild | ⟨arguments, harguments, hchild⟩
    · exact mem_preorder_of_mem_children hchild hbelow
    · exact mem_preorder_of_mem_children harguments (mem_preorder_of_mem_children hchild hbelow)
termination_by sizeOf node
decreasing_by exact sizeOf_lt_of_mem_followed hchild

/-! ### What can become of a node -/

theorem fits_of_construct {node : Cst} {construct : Construct} (hconstruct : node.construct = construct) :
    construct.Fits node :=
  hconstruct ▸ construct_fits node

/-- The outlines that a node can become, and what it is taken for in each case. -/
inductive Becomes (parent : Option String) (node : Cst) : Outline → Prop where
  | importing (hconstruct : node.construct = .importing) :
    Becomes parent node
      (.imported (((importSource? node).map (unquoted ·.text)).getD "") node.line (importBindings node))
  | requiring {source : String} {bindings : List Binding}
      (hconstruct : node.construct = .requiring (.imported source node.line bindings)) :
    Becomes parent node (.imported source node.line bindings)
  | use (hconstruct : node.construct = .use) : Becomes parent node (.identifier node.text node.line)
  | call (hconstruct : node.construct = .call) :
    Becomes parent node
      (.call node.line
        (orEmptyGroup ((node.namedChild? "function").bind fun callee => (image (some node.kind) callee).outline)
          (((node.child? "function").map (·.kind)).getD "callee") node.line)
        (((node.namedChild? "arguments").map fun arguments => imagesOf arguments.kind arguments.namedChildren).getD []))
  | access {object property : Cst} (hconstruct : node.construct = .access object property) :
    Becomes parent node
      (.member property.text node.line (orEmptyGroup (imageBelow node.kind object).outline object.kind object.line))
  | declaration {position : Nat} {token : Cst} (hconstruct : node.construct = .declaration position token) :
    Becomes parent node
      (.declaration node.kind (some token.text) node.line (imagesOf node.kind (node.others [position])))
  | group (hconstruct : node.construct = .plain)
      (hparts : imagesOf node.kind (node.others (parameterNames parent node)) ≠ []) :
    Becomes parent node (.group node.kind node.line (imagesOf node.kind (node.others (parameterNames parent node))))

theorem becomes_of_image {parent : Option String} {node : Cst} {outline : Outline}
    (himage : (image parent node).outline = some outline) : Becomes parent node outline := by
  rw [outline_image] at himage
  cases hconstruct : node.construct with
  | importing =>
    rw [hconstruct] at himage
    cases himage
    exact .importing hconstruct
  | requiring required =>
    obtain ⟨source, bindings, rfl⟩ := imported_of_required? (fits_of_construct hconstruct)
    rw [hconstruct] at himage
    cases himage
    exact .requiring hconstruct
  | use =>
    rw [hconstruct] at himage
    cases himage
    exact .use hconstruct
  | call =>
    rw [hconstruct, callOutline_imageBelow] at himage
    cases himage
    exact .call hconstruct
  | access object property =>
    rw [hconstruct] at himage
    cases himage
    exact .access hconstruct
  | declaration position token =>
    rw [hconstruct] at himage
    cases himage
    exact .declaration hconstruct
  | plain =>
    simp only [hconstruct] at himage
    -- a node whose parts have all gone becomes nothing
    split at himage
    · cases himage
    · rename_i hparts
      cases himage
      exact .group hconstruct hparts

theorem image_ne_childless (parent : Option String) (node : Cst) (kind : String) (line : Int) :
    (image parent node).outline ≠ some (.group kind line []) := by
  intro himage
  generalize hchildless : Outline.group kind line [] = outline at himage
  cases becomes_of_image himage with
  | group _ hparts =>
    rw [Outline.group.injEq] at hchildless
    exact hparts hchildless.2.2.symm
  | importing | requiring | use | call | access | declaration => cases hchildless

theorem line_of_image {parent : Option String} {node : Cst} {outline : Outline}
    (himage : (image parent node).outline = some outline) : outline.line = node.line := by
  cases becomes_of_image himage <;> rfl

/-! ### Children of images -/

theorem mem_imagesOf {above : String} {nodes : List Cst} {outline : Outline} :
    outline ∈ imagesOf above nodes ↔ ∃ node ∈ nodes, (image (some above) node).outline = some outline :=
  List.mem_filterMap

/-- A group that stands in for what a call calls or for the object of an access, at its place among the children. -/
inductive Placeholder : Outline → Nat → Outline → Prop where
  | callee (line : Int) (kind : String) (place : Int) (arguments : List Outline) :
    Placeholder (.call line (.group kind place []) arguments) 0 (.group kind place [])
  | object (name : String) (line : Int) (kind : String) (place : Int) :
    Placeholder (.member name line (.group kind place [])) 0 (.group kind place [])

theorem orEmptyGroup_cases (image : Option Outline) (kind : String) (line : Int) :
    image = some (orEmptyGroup image kind line) ∨ orEmptyGroup image kind line = .group kind line [] := by
  cases image with
  | none => exact Or.inr rfl
  | some outline => exact Or.inl rfl

/-- The children of the image of a node are images of nodes that lowering goes on to, apart from groups that stand in
for one. Such a group carries the line of the node or of a child of it. -/
theorem child_of_image {parent : Option String} {node : Cst} {outline child : Outline} {i : Nat}
    (himage : (image parent node).outline = some outline) (hchild : outline.children[i]? = some child) :
    (∃ above kept, (above, kept) ∈ node.followed parent ∧ (image (some above) kept).outline = some child)
      ∨ Placeholder outline i child ∧ ∃ place ∈ node.preorder, child.line = place.line := by
  rw [followed_eq]
  cases becomes_of_image himage with
  | importing | requiring | use => cases hchild
  | call hconstruct =>
    rw [hconstruct]
    cases i with
    | zero =>
      obtain rfl := Option.some.inj hchild
      rcases orEmptyGroup_cases
        ((node.namedChild? "function").bind fun callee => (image (some node.kind) callee).outline)
        (((node.child? "function").map (·.kind)).getD "callee") node.line with hcallee | hempty
      · obtain ⟨callee, hnamed, houtline⟩ := Option.bind_eq_some_iff.1 hcallee
        refine Or.inl ⟨node.kind, callee, List.mem_append_left _ ?_, houtline⟩
        rw [hnamed]
        exact List.mem_singleton_self _
      · rw [hempty]
        exact Or.inr ⟨.callee .., node, mem_preorder_self node, rfl⟩
    | succ i =>
      rw [Outline.children, List.getElem?_cons_succ] at hchild
      have hargument := List.mem_of_getElem? hchild
      cases hnamed : node.namedChild? "arguments" with
      | none =>
        rw [hnamed] at hargument
        cases hargument
      | some arguments =>
        rw [hnamed] at hargument
        obtain ⟨kept, hkept, houtline⟩ := mem_imagesOf.1 hargument
        refine Or.inl ⟨arguments.kind, kept, List.mem_append_right _ ?_, houtline⟩
        rw [Option.toList_some, List.flatMap_singleton]
        exact List.mem_map_of_mem hkept
  | access hconstruct =>
    rename_i object property
    rw [hconstruct]
    cases i with
    | succ i => cases hchild
    | zero =>
      obtain rfl := Option.some.inj hchild
      rcases orEmptyGroup_cases (imageBelow node.kind object).outline object.kind object.line with hobject | hempty
      · have hbelow := outline_imageBelow node.kind object
        cases hnamed : object.named with
        | false =>
          rw [hnamed, if_neg Bool.false_ne_true] at hbelow
          cases hbelow.symm.trans hobject
        | true =>
          rw [hnamed, if_pos rfl] at hbelow
          refine Or.inl ⟨node.kind, object, List.mem_map_of_mem ?_, hbelow.symm.trans hobject⟩
          exact List.mem_filter.2 ⟨List.mem_singleton_self object, hnamed⟩
      · rw [hempty]
        have hmem := mem_children_of_accessed? (fits_of_construct hconstruct)
        exact Or.inr ⟨.object .., object, mem_preorder_of_child hmem, rfl⟩
  | declaration hconstruct =>
    rw [hconstruct]
    obtain ⟨kept, hkept, houtline⟩ := mem_imagesOf.1 (List.mem_of_getElem? hchild)
    exact Or.inl ⟨node.kind, kept, List.mem_map_of_mem hkept, houtline⟩
  | group hconstruct =>
    rw [hconstruct]
    obtain ⟨kept, hkept, houtline⟩ := mem_imagesOf.1 (List.mem_of_getElem? hchild)
    exact Or.inl ⟨node.kind, kept, List.mem_map_of_mem hkept, houtline⟩

/-! ### Origins -/

/-- Where a node of the outline of a file comes from. -/
inductive Origin (root : Cst) : Outline → Prop where
  /-- It is what became of a node that lowering reaches. -/
  | image {above : Option String} {kept : Cst} {found : Outline} (hreached : Reaches none root above kept)
      (himage : (image above kept).outline = some found) : Origin root found
  /-- It stands in for something of which nothing is kept. -/
  | placeholder (kind : String) {place : Cst} (hplace : place ∈ root.preorder) :
    Origin root (.group kind place.line [])
  /-- It is put around what became of a whole file, if that is no group. -/
  | whole : Origin root (.group root.kind root.line (image none root).outline.toList)

theorem origin_of_mem_preorder {root node : Cst} {outline found : Outline} {parent : Option String}
    (hreached : Reaches none root parent node) (himage : (image parent node).outline = some outline)
    (hfound : found ∈ outline.preorder) : Origin root found := by
  induction outline using Outline.childInduction generalizing parent node with
  | step outline ih =>
    rw [Outline.preorder_eq] at hfound
    rcases List.mem_cons.1 hfound with rfl | hbelow
    · exact .image hreached himage
    · obtain ⟨child, hchild, hfound⟩ := List.mem_flatMap.1 hbelow
      obtain ⟨i, hi⟩ := List.getElem?_of_mem hchild
      rcases child_of_image himage hi with ⟨above, kept, hfollowed, hkept⟩ | ⟨hplaceholder, place, hplace, hline⟩
      · refine ih child hchild (fun other hother => ?_) hkept hfound
        exact hreached other (reaches_of_mem_followed hfollowed other hother)
      · have hroot := mem_preorder_of_mem_retained (hreached node (mem_retained_self parent node))
        have hplace := mem_preorder_trans hroot hplace
        cases hplaceholder with
        | callee | object =>
          rw [Outline.preorder_eq, Outline.children, List.flatMap_nil] at hfound
          rw [List.mem_singleton.1 hfound]
          obtain rfl : _ = place.line := hline
          exact .placeholder _ hplace

theorem origin_of_mem_outline {root : Cst} {found : Outline} (hfound : found ∈ root.outline.preorder) :
    Origin root found := by
  have hroot : Reaches none root none root := fun _ hother => hother
  unfold Cst.outline at hfound
  split at hfound
  · rename_i himage
    exact origin_of_mem_preorder hroot himage hfound
  · rw [Outline.preorder_eq] at hfound
    rcases List.mem_cons.1 hfound with rfl | hbelow
    · exact .whole
    · obtain ⟨outline, houtline, hfound⟩ := List.mem_flatMap.1 hbelow
      exact origin_of_mem_preorder hroot (Option.mem_toList.1 houtline) hfound

/-- Every node of the outline of a file that is no group is the image of a node that lowering reaches. -/
theorem exists_reached_of_mem_outline {root : Cst} {found : Outline} (hfound : found ∈ root.outline.preorder)
    (hgroup : ∀ kind line parts, found ≠ .group kind line parts) :
    ∃ above kept, Reaches none root above kept ∧ (image above kept).outline = some found := by
  cases origin_of_mem_outline hfound with
  | image hreached himage => exact ⟨_, _, hreached, himage⟩
  | placeholder | whole => exact absurd rfl (hgroup _ _ _)

end Cst

end UseSites
