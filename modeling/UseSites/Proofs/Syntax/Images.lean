import Mathlib.Data.Option.Basic
import UseSites.Syntax.Lowering
/-!
# What lowering makes of one node

Lowering decides what a node is from its kind and its children alone; `construct` is that decision, made
once. `outline_image` then says for each construct what its image consists of, with the images of the nodes
it is made from and without the lists of images by position that lowering works on. The rest of the theory
of lowering rests on this one equation.
-/

namespace UseSites

namespace Cst

/-- What lowering takes a node for. -/
inductive Construct where
  | importing
  | requiring (outline : Outline)
  | use
  | call
  | access (object property : Cst)
  | declaration (position : Nat) (name : Cst)
  | plain

def required? (node : Cst) : Option Outline :=
  if node.kind = "variable_declarator" then requireOutline? node else none

def accessed? (node : Cst) : Option (Cst × Cst) :=
  if node.kind = "member_expression" then do return (← node.child? "object", ← node.child? "property")
  else none

/-- The name token of a declaration and its position. -/
def declared? (node : Cst) : Option (Nat × Cst) :=
  if node.kind ∈ declarationKinds then do
    let i ← node.childIndex? "name"
    let name ← node.children[i]?
    guard (nameTokenKinds.contains name.kind)
    return (i, name)
  else none

theorem required?_eq (node : Cst) :
    (if node.kind = "variable_declarator" then requireOutline? node else none) = node.required? := rfl

def construct (node : Cst) : Construct :=
  if node.kind = "import_statement" then .importing
  else
    match node.required? with
    | some outline => .requiring outline
    | none =>
      if node.kind ∈ useKinds then .use
      else if node.kind = "call_expression" then .call
      else
        match node.accessed?, node.declared? with
        | some (object, property), _ => .access object property
        | none, some (position, name) => .declaration position name
        | none, none => .plain

theorem guard_eq_ite (p : Prop) [Decidable p] : (guard p : Option Unit) = if p then some () else none := rfl

theorem accessed?_eq_some {node object property : Cst} (h : node.accessed? = some (object, property)) :
    node.kind = "member_expression" ∧ node.child? "object" = some object ∧ node.child? "property" = some property := by
  unfold accessed? at h
  split at h
  · rename_i hkind
    cases hobject : node.child? "object" <;> cases hproperty : node.child? "property" <;> simp_all
  · cases h

theorem declared?_eq_some {node name : Cst} {position : Nat} (h : node.declared? = some (position, name)) :
    node.kind ∈ declarationKinds ∧ node.childIndex? "name" = some position ∧ node.children[position]? = some name
      ∧ name.kind ∈ nameTokenKinds := by
  unfold declared? at h
  split at h
  · rename_i hkind
    rw [Option.bind_eq_bind, Option.bind_eq_some_iff] at h
    obtain ⟨i, hindex, h⟩ := h
    rw [Option.bind_eq_bind, Option.bind_eq_some_iff] at h
    obtain ⟨token, htoken, h⟩ := h
    rw [guard_eq_ite] at h
    split at h
    · rename_i hname
      cases h
      exact ⟨hkind, hindex, htoken, List.contains_iff_mem.1 hname⟩
    · cases h
  · cases h

/-- What is known of a node that is taken for a construct. -/
def Construct.Fits (node : Cst) : Construct → Prop
  | importing => node.kind = "import_statement"
  | requiring outline => node.required? = some outline
  | use => node.kind ∈ useKinds
  | call => node.kind = "call_expression"
  | access object property => node.accessed? = some (object, property)
  | declaration position name => node.declared? = some (position, name)
  | plain => node.kind ∉ useKinds ∧ node.kind ≠ "call_expression" ∧ node.accessed? = none ∧ node.declared? = none

theorem construct_fits (node : Cst) : node.construct.Fits node := by
  unfold construct
  by_cases himport : node.kind = "import_statement"
  · rw [if_pos himport]
    exact himport
  · rw [if_neg himport]
    cases hrequired : node.required? with
    | some outline => exact hrequired
    | none =>
      by_cases huse : node.kind ∈ useKinds
      · simp only [huse, if_true]
        exact huse
      · by_cases hcall : node.kind = "call_expression"
        · simp only [if_neg huse, if_pos hcall]
          exact hcall
        · simp only [if_neg huse, if_neg hcall]
          rcases haccessed : node.accessed? with _ | ⟨object, property⟩
          · rcases hdeclared : node.declared? with _ | ⟨position, name⟩
            · exact ⟨huse, hcall, haccessed, hdeclared⟩
            · exact hdeclared
          · exact haccessed

/-- The named children of a node, apart from those at some positions. -/
def others (skipped : List Nat) (node : Cst) : List Cst :=
  ((node.children.zipIdx.filter fun child => !skipped.contains child.2).map (·.1)).filter (·.named)

def namedChild? (node : Cst) (label : String) : Option Cst := (node.child? label).filter (·.named)

theorem sizeOf_lt_of_mem_children {node child : Cst} (hchild : child ∈ node.children) :
    sizeOf child < sizeOf node := by
  have := List.sizeOf_lt_of_mem hchild
  cases node
  simp only [Cst.mk.sizeOf_spec] at this ⊢
  omega

/-! ### Images of children -/

/-- The image of a child of a node of the given kind. Punctuation has an empty one. -/
def imageBelow (above : String) (child : Cst) : Image := if child.named then image (some above) child else {}

/-- What became of some nodes inside a node of the given kind. -/
def imagesOf (above : String) (nodes : List Cst) : List Outline :=
  nodes.filterMap fun node => (image (some above) node).outline

theorem outline_imageBelow (above : String) (child : Cst) :
    (imageBelow above child).outline = if child.named then (image (some above) child).outline else none := by
  rw [imageBelow]
  split <;> rfl

theorem imageAll_eq_map (above : String) (children : List Cst) :
    imageAll above children = children.map (imageBelow above) := by
  induction children with
  | nil => rfl
  | cons child rest ih => rw [imageAll, ih, List.map_cons, imageBelow]

theorem image_eq (parent : Option String) (node : Cst) :
    image parent node = ⟨outlineFrom parent node (node.children.map (imageBelow node.kind)),
      (node.children.map (imageBelow node.kind)).filterMap (·.outline)⟩ := by
  rw [← imageAll_eq_map]
  cases node
  rfl

theorem filterMap_outline_imageBelow (above : String) (nodes : List Cst) :
    (nodes.map (imageBelow above)).filterMap (·.outline) = imagesOf above (nodes.filter (·.named)) := by
  rw [List.filterMap_map, imagesOf, List.filterMap_filter]
  exact congrArg (List.filterMap · nodes) (funext (outline_imageBelow above))

theorem parts_image (parent : Option String) (node : Cst) :
    (image parent node).parts = imagesOf node.kind node.namedChildren := by
  rw [image_eq, filterMap_outline_imageBelow, namedChildren]

theorem labelled?_imageBelow (node : Cst) (label : String) :
    labelled? node (node.children.map (imageBelow node.kind)) label
      = (node.child? label).map fun child => (child, imageBelow node.kind child) := by
  rw [labelled?, child?, List.find?_eq_bind_findIdx?_getElem?, ← childIndex?]
  cases node.childIndex? label with
  | none => rfl
  | some i => cases hchild : node.children[i]? <;> simp [hchild]

theorem partsWithout_imageBelow (skipped : List Nat) (node : Cst) :
    partsWithout skipped (node.children.map (imageBelow node.kind)) = imagesOf node.kind (node.others skipped) := by
  rw [others, ← filterMap_outline_imageBelow, partsWithout, List.zipIdx_map, List.filter_map, List.map_map,
    List.filterMap_map, List.filterMap_map]
  rfl

/-! ### The image of a node -/

theorem callOutline_imageBelow (node : Cst) :
    callOutline node (node.children.map (imageBelow node.kind))
      = .call node.line
          (orEmptyGroup ((node.namedChild? "function").bind fun callee => (image (some node.kind) callee).outline)
            (((node.child? "function").map (·.kind)).getD "callee") node.line)
          (((node.namedChild? "arguments").map fun arguments => imagesOf arguments.kind arguments.namedChildren).getD
            []) := by
  have hcallee : ((node.child? "function").map fun child => (child, imageBelow node.kind child)).bind (·.2.outline)
      = (node.namedChild? "function").bind fun callee => (image (some node.kind) callee).outline := by
    rw [namedChild?]
    cases node.child? "function" with
    | none => rfl
    | some callee => cases hnamed : callee.named <;> simp [outline_imageBelow, hnamed, Option.filter_some]
  have harguments : ((node.child? "arguments").map fun child => (imageBelow node.kind child).parts).getD []
      = ((node.namedChild? "arguments").map fun arguments =>
          imagesOf arguments.kind arguments.namedChildren).getD [] := by
    rw [namedChild?]
    cases node.child? "arguments" with
    | none => rfl
    | some arguments => cases hnamed : arguments.named <;> simp [imageBelow, parts_image, hnamed, Option.filter_some]
  simp only [callOutline, labelled?_imageBelow, hcallee, Option.map_map, Function.comp_def, harguments]

theorem memberOutline?_imageBelow (node : Cst) :
    (if node.kind = "member_expression" then memberOutline? node (node.children.map (imageBelow node.kind)) else none)
      = node.accessed?.map fun (object, property) => .member property.text node.line
          (orEmptyGroup (imageBelow node.kind object).outline object.kind object.line) := by
  rw [memberOutline?, labelled?_imageBelow, accessed?]
  split
  · cases node.child? "object" <;> cases node.child? "property" <;> rfl
  · rfl

theorem declarationOutline?_imageBelow (node : Cst) :
    (if node.kind ∈ declarationKinds then declarationOutline? node (node.children.map (imageBelow node.kind))
      else none)
      = node.declared?.map fun (position, name) => .declaration node.kind (some name.text) node.line
          (imagesOf node.kind (node.others [position])) := by
  simp only [declarationOutline?, partsWithout_imageBelow, declared?]
  split
  · cases node.childIndex? "name" with
    | none => rfl
    | some i =>
      cases hname : node.children[i]? with
      | none => simp [hname]
      | some name =>
        simp only [Option.bind_eq_bind, Option.bind_some, hname]
        rw [guard_eq_ite]
        split <;> rfl
  · rfl

theorem groupOutline?_imageBelow (parent : Option String) (node : Cst) :
    groupOutline? parent node (node.children.map (imageBelow node.kind))
      = match imagesOf node.kind (node.others (parameterNames parent node)) with
        | [] => none
        | parts => some (.group node.kind node.line parts) := by
  rw [← partsWithout_imageBelow]
  rfl

/-- What becomes of a node, construct by construct. -/
theorem outline_image (parent : Option String) (node : Cst) :
    (image parent node).outline =
      match node.construct with
      | .importing => some (importOutline node)
      | .requiring outline => some outline
      | .use => some (.identifier node.text node.line)
      | .call => some (callOutline node (node.children.map (imageBelow node.kind)))
      | .access object property =>
        some (.member property.text node.line
          (orEmptyGroup (imageBelow node.kind object).outline object.kind object.line))
      | .declaration position name =>
        some (.declaration node.kind (some name.text) node.line (imagesOf node.kind (node.others [position])))
      | .plain =>
        match imagesOf node.kind (node.others (parameterNames parent node)) with
        | [] => none
        | parts => some (.group node.kind node.line parts) := by
  rw [image_eq]
  simp only [outlineFrom, construct, groupOutline?_imageBelow, beq_iff_eq, List.contains_iff_mem,
    memberOutline?_imageBelow, declarationOutline?_imageBelow, required?_eq]
  by_cases himport : node.kind = "import_statement"
  · simp only [himport, if_true]
  · simp only [himport, if_false]
    cases hrequired : node.required? with
    | some outline => rfl
    | none =>
      by_cases huse : node.kind ∈ useKinds
      · simp only [huse, if_true]
      · by_cases hcall : node.kind = "call_expression"
        · rw [if_neg huse, if_pos hcall, if_neg huse, if_pos hcall]
        · rw [if_neg huse, if_neg hcall, if_neg huse, if_neg hcall]
          rcases node.accessed? with _ | ⟨object, property⟩
          · rcases node.declared? with _ | ⟨position, name⟩ <;> rfl
          · rfl

end Cst

end UseSites
