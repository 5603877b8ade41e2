import UseSites.Proofs.Syntax.Places
import UseSites.Proofs.Syntax.Roles
/-!
# What lowering keeps of a concrete tree

Lowering goes through a tree from the leaves up, throws most of it away and puts calls together out of nodes
from two levels. Read from the root down it is simple: from a node one goes on to the nodes in `followed`,
and the nodes reached in this way are `retained`. Every node of an outline that is no group is the landmark
of exactly one retained node, and both stand in the same order; groups only hold them together.

The two directions meet in `landmarks_image`, by induction along `followed`. That a group is dropped when
nothing is below it does not matter, because then there is no landmark below it either.
-/

namespace UseSites

/-- A node of an outline that is no group, without the nodes below it. -/
inductive Landmark where
  | imported (source : String) (line : Int) (bindings : List Binding)
  | call (line : Int)
  | member (name : String) (line : Int)
  | identifier (name : String) (line : Int)
  | declaration (kind : String) (name : Option String) (line : Int)
  deriving DecidableEq, Repr

namespace Outline

def landmark? : Outline → Option Landmark
  | imported source line bindings => some (.imported source line bindings)
  | call line _ _ => some (.call line)
  | member name line _ => some (.member name line)
  | identifier name line => some (.identifier name line)
  | declaration kind name line _ => some (.declaration kind name line)
  | group .. => none

/-- The landmarks of an outline, parents before children. -/
def landmarks (node : Outline) : List Landmark := node.preorder.filterMap landmark?

theorem landmarks_eq (node : Outline) :
    node.landmarks = node.landmark?.toList ++ node.children.flatMap landmarks := by
  rw [landmarks, preorder_eq, List.filterMap_cons, List.filterMap_flatMap]
  cases node.landmark? <;> rfl

theorem landmarks_orEmptyGroup (image : Option Outline) (kind : String) (line : Int) :
    (Cst.orEmptyGroup image kind line).landmarks = image.toList.flatMap landmarks := by
  cases image with
  | none => rfl
  | some outline => simp [Cst.orEmptyGroup]

end Outline

namespace Cst

/-- The landmark that lowering makes of a node itself. -/
def landmark? (node : Cst) : Option Landmark :=
  if node.kind = "import_statement" then
    some (.imported ((node.moduleToken?.map (unquoted ·.text)).getD "") node.line node.importedNames)
  else if node.IsRequire then
    some (.imported ((node.firstArgument?.map (unquoted ·.text)).getD "") node.line node.requiredNames)
  else if node.IsName then some (.identifier node.text node.line)
  else if node.kind = "call_expression" then some (.call node.line)
  else if node.IsAccess then (node.child? "property").map fun property => .member property.text node.line
  else node.nameToken?.map fun token => .declaration node.kind (some token.text) node.line

/-- The nodes that lowering goes on to from a node, each with the kind of the node it stands in. -/
def followed (parent : Option String) (node : Cst) : List (String × Cst) :=
  if node.kind = "import_statement" ∨ node.IsRequire ∨ node.IsName then []
  else if node.kind = "call_expression" then
    (node.namedChild? "function").toList.map (node.kind, ·)
      ++ (node.namedChild? "arguments").toList.flatMap fun arguments =>
        arguments.namedChildren.map (arguments.kind, ·)
  else if node.IsAccess then (node.namedChild? "object").toList.map (node.kind, ·)
  else (node.others (ownNames parent node)).map (node.kind, ·)

theorem landmark?_eq (node : Cst) :
    node.landmark? = match node.construct with
      | .importing =>
        some (.imported (((importSource? node).map (unquoted ·.text)).getD "") node.line (importBindings node))
      | .requiring outline => outline.landmark?
      | .use => some (.identifier node.text node.line)
      | .call => some (.call node.line)
      | .access _ property => some (.member property.text node.line)
      | .declaration _ name => some (.declaration node.kind (some name.text) node.line)
      | .plain => none := by
  rw [construct_eq, landmark?]
  by_cases himport : node.kind = "import_statement"
  · rw [if_pos himport, if_pos himport, ← importBindings_eq_map]
    rfl
  · rw [if_neg himport, if_neg himport]
    by_cases hrequire : node.IsRequire
    · rw [if_pos hrequire, if_pos hrequire]
      rfl
    · rw [if_neg hrequire, if_neg hrequire]
      by_cases hname : node.IsName
      · rw [if_pos hname, if_pos hname]
      · rw [if_neg hname, if_neg hname]
        by_cases hcall : node.kind = "call_expression"
        · rw [if_pos hcall, if_pos hcall]
        · rw [if_neg hcall, if_neg hcall, ← map_snd_declared?]
          rcases haccessed : node.accessed? with _ | ⟨object, property⟩
          · rw [if_neg (by simp [isAccess_iff, haccessed])]
            rcases node.declared? with _ | ⟨position, name⟩ <;> rfl
          · rw [if_pos (by simp [isAccess_iff, haccessed]), (accessed?_eq_some haccessed).2.2, Option.map_some]

theorem followed_eq (parent : Option String) (node : Cst) :
    node.followed parent = match node.construct with
      | .importing | .requiring _ | .use => []
      | .call =>
        (node.namedChild? "function").toList.map (node.kind, ·)
          ++ (node.namedChild? "arguments").toList.flatMap fun arguments =>
            arguments.namedChildren.map (arguments.kind, ·)
      | .access object _ => ([object].filter (·.named)).map (node.kind, ·)
      | .declaration position _ => (node.others [position]).map (node.kind, ·)
      | .plain => (node.others (parameterNames parent node)).map (node.kind, ·) := by
  rw [construct_eq, followed]
  by_cases himport : node.kind = "import_statement"
  · rw [if_pos himport, if_pos (Or.inl himport)]
  · rw [if_neg himport]
    by_cases hrequire : node.IsRequire
    · rw [if_pos hrequire, if_pos (Or.inr (Or.inl hrequire))]
    · rw [if_neg hrequire]
      by_cases hname : node.IsName
      · rw [if_pos hname, if_pos (Or.inr (Or.inr hname))]
      · rw [if_neg hname, if_neg (by tauto)]
        by_cases hcall : node.kind = "call_expression"
        · rw [if_pos hcall, if_pos hcall]
        · rw [if_neg hcall, if_neg hcall]
          rcases haccessed : node.accessed? with _ | ⟨object, property⟩
          · rw [if_neg (by simp [isAccess_iff, haccessed])]
            rcases hdeclared : node.declared? with _ | ⟨position, name⟩
            · rw [others_ownNames_of_not_declared? hdeclared]
            · rw [others_ownNames_of_declared? hdeclared]
          · rw [if_pos (by simp [isAccess_iff, haccessed]), namedChild?, (accessed?_eq_some haccessed).2.1]
            cases hnamed : object.named <;> simp [hnamed, Option.filter_some]

/-! ### Going on leads downwards -/

theorem mem_children_of_mem_others {skipped : List Nat} {node child : Cst} (hchild : child ∈ node.others skipped) :
    child ∈ node.children := by
  obtain ⟨⟨other, i⟩, hmem, rfl⟩ := List.mem_map.1 (List.mem_filter.1 hchild).1
  exact List.fst_mem_of_mem_zipIdx (List.mem_filter.1 hmem).1

theorem mem_children_of_namedChild? {node child : Cst} {label : String}
    (hchild : node.namedChild? label = some child) : child ∈ node.children := by
  rw [namedChild?, Option.filter_eq_some_iff] at hchild
  exact List.mem_of_find?_eq_some hchild.1

theorem mem_children_of_accessed? {node object property : Cst} (h : node.accessed? = some (object, property)) :
    object ∈ node.children :=
  List.mem_of_find?_eq_some (accessed?_eq_some h).2.1

/-- Lowering goes on to children, and from a call also to the children of its arguments. -/
theorem mem_children_of_mem_followed {parent : Option String} {node child : Cst} {above : String}
    (hchild : (above, child) ∈ node.followed parent) :
    child ∈ node.children ∨ ∃ arguments ∈ node.children, child ∈ arguments.children := by
  have hfits := construct_fits node
  rw [followed_eq] at hchild
  cases hconstruct : node.construct with
  | importing | requiring outline | use => simp [hconstruct] at hchild
  | call =>
    simp only [hconstruct, List.mem_append, List.mem_map, List.mem_flatMap, Option.mem_toList, Prod.mk.injEq] at hchild
    rcases hchild with ⟨callee, hcallee, -, rfl⟩ | ⟨arguments, harguments, argument, hargument, -, rfl⟩
    · exact Or.inl (mem_children_of_namedChild? hcallee)
    · exact Or.inr ⟨arguments, mem_children_of_namedChild? harguments, (List.mem_filter.1 hargument).1⟩
  | access object property =>
    rw [hconstruct] at hfits
    simp only [hconstruct, List.mem_map, List.mem_filter, List.mem_singleton, Prod.mk.injEq] at hchild
    obtain ⟨_, ⟨rfl, -⟩, -, rfl⟩ := hchild
    exact Or.inl (mem_children_of_accessed? hfits)
  | declaration position name =>
    simp only [hconstruct, List.mem_map, Prod.mk.injEq] at hchild
    obtain ⟨_, hother, -, rfl⟩ := hchild
    exact Or.inl (mem_children_of_mem_others hother)
  | plain =>
    simp only [hconstruct, List.mem_map, Prod.mk.injEq] at hchild
    obtain ⟨_, hother, -, rfl⟩ := hchild
    exact Or.inl (mem_children_of_mem_others hother)

theorem sizeOf_lt_of_mem_followed {parent : Option String} {node child : Cst} {above : String}
    (hchild : (above, child) ∈ node.followed parent) : sizeOf child < sizeOf node := by
  rcases mem_children_of_mem_followed hchild with hchild | ⟨arguments, harguments, hchild⟩
  · exact sizeOf_lt_of_mem_children hchild
  · have hinner := sizeOf_lt_of_mem_children hchild
    have houter := sizeOf_lt_of_mem_children harguments
    omega

/-- The nodes that lowering reaches from a node, the node itself first. -/
def retained (parent : Option String) (node : Cst) : List Cst :=
  node :: (node.followed parent).attach.flatMap fun ⟨(above, child), _⟩ => child.retained (some above)
termination_by sizeOf node
decreasing_by exact sizeOf_lt_of_mem_followed ‹_›

theorem retained_eq (parent : Option String) (node : Cst) :
    node.retained parent
      = node :: (node.followed parent).flatMap fun child => child.2.retained (some child.1) := by
  rw [retained]
  conv_rhs => rw [← List.attach_map_subtype_val (node.followed parent), List.flatMap_map]

def retainedLandmarks (parent : Option String) (node : Cst) : List Landmark :=
  (node.retained parent).filterMap landmark?

theorem retainedLandmarks_eq (parent : Option String) (node : Cst) :
    node.retainedLandmarks parent = node.landmark?.toList
      ++ (node.followed parent).flatMap fun child => child.2.retainedLandmarks (some child.1) := by
  rw [retainedLandmarks, retained_eq, List.filterMap_cons, List.filterMap_flatMap]
  cases node.landmark? <;> rfl

/-! ### Images and landmarks -/

theorem imported_of_required? {node : Cst} {outline : Outline} (h : node.required? = some outline) :
    ∃ source bindings, outline = .imported source node.line bindings := by
  unfold required? at h
  split at h
  · simp only [requireOutline?, Option.bind_eq_bind, Option.bind_eq_some_iff] at h
    obtain ⟨pattern, -, value, -, required, -, _, -, hreturn⟩ := h
    cases hreturn
    exact ⟨_, _, rfl⟩
  · cases h

theorem flatMap_landmarks_imagesOf {above : String} {nodes : List Cst}
    (hnodes : ∀ node ∈ nodes, (image (some above) node).outline.toList.flatMap Outline.landmarks
      = node.retainedLandmarks (some above)) :
    (imagesOf above nodes).flatMap Outline.landmarks = nodes.flatMap (retainedLandmarks (some above)) := by
  rw [imagesOf, List.filterMap_eq_flatMap_toList, List.flatMap_assoc]
  exact List.flatMap_congr hnodes

theorem landmarks_image (parent : Option String) (node : Cst) :
    (image parent node).outline.toList.flatMap Outline.landmarks = node.retainedLandmarks parent := by
  have ih : ∀ above child, (above, child) ∈ node.followed parent →
      (image (some above) child).outline.toList.flatMap Outline.landmarks = child.retainedLandmarks (some above) :=
    fun above child hchild => landmarks_image (some above) child
  rw [retainedLandmarks_eq, outline_image]
  have hfits := construct_fits node
  rw [landmark?_eq]
  simp only [followed_eq] at ih ⊢
  cases hconstruct : node.construct with
  | importing => simp [importOutline, Outline.landmarks_eq, Outline.landmark?, Outline.children]
  | requiring outline =>
    rw [hconstruct] at hfits
    obtain ⟨source, bindings, rfl⟩ := imported_of_required? hfits
    simp [Outline.landmarks_eq, Outline.landmark?, Outline.children]
  | use => simp [Outline.landmarks_eq, Outline.landmark?, Outline.children]
  | call =>
    simp only [hconstruct] at ih ⊢
    have hcallee : ((node.namedChild? "function").bind fun callee =>
          (image (some node.kind) callee).outline).toList.flatMap Outline.landmarks
        = (node.namedChild? "function").toList.flatMap (retainedLandmarks (some node.kind)) := by
      cases hnamed : node.namedChild? "function" with
      | none => rfl
      | some callee =>
        rw [Option.bind_some, Option.toList_some, List.flatMap_cons, List.flatMap_nil, List.append_nil]
        exact ih _ _ (by simp [hnamed])
    have harguments : (((node.namedChild? "arguments").map fun arguments =>
          imagesOf arguments.kind arguments.namedChildren).getD []).flatMap Outline.landmarks
        = (node.namedChild? "arguments").toList.flatMap fun arguments =>
          arguments.namedChildren.flatMap (retainedLandmarks (some arguments.kind)) := by
      cases hnamed : node.namedChild? "arguments" with
      | none => rfl
      | some arguments =>
        rw [Option.map_some, Option.getD_some, Option.toList_some, List.flatMap_cons, List.flatMap_nil,
          List.append_nil]
        exact flatMap_landmarks_imagesOf fun argument hargument => ih _ _ (by simp [hnamed, hargument])
    simp only [callOutline_imageBelow, Option.toList_some, List.flatMap_cons, List.flatMap_nil, List.append_nil,
      Outline.landmarks_eq (.call ..), Outline.landmark?, Outline.children, Outline.landmarks_orEmptyGroup, hcallee,
      harguments, List.flatMap_append, List.flatMap_map, List.flatMap_assoc]
  | access object property =>
    simp only [hconstruct] at ih ⊢
    have hobject : (imageBelow node.kind object).outline.toList.flatMap Outline.landmarks
        = ([object].filter (·.named)).flatMap (retainedLandmarks (some node.kind)) := by
      rw [outline_imageBelow]
      cases hnamed : object.named with
      | false => simp [hnamed]
      | true => simpa [hnamed] using ih node.kind object (by simp [hnamed])
    simp only [Option.toList_some, List.flatMap_cons, List.flatMap_nil, List.append_nil,
      Outline.landmarks_eq (.member ..), Outline.landmark?, Outline.children, Outline.landmarks_orEmptyGroup, hobject,
      List.flatMap_map]
  | declaration position name =>
    simp only [hconstruct] at ih ⊢
    have hparts : ∀ child ∈ node.others [position],
        (image (some node.kind) child).outline.toList.flatMap Outline.landmarks
          = child.retainedLandmarks (some node.kind) :=
      fun child hchild => ih _ _ (List.mem_map_of_mem hchild)
    simp only [Option.toList_some, List.flatMap_cons, List.flatMap_nil, List.append_nil, Outline.landmarks_eq,
      Outline.landmark?, Outline.children, flatMap_landmarks_imagesOf hparts, List.flatMap_map]
  | plain =>
    simp only [hconstruct] at ih ⊢
    have hparts : ∀ child ∈ node.others (parameterNames parent node),
        (image (some node.kind) child).outline.toList.flatMap Outline.landmarks
          = child.retainedLandmarks (some node.kind) :=
      fun child hchild => ih _ _ (List.mem_map_of_mem hchild)
    rw [Option.toList_none, List.nil_append, List.flatMap_map, ← flatMap_landmarks_imagesOf hparts]
    -- a group that is dropped has no parts, hence no landmarks
    cases imagesOf node.kind (node.others (parameterNames parent node)) with
    | nil => rfl
    | cons first rest => simp [Outline.landmarks_eq (.group ..), Outline.landmark?, Outline.children]
termination_by sizeOf node
decreasing_by exact sizeOf_lt_of_mem_followed hchild

theorem landmarks_outline (root : Cst) : root.outline.landmarks = root.retainedLandmarks none := by
  rw [← landmarks_image, outline]
  split
  · rename_i hgroup
    simp [hgroup]
  · simp [Outline.landmarks_eq (.group ..), Outline.landmark?, Outline.children]

/-- The nodes of the outline of a file that are no groups are the landmarks of the nodes that lowering
reaches from its root, one for one and in the same order. -/
theorem walk_outline_landmarks (root : Cst) :
    root.outline.walk.filterMap Outline.landmark? = (root.retained none).filterMap landmark? := by
  rw [Outline.walk_eq_preorder]
  exact landmarks_outline root

end Cst

end UseSites
