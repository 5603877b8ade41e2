import UseSites.Proofs.Syntax.Grammatical
import UseSites.Proofs.Syntax.Images
/-!
# Uses of names in a concrete tree

`namedUses` lists the uses of names without looking at outlines: every named token that is a use, except
inside imports and where a name is declared. Each entry says whether it stands in the type arguments of a
call, and `keptNames` are the names and lines of those that do not. The order of the list is that of the tree.
-/

namespace UseSites

namespace Cst

/-- A use of a name. `generic` says whether it stands in the type arguments of a call. -/
structure NamedUse where
  name : String
  line : Int
  generic : Bool
  deriving DecidableEq, Repr

/-- The positions of the children by which a node declares a name. -/
def declaredNames (parent : Option String) (node : Cst) : List Nat :=
  (node.declared?.map (·.1)).toList ++ parameterNames parent node

/-- Whether a node imports names, so that nothing in it is a use. -/
def imports (node : Cst) : Bool := node.kind == "import_statement" || node.required?.isSome

def typeArguments? (node : Cst) : Option Nat :=
  if node.kind = "call_expression" then node.childIndex? "type_arguments" else none

mutual

/-- The uses of names in a tree, parents before children. -/
def namedUses (generic : Bool) (parent : Option String) : Cst → List NamedUse
  | ⟨kind, row, text, label, named, missing, flawed, children⟩ =>
    let node : Cst := ⟨kind, row, text, label, named, missing, flawed, children⟩
    if node.imports then []
    else
      (if named && useKinds.contains kind then [⟨text, node.line, generic⟩] else [])
        ++ namedUsesFrom generic (declaredNames parent node) node.typeArguments? kind 0 children

/-- The uses of names in the children of a node from a position on. -/
def namedUsesFrom (generic : Bool) (declared : List Nat) (typeArguments : Option Nat) (above : String)
    (position : Nat) : List Cst → List NamedUse
  | [] => []
  | child :: rest =>
    (if declared.contains position then []
      else namedUses (generic || typeArguments == some position) (some above) child)
      ++ namedUsesFrom generic declared typeArguments above (position + 1) rest

end

theorem namedUsesFrom_eq_flatMap (generic : Bool) (declared : List Nat) (typeArguments : Option Nat)
    (above : String) (position : Nat) (children : List Cst) :
    namedUsesFrom generic declared typeArguments above position children
      = (children.zipIdx position).flatMap fun child =>
        if declared.contains child.2 then []
        else namedUses (generic || typeArguments == some child.2) (some above) child.1 := by
  induction children generalizing position with
  | nil => rfl
  | cons child rest ih => rw [namedUsesFrom, ih, List.zipIdx_cons, List.flatMap_cons]

theorem namedUses_eq (generic : Bool) (parent : Option String) (node : Cst) :
    node.namedUses generic parent =
      if node.imports then []
      else
        (if node.named && useKinds.contains node.kind then [⟨node.text, node.line, generic⟩] else [])
          ++ node.children.zipIdx.flatMap fun child =>
            if (node.declaredNames parent).contains child.2 then []
            else child.1.namedUses (generic || node.typeArguments? == some child.2) (some node.kind) := by
  cases node
  rw [namedUses, namedUsesFrom_eq_flatMap]

/-! ### Constructs and declared names -/

theorem parameterNames_eq_nil {parent : Option String} {node : Cst}
    (hkind : node.kind ∈ "call_expression" :: "member_expression" :: "arguments" :: "template_string"
      :: declarationKinds) : parameterNames parent node = [] := by
  obtain ⟨kind, row, text, label, named, missing, flawed, children⟩ := node
  simp only [declarationKinds, List.mem_cons, List.not_mem_nil, or_false] at hkind
  rcases hkind with rfl | rfl | rfl | rfl | rfl | rfl | rfl | rfl | rfl | rfl | rfl | rfl | rfl | rfl | rfl | rfl
    | rfl | rfl | rfl | rfl | rfl | rfl | rfl <;> rfl

theorem declared?_eq_none {node : Cst} (hkind : node.kind ∉ declarationKinds) : node.declared? = none := by
  rw [declared?, if_neg hkind]

theorem declaredNames_eq_nil {parent : Option String} {node : Cst}
    (hkind : node.kind ∈ ["call_expression", "member_expression"]) : node.declaredNames parent = [] := by
  have hdeclaration : node.kind ∉ declarationKinds := by
    simp only [List.mem_cons, List.not_mem_nil, or_false] at hkind
    rcases hkind with hkind | hkind <;> rw [hkind] <;> decide
  have hkinds : node.kind ∈ "call_expression" :: "member_expression" :: "arguments" :: "template_string"
      :: declarationKinds := List.mem_append_left ("arguments" :: "template_string" :: declarationKinds) hkind
  rw [declaredNames, declared?_eq_none hdeclaration, parameterNames_eq_nil hkinds]
  rfl

theorem not_use_of_declarationKinds {node : Cst} (hkind : node.kind ∈ declarationKinds) :
    node.kind ∉ useKinds ∧ node.kind ≠ "call_expression" := by
  have hkinds : ∀ kind ∈ declarationKinds, kind ∉ useKinds ∧ kind ≠ "call_expression" := by decide
  exact hkinds _ hkind

theorem imports_eq (node : Cst) :
    node.imports = match node.construct with
      | .importing | .requiring _ => true
      | _ => false := by
  unfold imports construct
  by_cases himport : node.kind = "import_statement"
  · simp [himport]
  · cases hrequired : node.required? with
    | some outline => simp [himport]
    | none =>
      simp only [himport, beq_eq_false_iff_ne.2 himport, if_false, Option.isSome_none, Bool.or_self]
      by_cases huse : node.kind ∈ useKinds
      · simp [huse]
      · by_cases hcall : node.kind = "call_expression"
        · simp only [if_neg huse, if_pos hcall]
        · simp only [if_neg huse, if_neg hcall]
          rcases node.accessed? with _ | ⟨object, property⟩
          · rcases node.declared? with _ | ⟨position, name⟩ <;> rfl
          · rfl

theorem construct_eq_plain {node : Cst} (hkind : node.kind ∈ ["arguments", "template_string"]) :
    node.construct = .plain := by
  have hfree : node.kind ≠ "import_statement" ∧ node.kind ≠ "variable_declarator" ∧ node.kind ∉ useKinds
      ∧ node.kind ≠ "call_expression" ∧ node.kind ≠ "member_expression" ∧ node.kind ∉ declarationKinds := by
    simp only [List.mem_cons, List.not_mem_nil, or_false] at hkind
    rcases hkind with hkind | hkind <;> rw [hkind] <;> decide
  obtain ⟨himport, hdeclarator, huse, hcall, hmember, hdeclaration⟩ := hfree
  rw [construct, if_neg himport, required?, if_neg hdeclarator, declared?_eq_none hdeclaration, accessed?,
    if_neg hmember]
  simp only [if_neg huse, if_neg hcall]

/-! ### Kept names -/

def keptNames (uses : List NamedUse) : List (String × Int) :=
  (uses.filter fun use => !use.generic).map fun use => (use.name, use.line)

theorem keptNames_append (uses others : List NamedUse) :
    keptNames (uses ++ others) = keptNames uses ++ keptNames others := by
  simp [keptNames]

theorem keptNames_flatMap {α : Type} (xs : List α) (uses : α → List NamedUse) :
    keptNames (xs.flatMap uses) = xs.flatMap fun x => keptNames (uses x) := by
  simp only [keptNames, List.filter_flatMap, List.map_flatMap]

/-- All uses below the type arguments of a call stand in type arguments. -/
theorem keptNames_generic (parent : Option String) (node : Cst) : keptNames (node.namedUses true parent) = [] := by
  have ih : ∀ child ∈ node.children, ∀ above, keptNames (child.namedUses true (some above)) = [] :=
    fun child hchild above => keptNames_generic (some above) child
  rw [namedUses_eq]
  split
  · rfl
  · rw [keptNames_append, keptNames_flatMap, List.append_eq_nil_iff, List.flatMap_eq_nil_iff]
    constructor
    · split <;> rfl
    · intro child hchild
      split
      · rfl
      · rw [Bool.true_or]
        exact ih child.1 (List.fst_mem_of_mem_zipIdx hchild) node.kind
termination_by sizeOf node
decreasing_by exact sizeOf_lt_of_mem_children hchild

theorem namedUses_of_isBare {node : Cst} (hbare : node.isBare = true) (generic : Bool) (parent : Option String) :
    node.namedUses generic parent = [] := by
  have ih : ∀ child ∈ node.children, ∀ generic above, child.namedUses generic (some above) = [] :=
    fun child hchild generic above => namedUses_of_isBare (isBare_of_mem_children hbare hchild) generic (some above)
  have hown := List.all_eq_true.1 hbare node (mem_preorder_self node)
  rw [Bool.not_eq_true'] at hown
  rw [namedUses_eq, hown, if_neg Bool.false_ne_true, List.nil_append]
  split
  · rfl
  · refine List.flatMap_eq_nil_iff.2 fun child hchild => ?_
    split
    · rfl
    · exact ih child.1 (List.fst_mem_of_mem_zipIdx hchild) _ node.kind
termination_by sizeOf node
decreasing_by exact sizeOf_lt_of_mem_children hchild

/-- What is kept of a node that is no use itself comes from its children. -/
theorem keptNames_namedUses {node : Cst} (himports : node.imports = false) (huse : node.kind ∉ useKinds)
    (parent : Option String) :
    keptNames (node.namedUses false parent) = node.children.zipIdx.flatMap fun child =>
      if (node.declaredNames parent).contains child.2 then []
      else if node.typeArguments? = some child.2 then []
      else keptNames (child.1.namedUses false (some node.kind)) := by
  have hown : (node.named && useKinds.contains node.kind) = false := by simp [huse]
  rw [namedUses_eq, himports, hown, if_neg Bool.false_ne_true, if_neg Bool.false_ne_true, List.nil_append,
    keptNames_flatMap]
  refine List.flatMap_congr fun child _ => ?_
  by_cases hdeclared : (node.declaredNames parent).contains child.2 = true
  · rw [if_pos hdeclared, if_pos hdeclared]
    rfl
  · rw [if_neg hdeclared, if_neg hdeclared]
    by_cases hgeneric : node.typeArguments? = some child.2
    · rw [if_pos hgeneric, hgeneric, beq_self_eq_true, Bool.or_true, keptNames_generic]
    · rw [if_neg hgeneric, beq_eq_false_iff_ne.2 hgeneric, Bool.or_false]

end Cst

end UseSites
