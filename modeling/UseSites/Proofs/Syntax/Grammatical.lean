import Mathlib.Data.List.Basic
import UseSites.Proofs.Syntax.Images
/-!
# The shape of concrete trees

Lowering takes any tree. Grammars only make trees in which names and signs have nothing below them and in
which calls and accesses to members have no parts but the usual ones. `IsGrammatical` is this shape as far as
uses of names are concerned: wherever lowering passes over a child of a call or of an access without looking
at it, the child is bare, or it is the type arguments of a call.
-/

namespace UseSites

namespace Cst

theorem preorderAll_eq_flatMap (nodes : List Cst) : preorderAll nodes = nodes.flatMap preorder := by
  induction nodes with
  | nil => rfl
  | cons node rest ih => rw [preorderAll, ih, List.flatMap_cons]

theorem preorder_eq (node : Cst) : node.preorder = node :: node.children.flatMap preorder := by
  cases node
  rw [preorder, preorderAll_eq_flatMap]

theorem mem_preorder_self (node : Cst) : node ∈ node.preorder := by
  rw [preorder_eq]
  exact List.mem_cons_self ..

theorem mem_preorder_of_mem_children {node child below : Cst} (hchild : child ∈ node.children)
    (hbelow : below ∈ child.preorder) : below ∈ node.preorder := by
  rw [preorder_eq]
  exact List.mem_cons_of_mem _ (List.mem_flatMap.2 ⟨child, hchild, hbelow⟩)

theorem mem_preorder_of_child {node child : Cst} (hchild : child ∈ node.children) : child ∈ node.preorder :=
  mem_preorder_of_mem_children hchild (mem_preorder_self child)

theorem mem_preorder_trans {root node below : Cst} (hnode : node ∈ root.preorder) (hbelow : below ∈ node.preorder) :
    below ∈ root.preorder := by
  rw [preorder_eq] at hnode
  rcases List.mem_cons.1 hnode with rfl | hnode
  · exact hbelow
  · obtain ⟨child, hchild, hnode⟩ := List.mem_flatMap.1 hnode
    exact mem_preorder_of_mem_children hchild (mem_preorder_trans hnode hbelow)
termination_by root
decreasing_by exact sizeOf_lt_of_mem_children hchild

/-- Whether no node of a tree is a use, as in comments, properties and signs. -/
def isBare (root : Cst) : Bool := root.preorder.all fun node => !(node.named && useKinds.contains node.kind)

/-- Whether all children are bare apart from the first ones with some labels. -/
def isBareBut (labels : List String) (node : Cst) : Bool :=
  node.children.zipIdx.all fun child =>
    child.1.isBare || labels.any fun label => node.childIndex? label == some child.2

theorem isBare_of_mem_children {node child : Cst} (hbare : node.isBare = true) (hchild : child ∈ node.children) :
    child.isBare = true :=
  List.all_eq_true.2 fun below hbelow =>
    List.all_eq_true.1 hbare below (mem_preorder_of_mem_children hchild hbelow)

theorem label_of_childIndex? {node : Cst} {label : String} {i : Nat} (h : node.childIndex? label = some i) :
    (node.children[i]?.bind (·.label)) = some label := by
  have hlabel := List.of_findIdx?_eq_some h
  cases hchild : node.children[i]? with
  | none => simp [hchild] at hlabel
  | some child => simpa [hchild] using hlabel

/-- A child has one label only. -/
theorem childIndex?_inj {node : Cst} {label other : String} {i : Nat} (h : node.childIndex? label = some i)
    (hother : node.childIndex? other = some i) : label = other :=
  Option.some.inj ((label_of_childIndex? h).symm.trans (label_of_childIndex? hother))

theorem mem_labels_of_isBareBut {node child : Cst} {labels : List String} {i : Nat}
    (hshape : node.isBareBut labels = true) (hchild : (child, i) ∈ node.children.zipIdx)
    (hbare : child.isBare = false) : ∃ label ∈ labels, node.childIndex? label = some i := by
  have := List.all_eq_true.1 hshape _ hchild
  simpa [hbare] using this

/-- The shape that grammars give to a node. -/
structure WellShaped (node : Cst) : Prop where
  /-- Signs and keywords have no names in them. -/
  sign : node.named = false → node.isBare = true
  /-- Names have nothing below them. -/
  name : node.kind ∈ useKinds ++ nameTokenKinds → node.children.isEmpty = true
  /-- A call consists of what it calls, type arguments, arguments, comments and signs. -/
  call : node.kind = "call_expression" → node.isBareBut ["function", "type_arguments", "arguments"] = true
  arguments : node.kind = "call_expression" →
    (node.child? "arguments").all (fun child => ["arguments", "template_string"].contains child.kind) = true
  /-- A member expression consists of its object, the name of the property, comments and signs. -/
  access : node.kind = "member_expression" → node.isBareBut ["object"] = true

instance (node : Cst) : Decidable node.WellShaped :=
  decidable_of_iff
    ((node.named = false → node.isBare = true)
      ∧ (node.kind ∈ useKinds ++ nameTokenKinds → node.children.isEmpty = true)
      ∧ (node.kind = "call_expression" → node.isBareBut ["function", "type_arguments", "arguments"] = true)
      ∧ (node.kind = "call_expression" →
        (node.child? "arguments").all (fun child => ["arguments", "template_string"].contains child.kind) = true)
      ∧ (node.kind = "member_expression" → node.isBareBut ["object"] = true))
    ⟨fun ⟨hsign, hname, hcall, harguments, haccess⟩ => ⟨hsign, hname, hcall, harguments, haccess⟩,
      fun h => ⟨h.sign, h.name, h.call, h.arguments, h.access⟩⟩

/-- Trees as grammars make them. -/
def IsGrammatical (root : Cst) : Prop := root.named = true ∧ ∀ node ∈ root.preorder, node.WellShaped

instance (root : Cst) : Decidable root.IsGrammatical := inferInstanceAs (Decidable (_ ∧ _))

end Cst

end UseSites
