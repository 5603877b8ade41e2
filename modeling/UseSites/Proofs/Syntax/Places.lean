import Mathlib.Data.List.Basic
import UseSites.Syntax.Outline
/-!
# The walk of an outline as a recursion

The walk keeps its own stack. What it lists is the plain recursion `places` on the tree, which carries
down the one fact a walk has to know about a place: whether the node is what a call calls. Everything
that is proved about lists of sites is proved about `places`, by induction on the children of a node, so
that no proof outside this module follows the stack.
-/

namespace UseSites

namespace Outline

theorem size_le_sizeAll {child : Outline} {nodes : List Outline} (hchild : child ∈ nodes) :
    child.size ≤ sizeAll nodes := by
  induction nodes with
  | nil => simp at hchild
  | cons first rest ih =>
    rw [sizeAll]
    rcases List.mem_cons.1 hchild with rfl | hrest
    · omega
    · have := ih hrest
      omega

/-- The recursion over the children of a node, for all kinds of nodes at once. -/
@[elab_as_elim]
theorem childInduction {motive : Outline → Prop}
    (step : ∀ node, (∀ child ∈ node.children, motive child) → motive node) (node : Outline) : motive node := by
  apply step
  intro child hchild
  exact childInduction step child
termination_by node.size
decreasing_by
  have := size_le_sizeAll hchild
  rw [size_eq node]
  omega

theorem preorderAll_eq_flatMap (nodes : List Outline) : preorderAll nodes = nodes.flatMap preorder := by
  induction nodes with
  | nil => rfl
  | cons node rest ih => rw [preorderAll, ih, List.flatMap_cons]

theorem preorder_eq (node : Outline) : node.preorder = node :: node.children.flatMap preorder := by
  cases node <;> simp [preorder, children, preorderAll_eq_flatMap]

/-! ### Places -/

mutual

/-- Every node at its place, parents before children, by recursion on the tree. -/
def places (called : Bool) : Outline → List Site
  | imported source line bindings => [⟨imported source line bindings, called⟩]
  | call line callee arguments =>
    ⟨call line callee arguments, called⟩ :: (places true callee ++ placesAll arguments)
  | member name line object => ⟨member name line object, called⟩ :: places false object
  | identifier name line => [⟨identifier name line, called⟩]
  | declaration kind name line parts => ⟨declaration kind name line parts, called⟩ :: placesAll parts
  | group kind line parts => ⟨group kind line parts, called⟩ :: placesAll parts

def placesAll : List Outline → List Site
  | [] => []
  | node :: rest => places false node ++ placesAll rest

end

theorem placesAll_eq_flatMap (nodes : List Outline) : placesAll nodes = nodes.flatMap (places false) := by
  induction nodes with
  | nil => rfl
  | cons node rest ih => rw [placesAll, ih, List.flatMap_cons]

/-- A place is followed by the places of its children. -/
theorem places_eq (called : Bool) (node : Outline) :
    node.places called = ⟨node, called⟩ :: node.childSites.flatMap fun site => site.node.places site.called := by
  cases node <;> simp [places, childSites, children, placesAll_eq_flatMap, List.flatMap_map]

theorem sitesFrom_eq_flatMap (stack : List Site) :
    sitesFrom stack = stack.flatMap fun site => site.node.places site.called := by
  induction stack using sitesFrom.induct with
  | case1 => rw [sitesFrom, List.flatMap_nil]
  | case2 site stack ih => rw [sitesFrom, ih, List.flatMap_append, List.flatMap_cons, places_eq, List.cons_append]

theorem sites_eq_places (root : Outline) : root.sites = root.places false := by
  rw [sites, sitesFrom_eq_flatMap, List.flatMap_cons, List.flatMap_nil, List.append_nil]

theorem map_node_places (called : Bool) (node : Outline) :
    (node.places called).map Site.node = node.preorder := by
  induction node using childInduction generalizing called with
  | step node ih =>
    have hbelow : ∀ site ∈ node.childSites,
        (site.node.places site.called).map Site.node = site.node.preorder := by
      intro site hsite
      apply ih
      rw [← map_node_childSites]
      exact List.mem_map_of_mem hsite
    rw [places_eq, preorder_eq, ← map_node_childSites, List.map_cons, List.map_flatMap, List.flatMap_map]
    exact congrArg _ (List.flatMap_congr hbelow)

theorem walk_eq_preorder (root : Outline) : root.walk = root.preorder := by
  rw [walk, sites_eq_places, map_node_places]

end Outline

end UseSites
