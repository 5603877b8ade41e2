import Mathlib.Data.List.Infix
import UseSites.Proofs.Syntax.Places
import UseSites.Proofs.Syntax.Traversal
/-!
# The walk turn by turn

A walk is a loop: as long as there is something on the stack, the top is taken off and listed, and its children are
put there in reverse. `after_walk` says what the loop has done after any number of turns, and that it ends after one
turn for each node.

Equal nodes can stand at different places of a tree, and then the list does not tell which of them a turn was about.
The same loop run on nodes with their addresses does. `Underway` is its invariant: the addresses grow from turn to
turn, and whatever has not been listed stands below something on the stack. From it come the order of a node and what
stands below it, and the order of two children of one node.
-/

namespace UseSites

namespace Outline

/-! ### The loop and the walk -/

theorem length_sitesFrom (stack : List Site) : (sitesFrom stack).length = sizeAll (stack.map Site.node) := by
  induction stack using sitesFrom.induct with
  | case1 => simp [sitesFrom, sizeAll]
  | case2 site stack ih =>
    rw [sitesFrom, List.length_cons, ih, List.map_append, map_node_childSites, sizeAll_append, List.map_cons, sizeAll,
      size_eq site.node]
    omega

theorem length_sites (root : Outline) : root.sites.length = root.size := by
  simp [sites, length_sitesFrom, sizeAll]

theorem length_walk (root : Outline) : root.walk.length = root.size := by
  rw [walk, List.length_map, length_sites]

theorem walk_eq (root : Outline) : root.walk = root :: root.children.flatMap walk := by
  have hwalk : walk = preorder := funext walk_eq_preorder
  rw [hwalk, preorder_eq]

/-- After some turns the loop has listed as many nodes of the walk, and it is at its end when there are no more. -/
theorem after_walk (root : Outline) (n : Nat) :
    (Traversal.after children root n).listed = root.walk.take n
      ∧ ((Traversal.after children root n).stack = [] ↔ root.size ≤ n) := by
  rw [← length_walk]
  exact Traversal.after_order walk_eq root n

/-! ### Addresses -/

/-- The node at an address. -/
def at? (node : Outline) : List Nat → Option Outline
  | [] => some node
  | i :: rest => node.children[i]?.bind fun child => child.at? rest

theorem at?_append (node : Outline) (above below : List Nat) :
    node.at? (above ++ below) = (node.at? above).bind fun inner => inner.at? below := by
  induction above generalizing node with
  | nil => rfl
  | cons i rest ih =>
    rw [List.cons_append, at?, at?, Option.bind_assoc]
    simp only [ih]

theorem at?_singleton (node : Outline) (i : Nat) : node.at? [i] = node.children[i]? := by
  rw [at?]
  cases node.children[i]? <;> rfl

/-- Whether the way to one address branches off to the left of the way to another. -/
def LeftOf (left right : List Nat) : Prop :=
  ∃ above i j inside outside, i < j ∧ left = above ++ i :: inside ∧ right = above ++ j :: outside

theorem LeftOf.lt {left right : List Nat} (h : LeftOf left right) : left < right := by
  obtain ⟨above, i, j, inside, outside, hlt, rfl, rfl⟩ := h
  apply List.append_left_lt
  exact List.cons_lt_cons_iff.2 (Or.inl hlt)

theorem LeftOf.append_left {left right : List Nat} (h : LeftOf left right) (below : List Nat) :
    LeftOf (left ++ below) right := by
  obtain ⟨above, i, j, inside, outside, hlt, rfl, rfl⟩ := h
  exact ⟨above, i, j, inside ++ below, outside, hlt, by simp, rfl⟩

theorem leftOf_of_lt (above : List Nat) {i j : Nat} (hlt : i < j) : LeftOf (above ++ [i]) (above ++ [j]) :=
  ⟨above, i, j, [], [], hlt, rfl, rfl⟩

theorem lt_append_of_ne_nil (address : List Nat) {below : List Nat} (hbelow : below ≠ []) :
    address < address ++ below := by
  obtain ⟨i, rest, rfl⟩ := List.exists_cons_of_ne_nil hbelow
  have h : address ++ [] < address ++ i :: rest := List.append_left_lt (List.nil_lt_cons i rest)
  rwa [List.append_nil] at h

structure Visit where
  address : List Nat
  node : Outline

def Visit.next (visit : Visit) : List Visit :=
  visit.node.children.mapIdx fun i child => ⟨visit.address ++ [i], child⟩

theorem Visit.map_node_next (visit : Visit) : visit.next.map Visit.node = visit.node.children := by
  apply List.ext_getElem?
  intro i
  simp [next, Function.comp_def]

theorem Visit.mem_next {visit inner : Visit} :
    inner ∈ visit.next ↔ ∃ i, visit.node.children[i]? = some inner.node ∧ inner.address = visit.address ++ [i] := by
  obtain ⟨address, node⟩ := inner
  simp only [next, List.mem_iff_getElem?, List.getElem?_mapIdx, Option.map_eq_some_iff, mk.injEq]
  apply exists_congr
  intro i
  constructor
  · rintro ⟨child, hchild, rfl, rfl⟩
    exact ⟨hchild, rfl⟩
  · rintro ⟨hchild, rfl⟩
    exact ⟨node, hchild, rfl, rfl⟩

theorem Visit.lt_of_mem_next {visit inner : Visit} (hinner : inner ∈ visit.next) : visit.address < inner.address := by
  obtain ⟨i, -, haddress⟩ := mem_next.1 hinner
  rw [haddress]
  apply lt_append_of_ne_nil
  simp

theorem Visit.leftOf_of_mem_next {visit inner : Visit} {right : List Nat} (hinner : inner ∈ visit.next)
    (hleft : LeftOf visit.address right) : LeftOf inner.address right := by
  obtain ⟨i, -, haddress⟩ := mem_next.1 hinner
  rw [haddress]
  exact hleft.append_left [i]

theorem Visit.pairwise_next (visit : Visit) :
    visit.next.Pairwise fun earlier later => LeftOf earlier.address later.address := by
  rw [List.pairwise_iff_getElem]
  intro i j hi hj hlt
  simp only [next, List.getElem_mapIdx]
  exact leftOf_of_lt visit.address hlt

/-- What stands below a node stands at or below one of its children. -/
theorem Visit.exists_mem_next {visit : Visit} {below : List Nat} {inner : Outline}
    (hinner : visit.node.at? below = some inner) (hbelow : below ≠ []) :
    ∃ child ∈ visit.next, child.address <+: visit.address ++ below := by
  obtain ⟨i, rest, rfl⟩ := List.exists_cons_of_ne_nil hbelow
  obtain ⟨child, hchild, -⟩ := Option.bind_eq_some_iff.1 hinner
  exact ⟨⟨visit.address ++ [i], child⟩, mem_next.2 ⟨i, hchild, rfl⟩, rest, by simp⟩

/-! ### The turns of the loop -/

/-- What holds of a loop over a tree after any number of turns. -/
structure Underway (root : Outline) (loop : Traversal Visit) : Prop where
  placed : ∀ visit ∈ loop.listed ++ loop.stack, root.at? visit.address = some visit.node
  covers : ∀ address node, root.at? address = some node →
    ⟨address, node⟩ ∈ loop.listed ∨ ∃ pending ∈ loop.stack, pending.address <+: address
  ordered : loop.listed.Pairwise fun earlier later => earlier.address < later.address
  ahead : ∀ visit ∈ loop.listed, ∀ pending ∈ loop.stack, visit.address < pending.address
  apart : loop.stack.Pairwise fun lower upper => LeftOf upper.address lower.address

theorem underway_start (root : Outline) : Underway root ⟨[⟨[], root⟩], []⟩ where
  placed := by simp [at?]
  covers := by simp
  ordered := by simp
  ahead := by simp
  apart := by simp

section

variable {root : Outline} {rest listed : List Visit} {top : Visit} (h : Underway root ⟨rest ++ [top], listed⟩)

include h

theorem Underway.at?_top : root.at? top.address = some top.node :=
  h.placed top (by simp)

theorem Underway.leftOf_top {pending : Visit} (hpending : pending ∈ rest) : LeftOf top.address pending.address :=
  (List.pairwise_append.1 h.apart).2.2 pending hpending top (by simp)

theorem Underway.placed_turn {visit : Visit} (hvisit : visit ∈ listed ++ [top] ++ (rest ++ top.next.reverse)) :
    root.at? visit.address = some visit.node := by
  simp only [List.mem_append, List.mem_singleton, List.mem_reverse] at hvisit
  rcases hvisit with (hlisted | rfl) | hpending | hchild
  · exact h.placed visit (by simp [hlisted])
  · exact h.at?_top
  · exact h.placed visit (by simp [hpending])
  · obtain ⟨i, hi, haddress⟩ := Visit.mem_next.1 hchild
    rw [haddress, at?_append, h.at?_top, Option.bind_some, at?_singleton, hi]

/-- What stood at or below the top is the top, which is listed now, or stands at or below one of its children. -/
theorem Underway.covers_turn {address : List Nat} {node : Outline} (hnode : root.at? address = some node) :
    ⟨address, node⟩ ∈ listed ++ [top] ∨ ∃ pending ∈ rest ++ top.next.reverse, pending.address <+: address := by
  rcases h.covers address node hnode with hlisted | ⟨pending, hpending, habove⟩
  · exact Or.inl (List.mem_append_left _ hlisted)
  · rcases List.mem_append.1 hpending with hpending | hlast
    · exact Or.inr ⟨pending, List.mem_append_left _ hpending, habove⟩
    · obtain rfl := List.mem_singleton.1 hlast
      obtain ⟨below, rfl⟩ := habove
      rw [at?_append, h.at?_top, Option.bind_some] at hnode
      by_cases hbelow : below = []
      · subst hbelow
        obtain rfl := Option.some.inj hnode
        exact Or.inl (by simp)
      · obtain ⟨child, hchild, habove⟩ := Visit.exists_mem_next hnode hbelow
        exact Or.inr ⟨child, by simp [hchild], habove⟩

theorem Underway.ordered_turn : (listed ++ [top]).Pairwise fun earlier later => earlier.address < later.address := by
  apply List.pairwise_append.2
  refine ⟨h.ordered, List.pairwise_singleton _ _, ?_⟩
  intro visit hvisit last hlast
  obtain rfl := List.mem_singleton.1 hlast
  exact h.ahead visit hvisit last (by simp)

theorem Underway.ahead_turn {visit pending : Visit} (hvisit : visit ∈ listed ++ [top])
    (hpending : pending ∈ rest ++ top.next.reverse) : visit.address < pending.address := by
  simp only [List.mem_append, List.mem_singleton, List.mem_reverse] at hvisit hpending
  rcases hvisit with hlisted | rfl <;> rcases hpending with hpending | hchild
  · exact h.ahead visit hlisted pending (by simp [hpending])
  · exact List.lt_trans (h.ahead visit hlisted top (by simp)) (Visit.lt_of_mem_next hchild)
  · exact (h.leftOf_top hpending).lt
  · exact Visit.lt_of_mem_next hchild

theorem Underway.apart_turn :
    (rest ++ top.next.reverse).Pairwise fun lower upper => LeftOf upper.address lower.address := by
  apply List.pairwise_append.2
  refine ⟨(List.pairwise_append.1 h.apart).1, List.pairwise_reverse.2 top.pairwise_next, ?_⟩
  intro pending hpending child hchild
  exact Visit.leftOf_of_mem_next (List.mem_reverse.1 hchild) (h.leftOf_top hpending)

end

theorem Underway.turn {root : Outline} {loop : Traversal Visit} (h : Underway root loop) :
    Underway root (loop.turn Visit.next) := by
  cases loop using Traversal.topCases with
  | finished listed => exact h
  | busy rest top listed =>
    rw [Traversal.turn_append_singleton]
    exact {
      placed := fun _ hvisit => h.placed_turn hvisit
      covers := fun _ _ hnode => h.covers_turn hnode
      ordered := h.ordered_turn
      ahead := fun _ hvisit _ hpending => h.ahead_turn hvisit hpending
      apart := h.apart_turn }

theorem underway_after (root : Outline) (n : Nat) : Underway root (.after Visit.next ⟨[], root⟩ n) := by
  induction n with
  | zero => exact underway_start root
  | succ n ih => exact ih.turn

/-- The nodes of an outline at their addresses, in the order of the turns in which they are listed. -/
def visits (root : Outline) : List Visit := (Traversal.after Visit.next ⟨[], root⟩ root.size).listed

/-- Without the addresses the loop is that of the walk. -/
theorem map_node_after (root : Outline) (n : Nat) :
    (Traversal.after Visit.next ⟨[], root⟩ n).map Visit.node = .after children root n :=
  Traversal.map_after Visit.map_node_next ⟨[], root⟩ n

theorem stack_after_size (root : Outline) : (Traversal.after Visit.next ⟨[], root⟩ root.size).stack = [] := by
  have hstack := (after_walk root root.size).2.2 (Nat.le_refl _)
  rw [← map_node_after] at hstack
  exact List.map_eq_nil_iff.1 hstack

theorem map_node_visits (root : Outline) : root.visits.map Visit.node = root.walk := by
  have hlisted := (after_walk root root.size).1
  rw [← map_node_after, List.take_of_length_le (by rw [length_walk])] at hlisted
  exact hlisted

theorem mem_visits {root node : Outline} {address : List Nat} :
    ⟨address, node⟩ ∈ root.visits ↔ root.at? address = some node := by
  have h := underway_after root root.size
  constructor
  · intro hvisit
    exact h.placed ⟨address, node⟩ (List.mem_append_left _ hvisit)
  · intro hnode
    apply (h.covers address node hnode).resolve_right
    rw [stack_after_size]
    simp

theorem pairwise_visits (root : Outline) :
    root.visits.Pairwise fun earlier later => earlier.address < later.address :=
  (underway_after root root.size).ordered

example :
    (call 1 (identifier "f" 1) [call 1 (identifier "g" 1) [identifier "x" 1], identifier "y" 1]).visits.map (·.address)
      = [[], [0], [1], [1, 0], [1, 1], [2]] := by
  decide

/-! ### What comes first -/

/-- Whether one visit is made in an earlier turn than another. -/
def VisitsBefore (root : Outline) (earlier later : Visit) : Prop :=
  ∃ i j : Nat, i < j ∧ root.visits[i]? = some earlier ∧ root.visits[j]? = some later

section

variable {root : Outline} {i j : Nat} {earlier later : Visit} (hi : root.visits[i]? = some earlier)
  (hj : root.visits[j]? = some later)

include hi hj

theorem address_lt_of_lt (hlt : i < j) : earlier.address < later.address := by
  obtain ⟨hiBound, rfl⟩ := List.getElem?_eq_some_iff.1 hi
  obtain ⟨hjBound, rfl⟩ := List.getElem?_eq_some_iff.1 hj
  exact List.pairwise_iff_getElem.1 (pairwise_visits root) i j hiBound hjBound hlt

/-- The turns follow the order of the addresses. -/
theorem turn_lt_iff : i < j ↔ earlier.address < later.address := by
  refine ⟨address_lt_of_lt hi hj, ?_⟩
  intro hlt
  rcases Nat.lt_trichotomy i j with hij | rfl | hji
  · exact hij
  · have hsame : earlier = later := Option.some.inj (hi.symm.trans hj)
    rw [hsame] at hlt
    exact absurd hlt (List.lt_irrefl _)
  · exact absurd (address_lt_of_lt hj hi hji) (List.lt_asymm hlt)

end

theorem visitsBefore_of_lt {root : Outline} {earlier later : Visit}
    (hearlier : root.at? earlier.address = some earlier.node) (hlater : root.at? later.address = some later.node)
    (hlt : earlier.address < later.address) : root.VisitsBefore earlier later := by
  obtain ⟨i, hi⟩ := List.mem_iff_getElem?.1 (mem_visits.2 hearlier)
  obtain ⟨j, hj⟩ := List.mem_iff_getElem?.1 (mem_visits.2 hlater)
  exact ⟨i, j, (turn_lt_iff hi hj).2 hlt, hi, hj⟩

theorem existsUnique_visit {root node : Outline} {address : List Nat} (hnode : root.at? address = some node) :
    ∃! i : Nat, root.visits[i]? = some ⟨address, node⟩ := by
  obtain ⟨i, hi⟩ := List.mem_iff_getElem?.1 (mem_visits.2 hnode)
  refine ⟨i, hi, ?_⟩
  intro j hj
  have hij : ¬ i < j := fun hlt => List.lt_irrefl address ((turn_lt_iff hi hj).1 hlt)
  have hji : ¬ j < i := fun hlt => List.lt_irrefl address ((turn_lt_iff hj hi).1 hlt)
  omega

variable {root node inner outer : Outline} {address inside below : List Nat}

theorem visitsBefore_of_below (hnode : root.at? address = some node) (hinner : node.at? below = some inner)
    (hbelow : below ≠ []) : root.VisitsBefore ⟨address, node⟩ ⟨address ++ below, inner⟩ := by
  apply visitsBefore_of_lt hnode
  · rw [at?_append, hnode, Option.bind_some, hinner]
  · exact lt_append_of_ne_nil address hbelow

/-- Everything at or below a child is visited before everything at or below a later child. -/
theorem visitsBefore_of_children (hnode : root.at? address = some node) {i j : Nat} {left right : Outline}
    (hleft : node.children[i]? = some left) (hright : node.children[j]? = some right) (hlt : i < j)
    (hinner : left.at? inside = some inner) (houter : right.at? below = some outer) :
    root.VisitsBefore ⟨address ++ i :: inside, inner⟩ ⟨address ++ j :: below, outer⟩ := by
  apply visitsBefore_of_lt
  · rw [at?_append, hnode, Option.bind_some, at?, hleft, Option.bind_some, hinner]
  · rw [at?_append, hnode, Option.bind_some, at?, hright, Option.bind_some, houter]
  · exact LeftOf.lt ⟨address, i, j, inside, below, hlt, rfl, rfl⟩

/-- What the loop of the walk does with a tree. -/
structure WalksInPreorder (root : Outline) : Prop where
  /-- Each turn lists the next node of the walk, and the loop ends after as many turns as there are nodes. -/
  turns : ∀ n, (Traversal.after children root n).listed = root.walk.take n
    ∧ ((Traversal.after children root n).stack = [] ↔ root.size ≤ n)
  recursive : root.walk = root :: root.children.flatMap walk
  size : root.walk.length = root.size
  /-- The visits are the nodes of the walk with their addresses. -/
  visits : root.visits.map Visit.node = root.walk
  once : ∀ address node, root.at? address = some node ↔ ∃! i : Nat, root.visits[i]? = some ⟨address, node⟩
  parentFirst : ∀ address node, root.at? address = some node → ∀ below inner, node.at? below = some inner →
    below ≠ [] → root.VisitsBefore ⟨address, node⟩ ⟨address ++ below, inner⟩
  calleeFirst : ∀ address line callee arguments, root.at? address = some (.call line callee arguments) →
    ∀ inside inner, callee.at? inside = some inner →
      ∀ k argument, arguments[k]? = some argument → ∀ below outer, argument.at? below = some outer →
        root.VisitsBefore ⟨address ++ 0 :: inside, inner⟩ ⟨address ++ (k + 1) :: below, outer⟩

theorem walksInPreorder (root : Outline) : root.WalksInPreorder where
  turns := after_walk root
  recursive := walk_eq root
  size := length_walk root
  visits := map_node_visits root
  once := by
    intro address node
    constructor
    · exact existsUnique_visit
    · intro hvisit
      obtain ⟨i, hi, -⟩ := hvisit
      exact mem_visits.1 (List.mem_of_getElem? hi)
  parentFirst := by
    intro address node hnode below inner hinner hbelow
    exact visitsBefore_of_below hnode hinner hbelow
  calleeFirst := by
    intro address line callee arguments hcall inside inner hinner k argument hargument below outer houter
    have hcallee : (call line callee arguments).children[0]? = some callee := rfl
    have hposition : (call line callee arguments).children[k + 1]? = some argument := hargument
    exact visitsBefore_of_children hcall hcallee hposition (Nat.succ_pos k) hinner houter

end Outline

end UseSites
