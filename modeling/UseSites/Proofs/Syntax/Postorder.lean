import Mathlib.Algebra.BigOperators.Ring.List
import Mathlib.Algebra.Ring.Nat
import Mathlib.Data.List.Nodup
import UseSites.Proofs.Syntax.Addresses
import UseSites.Proofs.Syntax.Traversal
/-!
# Lowering turn by turn

Lowering is a loop, too. A named node comes to the top of the stack twice. The first time it is put back under its named
children; the second time it is built, and what became of it is entered under its address. A node is built from what is
entered for its children and, in a call, for the children of its arguments.

So all of these must have been entered by then, and they have: the loop comes to whatever stands below a node before it
comes to the node for the second time (`built_before`). In each turn, then, what is entered is the image of the node
(`tracks_turn`), and in the end the entries are the images of the named nodes, each entered once
(`lowersInOrder`).
-/

namespace UseSites

namespace Cst

/-! ### Named nodes -/

namespace Located

def namedChildren (place : Located) : List Located :=
  (place.node.otherPlaces []).map fun child => (place.node.childAt child.2 child.1).below place.address

def became (place : Located) : Option Outline := (image place.parent place.node).outline

variable {place child other inner outer : Located}

theorem mem_namedChildren :
    child ∈ place.namedChildren ↔ ∃ i node, place.node.children[i]? = some node ∧ node.named = true
      ∧ child = ⟨place.address ++ [i], some place.node.kind, node⟩ := by
  rw [namedChildren, List.mem_map]
  constructor
  · rintro ⟨⟨node, i⟩, hmem, rfl⟩
    obtain ⟨hnode, -, hnamed⟩ := mem_otherPlaces.1 hmem
    exact ⟨i, node, hnode, hnamed, rfl⟩
  · rintro ⟨i, node, hnode, hnamed, rfl⟩
    exact ⟨(node, i), mem_otherPlaces.2 ⟨hnode, List.not_mem_nil, hnamed⟩, rfl⟩

theorem sizeOf_lt_of_mem_namedChildren (hchild : child ∈ place.namedChildren) :
    sizeOf child.node < sizeOf place.node := by
  obtain ⟨i, node, hnode, -, rfl⟩ := mem_namedChildren.1 hchild
  exact sizeOf_lt_of_mem_children (List.mem_of_getElem? hnode)

theorem eq_of_isPrefix {address : List Nat} (hchild : child ∈ place.namedChildren) (hother : other ∈ place.namedChildren)
    (habove : child.address <+: address) (hotherAbove : other.address <+: address) : child = other := by
  obtain ⟨i, node, hnode, -, rfl⟩ := mem_namedChildren.1 hchild
  obtain ⟨j, otherNode, hotherNode, -, rfl⟩ := mem_namedChildren.1 hother
  obtain ⟨below, rfl⟩ := habove
  obtain ⟨otherBelow, hsame⟩ := hotherAbove
  simp only [List.append_assoc, List.append_cancel_left_eq, List.singleton_append, List.cons.injEq] at hsame
  obtain ⟨rfl, -⟩ := hsame
  obtain rfl := Option.some.inj (hnode.symm.trans hotherNode)
  rfl

theorem nodup_namedChildren (place : Located) : place.namedChildren.Nodup := by
  apply List.pairwise_map.2
  apply (pairwise_otherPlaces [] place.node).imp
  intro earlier later hlt hsame
  have haddress := congrArg address hsame
  simp only [below, childAt, List.append_cancel_left_eq, List.cons.injEq, and_true] at haddress
  omega

/-- A node and the named nodes that it leads down to through named nodes, parents before children. -/
def preorder (place : Located) : List Located :=
  place :: place.namedChildren.attach.flatMap fun ⟨child, _⟩ => child.preorder
termination_by sizeOf place.node
decreasing_by exact sizeOf_lt_of_mem_namedChildren ‹_›

theorem preorder_eq (place : Located) : place.preorder = place :: place.namedChildren.flatMap preorder := by
  rw [preorder]
  conv_rhs => rw [← List.attach_map_subtype_val place.namedChildren, List.flatMap_map]

theorem mem_preorder_iff :
    inner ∈ place.preorder ↔ inner = place ∨ ∃ child ∈ place.namedChildren, inner ∈ child.preorder := by
  rw [preorder_eq, List.mem_cons, List.mem_flatMap]

theorem self_mem_preorder (place : Located) : place ∈ place.preorder := mem_preorder_iff.2 (Or.inl rfl)

@[elab_as_elim]
theorem childInduction {motive : Located → Prop}
    (step : ∀ place, (∀ child ∈ place.namedChildren, motive child) → motive place) (place : Located) :
    motive place := by
  apply step
  intro child hchild
  exact childInduction step child
termination_by sizeOf place.node
decreasing_by exact sizeOf_lt_of_mem_namedChildren hchild

theorem mem_preorder_of_child (hchild : child ∈ place.namedChildren) : child ∈ place.preorder :=
  mem_preorder_iff.2 (Or.inr ⟨child, hchild, self_mem_preorder child⟩)

theorem isPrefix_of_mem_preorder (hinner : inner ∈ place.preorder) : place.address <+: inner.address := by
  induction place using childInduction with
  | step place ih =>
    rcases mem_preorder_iff.1 hinner with rfl | ⟨child, hchild, hinner⟩
    · exact List.prefix_refl _
    · have hbelow := ih child hchild hinner
      obtain ⟨i, node, -, -, rfl⟩ := mem_namedChildren.1 hchild
      exact (List.prefix_append _ _).trans hbelow

theorem not_isPrefix_of_mem_child (hchild : child ∈ place.namedChildren) (hinner : inner ∈ child.preorder) :
    ¬ inner.address <+: place.address := by
  have hbelow := (isPrefix_of_mem_preorder hinner).length_le
  obtain ⟨i, node, -, -, rfl⟩ := mem_namedChildren.1 hchild
  intro habove
  have hlength := habove.length_le
  simp only [List.length_append, List.length_singleton] at hbelow
  omega

theorem mem_preorder_trans (houter : outer ∈ place.preorder) (hinner : inner ∈ outer.preorder) :
    inner ∈ place.preorder := by
  induction place using childInduction with
  | step place ih =>
    rcases mem_preorder_iff.1 houter with rfl | ⟨child, hchild, houter⟩
    · exact hinner
    · exact mem_preorder_iff.2 (Or.inr ⟨child, hchild, ih child hchild houter⟩)

/-- The addresses of two nodes tell whether one of them stands below the other. -/
theorem mem_preorder_of_isPrefix (houter : outer ∈ place.preorder) (hinner : inner ∈ place.preorder)
    (habove : outer.address <+: inner.address) : inner ∈ outer.preorder := by
  induction place using childInduction with
  | step place ih =>
    rcases mem_preorder_iff.1 houter with rfl | ⟨child, hchild, hbelow⟩
    · exact hinner
    · rcases mem_preorder_iff.1 hinner with rfl | ⟨other, hother, hotherBelow⟩
      · exact absurd habove (not_isPrefix_of_mem_child hchild hbelow)
      · have hchildAbove := (isPrefix_of_mem_preorder hbelow).trans habove
        obtain rfl := eq_of_isPrefix hchild hother hchildAbove (isPrefix_of_mem_preorder hotherBelow)
        exact ih child hchild hbelow hotherBelow

theorem eq_of_address_eq (houter : outer ∈ place.preorder) (hinner : inner ∈ place.preorder)
    (haddress : outer.address = inner.address) : outer = inner := by
  have habove : outer.address <+: inner.address := haddress ▸ List.prefix_refl _
  rcases mem_preorder_iff.1 (mem_preorder_of_isPrefix houter hinner habove) with hsame | ⟨child, hchild, hbelow⟩
  · exact hsame.symm
  · exact absurd (haddress ▸ List.prefix_refl _) (not_isPrefix_of_mem_child hchild hbelow)

theorem named_of_address {i : Nat} {below : List Nat} {node : Cst} (houter : outer ∈ place.preorder)
    (hinner : inner ∈ place.preorder) (haddress : inner.address = outer.address ++ i :: below)
    (hnode : outer.node.children[i]? = some node) : node.named = true := by
  have habove : outer.address <+: inner.address := haddress ▸ List.prefix_append _ _
  rcases mem_preorder_iff.1 (mem_preorder_of_isPrefix houter hinner habove) with rfl | ⟨child, hchild, hbelow⟩
  · simp at haddress
  · have hchildAbove := isPrefix_of_mem_preorder hbelow
    obtain ⟨j, childNode, hchildNode, hnamed, rfl⟩ := mem_namedChildren.1 hchild
    obtain ⟨rest, hrest⟩ := hchildAbove
    rw [haddress, List.append_assoc, List.append_cancel_left_eq, List.singleton_append, List.cons.injEq] at hrest
    obtain ⟨rfl, -⟩ := hrest
    cases hnode.symm.trans hchildNode
    exact hnamed

end Located

/-! ### The order of the turns -/

/-- A named node on the stack. It is expanded once its children have been put there. -/
structure Task where
  place : Located
  expanded : Bool

/-- What comes to the top after a task, and in which order. -/
def Task.next : Task → List Task
  | ⟨place, false⟩ => (⟨place, true⟩ :: place.namedChildren.map (⟨·, false⟩)).reverse
  | ⟨_, true⟩ => []

namespace Located

variable {place inner : Located} {task : Task}

/-- The turns from when a node comes to the top first until it is built. The last child is the first to be built. -/
def tasks (place : Located) : List Task :=
  ⟨place, false⟩ :: ((place.namedChildren.attach.reverse.flatMap fun ⟨child, _⟩ => child.tasks) ++ [⟨place, true⟩])
termination_by sizeOf place.node
decreasing_by exact sizeOf_lt_of_mem_namedChildren ‹_›

theorem tasks_eq (place : Located) :
    place.tasks = ⟨place, false⟩ :: (place.namedChildren.reverse.flatMap tasks ++ [⟨place, true⟩]) := by
  rw [tasks]
  conv_rhs => rw [← List.attach_map_subtype_val place.namedChildren, ← List.map_reverse, List.flatMap_map]

theorem mem_tasks_iff : task ∈ place.tasks ↔ task.place ∈ place.preorder := by
  induction place using childInduction with
  | step place ih =>
    obtain ⟨found, expanded⟩ := task
    have hchildren : ⟨found, expanded⟩ ∈ place.namedChildren.reverse.flatMap tasks
        ↔ ∃ child ∈ place.namedChildren, found ∈ child.preorder := by
      simp only [List.mem_flatMap, List.mem_reverse]
      apply exists_congr
      intro child
      exact and_congr_right (ih child)
    rw [tasks_eq, mem_preorder_iff, List.mem_cons, List.mem_append, List.mem_singleton, hchildren, Task.mk.injEq,
      Task.mk.injEq]
    cases expanded <;> simp [or_comm]

theorem mem_preorder_of_mem_tasks {expanded : Bool} (htask : ⟨inner, expanded⟩ ∈ place.tasks) :
    inner ∈ place.preorder :=
  mem_tasks_iff.1 htask

theorem isPrefix_of_mem_tasks (htask : task ∈ place.tasks) : place.address <+: task.place.address :=
  isPrefix_of_mem_preorder (mem_tasks_iff.1 htask)

/-- Once a node is built, the loop does not come to it or to anything below it any more. -/
theorem pairwise_tasks (place : Located) :
    place.tasks.Pairwise fun earlier later =>
      earlier.expanded = true → ¬ earlier.place.address <+: later.place.address := by
  induction place using childInduction with
  | step place ih =>
    rw [tasks_eq, List.pairwise_cons, List.pairwise_append, List.pairwise_flatMap]
    refine ⟨by simp, ⟨?_, ?_⟩, List.pairwise_singleton _ _, ?_⟩
    · intro child hchild
      exact ih child (List.mem_reverse.1 hchild)
    · -- what stands below one child does not stand below another one
      apply (List.nodup_reverse.2 (nodup_namedChildren place)).imp_of_mem
      intro earlier later hearlier hlater hne task htask other hother _ habove
      exact hne (eq_of_isPrefix (List.mem_reverse.1 hearlier) (List.mem_reverse.1 hlater)
        ((isPrefix_of_mem_tasks htask).trans habove) (isPrefix_of_mem_tasks hother))
    · intro task htask last hlast _
      obtain ⟨child, hchild, htask⟩ := List.mem_flatMap.1 htask
      rw [List.mem_singleton.1 hlast]
      exact not_isPrefix_of_mem_child (List.mem_reverse.1 hchild) (mem_tasks_iff.1 htask)

theorem length_tasks (place : Located) : place.tasks.length = 2 * place.preorder.length := by
  induction place using childInduction with
  | step place ih =>
    have hchildren : (place.namedChildren.map fun child => child.tasks.length).sum
        = 2 * (place.namedChildren.map fun child => child.preorder.length).sum := by
      rw [List.map_congr_left ih]
      exact List.sum_map_mul_left place.namedChildren (fun child => child.preorder.length) 2
    rw [tasks_eq, preorder_eq]
    simp only [List.length_cons, List.length_append, List.length_flatMap, List.map_reverse, List.sum_reverse,
      hchildren, List.length_nil]
    omega

/-- The nodes are built in the reverse order of the tree. -/
theorem reverse_expanded_tasks (place : Located) :
    ((place.tasks.filter (·.expanded)).map Task.place).reverse = place.preorder := by
  induction place using childInduction with
  | step place ih =>
    rw [tasks_eq, preorder_eq, List.filter_cons_of_neg Bool.false_ne_true, List.filter_append, List.map_append,
      List.reverse_append, List.filter_flatMap, List.map_flatMap, List.reverse_flatMap, List.reverse_reverse]
    exact congrArg _ (List.flatMap_congr ih)

theorem nodup_address_preorder (place : Located) : (place.preorder.map address).Nodup := by
  rw [← reverse_expanded_tasks, List.map_reverse, List.nodup_reverse, List.map_map]
  apply List.pairwise_map.2
  apply List.pairwise_filter.2
  apply place.pairwise_tasks.imp
  intro earlier later hpassed hexpanded _ hsame
  have haddress : earlier.place.address = later.place.address := hsame
  exact hpassed hexpanded (haddress ▸ List.prefix_refl _)

end Located

/-- The turns from a task on until what stood below it on the stack is on top. -/
def Task.order (task : Task) : List Task := if task.expanded then [task] else task.place.tasks

theorem Task.order_eq (task : Task) : task.order = task :: task.next.flatMap order := by
  obtain ⟨place, expanded⟩ := task
  cases expanded with
  | false => simp [order, next, Located.tasks_eq place, List.flatMap_map, ← List.map_reverse]
  | true => rfl

/-- When a node is built, all named nodes below it have been. -/
theorem built_before {root place inner : Located} {listed later : List Task}
    (htasks : root.tasks = listed ++ ⟨place, true⟩ :: later) (hinner : inner ∈ place.preorder) (hne : inner ≠ place) :
    ⟨inner, true⟩ ∈ listed := by
  have hplace : ⟨place, true⟩ ∈ root.tasks := by
    rw [htasks]
    exact List.mem_append_right _ List.mem_cons_self
  have hroot := Located.mem_preorder_trans (Located.mem_preorder_of_mem_tasks hplace) hinner
  have hbelow : ⟨inner, true⟩ ∈ root.tasks := Located.mem_tasks_iff.2 hroot
  have hpairwise := root.pairwise_tasks
  rw [htasks] at hbelow hpairwise
  have hlater := (List.pairwise_cons.1 (List.pairwise_append.1 hpairwise).2.1).1
  rcases List.mem_append.1 hbelow with hlisted | hrest
  · exact hlisted
  · rcases List.mem_cons.1 hrest with hsame | hmem
    · exact absurd (Task.mk.inj hsame).1 hne
    · exact absurd (Located.isPrefix_of_mem_preorder hinner) (hlater _ hmem rfl)

/-! ### The loop -/

/-- What is entered under an address. Nothing stands for a node of which nothing is kept as well as for one that has not
been built. -/
def found (built : List (List Nat × Option Outline)) (address : List Nat) : Option Outline :=
  (built.lookup address).join

def imagesIn (built : List (List Nat × Option Outline)) (place : Located) : List Image :=
  place.node.children.mapIdx fun i child =>
    ⟨found built (place.address ++ [i]),
      (child.otherPlaces []).filterMap fun inner => found built (place.address ++ [i, inner.2])⟩

def start (root : Cst) : Located := ⟨[], none, root⟩

/-- The state of the loop: the stack, with the top at the end, and what has been entered, the last entry first. -/
structure Assembly where
  stack : List Task
  built : List (List Nat × Option Outline)

namespace Assembly

def turn (loop : Assembly) : Assembly :=
  match loop.stack.getLast? with
  | none => loop
  | some ⟨place, false⟩ =>
    ⟨loop.stack.dropLast ++ ⟨place, true⟩ :: place.namedChildren.map (⟨·, false⟩), loop.built⟩
  | some ⟨place, true⟩ =>
    ⟨loop.stack.dropLast,
      (place.address, outlineFrom place.parent place.node (imagesIn loop.built place)) :: loop.built⟩

def after (root : Cst) : Nat → Assembly
  | 0 => ⟨[⟨root.start, false⟩], []⟩
  | n + 1 => (after root n).turn

def whole (root : Cst) (loop : Assembly) : Outline :=
  match found loop.built [] with
  | some (.group kind line parts) => .group kind line parts
  | outline => .group root.kind root.line outline.toList

end Assembly

/-! ### Entries -/

def Located.entry (place : Located) : List Nat × Option Outline := (place.address, place.became)

section Entries

variable {root place : Located} {places : List Located}

theorem found_of_forall_ne {address : List Nat} (hnone : ∀ inner ∈ places, inner.address ≠ address) :
    found (places.map Located.entry) address = none := by
  have hlookup : (places.map Located.entry).lookup address = none := by
    rw [List.lookup_eq_none_iff]
    intro entry hentry
    obtain ⟨inner, hinner, rfl⟩ := List.mem_map.1 hentry
    exact bne_iff_ne.2 (hnone inner hinner).symm
  rw [found, hlookup]
  rfl

variable (hplaces : ∀ inner ∈ places, inner ∈ root.preorder)

include hplaces

theorem lookup_entry (hroot : place ∈ root.preorder) (hplace : place ∈ places) :
    (places.map Located.entry).lookup place.address = some place.became := by
  induction places with
  | nil => cases hplace
  | cons first rest ih =>
    obtain ⟨hfirst, hrest⟩ := List.forall_mem_cons.1 hplaces
    rw [List.map_cons, Located.entry, List.lookup_cons]
    by_cases haddress : place.address = first.address
    · rw [beq_iff_eq.2 haddress, Located.eq_of_address_eq hroot hfirst haddress]
    · rw [beq_eq_false_iff_ne.2 haddress]
      rcases List.mem_cons.1 hplace with rfl | hplace
      · exact absurd rfl haddress
      · exact ih hrest hplace

theorem found_entry (hroot : place ∈ root.preorder) (hplace : place ∈ places) :
    found (places.map Located.entry) place.address = place.became := by
  rw [found, lookup_entry hplaces hroot hplace, Option.join_some]

theorem imagesIn_entries (hroot : place ∈ root.preorder)
    (hfilled : ∀ inner ∈ place.preorder, inner ≠ place → inner ∈ places) :
    imagesIn (places.map Located.entry) place = place.node.children.map (imageBelow place.node.kind) := by
  have hfound (inner : Located) (hbelow : inner ∈ place.preorder) (hlonger : place.address ≠ inner.address) :
      found (places.map Located.entry) inner.address = inner.became := by
    apply found_entry hplaces (Located.mem_preorder_trans hroot hbelow)
    exact hfilled inner hbelow fun hsame => hlonger (hsame ▸ rfl)
  apply List.ext_getElem?
  intro i
  rw [imagesIn, List.getElem?_mapIdx, List.getElem?_map]
  cases hchild : place.node.children[i]? with
  | none => rfl
  | some child =>
    rw [Option.map_some, Option.map_some, imageBelow]
    cases hnamed : child.named with
    | false =>
      -- what is not named, and what stands below it, is never built
      have hnone (below : List Nat) : found (places.map Located.entry) (place.address ++ i :: below) = none := by
        apply found_of_forall_ne
        intro inner hinner haddress
        rw [Located.named_of_address hroot (hplaces inner hinner) haddress hchild] at hnamed
        cases hnamed
      simp [hnone]
    | true =>
      have hbelow : ⟨place.address ++ [i], some place.node.kind, child⟩ ∈ place.namedChildren :=
        Located.mem_namedChildren.2 ⟨i, child, hchild, hnamed, rfl⟩
      have houtline : found (places.map Located.entry) (place.address ++ [i])
          = (image (some place.node.kind) child).outline :=
        hfound _ (Located.mem_preorder_of_child hbelow) (by simp)
      have hparts : (child.otherPlaces []).filterMap (fun inner =>
            found (places.map Located.entry) (place.address ++ [i, inner.2]))
          = (image (some place.node.kind) child).parts := by
        rw [parts_image, imagesOf, ← others_nil, ← map_fst_otherPlaces, List.filterMap_map]
        apply List.filterMap_congr
        intro inner hinner
        obtain ⟨hnode, -, hinnerNamed⟩ := mem_otherPlaces.1 hinner
        have hdeep : ⟨place.address ++ [i] ++ [inner.2], some child.kind, inner.1⟩
            ∈ Located.namedChildren ⟨place.address ++ [i], some place.node.kind, child⟩ :=
          Located.mem_namedChildren.2 ⟨inner.2, inner.1, hnode, hinnerNamed, rfl⟩
        have hmem := Located.mem_preorder_trans (Located.mem_preorder_of_child hbelow)
          (Located.mem_preorder_of_child hdeep)
        have hentry := hfound _ hmem (by simp)
        rwa [List.append_assoc] at hentry
      rw [if_pos rfl, houtline, hparts]

end Entries

/-! ### Turns and entries -/

/-- What the loop enters for a node is its image, if everything named below it has been entered. -/
theorem outlineFrom_entries {root place : Located} {places : List Located}
    (hplaces : ∀ inner ∈ places, inner ∈ root.preorder) (hroot : place ∈ root.preorder)
    (hfilled : ∀ inner ∈ place.preorder, inner ≠ place → inner ∈ places) :
    outlineFrom place.parent place.node (imagesIn (places.map Located.entry) place) = place.became := by
  rw [imagesIn_entries hplaces hroot hfilled, Located.became, image_eq]

section Turns

variable {root place : Located} {loop : Assembly} {rest listed : List Task}

def builtPlaces (listed : List Task) : List Located := ((listed.filter (·.expanded)).map Task.place).reverse

theorem mem_builtPlaces : place ∈ builtPlaces listed ↔ ⟨place, true⟩ ∈ listed := by
  rw [builtPlaces, List.mem_reverse, List.mem_map]
  constructor
  · rintro ⟨⟨_, expanded⟩, hmem, rfl⟩
    obtain ⟨hlisted, rfl⟩ := List.mem_filter.1 hmem
    exact hlisted
  · intro hlisted
    exact ⟨⟨place, true⟩, List.mem_filter.2 ⟨hlisted, rfl⟩, rfl⟩

variable (hwhole : Traversal.whole Task.order ⟨rest ++ [⟨place, true⟩], listed⟩ = root.tasks)

include hwhole

theorem tasks_of_whole : root.tasks = listed ++ ⟨place, true⟩ :: rest.reverse.flatMap Task.order := by
  rw [← hwhole]
  simp [Traversal.whole, Task.order]

theorem mem_preorder_of_top : place ∈ root.preorder := by
  apply Located.mem_preorder_of_mem_tasks
  rw [tasks_of_whole hwhole]
  exact List.mem_append_right _ List.mem_cons_self

theorem mem_preorder_of_mem_builtPlaces {inner : Located} (hinner : inner ∈ builtPlaces listed) :
    inner ∈ root.preorder := by
  apply Located.mem_preorder_of_mem_tasks
  rw [tasks_of_whole hwhole]
  exact List.mem_append_left _ (mem_builtPlaces.1 hinner)

end Turns

/-- Whether the entries are the images of the nodes that a traversal has listed for the second time. -/
def Assembly.Tracks (loop : Assembly) (traversal : Traversal Task) : Prop :=
  loop.stack = traversal.stack ∧ loop.built = (builtPlaces traversal.listed).map Located.entry

/-- The step of the loop: what is entered in a turn is the image of the node on top. -/
theorem tracks_turn {root : Located} {loop : Assembly} {traversal : Traversal Task} (h : loop.Tracks traversal)
    (hwhole : traversal.whole Task.order = root.tasks) : loop.turn.Tracks (traversal.turn Task.next) := by
  obtain ⟨stack, built⟩ := loop
  obtain ⟨rfl, rfl⟩ := h
  cases traversal using Traversal.topCases with
  | finished listed => exact ⟨rfl, rfl⟩
  | busy rest top listed =>
    obtain ⟨place, expanded⟩ := top
    rw [Traversal.turn_append_singleton]
    cases expanded with
    | false =>
      constructor
      · simp [Assembly.turn, Task.next]
      · simp [Assembly.turn, builtPlaces]
    | true =>
      have hfilled : ∀ inner ∈ place.preorder, inner ≠ place → inner ∈ builtPlaces listed :=
        fun inner hinner hne => mem_builtPlaces.2 (built_before (tasks_of_whole hwhole) hinner hne)
      have himage := outlineFrom_entries (fun inner => mem_preorder_of_mem_builtPlaces hwhole)
        (mem_preorder_of_top hwhole) hfilled
      constructor
      · simp [Assembly.turn, Task.next]
      · have hentry : (place.address, outlineFrom place.parent place.node
            (imagesIn ((builtPlaces listed).map Located.entry) place)) = place.entry := by rw [himage, Located.entry]
        simp [Assembly.turn, builtPlaces, ← hentry]

/-- The run of the loop: after any number of turns the entries are images. -/
theorem tracks_after (root : Cst) (n : Nat) :
    (Assembly.after root n).Tracks (Traversal.after Task.next ⟨root.start, false⟩ n) := by
  induction n with
  | zero => exact ⟨rfl, rfl⟩
  | succ n ih => exact tracks_turn ih (Traversal.whole_after Task.order_eq ⟨root.start, false⟩ n)

section After

variable {root : Cst} {n : Nat}

theorem stack_after_eq_nil_iff : (Assembly.after root n).stack = [] ↔ 2 * root.start.preorder.length ≤ n := by
  have hstack := (Traversal.after_order Task.order_eq ⟨root.start, false⟩ n).2
  rw [(tracks_after root n).1, hstack, ← Located.length_tasks]
  rfl

/-- In the end there is one entry for each named node, in the order of the tree. -/
theorem built_after (hdone : (Assembly.after root n).stack = []) :
    (Assembly.after root n).built = root.start.preorder.map Located.entry := by
  have hturns : root.start.tasks.length ≤ n := by
    rw [Located.length_tasks]
    exact stack_after_eq_nil_iff.1 hdone
  have hlisted : (Traversal.after Task.next ⟨root.start, false⟩ n).listed = root.start.tasks := by
    rw [(Traversal.after_order Task.order_eq ⟨root.start, false⟩ n).1]
    exact List.take_of_length_le hturns
  rw [(tracks_after root n).2, hlisted, builtPlaces, Located.reverse_expanded_tasks]

theorem whole_after (hdone : (Assembly.after root n).stack = []) : (Assembly.after root n).whole root = root.outline := by
  have hself := Located.self_mem_preorder root.start
  have hroot : found (Assembly.after root n).built [] = (image none root).outline := by
    rw [built_after hdone]
    exact found_entry (fun inner hinner => hinner) hself hself
  rw [Assembly.whole, hroot]
  rfl

/-- When a node comes to the top for the second time, everything named below it has its entry. -/
theorem lookup_after {place inner : Located} (htop : (Assembly.after root n).stack.getLast? = some ⟨place, true⟩)
    (hinner : inner ∈ place.preorder) (hne : inner ≠ place) :
    (Assembly.after root n).built.lookup inner.address = some inner.became := by
  have hwhole : Traversal.whole Task.order (Traversal.after Task.next ⟨root.start, false⟩ n) = root.start.tasks :=
    Traversal.whole_after Task.order_eq ⟨root.start, false⟩ n
  obtain ⟨hstack, hbuilt⟩ := tracks_after root n
  rw [hstack] at htop
  rw [hbuilt]
  generalize Traversal.after Task.next ⟨root.start, false⟩ n = traversal at htop hwhole ⊢
  cases traversal using Traversal.topCases with
  | finished listed => cases htop
  | busy rest top listed =>
    rw [List.getLast?_concat, Option.some.injEq] at htop
    subst htop
    apply lookup_entry (fun inner => mem_preorder_of_mem_builtPlaces hwhole)
    · exact Located.mem_preorder_trans (mem_preorder_of_top hwhole) hinner
    · exact mem_builtPlaces.2 (built_before (tasks_of_whole hwhole) hinner hne)

end After

/-- What lowering does with a tree. -/
structure LowersInOrder (root : Cst) : Prop where
  /-- The loop comes to each named node twice, and then it ends. -/
  turns : ∀ n, (Assembly.after root n).stack = [] ↔ 2 * root.start.preorder.length ≤ n
  /-- When a node is built, the images of all named nodes below it can be looked up. -/
  filled : ∀ n place, (Assembly.after root n).stack.getLast? = some ⟨place, true⟩ →
    ∀ inner ∈ place.preorder, inner ≠ place →
      (Assembly.after root n).built.lookup inner.address = some inner.became
  built : ∀ n, (Assembly.after root n).stack = [] →
    (Assembly.after root n).built = root.start.preorder.map Located.entry
  once : (root.start.preorder.map Located.address).Nodup
  whole : ∀ n, (Assembly.after root n).stack = [] → (Assembly.after root n).whole root = root.outline
  /-- No node is retained at two places of the list. -/
  retained : (root.retainedAt none).map Located.node = root.retained none
    ∧ ((root.retainedAt none).map Located.address).Nodup
  /-- What is no group in the outline are the landmarks of the retained nodes, in the same order. -/
  landmarks : root.outline.walk.filterMap Outline.landmark? = (root.retained none).filterMap landmark?

theorem lowersInOrder (root : Cst) : root.LowersInOrder where
  turns := fun _ => stack_after_eq_nil_iff
  filled := fun _ _ htop _ hinner hne => lookup_after htop hinner hne
  built := fun _ hdone => built_after hdone
  once := root.start.nodup_address_preorder
  whole := fun _ hdone => whole_after hdone
  retained := ⟨map_node_retainedAt none root, nodup_retainedAt none root⟩
  landmarks := walk_outline_landmarks root

end Cst

end UseSites
