import Mathlib.Data.List.Nodup
import UseSites.Proofs.Syntax.Identifiers
/-!
# Where the identifiers of an outline stand

Two tokens of a tree can agree in everything that can be read off them, so what becomes of one token is a
question about its address, the positions of the children that lead to it. `retainedAt` lists the nodes that
lowering reaches with their addresses. An address is reached from the root by steps, one level down or from a call
two levels down into its arguments, and `mem_retainedAt_iff` takes the last step apart. The identifiers of an
outline are those that stand at the `useAddresses` of the tree, in the same order.
-/

namespace UseSites

namespace Cst

def at? (node : Cst) : List Nat → Option Cst
  | [] => some node
  | i :: rest => node.children[i]?.bind fun child => child.at? rest

theorem at?_append (node : Cst) (above below : List Nat) :
    node.at? (above ++ below) = (node.at? above).bind fun inner => inner.at? below := by
  induction above generalizing node with
  | nil => rfl
  | cons i rest ih =>
    rw [List.cons_append, at?, at?]
    cases node.children[i]? with
    | none => rfl
    | some child => exact ih child

theorem at?_singleton (node : Cst) (i : Nat) : node.at? [i] = node.children[i]? := by
  rw [at?]
  cases node.children[i]? <;> rfl

/-- A node of a tree, its address, and the kind of the node around it. -/
structure Located where
  address : List Nat
  parent : Option String
  node : Cst

def Located.below (address : List Nat) (inner : Located) : Located :=
  { inner with address := address ++ inner.address }

/-! ### Steps -/

/-- The first child with a label and its position, provided it is named. -/
def namedPlace? (node : Cst) (label : String) : Option (Nat × Cst) :=
  (node.childIndex? label).bind fun i => (node.children[i]?.filter (·.named)).map (i, ·)

/-- The named children with their positions, apart from those at some positions. -/
def otherPlaces (skipped : List Nat) (node : Cst) : List (Cst × Nat) :=
  node.children.zipIdx.filter fun child => !skipped.contains child.2 && child.1.named

def childAt (node : Cst) (i : Nat) (child : Cst) : Located := ⟨[i], some node.kind, child⟩

/-- The nodes that lowering goes on to from a node, at their addresses below it. -/
def followedAt (parent : Option String) (node : Cst) : List Located :=
  match node.construct with
  | .importing | .requiring _ | .use => []
  | .call =>
    (node.namedPlace? "function").toList.map (fun callee => node.childAt callee.1 callee.2)
      ++ (node.namedPlace? "arguments").toList.flatMap fun arguments =>
        (arguments.2.otherPlaces []).map fun child => (arguments.2.childAt child.2 child.1).below [arguments.1]
  | .access _ _ => (node.namedPlace? "object").toList.map fun object => node.childAt object.1 object.2
  | .declaration position _ => (node.otherPlaces [position]).map fun child => node.childAt child.2 child.1
  | .plain => (node.otherPlaces (parameterNames parent node)).map fun child => node.childAt child.2 child.1

theorem namedPlace?_eq_some {node child : Cst} {label : String} {i : Nat} :
    node.namedPlace? label = some (i, child) ↔
      node.childIndex? label = some i ∧ node.children[i]? = some child ∧ child.named = true := by
  simp only [namedPlace?, Option.bind_eq_some_iff, Option.map_eq_some_iff, Option.filter_eq_some_iff, Prod.mk.injEq]
  constructor
  · rintro ⟨_, hindex, _, ⟨hchild, hnamed⟩, rfl, rfl⟩
    exact ⟨hindex, hchild, hnamed⟩
  · rintro ⟨hindex, hchild, hnamed⟩
    exact ⟨i, hindex, child, ⟨hchild, hnamed⟩, rfl, rfl⟩

theorem mem_otherPlaces {node child : Cst} {skipped : List Nat} {i : Nat} :
    (child, i) ∈ node.otherPlaces skipped ↔ node.children[i]? = some child ∧ i ∉ skipped ∧ child.named = true := by
  rw [otherPlaces, List.mem_filter, List.mem_zipIdx_iff_getElem?]
  simp

theorem pairwise_otherPlaces (skipped : List Nat) (node : Cst) :
    (node.otherPlaces skipped).Pairwise fun earlier later => earlier.2 < later.2 := by
  apply List.Pairwise.filter
  apply List.pairwise_map.1
  rw [List.zipIdx_map_snd]
  exact List.pairwise_lt_range'

theorem map_snd_namedPlace? (node : Cst) (label : String) :
    (node.namedPlace? label).map Prod.snd = node.namedChild? label := by
  rw [namedPlace?, namedChild?, child?, List.find?_eq_bind_findIdx?_getElem?, ← childIndex?]
  cases node.childIndex? label with
  | none => rfl
  | some i => cases node.children[i]?.filter (·.named) <;> simp_all [Function.comp_def]

theorem map_fst_otherPlaces (skipped : List Nat) (node : Cst) :
    (node.otherPlaces skipped).map Prod.fst = node.others skipped := by
  rw [others, List.filter_map, List.filter_filter, otherPlaces]
  refine congrArg _ (List.filter_congr fun child _ => ?_)
  rw [Bool.and_comm]
  rfl

theorem map_followedAt (parent : Option String) (node : Cst) :
    (node.followedAt parent).map (fun step => (step.parent, step.node))
      = (node.followed parent).map fun child => (some child.1, child.2) := by
  have hfits := construct_fits node
  rw [followedAt, followed_eq]
  cases hconstruct : node.construct with
  | importing | requiring outline | use => rfl
  | call =>
    have harguments (arguments : Cst) : arguments.namedChildren = (arguments.otherPlaces []).map Prod.fst := by
      rw [map_fst_otherPlaces, others_nil]
    simp only [List.map_append, List.map_map, List.map_flatMap, Function.comp_def, childAt, Located.below,
      ← map_snd_namedPlace?, Option.toList_map, List.flatMap_map, harguments]
  | access object property =>
    rw [hconstruct] at hfits
    have hobject : ([object].filter (·.named)) = ((node.namedPlace? "object").map Prod.snd).toList := by
      rw [map_snd_namedPlace?, namedChild?, (accessed?_eq_some hfits).2.1]
      cases hnamed : object.named <;> simp [hnamed, Option.filter_some]
    simp only [hobject, Option.toList_map, List.map_map, Function.comp_def, childAt]
  | declaration position name | plain =>
    simp only [List.map_map, Function.comp_def, childAt, ← map_fst_otherPlaces]

/-- Whether lowering goes on from a node to the child at a position, should it be named. -/
def GoesTo (parent : Option String) (node : Cst) (i : Nat) : Prop :=
  match node.construct with
  | .importing | .requiring _ | .use => False
  | .call => node.childIndex? "function" = some i
  | .access _ _ => node.childIndex? "object" = some i
  | .declaration position _ => i ≠ position
  | .plain => i ∉ parameterNames parent node

theorem goesTo_iff_of_plain {node : Cst} (hplain : node.construct = .plain) (parent : Option String) (i : Nat) :
    node.GoesTo parent i ↔ i ∉ parameterNames parent node := by
  rw [GoesTo, hplain]

theorem construct_of_required {node : Cst} {outline : Outline} (hrequired : node.required? = some outline) :
    node.construct = .requiring outline := by
  have hkind : node.kind ≠ "import_statement" := by
    intro himport
    simp [required?, himport] at hrequired
  rw [construct, if_neg hkind, hrequired]

theorem mem_map_namedPlace? {node : Cst} {label : String} {step : Located} :
    step ∈ (node.namedPlace? label).toList.map (fun child => node.childAt child.1 child.2) ↔
      ∃ i child, node.children[i]? = some child ∧ child.named = true ∧ node.childIndex? label = some i
        ∧ step = node.childAt i child := by
  rw [List.mem_map]
  constructor
  · rintro ⟨⟨i, child⟩, hplace, rfl⟩
    obtain ⟨hindex, hchild, hnamed⟩ := namedPlace?_eq_some.1 (Option.mem_toList.1 hplace)
    exact ⟨i, child, hchild, hnamed, hindex, rfl⟩
  · rintro ⟨i, child, hchild, hnamed, hindex, rfl⟩
    exact ⟨(i, child), Option.mem_toList.2 (namedPlace?_eq_some.2 ⟨hindex, hchild, hnamed⟩), rfl⟩

theorem mem_map_otherPlaces {node : Cst} {skipped : List Nat} {step : Located} :
    step ∈ (node.otherPlaces skipped).map (fun child => node.childAt child.2 child.1) ↔
      ∃ i child, node.children[i]? = some child ∧ child.named = true ∧ i ∉ skipped ∧ step = node.childAt i child := by
  rw [List.mem_map]
  constructor
  · rintro ⟨⟨child, i⟩, hplace, rfl⟩
    obtain ⟨hchild, hskipped, hnamed⟩ := mem_otherPlaces.1 hplace
    exact ⟨i, child, hchild, hnamed, hskipped, rfl⟩
  · rintro ⟨i, child, hchild, hnamed, hskipped, rfl⟩
    exact ⟨(child, i), mem_otherPlaces.2 ⟨hchild, hskipped, hnamed⟩, rfl⟩

/-- A step leads to a child, or from a call to a child of its arguments. -/
theorem mem_followedAt_iff {parent : Option String} {node : Cst} {step : Located} :
    step ∈ node.followedAt parent ↔
      (∃ i child, node.children[i]? = some child ∧ child.named = true ∧ node.GoesTo parent i
        ∧ step = node.childAt i child)
      ∨ node.construct = .call ∧ ∃ j arguments k child, node.childIndex? "arguments" = some j
        ∧ node.children[j]? = some arguments ∧ arguments.named = true ∧ arguments.children[k]? = some child
        ∧ child.named = true ∧ step = (arguments.childAt k child).below [j] := by
  unfold followedAt GoesTo
  cases hconstruct : node.construct with
  | importing | requiring outline | use => simp
  | call =>
    simp only [List.mem_append, mem_map_namedPlace?, true_and]
    refine or_congr_right ?_
    rw [List.mem_flatMap]
    constructor
    · rintro ⟨⟨j, arguments⟩, hplace, hstep⟩
      obtain ⟨⟨child, k⟩, hother, rfl⟩ := List.mem_map.1 hstep
      obtain ⟨hindex, harguments, hnamed⟩ := namedPlace?_eq_some.1 (Option.mem_toList.1 hplace)
      obtain ⟨hchild, -, hchildNamed⟩ := mem_otherPlaces.1 hother
      exact ⟨j, arguments, k, child, hindex, harguments, hnamed, hchild, hchildNamed, rfl⟩
    · rintro ⟨j, arguments, k, child, hindex, harguments, hnamed, hchild, hchildNamed, rfl⟩
      refine ⟨(j, arguments), Option.mem_toList.2 (namedPlace?_eq_some.2 ⟨hindex, harguments, hnamed⟩), ?_⟩
      exact List.mem_map_of_mem (mem_otherPlaces.2 ⟨hchild, List.not_mem_nil, hchildNamed⟩)
  | access object property => simp only [mem_map_namedPlace?, reduceCtorEq, false_and, or_false]
  | declaration position name =>
    simp only [mem_map_otherPlaces, List.mem_singleton, reduceCtorEq, false_and, or_false, ne_eq]
  | plain => simp only [mem_map_otherPlaces, reduceCtorEq, false_and, or_false]

theorem at?_of_mem_followedAt {parent : Option String} {node : Cst} {step : Located}
    (hstep : step ∈ node.followedAt parent) : node.at? step.address = some step.node := by
  rcases mem_followedAt_iff.1 hstep with ⟨i, child, hchild, -, -, rfl⟩
    | ⟨-, j, arguments, k, child, -, harguments, -, hchild, -, rfl⟩
  · rw [childAt, at?_singleton, hchild]
  · rw [Located.below, childAt, at?_append, at?_singleton, harguments, Option.bind_some, at?_singleton, hchild]

theorem sizeOf_lt_of_mem_followedAt {parent : Option String} {node : Cst} {step : Located}
    (hstep : step ∈ node.followedAt parent) : sizeOf step.node < sizeOf node := by
  have hmem : (step.parent, step.node) ∈ (node.followed parent).map fun child => (some child.1, child.2) := by
    rw [← map_followedAt]
    exact List.mem_map_of_mem hstep
  obtain ⟨⟨above, child⟩, hchild, heq⟩ := List.mem_map.1 hmem
  obtain ⟨-, rfl⟩ := Prod.mk.inj heq
  exact sizeOf_lt_of_mem_followed hchild

/-! ### All nodes -/

/-- The nodes that lowering reaches from a node, at their addresses below it, the node itself first. -/
def retainedAt (parent : Option String) (node : Cst) : List Located :=
  ⟨[], parent, node⟩
    :: (node.followedAt parent).attach.flatMap fun ⟨step, _⟩ =>
      (step.node.retainedAt step.parent).map (Located.below step.address)
termination_by sizeOf node
decreasing_by exact sizeOf_lt_of_mem_followedAt ‹_›

theorem retainedAt_eq (parent : Option String) (node : Cst) :
    node.retainedAt parent
      = ⟨[], parent, node⟩ :: (node.followedAt parent).flatMap fun step =>
        (step.node.retainedAt step.parent).map (Located.below step.address) := by
  rw [retainedAt]
  conv_rhs => rw [← List.attach_map_subtype_val (node.followedAt parent), List.flatMap_map]

theorem map_node_retainedAt (parent : Option String) (node : Cst) :
    (node.retainedAt parent).map Located.node = node.retained parent := by
  have ih : ∀ step ∈ node.followedAt parent,
      ((step.node.retainedAt step.parent).map (Located.below step.address)).map Located.node
        = step.node.retained step.parent := by
    intro step hstep
    rw [List.map_map, ← map_node_retainedAt step.parent step.node]
    rfl
  have hfollowed := congrArg (List.flatMap fun child : Option String × Cst => child.2.retained child.1)
    (map_followedAt parent node)
  rw [List.flatMap_map, List.flatMap_map] at hfollowed
  rw [retainedAt_eq, retained_eq, List.map_cons, List.map_flatMap, List.flatMap_congr ih, hfollowed]
termination_by sizeOf node
decreasing_by exact sizeOf_lt_of_mem_followedAt hstep

theorem mem_retainedAt_iff_first {parent : Option String} {node : Cst} {kept : Located} :
    kept ∈ node.retainedAt parent ↔ kept = ⟨[], parent, node⟩
      ∨ ∃ step ∈ node.followedAt parent, ∃ inner ∈ step.node.retainedAt step.parent,
        kept = inner.below step.address := by
  rw [retainedAt_eq, List.mem_cons, List.mem_flatMap]
  simp only [List.mem_map, eq_comm]

theorem at?_of_mem_retainedAt {parent : Option String} {node : Cst} {kept : Located}
    (hkept : kept ∈ node.retainedAt parent) : node.at? kept.address = some kept.node := by
  rcases mem_retainedAt_iff_first.1 hkept with rfl | ⟨step, hstep, inner, hinner, rfl⟩
  · rfl
  · rw [Located.below, at?_append, at?_of_mem_followedAt hstep, Option.bind_some]
    exact at?_of_mem_retainedAt hinner
termination_by sizeOf node
decreasing_by exact sizeOf_lt_of_mem_followedAt hstep

theorem Located.below_below (above address : List Nat) (kept : Located) :
    (kept.below address).below above = kept.below (above ++ address) := by
  rw [below, below, below, List.append_assoc]

/-- A node is reached if it is the first one, or by a last step from a node that is reached. -/
theorem mem_retainedAt_iff {parent : Option String} {node : Cst} {kept : Located} :
    kept ∈ node.retainedAt parent ↔ kept = ⟨[], parent, node⟩
      ∨ ∃ above ∈ node.retainedAt parent, ∃ step ∈ above.node.followedAt above.parent,
        kept = step.below above.address := by
  constructor
  · intro hkept
    refine (mem_retainedAt_iff_first.1 hkept).imp_right ?_
    rintro ⟨first, hfirst, inner, hinner, rfl⟩
    rcases mem_retainedAt_iff.1 hinner with rfl | ⟨above, habove, last, hlast, rfl⟩
    · exact ⟨⟨[], parent, node⟩, mem_retainedAt_iff_first.2 (Or.inl rfl), first, hfirst, by simp [Located.below]⟩
    · refine ⟨above.below first.address, ?_, last, hlast, Located.below_below _ _ _⟩
      exact mem_retainedAt_iff_first.2 (Or.inr ⟨first, hfirst, above, habove, rfl⟩)
  · rintro (rfl | ⟨above, habove, last, hlast, rfl⟩)
    · exact mem_retainedAt_iff_first.2 (Or.inl rfl)
    · refine mem_retainedAt_iff_first.2 (Or.inr ?_)
      rcases mem_retainedAt_iff_first.1 habove with rfl | ⟨first, hfirst, inner, hinner, rfl⟩
      · exact ⟨last, hlast, ⟨[], _, _⟩, mem_retainedAt_iff_first.2 (Or.inl rfl), by simp [Located.below]⟩
      · refine ⟨first, hfirst, last.below inner.address, ?_, (Located.below_below _ _ _).symm⟩
        exact mem_retainedAt_iff.2 (Or.inr ⟨inner, hinner, last, hlast, rfl⟩)
termination_by sizeOf node
decreasing_by all_goals exact sizeOf_lt_of_mem_followedAt hfirst

theorem self_mem_retainedAt (parent : Option String) (node : Cst) : ⟨[], parent, node⟩ ∈ node.retainedAt parent :=
  mem_retainedAt_iff.2 (Or.inl rfl)

theorem child_mem_retainedAt {parent : Option String} {node child : Cst} {above : Located} {i : Nat}
    (habove : above ∈ node.retainedAt parent) (hchild : above.node.children[i]? = some child)
    (hnamed : child.named = true) (hgoes : above.node.GoesTo above.parent i) :
    ⟨above.address ++ [i], some above.node.kind, child⟩ ∈ node.retainedAt parent := by
  have hstep := mem_followedAt_iff.2 (Or.inl ⟨i, child, hchild, hnamed, hgoes, rfl⟩)
  exact mem_retainedAt_iff.2 (Or.inr ⟨above, habove, _, hstep, rfl⟩)

/-- Whether a node is the arguments of a call that lowering reaches. -/
def ArgumentsAt (parent : Option String) (node : Cst) (address : List Nat) (arguments : Cst) : Prop :=
  ∃ call ∈ node.retainedAt parent, ∃ j, address = call.address ++ [j] ∧ call.node.construct = .call
    ∧ call.node.childIndex? "arguments" = some j ∧ call.node.children[j]? = some arguments ∧ arguments.named = true

theorem argument_mem_retainedAt {parent : Option String} {node arguments child : Cst} {address : List Nat} {i : Nat}
    (harguments : ArgumentsAt parent node address arguments) (hchild : arguments.children[i]? = some child)
    (hnamed : child.named = true) : ⟨address ++ [i], some arguments.kind, child⟩ ∈ node.retainedAt parent := by
  obtain ⟨call, hcall, j, rfl, hconstruct, hindex, hargument, hargumentsNamed⟩ := harguments
  have hstep : (arguments.childAt i child).below [j] ∈ call.node.followedAt call.parent :=
    mem_followedAt_iff.2
      (Or.inr ⟨hconstruct, j, arguments, i, child, hindex, hargument, hargumentsNamed, hchild, hnamed, rfl⟩)
  rw [List.append_assoc]
  exact mem_retainedAt_iff.2 (Or.inr ⟨call, hcall, _, hstep, rfl⟩)

/-- The last step to a node that is reached: from the node around it, or from a call around its arguments. -/
theorem exists_last_step {parent : Option String} {node : Cst} {kept : Located} {above : List Nat} {i : Nat}
    (hkept : kept ∈ node.retainedAt parent) (haddress : kept.address = above ++ [i]) :
    kept.node.named = true
      ∧ ((∃ outer ∈ node.retainedAt parent, outer.address = above ∧ kept.parent = some outer.node.kind
          ∧ outer.node.GoesTo outer.parent i ∧ outer.node.children[i]? = some kept.node)
        ∨ ∃ arguments, ArgumentsAt parent node above arguments ∧ kept.parent = some arguments.kind
          ∧ arguments.children[i]? = some kept.node) := by
  rcases mem_retainedAt_iff.1 hkept with rfl | ⟨outer, houter, step, hstep, rfl⟩
  · simp at haddress
  · rcases mem_followedAt_iff.1 hstep with ⟨k, child, hchild, hnamed, hgoes, rfl⟩
      | ⟨hcall, j, arguments, k, child, hindex, harguments, hargumentsNamed, hchild, hnamed, rfl⟩
    · obtain ⟨rfl, hposition⟩ := List.append_inj' haddress rfl
      cases hposition
      exact ⟨hnamed, Or.inl ⟨outer, houter, rfl, rfl, hgoes, hchild⟩⟩
    · have hsplit : outer.address ++ [j] ++ [k] = above ++ [i] := by
        rw [← haddress]
        simp [Located.below, childAt]
      obtain ⟨rfl, hposition⟩ := List.append_inj' hsplit rfl
      cases hposition
      exact ⟨hnamed, Or.inr
        ⟨arguments, ⟨outer, houter, j, rfl, hcall, hindex, harguments, hargumentsNamed⟩, rfl, hchild⟩⟩

theorem node_eq_of_address_eq {parent : Option String} {node : Cst} {kept other : Located}
    (hkept : kept ∈ node.retainedAt parent) (hother : other ∈ node.retainedAt parent)
    (haddress : kept.address = other.address) : kept.node = other.node := by
  have hat := at?_of_mem_retainedAt hkept
  rw [haddress, at?_of_mem_retainedAt hother] at hat
  exact (Option.some.inj hat).symm

theorem at?_of_argumentsAt {parent : Option String} {node arguments : Cst} {address : List Nat}
    (harguments : ArgumentsAt parent node address arguments) : node.at? address = some arguments := by
  obtain ⟨call, hcall, j, rfl, -, -, hargument, -⟩ := harguments
  rw [at?_append, at?_of_mem_retainedAt hcall, Option.bind_some, at?_singleton, hargument]

/-- Lowering goes on from a call to the children of its arguments, never to the arguments themselves. -/
theorem address_ne_arguments {parent : Option String} {node arguments : Cst} {address : List Nat}
    (harguments : ArgumentsAt parent node address arguments) {kept : Located} (hkept : kept ∈ node.retainedAt parent) :
    kept.address ≠ address := by
  obtain ⟨call, hcall, j, hcallAddress, hconstruct, hindex, -⟩ := harguments
  intro haddress
  rw [hcallAddress] at haddress
  rcases (exists_last_step hkept haddress).2 with ⟨outer, houter, hsame, -, hgoes, -⟩ | ⟨other, hother, -⟩
  · -- a child is what is called or the arguments, never both
    rw [node_eq_of_address_eq houter hcall hsame, GoesTo, hconstruct] at hgoes
    exact absurd (childIndex?_inj hgoes hindex) (by decide)
  · -- the call itself would be the arguments of another call further up, and it is reached
    exact address_ne_arguments hother hcall rfl
termination_by address.length
decreasing_by simp [hcallAddress]

/-- Nothing is reached inside a node from which lowering does not go on. -/
theorem below_eq_nil_of_not_goesTo {parent : Option String} {node : Cst} {last kept : Located} {below : List Nat}
    (hlast : last ∈ node.retainedAt parent) (hnone : ∀ above i, ¬ last.node.GoesTo above i)
    (hcall : last.node.construct ≠ .call) (hkept : kept ∈ node.retainedAt parent)
    (haddress : kept.address = last.address ++ below) : below = [] := by
  rcases List.eq_nil_or_concat below with hnil | ⟨before, i, rfl⟩
  · exact hnil
  · rw [List.concat_eq_append, ← List.append_assoc] at haddress
    rcases (exists_last_step hkept haddress).2 with ⟨outer, houter, habove, -, hgoes, -⟩ | ⟨arguments, harguments, -⟩
    · have hshorter : outer.address.length < kept.address.length := by simp [haddress, habove]
      have hbefore := below_eq_nil_of_not_goesTo hlast hnone hcall houter habove
      rw [hbefore, List.append_nil] at habove
      rw [node_eq_of_address_eq houter hlast habove] at hgoes
      exact absurd hgoes (hnone _ _)
    · -- by way of a call: the node is its arguments, the call, or further up
      rcases List.eq_nil_or_concat before with rfl | ⟨start, k, rfl⟩
      · rw [List.append_nil] at harguments
        exact absurd rfl (address_ne_arguments harguments hlast)
      · obtain ⟨outer, houter, j, habove, houterCall, -⟩ := harguments
        rw [List.concat_eq_append, ← List.append_assoc] at habove
        obtain ⟨hstart, -⟩ := List.append_inj' habove rfl
        have hshorter : outer.address.length < kept.address.length := by simp [haddress, ← hstart]
        have hsame := below_eq_nil_of_not_goesTo hlast hnone hcall houter hstart.symm
        rw [hsame, List.append_nil] at hstart
        rw [node_eq_of_address_eq hlast houter hstart] at hcall
        exact absurd houterCall hcall
termination_by kept.address.length
decreasing_by all_goals exact hshorter

/-! ### Every node once -/

/-- Two steps lead to different places, and no place is below both. -/
def Located.Apart (left right : Located) : Prop :=
  ∀ address, left.address <+: address → ¬ right.address <+: address

theorem Located.apart_of_ne {left right : Located} {above inside below : List Nat} {i j : Nat} (hne : i ≠ j)
    (hleft : left.address = above ++ i :: inside) (hright : right.address = above ++ j :: below) :
    left.Apart right := by
  rintro address ⟨rest, rfl⟩ ⟨other, hsame⟩
  rw [hleft, hright, List.append_assoc, List.append_assoc, List.append_cancel_left_eq, List.cons_append,
    List.cons_append, List.cons.injEq] at hsame
  exact hne hsame.1.symm

theorem pairwise_apart_otherPlaces (skipped above : List Nat) (node : Cst) :
    ((node.otherPlaces skipped).map fun child => (node.childAt child.2 child.1).below above).Pairwise
      Located.Apart := by
  apply List.pairwise_map.2
  apply (pairwise_otherPlaces skipped node).imp
  intro earlier later hlt
  exact Located.apart_of_ne (Nat.ne_of_lt hlt) rfl rfl

theorem pairwise_toList {α : Type} (o : Option α) (r : α → α → Prop) : o.toList.Pairwise r := by
  cases o with
  | none => exact List.Pairwise.nil
  | some a => exact List.pairwise_singleton r a

theorem pairwise_followedAt (parent : Option String) (node : Cst) :
    (node.followedAt parent).Pairwise Located.Apart := by
  unfold followedAt
  cases node.construct with
  | importing | requiring outline | use => exact List.Pairwise.nil
  | call =>
    dsimp only
    rw [List.pairwise_append]
    refine ⟨List.pairwise_map.2 (pairwise_toList _ _), ?_, ?_⟩
    · cases node.namedPlace? "arguments" with
      | none => exact List.Pairwise.nil
      | some arguments =>
        rw [Option.toList_some, List.flatMap_singleton]
        exact pairwise_apart_otherPlaces [] [arguments.1] arguments.2
    · intro callee hcallee argument hargument
      obtain ⟨i, child, -, -, hcalled, rfl⟩ := mem_map_namedPlace?.1 hcallee
      obtain ⟨⟨j, arguments⟩, hplace, hmem⟩ := List.mem_flatMap.1 hargument
      obtain ⟨inner, -, rfl⟩ := List.mem_map.1 hmem
      obtain ⟨harguments, -⟩ := namedPlace?_eq_some.1 (Option.mem_toList.1 hplace)
      have hne : i ≠ j := by
        rintro rfl
        exact absurd (childIndex?_inj hcalled harguments) (by decide)
      exact @Located.apart_of_ne _ _ [] [] [inner.2] i j hne rfl rfl
  | access object property => exact List.pairwise_map.2 (pairwise_toList _ _)
  | declaration position name => exact pairwise_apart_otherPlaces [position] [] node
  | plain => exact pairwise_apart_otherPlaces (parameterNames parent node) [] node

theorem address_ne_nil_of_mem_followedAt {parent : Option String} {node : Cst} {step : Located}
    (hstep : step ∈ node.followedAt parent) : step.address ≠ [] := by
  rcases mem_followedAt_iff.1 hstep with ⟨i, child, -, -, -, rfl⟩ | ⟨-, j, arguments, k, child, -, -, -, -, -, rfl⟩ <;>
    exact List.cons_ne_nil _ _

/-- Lowering comes to no node more than once. -/
theorem nodup_retainedAt (parent : Option String) (node : Cst) :
    ((node.retainedAt parent).map Located.address).Nodup := by
  have ih : ∀ step ∈ node.followedAt parent, ((step.node.retainedAt step.parent).map Located.address).Nodup :=
    fun step hstep => nodup_retainedAt step.parent step.node
  have haddresses (step : Located) :
      ((step.node.retainedAt step.parent).map (Located.below step.address)).map Located.address
        = ((step.node.retainedAt step.parent).map Located.address).map (step.address ++ ·) := by
    rw [List.map_map, List.map_map]
    rfl
  rw [retainedAt_eq, List.map_cons, List.map_flatMap, List.nodup_cons, List.nodup_flatMap]
  simp only [haddresses]
  refine ⟨?_, ?_, ?_⟩
  · intro hmem
    obtain ⟨step, hstep, hbelow⟩ := List.mem_flatMap.1 hmem
    obtain ⟨address, -, hnil⟩ := List.mem_map.1 hbelow
    exact address_ne_nil_of_mem_followedAt hstep (List.append_eq_nil_iff.1 hnil).1
  · intro step hstep
    exact (ih step hstep).map (List.append_right_injective step.address)
  · apply (pairwise_followedAt parent node).imp
    intro earlier later hapart address hearlier hlater
    obtain ⟨inside, -, rfl⟩ := List.mem_map.1 hearlier
    obtain ⟨below, -, hsame⟩ := List.mem_map.1 hlater
    exact hapart _ (List.prefix_append _ _) ⟨below, hsame⟩
termination_by sizeOf node
decreasing_by exact sizeOf_lt_of_mem_followedAt hstep

/-! ### Uses -/

def useAddresses (root : Cst) : List (List Nat) :=
  ((root.retainedAt none).filter fun kept => useKinds.contains kept.node.kind).map Located.address

theorem construct_of_useKinds {node : Cst} (huse : node.kind ∈ useKinds) : node.construct = .use := by
  have hkinds : ∀ kind ∈ useKinds, kind ≠ "import_statement" ∧ kind ≠ "variable_declarator" := by decide
  obtain ⟨himport, hdeclarator⟩ := hkinds _ huse
  rw [construct, if_neg himport, required?, if_neg hdeclarator]
  simp only [if_pos huse]

theorem identifier?_landmark? (node : Cst) :
    node.landmark?.bind Landmark.identifier?
      = if useKinds.contains node.kind then some (node.text, node.line) else none := by
  have hfits := construct_fits node
  rw [landmark?_eq]
  by_cases huse : node.kind ∈ useKinds
  · rw [construct_of_useKinds huse, if_pos (List.contains_iff_mem.2 huse)]
    rfl
  · rw [if_neg fun hcontains => huse (List.contains_iff_mem.1 hcontains)]
    cases hconstruct : node.construct with
    | use =>
      rw [hconstruct] at hfits
      exact absurd hfits huse
    | requiring outline =>
      rw [hconstruct] at hfits
      obtain ⟨source, bindings, rfl⟩ := imported_of_required? hfits
      rfl
    | importing | call | access object property | declaration position name | plain => rfl

/-- The identifiers of the outline of a file are the tokens at the addresses of its uses. -/
theorem identifiers_eq_useAddresses (root : Cst) :
    root.outline.identifiers
      = root.useAddresses.filterMap fun address => (root.at? address).map fun token => (token.text, token.line) := by
  rw [Outline.identifiers_eq, landmarks_outline, retainedLandmarks, ← map_node_retainedAt, useAddresses,
    List.filterMap_filterMap, List.filterMap_map, List.filterMap_map, List.filterMap_filter]
  refine List.filterMap_congr fun kept hkept => ?_
  rw [Function.comp_apply, identifier?_landmark?, Function.comp_apply, at?_of_mem_retainedAt hkept]
  rfl

end Cst

end UseSites
