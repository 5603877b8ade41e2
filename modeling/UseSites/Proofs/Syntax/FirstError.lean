import UseSites.Grammar.Parse
import UseSites.Proofs.Syntax.Grammatical
import UseSites.Proofs.Syntax.Images
/-!
# The first error of a tree

The search for the first error keeps a stack and passes over what is not flagged. In trees whose flags can be relied
on (`IsFlagged`) nothing is lost by that: whatever is on the stack, the search finds the first error of the nodes on
it and below them in document order. Rows that never decrease in this order make its line the smallest one.

The trees of the grammars are flagged in this way, because the flag of each node is made from those of its children.
-/

namespace UseSites

namespace Cst

/-- Whether every node with an error below it is flagged. -/
def IsFlagged (root : Cst) : Prop :=
  ∀ node ∈ root.preorder, ∀ child ∈ node.children, ∀ below ∈ child.preorder, below.isError = true → node.flawed = true

instance (root : Cst) : Decidable root.IsFlagged :=
  inferInstanceAs (Decidable (∀ node ∈ root.preorder, ∀ child ∈ node.children, ∀ below ∈ child.preorder, _ → _))

theorem IsFlagged.of_mem_children {node child : Cst} (h : node.IsFlagged) (hchild : child ∈ node.children) :
    child.IsFlagged :=
  fun below hbelow => h below (mem_preorder_of_mem_children hchild hbelow)

/-- Below a node that is not flagged there is nothing to find. -/
theorem IsFlagged.isError_eq_false {node below : Cst} (h : node.IsFlagged) (herror : node.isError = false)
    (hflawed : node.flawed = false) (hbelow : below ∈ node.preorder) : below.isError = false := by
  rw [preorder_eq] at hbelow
  rcases List.mem_cons.1 hbelow with rfl | hbelow
  · exact herror
  · obtain ⟨child, hchild, hbelow⟩ := List.mem_flatMap.1 hbelow
    rw [← Bool.not_eq_true]
    intro hfound
    exact Bool.false_ne_true (hflawed.symm.trans (h node (mem_preorder_self node) child hchild below hbelow hfound))

/-- The search finds the first error of the nodes on the stack and below them. -/
theorem firstErrorFrom?_eq_find? (stack : List Cst) (hflags : ∀ node ∈ stack, node.IsFlagged) :
    firstErrorFrom? stack = (stack.flatMap preorder).find? (·.isError) := by
  induction stack using firstErrorFrom?.induct with
  | case1 => rw [firstErrorFrom?, List.flatMap_nil, List.find?_nil]
  | case2 node stack herror =>
    rw [firstErrorFrom?, if_pos herror, List.flatMap_cons, preorder_eq, List.cons_append,
      List.find?_cons_of_pos herror]
  | case3 node stack herror hflawed ih =>
    obtain ⟨hnode, hstack⟩ := List.forall_mem_cons.1 hflags
    have hchildren : ∀ below ∈ node.children ++ stack, below.IsFlagged := by
      intro below hbelow
      rcases List.mem_append.1 hbelow with hchild | hbelow
      · exact hnode.of_mem_children hchild
      · exact hstack below hbelow
    rw [firstErrorFrom?, if_neg herror, if_pos hflawed, ih hchildren, List.flatMap_append, List.flatMap_cons,
      preorder_eq, List.cons_append, List.find?_cons_of_neg herror]
  | case4 node stack herror hflawed ih =>
    obtain ⟨hnode, hstack⟩ := List.forall_mem_cons.1 hflags
    have hnone : node.preorder.find? (·.isError) = none := by
      refine List.find?_eq_none.2 fun below hbelow => ?_
      rw [hnode.isError_eq_false (Bool.eq_false_iff.2 herror) (Bool.eq_false_iff.2 hflawed) hbelow]
      exact Bool.false_ne_true
    rw [firstErrorFrom?, if_neg herror, if_neg hflawed, ih hstack, List.flatMap_cons, List.find?_append, hnone,
      Option.none_or]

theorem firstErrorLine_eq {root : Cst} (hflags : root.IsFlagged) :
    root.firstErrorLine = ((root.preorder.find? (·.isError)).getD root).line := by
  rw [firstErrorLine, firstErrorFrom?_eq_find? [root] fun node hnode => List.mem_singleton.1 hnode ▸ hflags,
    List.flatMap_singleton]

/-- The line of the first error in document order, flags or not, and the smallest line of any error when rows do not
decrease in this order. -/
theorem firstErrorLine_of_isFlagged (root : Cst) (hflags : root.IsFlagged) :
    root.firstErrorLine = ((root.preorder.find? (·.isError)).getD root).line
      ∧ (root.preorder.Pairwise (fun node later => node.row ≤ later.row) →
        ∀ error ∈ root.preorder, error.isError = true →
          root.firstErrorLine ≤ error.line
            ∧ ∃ first ∈ root.preorder, first.isError = true ∧ first.line = root.firstErrorLine) := by
  have hfirst := firstErrorLine_eq hflags
  refine ⟨hfirst, fun hrows error herror hisError => ?_⟩
  rw [hfirst]
  cases hfound : root.preorder.find? (·.isError) with
  | none => exact absurd hisError (List.find?_eq_none.1 hfound error herror)
  | some first =>
    obtain ⟨hfirstError, before, after, hpreorder, hbefore⟩ := List.find?_eq_some_iff_append.1 hfound
    have hmem : first ∈ root.preorder := List.mem_of_find?_eq_some hfound
    refine ⟨?_, first, hmem, hfirstError, rfl⟩
    rw [hpreorder] at hrows herror
    have hafter : error ∈ first :: after := by
      refine (List.mem_append.1 herror).resolve_left fun hearlier => ?_
      have hclean := hbefore error hearlier
      rw [hisError] at hclean
      cases hclean
    rcases List.mem_cons.1 hafter with rfl | hafter
    · exact Int.le_refl _
    · have hrow := (List.pairwise_cons.1 (List.pairwise_append.1 hrows).2.1).1 error hafter
      exact Int.add_le_add_right (Int.ofNat_le.2 hrow) 1

def brokenTree : Cst where
  kind := "program"
  flawed := true
  children :=
    [{ kind := "comment", children := [{ kind := "/*", named := false }] },
      { kind := "expression_statement"
        flawed := true
        children :=
          [{ kind := "identifier", text := "foo" },
            { kind := ";", row := 1, named := false, missing := true, flawed := true }] },
      { kind := "ERROR", row := 2, flawed := true }]

theorem firstErrorLine_brokenTree :
    brokenTree.IsFlagged ∧ brokenTree.preorder.Pairwise (fun node later => node.row ≤ later.row)
      ∧ (∃ error ∈ brokenTree.preorder, error.isError = true ∧ error.line = 3
        ∧ brokenTree.firstErrorLine ≤ error.line)
      ∧ brokenTree.firstErrorLine = 2 := by
  have hflags : brokenTree.IsFlagged := by decide
  have hrows : brokenTree.preorder.Pairwise (fun node later => node.row ≤ later.row) := by decide
  have h := firstErrorLine_of_isFlagged brokenTree hflags
  have hlast : { kind := "ERROR", row := 2, flawed := true } ∈ brokenTree.preorder := by
    simp [brokenTree, preorder, preorderAll]
  refine ⟨hflags, hrows, ⟨_, hlast, by decide, by decide, (h.2 hrows _ hlast (by decide)).1⟩, ?_⟩
  rw [h.1]
  decide

/-! ### The trees of the grammars -/

/-- Whether the flag of every node is set when the node is an error or a child is flagged. -/
def FlagsUp (root : Cst) : Prop :=
  ∀ node ∈ root.preorder, node.isError = true ∨ (∃ child ∈ node.children, child.flawed = true) → node.flawed = true

theorem FlagsUp.of_mem_children {node child : Cst} (h : node.FlagsUp) (hchild : child ∈ node.children) :
    child.FlagsUp :=
  fun below hbelow => h below (mem_preorder_of_mem_children hchild hbelow)

theorem flagsUp_of_children {node : Cst} (hchildren : ∀ child ∈ node.children, child.FlagsUp)
    (hflag : node.isError = true ∨ (∃ child ∈ node.children, child.flawed = true) → node.flawed = true) :
    node.FlagsUp := by
  intro below hbelow
  rw [preorder_eq] at hbelow
  rcases List.mem_cons.1 hbelow with rfl | hbelow
  · exact hflag
  · obtain ⟨child, hchild, hbelow⟩ := List.mem_flatMap.1 hbelow
    exact hchildren child hchild below hbelow

theorem FlagsUp.flawed_of_isError {node below : Cst} (h : node.FlagsUp) (hbelow : below ∈ node.preorder)
    (herror : below.isError = true) : node.flawed = true := by
  rw [preorder_eq] at hbelow
  rcases List.mem_cons.1 hbelow with rfl | hbelow
  · exact h _ (mem_preorder_self _) (Or.inl herror)
  · obtain ⟨child, hchild, hbelow⟩ := List.mem_flatMap.1 hbelow
    exact h node (mem_preorder_self node)
      (Or.inr ⟨child, hchild, (h.of_mem_children hchild).flawed_of_isError hbelow herror⟩)
termination_by node
decreasing_by exact sizeOf_lt_of_mem_children hchild

theorem FlagsUp.isFlagged {root : Cst} (h : root.FlagsUp) : root.IsFlagged := by
  intro node hnode child hchild below hbelow herror
  have hup : node.FlagsUp := fun other hother => h other (mem_preorder_trans hnode hother)
  exact hup.flawed_of_isError (mem_preorder_of_mem_children hchild hbelow) herror

end Cst

namespace Grammar

mutual

theorem flagsUp_treeOf (source : SourceText) {extras : Nat → Nat → List Cst}
    (hextras : ∀ start stop, ∀ tree ∈ extras start stop, tree.FlagsUp) (node : Node) :
    (treeOf source extras node).FlagsUp := by
  obtain ⟨kind, named, label, start, stop, missing, children⟩ := node
  rw [treeOf]
  refine Cst.flagsUp_of_children (flagsUp_treesOf source hextras start children) ?_
  rintro (herror | ⟨child, hchild, hflawed⟩)
  · dsimp only
    rw [Bool.or_eq_true]
    exact Or.inl herror
  · dsimp only
    rw [Bool.or_eq_true]
    exact Or.inr (List.any_eq_true.2 ⟨child, hchild, hflawed⟩)

theorem flagsUp_treesOf (source : SourceText) {extras : Nat → Nat → List Cst}
    (hextras : ∀ start stop, ∀ tree ∈ extras start stop, tree.FlagsUp) (place : Nat) (nodes : List Node) :
    ∀ tree ∈ treesOf source extras place nodes, tree.FlagsUp := by
  intro tree htree
  cases nodes with
  | nil => cases htree
  | cons node rest =>
    obtain ⟨kind, named, label, start, stop, missing, children⟩ := node
    rw [treesOf] at htree
    rcases List.mem_append.1 htree with htree | htree
    · exact hextras place start tree htree
    · rcases List.mem_cons.1 htree with rfl | htree
      · exact flagsUp_treeOf source hextras _
      · exact flagsUp_treesOf source hextras stop rest tree htree

end

theorem flagsUp_extraTrees (source : SourceText) (start stop : Nat) :
    ∀ tree ∈ extraTrees source start stop, tree.FlagsUp := by
  have hcomments : ∀ start stop, ∀ tree ∈ commentTrees source start stop, tree.FlagsUp := by
    intro start stop tree htree
    obtain ⟨node, -, rfl⟩ := List.mem_map.1 htree
    exact flagsUp_treeOf source (fun _ _ _ hmem => absurd hmem List.not_mem_nil) node
  intro tree htree
  obtain ⟨node, -, rfl⟩ := List.mem_map.1 htree
  exact flagsUp_treeOf source hcomments node

theorem flagsUp_programTree (source : SourceText) (nodes : List Node) : (programTree source nodes).FlagsUp := by
  refine Cst.flagsUp_of_children ?_ ?_
  · intro child hchild
    rcases List.mem_append.1 hchild with hchild | hchild
    · exact flagsUp_treesOf source (flagsUp_extraTrees source) 0 nodes child hchild
    · exact flagsUp_extraTrees source _ _ child hchild
  · have hsound : (programTree source nodes).isError = false := rfl
    rintro (herror | ⟨child, hchild, hflawed⟩)
    · exact absurd (hsound.symm.trans herror) Bool.false_ne_true
    · exact Bool.or_eq_true_iff.2 (Or.inr (List.any_eq_true.2 ⟨child, hchild, hflawed⟩))

/-- The line that is reported for a source with errors is that of the first one. -/
theorem firstErrorLine_parse (dialect : Dialect) (text : String) :
    (parse dialect text).firstErrorLine
      = (((parse dialect text).preorder.find? (·.isError)).getD (parse dialect text)).line := by
  refine Cst.firstErrorLine_eq (Cst.FlagsUp.isFlagged ?_)
  rw [parse]
  dsimp only
  split <;> exact flagsUp_programTree _ _

end Grammar

end UseSites
