import UseSites.Proofs.Project.Arrival
import UseSites.Proofs.Syntax.Faithful
import UseSites.Proofs.Text.Excerpt
import UseSites.Proofs.Use.Mentions
/-!
# References show the symbol

A reference has a line and an excerpt, and a reader expects to find the symbol there. Rows of the tree, lines of the
outline, lines of the text and rows of the excerpt are counted in four places, and here the counts are brought
together: for an import and for a direct call, the line exists, it has the symbol in it, and it is the one row of
the excerpt with a mark.

Only the faithfulness of the tree is assumed. Callbacks and calls of methods are left out, as an access is on the
line where the whole access starts and its member may stand further down.
-/

namespace UseSites

namespace Outline

variable {symbol : String} {root : Outline} {use : Use}

theorem mem_firmUses_of_role_ne (huse : use ∈ root.uses symbol) (hrole : use.role ≠ .callback) :
    use ∈ root.firmUses symbol := by
  rw [uses_eq, List.mem_append] at huse
  exact huse.resolve_right fun htagged => hrole (mem_tagged.1 htagged).1

theorem mem_importLines_of_role (huse : use ∈ root.uses symbol) (hrole : use.role = .imported) :
    use.line ∈ importLines symbol root.sites := by
  have hfirm := mem_firmUses_of_role_ne huse (by rw [hrole]; decide)
  rw [importLines_sites]
  rcases mem_firmUses.1 hfirm with ⟨-, hline⟩ | ⟨hother, -⟩ | ⟨hother, -⟩
  · exact hline
  all_goals
    rw [hrole] at hother
    cases hother

theorem mem_directCallLines_of_role (huse : use ∈ root.uses symbol) (hrole : use.role = .directCall) :
    use.line ∈ directCallLines symbol root.sites := by
  have hfirm := mem_firmUses_of_role_ne huse (by rw [hrole]; decide)
  rw [directCallLines_sites]
  rcases mem_firmUses.1 hfirm with ⟨hother, -⟩ | ⟨-, hline⟩ | ⟨hother, -⟩
  · rw [hrole] at hother
    cases hother
  · exact hline
  · rw [hrole] at hother
    cases hother

theorem shownAt_of_mem_uses {text : String} {tree : Cst} (hfaithful : tree.Faithful text)
    (huse : use ∈ tree.outline.uses symbol) (hrole : use.role = .imported ∨ use.role = .directCall) :
    Cst.ShownAt text symbol use.line := by
  rcases hrole with hrole | hrole
  · exact Cst.shownAt_of_importLines hfaithful (mem_importLines_of_role huse hrole)
  · exact Cst.shownAt_of_directCallLines hfaithful (mem_directCallLines_of_role huse hrole)

end Outline

namespace Search

variable {search : Search}

/-- The line of an import or a direct call has the symbol in it, and the excerpt marks this line and no other. -/
theorem reference_shows_symbol {path : Path} {text : String} {tree : Cst} {category : Category}
    {reference : Reference} (hfaithful : tree.Faithful text) (hsymbol : search.settings.symbol ≠ "")
    (hreturn : '\r' ∉ search.settings.symbol.toList)
    (hreference : reference ∈ search.references category ⟨path, text, tree.outline⟩)
    (hrole : reference.role = .imported ∨ reference.role = .directCall) :
    1 ≤ reference.line ∧ reference.line ≤ (Text.splitLines text).length
      ∧ ∃ line, (Text.splitLines text)[(reference.line - 1).toNat]? = some line
        ∧ search.settings.symbol.toList <:+: line.toList
        ∧ ∃ width, (Text.pieces '\n' reference.context.toList).filter (·.head? = some '>')
          = [("> " ++ Excerpt.padded width reference.line ++ ": " ++ line).toList] := by
  obtain ⟨use, huse, rfl⟩ := List.mem_map.1 hreference
  obtain ⟨i, row, hline, hrow, hshown⟩ := Outline.shownAt_of_mem_uses hfaithful huse hrole
  obtain ⟨line, hget, hinfix⟩ := Text.line_of_row hsymbol hreturn hrow hshown
  obtain ⟨hbound, -⟩ := List.getElem?_eq_some_iff.1 hget
  have hposition : (use.line - 1).toNat = i := by omega
  have hmarked := Excerpt.filter_marked_render search.settings.window
    (fun line hmem => Text.notMem_of_mem_splitLines hmem) hget hline
  dsimp only
  refine ⟨by omega, by omega, line, ?_, hinfix, hmarked⟩
  rw [hposition, hget]

/-- A text in which a name is imported and called, and the tree of it. -/
def calledText : String := "import foo from 'foo';\nfoo();\n"

def calledTree : Cst where
  kind := "program"
  children :=
    [{ kind := "import_statement"
       children :=
        [{ kind := "import_clause", children := [{ kind := "identifier", text := "foo" }] },
          { kind := "string", text := "'foo'", label := some "source" }] },
      { kind := "expression_statement"
        row := 1
        children :=
          [{ kind := "call_expression"
             row := 1
             children :=
              [{ kind := "identifier", row := 1, text := "foo", label := some "function" },
                { kind := "arguments", row := 1, label := some "arguments" }] }] }]

theorem faithful_calledTree : calledTree.Faithful calledText := by
  have hfoo : ∀ token : Cst, token.row = 0 ∨ token.row = 1 → token.text = "foo" → Cst.StandsIn calledText token := by
    rintro token hrow htext
    unfold Cst.StandsIn
    rw [htext]
    rcases hrow with hrow | hrow <;> rw [hrow]
    · exact ⟨"import foo from 'foo';".toList, by decide, "import ".toList, " from 'foo';".toList, by decide⟩
    · exact ⟨"foo();".toList, by decide, [], "();".toList, by decide⟩
  have huses : ∀ node ∈ calledTree.preorder, node.kind ∈ Cst.useKinds →
      (node.row = 0 ∨ node.row = 1) ∧ node.text = "foo" := by decide
  have hparts : ∀ node ∈ calledTree.preorder, ∀ clause ∈ node.namedChildren, clause.kind = "import_clause" →
      ∀ part ∈ clause.namedChildren, part.kind = "identifier" ∧ part.row = 0 ∧ part.text = "foo" := by decide
  have hclauses : ∀ node ∈ calledTree.preorder, ∀ clause ∈ node.namedChildren,
      clause.kind ≠ "import_require_clause" := by decide
  have hrequired : ∀ node ∈ calledTree.preorder, node.required?.isSome = false := by decide
  have hcalls : ∀ node ∈ calledTree.preorder, (node.child? "function").all (·.row == node.row) = true := by decide
  constructor
  · intro node hnode token htoken
    have hmem := Cst.mem_preorder_of_mem_retained hnode
    cases htoken with
    | use hkind =>
      obtain ⟨hrow, htext⟩ := huses node hmem hkind
      exact hfoo node hrow htext
    | clause _ hclause hsort hpart htoken =>
      obtain ⟨hkind, hrow, htext⟩ := hparts node hmem _ hclause hsort _ hpart
      cases htoken with
      | default => exact hfoo _ (Or.inl hrow) htext
      | everything hother | renamed hother | named hother =>
        rw [hkind] at hother
        exact absurd hother (by decide)
    | require _ hclause hsort _ => exact absurd hsort (hclauses node hmem _ hclause)
    | declarator hsome _ _ =>
      rw [hrequired node hmem] at hsome
      cases hsome
  · intro node hnode _ callee hcallee
    have hrow := hcalls node (Cst.mem_preorder_of_mem_retained hnode)
    rw [hcallee, Option.all_some] at hrow
    exact beq_iff_eq.1 hrow

def calledReference : Reference where
  file := "/project/a.ts"
  line := 2
  role := .directCall
  category := .internal
  context := Excerpt.render sample.settings.window (Text.splitLines calledText) 2

/-- The reference to the call is found, and the marked row of its excerpt is the second line. -/
theorem call_shows_foo :
    calledReference ∈ sample.references .internal ⟨Path.ofString "/project/a.ts", calledText, calledTree.outline⟩
      ∧ ∃ width, (Text.pieces '\n' calledReference.context.toList).filter (·.head? = some '>')
        = [("> " ++ Excerpt.padded width 2 ++ ": " ++ "foo();").toList] := by
  have hline : (2 : Int) ∈ calledTree.outline.linesOf .directCall "foo" := by decide
  have huse : ⟨2, .directCall⟩ ∈ calledTree.outline.uses "foo" := by
    rw [Outline.uses_eq]
    exact List.mem_append_left _ (Outline.mem_firmUses.2 (Or.inr (Or.inl ⟨rfl, hline⟩)))
  have hfile : (Path.ofString "/project/a.ts").toString = "/project/a.ts" := by decide
  have hreference : calledReference
      ∈ sample.references .internal ⟨Path.ofString "/project/a.ts", calledText, calledTree.outline⟩ := by
    refine List.mem_map.2 ⟨_, huse, ?_⟩
    rw [hfile]
    rfl
  obtain ⟨-, -, line, hget, -, hmarked⟩ :=
    reference_shows_symbol faithful_calledTree (by decide) (by decide) hreference (Or.inr rfl)
  have hsecond : (Text.splitLines calledText)[1]? = some "foo();" := by decide
  obtain rfl : line = "foo();" := Option.some.inj (hget.symm.trans hsecond)
  exact ⟨hreference, hmarked⟩

end Search

end UseSites
