import Mathlib.Data.List.Basic
import Mathlib.Data.List.DropRight
import UseSites.Text.Lines
/-!
# Cutting a text and putting it together

`joined_pieces` says that cutting loses nothing. Here is the other direction: texts without the mark, put
together with the mark between them, are the pieces of the result.

The pieces are in the order of the text, and the number of a piece counts the marks before it. `between_marks_iff` and
`pieces_getElem?_stretch` find a piece from what stands around it that way.
-/

namespace UseSites.Text

theorem pieces_mark_cons (mark : Char) (rest : List Char) : pieces mark (mark :: rest) = [] :: pieces mark rest := by
  rw [pieces, if_pos rfl]

theorem pieces_of_notMem {mark : Char} {text : List Char} (h : mark ∉ text) : pieces mark text = [text] := by
  induction text with
  | nil => rfl
  | cons c rest ih =>
    obtain ⟨hne, hrest⟩ := List.ne_and_not_mem_of_not_mem_cons h
    rw [pieces, if_neg (Ne.symm hne), ih hrest]

theorem pieces_append_mark (mark : Char) (text rest : List Char) :
    pieces mark (text ++ mark :: rest) = pieces mark text ++ pieces mark rest := by
  induction text with
  | nil => exact pieces_mark_cons mark rest
  | cons c text ih =>
    rw [List.cons_append, pieces, pieces, ih]
    split
    · rfl
    · cases hpieces : pieces mark text with
      | nil => exact absurd hpieces (pieces_ne_nil mark text)
      | cons first others => rfl

theorem pieces_intercalate_eq_flatMap {mark : Char} {texts : List (List Char)} (hne : texts ≠ []) :
    pieces mark ([mark].intercalate texts) = texts.flatMap (pieces mark) := by
  induction texts with
  | nil => exact absurd rfl hne
  | cons text rest ih =>
    cases rest with
    | nil => rw [List.intercalate_singleton, List.flatMap_cons, List.flatMap_nil, List.append_nil]
    | cons next others =>
      rw [List.intercalate_cons_cons, List.append_assoc, List.singleton_append, pieces_append_mark,
        ih (List.cons_ne_nil _ _), ← List.flatMap_cons]

theorem flatMap_pieces_of_notMem {mark : Char} {texts : List (List Char)} (h : ∀ text ∈ texts, mark ∉ text) :
    texts.flatMap (pieces mark) = texts := by
  rw [List.flatMap_congr fun text htext => pieces_of_notMem (h text htext), List.flatMap_singleton']

theorem pieces_intercalate {mark : Char} {texts : List (List Char)} (hne : texts ≠ [])
    (h : ∀ text ∈ texts, mark ∉ text) : pieces mark ([mark].intercalate texts) = texts := by
  rw [pieces_intercalate_eq_flatMap hne, flatMap_pieces_of_notMem h]

theorem notMem_of_mem_pieces {mark : Char} {text piece : List Char} (h : piece ∈ pieces mark text) :
    mark ∉ piece := by
  induction text generalizing piece with
  | nil =>
    rw [pieces, List.mem_singleton] at h
    rw [h]
    exact List.not_mem_nil
  | cons c rest ih =>
    rw [pieces] at h
    split at h
    · rcases List.mem_cons.1 h with rfl | hrest
      · exact List.not_mem_nil
      · exact ih hrest
    · rename_i hne
      cases hpieces : pieces mark rest with
      | nil => exact absurd hpieces (pieces_ne_nil mark rest)
      | cons first others =>
        rw [hpieces] at h ih
        rcases List.mem_cons.1 h with rfl | hother
        · exact List.not_mem_cons_of_ne_of_not_mem (Ne.symm hne) (ih List.mem_cons_self)
        · exact ih (List.mem_cons_of_mem _ hother)

theorem length_pieces (mark : Char) (text : List Char) : (pieces mark text).length = text.count mark + 1 := by
  induction text with
  | nil => rfl
  | cons c rest ih =>
    rw [pieces]
    split
    · rename_i hmark
      rw [hmark, List.length_cons, ih, List.count_cons_self]
    · rename_i hmark
      rw [List.count_cons_of_ne hmark]
      cases hpieces : pieces mark rest with
      | nil => exact absurd hpieces (pieces_ne_nil mark rest)
      | cons first others =>
        rw [hpieces, List.length_cons] at ih
        rw [List.length_cons, ih]

theorem head?_pieces (mark : Char) (text : List Char) :
    (pieces mark text).head? = some (text.takeWhile (· ≠ mark)) := by
  induction text with
  | nil => rfl
  | cons c rest ih =>
    rw [pieces]
    split
    · rename_i hmark
      rw [List.head?_cons, List.takeWhile_cons_of_neg (by simpa using hmark)]
    · rename_i hmark
      rw [List.takeWhile_cons_of_pos (by simpa using hmark)]
      cases hpieces : pieces mark rest with
      | nil => exact absurd hpieces (pieces_ne_nil mark rest)
      | cons first others =>
        rw [hpieces, List.head?_cons] at ih
        rw [List.head?_cons, Option.some.inj ih]

/-! ### Words in a text -/

theorem joined_cons (mark : Char) (text : List Char) {texts : List (List Char)} (hne : texts ≠ []) :
    joined mark (text :: texts) = text ++ mark :: joined mark texts := by
  cases texts with
  | nil => exact absurd rfl hne
  | cons next rest => rfl

theorem joined_append (mark : Char) {texts others : List (List Char)} (htexts : texts ≠ []) (hothers : others ≠ []) :
    joined mark (texts ++ others) = joined mark texts ++ mark :: joined mark others := by
  induction texts with
  | nil => exact absurd rfl htexts
  | cons text rest ih =>
    cases rest with
    | nil => exact joined_cons mark text hothers
    | cons next more =>
      rw [List.cons_append, joined_cons mark text (List.cons_ne_nil _ _),
        joined_cons mark text (List.append_ne_nil_of_left_ne_nil (List.cons_ne_nil _ _) _), ih (List.cons_ne_nil _ _),
        List.append_assoc, List.cons_append]

theorem joined_eq_intercalate (mark : Char) (texts : List (List Char)) :
    joined mark texts = [mark].intercalate texts := by
  induction texts with
  | nil => rfl
  | cons text rest ih =>
    cases rest with
    | nil => rw [joined, List.intercalate_singleton]
    | cons next others =>
      rw [joined_cons mark text (List.cons_ne_nil _ _), ih, List.intercalate_cons_cons, List.append_assoc,
        List.singleton_append]

/-- A text is cut at a mark exactly where its pieces are. -/
theorem eq_append_mark_iff {mark : Char} {text before after : List Char} :
    text = before ++ mark :: after ↔ pieces mark text = pieces mark before ++ pieces mark after := by
  constructor
  · rintro rfl
    exact pieces_append_mark mark before after
  · intro h
    rw [← joined_pieces mark text, h, joined_append mark (pieces_ne_nil mark before) (pieces_ne_nil mark after),
      joined_pieces, joined_pieces]

/-- Pieces without the mark are the pieces of the text that they make. -/
theorem pieces_joined {mark : Char} {texts : List (List Char)} (hne : texts ≠ []) (h : ∀ text ∈ texts, mark ∉ text) :
    pieces mark (joined mark texts) = texts := by
  rw [joined_eq_intercalate, pieces_intercalate hne h]

theorem pieces_between_marks {mark : Char} {word : List Char} (hword : mark ∉ word) (before after : List Char) :
    pieces mark (before ++ mark :: (word ++ mark :: after)) = pieces mark before ++ word :: pieces mark after := by
  rw [pieces_append_mark, pieces_append_mark, pieces_of_notMem hword, List.singleton_append]

/-- A word without the mark stands between two marks exactly where it is a piece with others on both sides. The
number of that piece counts the marks up to the word. -/
theorem between_marks_iff {mark : Char} {word text : List Char} (hword : mark ∉ word) {i : Nat} :
    (∃ before after, text = before ++ mark :: (word ++ mark :: after) ∧ before.count mark + 1 = i)
      ↔ 1 ≤ i ∧ i + 2 ≤ (pieces mark text).length ∧ (pieces mark text)[i]? = some word := by
  constructor
  · rintro ⟨before, after, rfl, rfl⟩
    have hafter := List.length_pos_of_ne_nil (pieces_ne_nil mark after)
    rw [pieces_between_marks hword, ← length_pieces]
    refine ⟨List.length_pos_of_ne_nil (pieces_ne_nil mark before), ?_, ?_⟩
    · rw [List.length_append, List.length_cons]
      omega
    · rw [List.getElem?_append_right (Nat.le_refl _), Nat.sub_self, List.getElem?_cons_zero]
  · rintro ⟨hfirst, hlast, hpiece⟩
    obtain ⟨hbound, hget⟩ := List.getElem?_eq_some_iff.1 hpiece
    have hclean : ∀ piece ∈ pieces mark text, mark ∉ piece := fun piece => notMem_of_mem_pieces
    have hbefore : pieces mark (joined mark ((pieces mark text).take i)) = (pieces mark text).take i :=
      pieces_joined (List.ne_nil_of_length_pos (by rw [List.length_take]; omega))
        fun piece hmem => hclean piece (List.mem_of_mem_take hmem)
    have hafter : pieces mark (joined mark ((pieces mark text).drop (i + 1))) = (pieces mark text).drop (i + 1) :=
      pieces_joined (List.ne_nil_of_length_pos (by rw [List.length_drop]; omega))
        fun piece hmem => hclean piece (List.mem_of_mem_drop hmem)
    refine ⟨joined mark ((pieces mark text).take i), joined mark ((pieces mark text).drop (i + 1)), ?_, ?_⟩
    · rw [eq_append_mark_iff, pieces_append_mark, pieces_of_notMem hword, hbefore, hafter, ← hget,
        List.singleton_append, List.getElem_cons_drop, List.take_append_drop]
    · rw [← length_pieces, hbefore, List.length_take, Nat.min_eq_left (by omega)]

theorem infix_append_mark_iff {mark : Char} {word : List Char} (hword : mark ∉ word) (text rest : List Char) :
    word <:+: text ++ mark :: rest ↔ word <:+: text ∨ word <:+: rest := by
  constructor
  · rintro ⟨before, after, happend⟩
    rcases List.append_eq_append_iff.1 happend with ⟨between, htext, -⟩ | ⟨between, hword', hrest⟩
    · exact Or.inl ⟨before, between, htext.symm⟩
    · cases between with
      | nil =>
        rw [List.append_nil] at hword'
        exact Or.inl ⟨before, [], by rw [List.append_nil, hword']⟩
      | cons c between =>
        obtain ⟨rfl, rfl⟩ := List.cons.inj hrest
        rcases List.append_eq_append_iff.1 hword' with ⟨inner, -, hinner⟩ | ⟨inner, -, hinner⟩
        · rw [hinner] at hword
          exact absurd (List.mem_append_right _ List.mem_cons_self) hword
        · cases inner with
          | nil =>
            rw [List.nil_append] at hinner
            rw [← hinner] at hword
            exact absurd List.mem_cons_self hword
          | cons d inner =>
            rw [(List.cons.inj hinner).2]
            exact Or.inr ⟨inner, after, rfl⟩
  · rintro (h | h)
    · exact h.trans (List.prefix_append _ _).isInfix
    · exact h.trans ((List.suffix_cons _ _).trans (List.suffix_append _ _)).isInfix

theorem infix_joined_iff {mark : Char} {word : List Char} (hword : mark ∉ word) {texts : List (List Char)}
    (hne : texts ≠ []) : word <:+: joined mark texts ↔ ∃ text ∈ texts, word <:+: text := by
  induction texts with
  | nil => exact absurd rfl hne
  | cons text rest ih =>
    by_cases hrest : rest = []
    · rw [hrest, joined, List.exists_mem_cons_iff]
      simp
    · rw [joined_cons mark text hrest, infix_append_mark_iff hword, ih hrest, List.exists_mem_cons_iff]

/-- A word without the mark stands in a text where it stands in one of the pieces. -/
theorem infix_iff_exists_piece {mark : Char} {word : List Char} (hword : mark ∉ word) (text : List Char) :
    word <:+: text ↔ ∃ piece ∈ pieces mark text, word <:+: piece := by
  conv_lhs => rw [← joined_pieces mark text]
  exact infix_joined_iff hword (pieces_ne_nil mark text)

/-- A word without the mark stands between two marks of a text if some inner piece is that word. -/
theorem infix_between_marks_iff {mark : Char} {word : List Char} (hword : mark ∉ word) (text : List Char) :
    mark :: (word ++ [mark]) <:+: text
      ↔ ∃ i, 1 ≤ i ∧ i + 2 ≤ (pieces mark text).length ∧ (pieces mark text)[i]? = some word := by
  constructor
  · rintro ⟨before, after, rfl⟩
    exact ⟨_, (between_marks_iff hword).1 ⟨before, after, by simp, rfl⟩⟩
  · rintro ⟨i, hpiece⟩
    obtain ⟨before, after, rfl, -⟩ := (between_marks_iff hword).2 hpiece
    exact ⟨before, after, by simp⟩

/-! ### Stretches from mark to mark -/

/-- A stretch without the mark that reaches from mark to mark is a piece. Its number counts the marks before it. -/
theorem pieces_getElem?_stretch {mark : Char} {before stretch after : List Char} (hstretch : mark ∉ stretch)
    (hbefore : ∀ c ∈ before.getLast?, c = mark) (hafter : ∀ c ∈ after.head?, c = mark) :
    (pieces mark (before ++ (stretch ++ after)))[before.count mark]? = some stretch := by
  have hfirst : (pieces mark (stretch ++ after))[0]? = some stretch := by
    cases after with
    | nil => rw [List.append_nil, pieces_of_notMem hstretch, List.getElem?_cons_zero]
    | cons c after =>
      obtain rfl := hafter c rfl
      rw [pieces_append_mark, pieces_of_notMem hstretch, List.singleton_append, List.getElem?_cons_zero]
  rcases List.eq_nil_or_concat before with rfl | ⟨start, c, rfl⟩
  · exact hfirst
  · rw [List.concat_eq_append] at hbefore ⊢
    obtain rfl := hbefore c List.getLast?_concat
    rw [List.append_assoc, List.singleton_append, pieces_append_mark, List.count_append, List.count_singleton_self,
      ← length_pieces, List.getElem?_append_right (Nat.le_refl _), Nat.sub_self, hfirst]

theorem exists_stretch {mark c : Char} (hne : c ≠ mark) (start rest : List Char) :
    ∃ before left right after, start = before ++ left ∧ rest = right ++ after ∧ mark ∉ left ++ c :: right
      ∧ before.count mark = start.count mark ∧ (∀ d ∈ before.getLast?, d = mark) ∧ ∀ d ∈ after.head?, d = mark := by
  have hleft : mark ∉ start.rtakeWhile (· ≠ mark) := fun h => by simpa using List.mem_rtakeWhile_imp h
  have hright : mark ∉ rest.takeWhile (· ≠ mark) := fun h => by simpa using List.mem_takeWhile_imp h
  refine ⟨start.rdropWhile (· ≠ mark), start.rtakeWhile (· ≠ mark), rest.takeWhile (· ≠ mark),
    rest.dropWhile (· ≠ mark), List.rdropWhile_append_rtakeWhile.symm, List.takeWhile_append_dropWhile.symm, ?_, ?_, ?_,
    ?_⟩
  · rw [List.mem_append, List.mem_cons, not_or, not_or]
    exact ⟨hleft, hne.symm, hright⟩
  · conv_rhs => rw [← List.rdropWhile_append_rtakeWhile (p := (· ≠ mark)) (l := start)]
    rw [List.count_append, List.count_eq_zero_of_not_mem hleft, Nat.add_zero]
  · intro d hd
    obtain ⟨hnonempty, rfl⟩ := List.mem_getLast?_eq_getLast hd
    simpa using List.rdropWhile_last_not _ start hnonempty
  · intro d hd
    have hhead := List.head?_dropWhile_not (· ≠ mark) rest
    rw [Option.mem_def.1 hd] at hhead
    simpa using hhead

/-- A text ends in a mark exactly if its last piece is empty and not the only one. -/
theorem getLast?_pieces_eq_nil_iff {mark : Char} {text : List Char} :
    (pieces mark text).length > 1 ∧ (pieces mark text).getLast? = some [] ↔ text.getLast? = some mark := by
  constructor
  · rintro ⟨hlength, hlast⟩
    obtain ⟨others, hpieces⟩ := List.getLast?_eq_some_iff.1 hlast
    have hothers : others ≠ [] := by
      rintro rfl
      rw [hpieces] at hlength
      exact absurd hlength (by decide)
    rw [← joined_pieces mark text, hpieces, joined_append mark hothers (List.cons_ne_nil _ _)]
    exact List.getLast?_concat
  · intro hlast
    obtain ⟨others, rfl⟩ := List.getLast?_eq_some_iff.1 hlast
    rw [pieces_append_mark, List.length_append]
    exact ⟨Nat.succ_lt_succ (List.length_pos_of_ne_nil (pieces_ne_nil mark others)), List.getLast?_concat⟩

end UseSites.Text
