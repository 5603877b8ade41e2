import Mathlib.Data.List.Infix
import UseSites.Grammar.Parse
import UseSites.Proofs.Text.Pieces
/-!
# Lines and rows

A concrete tree counts rows by line feeds. The lines of a text are almost these rows: a return at the end of a row
is cut off, and an empty last row is no line. Neither touches a row that shows something other than a return, so
`line_of_row` finds the line for it under the same number.

`splitLines_eq` says the same without a case for the empty last row: the lines are the rows of the text without the
line feed that ends it. What is known of pieces is then known of lines, and `splitLines_rows` sums it up.
-/

namespace UseSites

namespace Text

/-- Cutting off a return leaves a text alone that has none. -/
theorem infix_withoutReturn {symbol row : List Char} (hne : symbol ≠ []) (hreturn : '\r' ∉ symbol)
    (hrow : symbol <:+: row) : symbol <:+: withoutReturn row := by
  unfold withoutReturn
  split
  · rename_i hlast
    obtain ⟨before, rest, rfl⟩ := hrow
    have hrest : rest ≠ [] := by
      rintro rfl
      rw [List.append_nil, List.getLast?_append_of_ne_nil _ hne] at hlast
      exact hreturn (List.mem_of_getLast? hlast)
    rw [List.dropLast_append_of_ne_nil hrest]
    exact List.infix_append before symbol rest.dropLast
  · exact hrow

theorem withoutTrailingEmpty_getElem? {rows : List (List Char)} {i : Nat} {row : List Char} (hne : row ≠ [])
    (hrow : rows[i]? = some row) : (withoutTrailingEmpty rows)[i]? = some row := by
  unfold withoutTrailingEmpty
  split
  · rename_i hempty
    obtain ⟨hbound, hget⟩ := List.getElem?_eq_some_iff.1 hrow
    -- the row that is dropped is empty, so it is not the one asked for
    have hlast : i ≠ rows.length - 1 := by
      rintro rfl
      rw [List.getLast?_eq_getElem?, hrow] at hempty
      exact hne (Option.some.inj hempty.2)
    rw [List.getElem?_dropLast, if_pos (by omega), hrow]
  · exact hrow

/-- A row that shows a symbol is the line with the next number, and the line shows it too. -/
theorem line_of_row {text symbol : String} {i : Nat} {row : List Char} (hne : symbol ≠ "")
    (hreturn : '\r' ∉ symbol.toList) (hrow : (pieces '\n' text.toList)[i]? = some row)
    (hshown : symbol.toList <:+: row) :
    ∃ line, (splitLines text)[i]? = some line ∧ symbol.toList <:+: line.toList := by
  have hsymbol : symbol.toList ≠ [] := fun h => hne (String.toList_eq_nil_iff.1 h)
  have hnonempty : row ≠ [] := by
    rintro rfl
    exact hsymbol (List.infix_nil.1 hshown)
  refine ⟨String.ofList (withoutReturn row), ?_, ?_⟩
  · rw [splitLines, List.getElem?_map, withoutTrailingEmpty_getElem? hnonempty hrow]
    rfl
  · rw [String.toList_ofList]
    exact infix_withoutReturn hsymbol hreturn hshown

/-! ### The lines of a text as its rows -/

def withoutFinalFeed (text : List Char) : List Char := if text.getLast? = some '\n' then text.dropLast else text

def lineOfRow (row : List Char) : String := String.ofList (withoutReturn row)

theorem withoutTrailingEmpty_pieces (text : List Char) :
    withoutTrailingEmpty (pieces '\n' text) = pieces '\n' (withoutFinalFeed text) := by
  rw [withoutTrailingEmpty, withoutFinalFeed]
  by_cases hfeed : text.getLast? = some '\n'
  · rw [if_pos (getLast?_pieces_eq_nil_iff.2 hfeed), if_pos hfeed]
    obtain ⟨body, rfl⟩ := List.getLast?_eq_some_iff.1 hfeed
    rw [pieces_append_mark, List.dropLast_concat, pieces, List.dropLast_concat]
  · rw [if_neg (mt getLast?_pieces_eq_nil_iff.1 hfeed), if_neg hfeed]

theorem splitLines_eq (text : String) :
    splitLines text = (pieces '\n' (withoutFinalFeed text.toList)).map lineOfRow := by
  rw [splitLines, withoutTrailingEmpty_pieces]
  rfl

theorem notMem_of_mem_splitLines {text line : String} (hline : line ∈ splitLines text) : '\n' ∉ line.toList := by
  rw [splitLines_eq] at hline
  obtain ⟨row, hrow, rfl⟩ := List.mem_map.1 hline
  have hpiece : '\n' ∉ row := notMem_of_mem_pieces hrow
  rw [lineOfRow, String.toList_ofList, withoutReturn]
  split
  · exact fun hmem => hpiece (List.dropLast_subset _ hmem)
  · exact hpiece

theorem splitLines_ne_nil (text : String) : splitLines text ≠ [] := by
  rw [splitLines_eq]
  exact mt List.map_eq_nil_iff.1 (pieces_ne_nil _ _)

theorem length_splitLines (text : String) :
    (splitLines text).length = text.toList.count '\n' + 1 - if text.toList.getLast? = some '\n' then 1 else 0 := by
  rw [splitLines_eq, List.length_map, length_pieces, withoutFinalFeed]
  split
  · rename_i hfeed
    obtain ⟨body, htext⟩ := List.getLast?_eq_some_iff.1 hfeed
    rw [htext, List.dropLast_concat, List.count_append, List.count_singleton_self, Nat.add_sub_cancel]
  · rfl

/-! ### The row around a position -/

/-- A stretch of a text around a position that reaches from line feed to line feed. -/
def IsRowAround (text : List Char) (position : Nat) (row : List Char) : Prop :=
  ∃ before after, text = before ++ (row ++ after) ∧ before.length ≤ position
    ∧ position < before.length + row.length ∧ '\n' ∉ row ∧ (∀ c ∈ before.getLast?, c = '\n')
    ∧ ∀ c ∈ after.head?, c = '\n'

/-- A line shows a row as it is, apart from one return at its end. -/
def Shows (line : String) (row : List Char) : Prop :=
  row = line.toList ++ ['\r'] ∨ row = line.toList ∧ row.getLast? ≠ some '\r'

theorem shows_lineOfRow (row : List Char) : Shows (lineOfRow row) row := by
  rw [Shows, lineOfRow, String.toList_ofList, withoutReturn]
  split
  · rename_i hreturn
    obtain ⟨line, rfl⟩ := List.getLast?_eq_some_iff.1 hreturn
    exact Or.inl (by rw [List.dropLast_concat])
  · rename_i hreturn
    exact Or.inr ⟨rfl, hreturn⟩

/-- The line with the number of a row shows the row around each of its positions. -/
theorem splitLines_getElem?_row {text : String} {position : Nat} {c : Char} (hc : text.toList[position]? = some c)
    (hne : c ≠ '\n') :
    ∃ row, IsRowAround text.toList position row
      ∧ (splitLines text)[(text.toList.take position).count '\n']? = some (lineOfRow row) := by
  obtain ⟨hbound, hget⟩ := List.getElem?_eq_some_iff.1 hc
  have htext : text.toList.take position ++ c :: text.toList.drop (position + 1) = text.toList := by
    rw [← hget, List.getElem_cons_drop, List.take_append_drop]
  obtain ⟨before, left, right, after, hstart, hrest, hrow, hcount, hbefore, hafter⟩ :=
    exists_stretch hne (text.toList.take position) (text.toList.drop (position + 1))
  have hsplit : text.toList = before ++ ((left ++ c :: right) ++ after) := by
    rw [← htext, hstart, hrest]
    simp only [List.append_assoc, List.cons_append]
  have hlength := congrArg List.length hstart
  rw [List.length_take, Nat.min_eq_left (Nat.le_of_lt hbound), List.length_append] at hlength
  refine ⟨left ++ c :: right, ⟨before, after, hsplit, by omega, ?_, hrow, hbefore, hafter⟩, ?_⟩
  · rw [List.length_append, List.length_cons]
    omega
  · have hpiece := pieces_getElem?_stretch hrow hbefore hafter
    rw [← hsplit, hcount] at hpiece
    rw [splitLines, List.getElem?_map, withoutTrailingEmpty_getElem? (by simp) hpiece]
    rfl

/-! ### Rows of concrete trees -/

theorem foldl_rows (text : List Char) (rows : Array Nat) (row : Nat) :
    text.foldl (fun (rows, row) c => (rows.push row, if c = '\n' then row + 1 else row)) (rows, row)
      = (rows ++ ((List.range text.length).map fun i => row + (text.take i).count '\n').toArray,
        row + text.count '\n') := by
  induction text generalizing rows row with
  | nil => simp
  | cons c rest ih =>
    have hcount (stretch : List Char) :
        (if c = '\n' then row + 1 else row) + stretch.count '\n' = row + (c :: stretch).count '\n' := by
      rw [List.count_cons]
      by_cases hfeed : c = '\n'
      · rw [if_pos hfeed, if_pos (beq_iff_eq.2 hfeed)]
        omega
      · rw [if_neg hfeed, if_neg (mt beq_iff_eq.1 hfeed)]
        omega
    rw [List.foldl_cons, ih, hcount, List.length_cons, List.range_succ_eq_map]
    simp [hcount, Function.comp_def]

/-- The row that a concrete tree has for a position counts the line feeds before it. -/
theorem rowAt_ofText {text : List Char} (readable : List Char) (errors : List Grammar.Node) {position : Nat}
    (hposition : position ≤ text.length) :
    (Grammar.SourceText.ofText text readable errors).rowAt position = (text.take position).count '\n' := by
  have hrows : (Grammar.SourceText.ofText text readable errors).rows
      = ((List.range (text.length + 1)).map fun i => (text.take i).count '\n').toArray := by
    simp only [Grammar.SourceText.ofText, Grammar.SourceText.rowsOf, foldl_rows, Nat.zero_add, List.range_succ,
      List.map_append, List.map_singleton, List.take_length, Array.empty_append, List.push_toArray]
  rw [Grammar.SourceText.rowAt, hrows, Array.getD_eq_getD_getElem?, List.getElem?_toArray, List.getElem?_map,
    List.getElem?_range (Nat.lt_succ_of_le hposition)]
  rfl

/-! ### Returns before line feeds -/

def withReturns (text : List Char) : List Char := text.flatMap fun c => if c = '\n' then ['\r', '\n'] else [c]

theorem withReturns_cons (c : Char) (text : List Char) :
    withReturns (c :: text) = (if c = '\n' then ['\r', '\n'] else [c]) ++ withReturns text := List.flatMap_cons

theorem withoutReturn_of_notMem {row : List Char} (h : '\r' ∉ row) : withoutReturn row = row :=
  if_neg fun hlast => h (List.mem_of_getLast? hlast)

theorem withoutReturn_cons {c : Char} (hc : c ≠ '\r') (row : List Char) :
    withoutReturn (c :: row) = c :: withoutReturn row := by
  cases row with
  | nil => exact withoutReturn_of_notMem (by simpa using hc.symm)
  | cons d row =>
    rw [withoutReturn, withoutReturn, List.getLast?_cons_cons]
    split <;> rfl

/-- Returns before line feeds belong to the ends of the rows, also a return after which the text stops. -/
theorem map_withoutReturn_pieces_withReturns {text ending : List Char} (htext : '\r' ∉ text)
    (hending : ending = [] ∨ ending = ['\r']) :
    (pieces '\n' (withReturns text ++ ending)).map withoutReturn = pieces '\n' text := by
  induction text with
  | nil => rcases hending with rfl | rfl <;> rfl
  | cons c rest ih =>
    obtain ⟨hc, hrest⟩ := List.ne_and_not_mem_of_not_mem_cons htext
    have hrows := ih hrest
    rw [withReturns_cons]
    by_cases hfeed : c = '\n'
    · rw [if_pos hfeed, hfeed, pieces_mark_cons, ← hrows]
      rfl
    · rw [if_neg hfeed, List.append_assoc, List.singleton_append, pieces, if_neg hfeed, pieces, if_neg hfeed, ← hrows]
      cases hpieces : pieces '\n' (withReturns rest ++ ending) with
      | nil => exact absurd hpieces (pieces_ne_nil _ _)
      | cons row others => rw [List.map_cons, List.map_cons, withoutReturn_cons hc.symm]

theorem withoutFinalFeed_withReturns (text : List Char) :
    ∃ ending, (ending = [] ∨ ending = ['\r'])
      ∧ withoutFinalFeed (withReturns text) = withReturns (withoutFinalFeed text) ++ ending := by
  rcases List.eq_nil_or_concat text with rfl | ⟨body, c, rfl⟩
  · exact ⟨[], Or.inl rfl, rfl⟩
  · have happend : withReturns (body ++ [c]) = withReturns body ++ if c = '\n' then ['\r', '\n'] else [c] := by
      rw [withReturns, List.flatMap_append, List.flatMap_singleton, withReturns]
    rw [List.concat_eq_append, withoutFinalFeed, withoutFinalFeed, List.getLast?_concat]
    by_cases hfeed : c = '\n'
    · refine ⟨['\r'], Or.inr rfl, ?_⟩
      rw [happend, if_pos hfeed, hfeed, if_pos rfl, List.dropLast_concat, ← List.singleton_append (l := ['\n']),
        ← List.append_assoc, List.getLast?_concat, if_pos rfl, List.dropLast_concat]
    · refine ⟨[], Or.inl rfl, ?_⟩
      have hlast : ¬ some c = some '\n' := fun h => hfeed (Option.some.inj h)
      rw [happend, if_neg hfeed, List.getLast?_concat, if_neg hlast, if_neg hlast, List.append_nil, happend,
        if_neg hfeed]

theorem notMem_withoutFinalFeed {c : Char} {text : List Char} (h : c ∉ text) : c ∉ withoutFinalFeed text := by
  rw [withoutFinalFeed]
  split
  · exact fun hmem => h (List.dropLast_subset _ hmem)
  · exact h

theorem splitLines_eq_of_notMem {text : String} (htext : '\r' ∉ text.toList) :
    splitLines text = (pieces '\n' (withoutFinalFeed text.toList)).map String.ofList := by
  have hbody : '\r' ∉ withoutFinalFeed text.toList := notMem_withoutFinalFeed htext
  rw [splitLines_eq]
  refine List.map_congr_left fun row hrow => ?_
  have hreturn : '\r' ∉ row := fun h => hbody
    ((List.singleton_infix_iff _ _).1
      ((infix_iff_exists_piece (by decide) _).2 ⟨row, hrow, (List.singleton_infix_iff _ _).2 h⟩))
  rw [lineOfRow, withoutReturn_of_notMem hreturn]

theorem intercalate_splitLines {text : String} (htext : '\r' ∉ text.toList) :
    ("\n".intercalate (splitLines text)).toList = withoutFinalFeed text.toList := by
  rw [String.toList_intercalate, splitLines_eq_of_notMem htext, List.map_map]
  have hrows : String.toList ∘ String.ofList = id := funext fun row => String.toList_ofList
  rw [hrows, List.map_id]
  exact (joined_eq_intercalate '\n' _).symm.trans (joined_pieces '\n' _)

/-- Returns before line feeds make no difference to the lines of a text. -/
theorem splitLines_withReturns {text : String} (htext : '\r' ∉ text.toList) :
    splitLines (String.ofList (withReturns text.toList)) = splitLines text := by
  have hbody : '\r' ∉ withoutFinalFeed text.toList := notMem_withoutFinalFeed htext
  obtain ⟨ending, hending, hwith⟩ := withoutFinalFeed_withReturns text.toList
  calc splitLines (String.ofList (withReturns text.toList))
      = ((pieces '\n' (withReturns (withoutFinalFeed text.toList) ++ ending)).map withoutReturn).map String.ofList := by
        rw [splitLines_eq, String.toList_ofList, hwith, List.map_map]
        rfl
    _ = (pieces '\n' (withoutFinalFeed text.toList)).map String.ofList := by
        rw [map_withoutReturn_pieces_withReturns hbody hending]
    _ = splitLines text := (splitLines_eq_of_notMem htext).symm

/-! ### Lines and rows -/

/-- The lines of a text are its rows: under the number that a concrete tree has for a position stands the row around
it, without a return at its end, and there are no other lines. Where a text has no returns it can be put together
again from its lines, up to a final line feed, and returns before its line feeds would change nothing. -/
theorem splitLines_rows (text : String) :
    (∀ position c, text.toList[position]? = some c → c ≠ '\n' →
      (∀ readable errors, (Grammar.SourceText.ofText text.toList readable errors).rowAt position
          = (text.toList.take position).count '\n')
        ∧ (text.toList.take position).count '\n' + 1 ≤ (splitLines text).length
        ∧ ∃ row line, IsRowAround text.toList position row
          ∧ (splitLines text)[(text.toList.take position).count '\n']? = some line ∧ Shows line row)
      ∧ splitLines text ≠ [] ∧ (∀ line ∈ splitLines text, '\n' ∉ line.toList)
      ∧ (splitLines text).length = text.toList.count '\n' + 1 - (if text.toList.getLast? = some '\n' then 1 else 0)
      ∧ ('\r' ∉ text.toList →
        text = "\n".intercalate (splitLines text) ++ (if text.toList.getLast? = some '\n' then "\n" else "")
          ∧ splitLines (String.ofList (withReturns text.toList)) = splitLines text) := by
  refine ⟨fun position c hc hne => ?_, splitLines_ne_nil text, fun line => notMem_of_mem_splitLines,
    length_splitLines text, fun hreturn => ⟨?_, splitLines_withReturns hreturn⟩⟩
  · obtain ⟨hbound, -⟩ := List.getElem?_eq_some_iff.1 hc
    obtain ⟨row, haround, hline⟩ := splitLines_getElem?_row hc hne
    exact ⟨fun _ _ => rowAt_ofText _ _ (Nat.le_of_lt hbound), (List.getElem?_eq_some_iff.1 hline).1,
      row, lineOfRow row, haround, hline, shows_lineOfRow row⟩
  · rw [← String.toList_inj, String.toList_append, intercalate_splitLines hreturn, withoutFinalFeed]
    split
    · rename_i hfeed
      exact (List.dropLast_append_getLast? '\n' hfeed).symm
    · exact (List.append_nil _).symm

theorem splitLines_rows_sample :
    "a\n\nbc\n".toList[4]? = some 'c' ∧ 'c' ≠ '\n' ∧ '\r' ∉ "a\n\nbc\n".toList
      ∧ (∃ row line, IsRowAround "a\n\nbc\n".toList 4 row ∧ (splitLines "a\n\nbc\n")[2]? = some line ∧ Shows line row)
      ∧ splitLines "a\r\n\r\nbc\r\n" = splitLines "a\n\nbc\n" := by
  have h := splitLines_rows "a\n\nbc\n"
  exact ⟨by decide, by decide, by decide, (h.1 4 'c' (by decide) (by decide)).2.2, (h.2.2.2.2 (by decide)).2⟩

end Text

end UseSites
