import Mathlib.Data.List.Nodup
import UseSites.Proofs.Text.Lines
import UseSites.Text.Excerpt
/-!
# Excerpts and their rows

An excerpt is a text again, and whoever reads it sees rows that start with a mark or with a blank. Neither lines nor
numbers have a line feed in them, so the rows of this text are those it was made of (`pieces_render`), one for each
number of a range (`IsRange`) that the window and the ends of the text decide.

`filter_marked_render` says that the line asked for is the only one with a mark, whatever the window is.
`rows_ofText` says what the rows are for lines that do not exist too, and that `readRow` gets the number and the line
of each back.
-/

namespace UseSites

namespace Excerpt

variable {lines : List String} {line : Int}

/-! ### The rows of an excerpt -/

theorem notMem_toString (number : Int) : '\n' ∉ (toString number).toList := by
  have hdigits : ∀ n : Nat, '\n' ∉ (Nat.repr n).toList := by
    intro n hmem
    rw [Nat.repr, String.toList_ofList] at hmem
    have hdigit := Nat.isDigit_of_mem_toDigits (by decide) (by decide) hmem
    revert hdigit
    decide
  cases number with
  | ofNat n => exact hdigits n
  | negSucc n =>
    change '\n' ∉ ("-" ++ Nat.repr (n + 1)).toList
    rw [String.toList_append, List.mem_append, not_or]
    exact ⟨by decide, hdigits (n + 1)⟩

theorem notMem_padded (width : Nat) (number : Int) : '\n' ∉ (padded width number).toList := by
  rw [padded, String.toList_append, String.toList_ofList, List.mem_append, not_or]
  refine ⟨fun hmem => ?_, notMem_toString number⟩
  have hblank := List.eq_of_mem_replicate hmem
  revert hblank
  decide

theorem notMem_row {width : Nat} {number : Int} {text : String} (htext : '\n' ∉ text.toList) :
    '\n' ∉ (row width line number text).toList := by
  have hmark : '\n' ∉ (if number = line then ">" else " ").toList := by split <;> decide
  have hblank : '\n' ∉ " ".toList := by decide
  have hcolon : '\n' ∉ ": ".toList := by decide
  rw [row]
  simp only [String.toList_append, List.mem_append, not_or]
  exact ⟨⟨⟨⟨hmark, hblank⟩, notMem_padded width number⟩, hcolon⟩, htext⟩

theorem head?_row (width : Nat) (number : Int) (text : String) :
    (row width line number text).toList.head? = some '>' ↔ number = line := by
  rw [row]
  simp only [String.toList_append, List.append_assoc]
  by_cases hnumber : number = line
  · rw [if_pos hnumber]
    exact ⟨fun _ => hnumber, fun _ => rfl⟩
  · rw [if_neg hnumber]
    have hblank : some ' ' ≠ some '>' := by decide
    exact ⟨fun hhead => absurd hhead hblank, fun h => absurd h hnumber⟩

/-! ### The range of an excerpt -/

/-- The first and the last of the lines around a line. When the text has none of these, the nearest one stands alone. -/
structure IsRange (window : Window) (count : Nat) (line : Int) (first last : Nat) : Prop where
  first_pos : 1 ≤ first
  first_le_last : first ≤ last
  last_le : last ≤ count
  around : max 1 (line - max 0 window.before) ≤ min (count : Int) (line + max 0 window.after) →
    first = max 1 (line - max 0 window.before) ∧ last = min (count : Int) (line + max 0 window.after)
  nearest : min (count : Int) (line + max 0 window.after) < max 1 (line - max 0 window.before) →
    first = last ∧ (line < 1 ∧ first = 1 ∨ count < line ∧ first = count)

theorem exists_isRange (window : Window) {count : Nat} (hcount : 1 ≤ count) (line : Int) :
    ∃ first last : Nat, range window count line = ((first : Int), (last : Int))
      ∧ IsRange window count line first last := by
  unfold range
  dsimp only
  split
  · rename_i hempty
    refine ⟨(max 1 (min line count)).toNat, (max 1 (min line count)).toNat, ?_, by omega, by omega, by omega,
      fun _ => by omega, fun _ => by omega⟩
    rw [Prod.mk.injEq]
    omega
  · rename_i hsome
    refine ⟨(max 1 (line - max 0 window.before)).toNat, (min (count : Int) (line + max 0 window.after)).toNat, ?_,
      by omega, by omega, by omega, fun _ => by omega, fun _ => by omega⟩
    rw [Prod.mk.injEq]
    omega

theorem IsRange.line_mem_iff {window : Window} {count first last : Nat} (h : IsRange window count line first last) :
    (first ≤ line ∧ line ≤ last) ↔ (1 ≤ line ∧ line ≤ count) := by
  obtain ⟨hpos, hle, hlast, haround, hnearest⟩ := h
  rcases Int.lt_or_le (min (count : Int) (line + max 0 window.after)) (max 1 (line - max 0 window.before)) with
    hempty | hsome
  · have := hnearest hempty
    omega
  · have := haround hsome
    omega

theorem filter_range'_eq (first last : Nat) (line : Int) :
    (List.range' first (last + 1 - first)).filter (fun number : Nat => (number : Int) = line)
      = if first ≤ line ∧ line ≤ last then [line.toNat] else [] := by
  split
  · rename_i hinside
    obtain ⟨number, rfl⟩ := Int.eq_ofNat_of_zero_le (by omega : 0 ≤ line)
    have hmem : number ∈ List.range' first (last + 1 - first) := List.mem_range'_1.2 (by omega)
    simp only [Int.natCast_inj, Int.toNat_natCast]
    rw [List.filter_eq, List.count_eq_one_of_mem List.nodup_range' hmem, List.replicate_one]
  · rename_i houtside
    refine List.filter_eq_nil_iff.2 fun number hnumber => ?_
    have := List.mem_range'_1.1 hnumber
    rw [decide_eq_true_eq]
    omega

theorem numbers_eq_map {window : Window} {count first last : Nat}
    (hrange : range window count line = ((first : Int), (last : Int))) :
    numbers window count line = (List.range' first (last + 1 - first)).map fun (number : Nat) => (number : Int) := by
  have hcount : ((last : Int) - first + 1).toNat = last + 1 - first := by omega
  simp only [numbers, hrange, hcount, List.range'_eq_map_range, List.map_map]
  exact List.map_congr_left fun i _ => (Int.natCast_add first i).symm

/-- The lines with the numbers of a range stand next to each other in the text. -/
theorem take_drop_eq_map {first last : Nat} (hpos : 1 ≤ first) (hlast : last ≤ lines.length) :
    (lines.drop (first - 1)).take (last + 1 - first)
      = (List.range' first (last + 1 - first)).map fun number => lines.getD (number - 1) "" := by
  refine List.ext_getElem ?_ fun i hi hi' => ?_
  · simp only [List.length_take, List.length_drop, List.length_map, List.length_range']
    omega
  · rw [List.length_map, List.length_range'] at hi'
    have hline : first - 1 + i = first + i - 1 := by omega
    simp only [List.getElem_take, List.getElem_drop, List.getElem_map, List.getElem_range', Nat.one_mul, hline]
    exact List.getElem_eq_getD ""

theorem rows_eq_map {window : Window} {first last : Nat}
    (hrange : range window lines.length line = ((first : Int), (last : Int)))
    (h : IsRange window lines.length line first last) :
    rows window lines line = (List.range' first (last + 1 - first)).map fun (number : Nat) =>
      row (toString (last : Int)).length line number (lines.getD (number - 1) "") := by
  have hskipped : ((first : Int) - 1).toNat = first - 1 := by omega
  simp only [rows, numbers_eq_map hrange, hrange, hskipped, List.length_map, List.length_range',
    take_drop_eq_map h.first_pos h.last_le, List.zip_map', List.map_map]
  rfl

/-! ### The text of an excerpt -/

theorem pieces_render {window : Window} (hne : lines ≠ []) (hlines : ∀ line ∈ lines, '\n' ∉ line.toList) :
    Text.pieces '\n' (render window lines line).toList = (rows window lines line).map String.toList := by
  obtain ⟨first, last, hrange, h⟩ := exists_isRange window (List.length_pos_of_ne_nil hne) line
  have hempty : ¬ lines.isEmpty = true := mt List.isEmpty_iff.1 hne
  rw [render, if_neg hempty, String.toList_intercalate, rows_eq_map hrange h, List.map_map]
  obtain ⟨hpos, hle, hlast, -, -⟩ := h
  refine Text.pieces_intercalate ?_ fun content hcontent => ?_
  · rw [Ne, List.map_eq_nil_iff, List.range'_eq_nil_iff]
    omega
  · obtain ⟨number, hnumber, rfl⟩ := List.mem_map.1 hcontent
    have hbound := List.mem_range'_1.1 hnumber
    refine notMem_row (hlines _ ?_)
    rw [List.getD_eq_getElem?_getD, List.getElem?_eq_getElem (by omega : number - 1 < lines.length)]
    exact List.getElem_mem _

/-- The marked rows of an excerpt are those of the line asked for. -/
theorem filter_head?_render {window : Window} {first last : Nat} (hne : lines ≠ [])
    (hlines : ∀ line ∈ lines, '\n' ∉ line.toList)
    (hrange : range window lines.length line = ((first : Int), (last : Int)))
    (h : IsRange window lines.length line first last) :
    (Text.pieces '\n' (render window lines line).toList).filter (·.head? = some '>')
      = (if 1 ≤ line ∧ line ≤ lines.length then [line.toNat] else []).map fun (number : Nat) =>
        (row (toString (last : Int)).length line number (lines.getD (number - 1) "")).toList := by
  have hmarked : (List.range' first (last + 1 - first)).filter
      ((fun row => decide (row.head? = some '>')) ∘ String.toList ∘ fun (number : Nat) =>
        row (toString (last : Int)).length line number (lines.getD (number - 1) ""))
      = (List.range' first (last + 1 - first)).filter fun (number : Nat) => (number : Int) = line :=
    List.filter_congr fun number _ => decide_eq_decide.2 (head?_row _ number _)
  rw [pieces_render hne hlines, rows_eq_map hrange h, List.map_map, List.filter_map, hmarked, filter_range'_eq]
  simp only [h.line_mem_iff]
  rfl

theorem filter_marked_render (window : Window) {i : Nat} {text : String} (hlines : ∀ line ∈ lines, '\n' ∉ line.toList)
    (htext : lines[i]? = some text) (hline : line = (i : Int) + 1) :
    ∃ width, (Text.pieces '\n' (render window lines line).toList).filter (·.head? = some '>')
      = [("> " ++ padded width line ++ ": " ++ text).toList] := by
  obtain ⟨hbound, -⟩ := List.getElem?_eq_some_iff.1 htext
  have hne : lines ≠ [] := List.ne_nil_of_length_pos (by omega)
  obtain ⟨first, last, hrange, h⟩ := exists_isRange window (List.length_pos_of_ne_nil hne) line
  have hnumber : line.toNat = i + 1 := by omega
  have hcast : ((i + 1 : Nat) : Int) = line := by omega
  refine ⟨(toString (last : Int)).length, ?_⟩
  rw [filter_head?_render hne hlines hrange h, if_pos (by omega), List.map_singleton, hnumber, Nat.add_sub_cancel,
    List.getD_eq_getElem?_getD, htext, Option.getD_some, row, if_pos hcast, hcast]
  rfl

/-! ### Reading an excerpt back -/

def header (marked : Bool) (width number : Nat) : List Char :=
  (if marked then '>' else ' ') :: ' ' :: ((Nat.toDigits 10 number).leftpad width ' ' ++ [':', ' '])

/-- Reads a row: the number after the mark and the blanks, and what follows the colon and a blank. -/
def readRow (row : List Char) : Nat × List Char :=
  let column := (row.drop 2).dropWhile (· = ' ')
  let digits := column.takeWhile Char.isDigit
  (Nat.ofDigitChars 10 digits 0, column.drop (digits.length + 2))

theorem toList_toString_natCast (number : Nat) : (toString (number : Int)).toList = Nat.toDigits 10 number :=
  String.toList_ofList

theorem toList_row (width number : Nat) (content : String) :
    (row width line number content).toList
      = header (decide ((number : Int) = line)) width number ++ content.toList := by
  have hpadded : (padded width number).toList = (Nat.toDigits 10 number).leftpad width ' ' := by
    rw [padded, String.toList_append, String.toList_ofList, ← String.length_toList, toList_toString_natCast]
    rfl
  simp only [row, header, String.toList_append, hpadded]
  by_cases hnumber : (number : Int) = line <;> simp [hnumber]

theorem length_header {marked : Bool} {number last : Nat} (hle : number ≤ last) :
    (header marked (Nat.toDigits 10 last).length number).length = (Nat.toDigits 10 last).length + 4 := by
  have hpos : 0 < (Nat.toDigits 10 last).length := Nat.length_toDigits_pos
  have hdigits : (Nat.toDigits 10 number).length ≤ (Nat.toDigits 10 last).length :=
    (Nat.length_toDigits_le_iff (by decide) hpos).2
      (Nat.lt_of_le_of_lt hle ((Nat.length_toDigits_le_iff (by decide) hpos).1 (Nat.le_refl _)))
  simp only [header, List.leftpad, List.length_cons, List.length_append, List.length_replicate, List.length_nil]
  omega

/-- The number and the line of a row can be read off it, however wide the column of the numbers is. -/
theorem readRow_header (marked : Bool) (width number : Nat) (content : List Char) :
    readRow (header marked width number ++ content) = (number, content) := by
  have hdigit : ∀ c ∈ Nat.toDigits 10 number, c.isDigit = true :=
    fun c hc => Nat.isDigit_of_mem_toDigits (by decide) (by decide) hc
  have hcolumn : ((header marked width number ++ content).drop 2).dropWhile (· = ' ')
      = Nat.toDigits 10 number ++ ':' :: ' ' :: content := by
    have hblanks : (header marked width number ++ content).drop 2
        = List.replicate (width - (Nat.toDigits 10 number).length) ' '
          ++ (Nat.toDigits 10 number ++ ':' :: ' ' :: content) := by
      simp [header, List.leftpad]
    rw [hblanks, List.dropWhile_append_of_pos fun c hc => decide_eq_true (List.eq_of_mem_replicate hc)]
    cases hdigits : Nat.toDigits 10 number with
    | nil => exact absurd hdigits Nat.toDigits_ne_nil
    | cons c rest =>
      have hc := hdigit c (hdigits ▸ List.mem_cons_self)
      refine List.dropWhile_cons_of_neg fun hblank => ?_
      rw [of_decide_eq_true hblank] at hc
      exact absurd hc (by decide)
  have hdigits : (Nat.toDigits 10 number ++ ':' :: ' ' :: content).takeWhile Char.isDigit = Nat.toDigits 10 number := by
    rw [List.takeWhile_append_of_pos hdigit, List.takeWhile_cons_of_neg (by decide), List.append_nil]
  simp only [readRow, hcolumn, hdigits, Nat.ofDigitChars_ten_toDigits, List.drop_length_add_append]
  rfl

/-- A row that shows the line with a number, in an excerpt whose last number is `last`. -/
structure IsRow (lines : List String) (line : Int) (last number : Nat) (row : List Char) : Prop where
  shows : ∃ content, lines[number - 1]? = some content
    ∧ row = header (decide ((number : Int) = line)) (Nat.toDigits 10 last).length number ++ content.toList
    ∧ readRow row = (number, content.toList)
  /-- The lines start in the same column in all rows. -/
  width : (header (decide ((number : Int) = line)) (Nat.toDigits 10 last).length number).length
    = (Nat.toDigits 10 last).length + 4

theorem isRow_row {last number : Nat} (hnumber : 1 ≤ number) (hlast : number ≤ last) (hbound : last ≤ lines.length) :
    IsRow lines line last number
      (row (toString (last : Int)).length line number (lines.getD (number - 1) "")).toList := by
  have hline : lines[number - 1]? = some (lines.getD (number - 1) "") := by
    rw [List.getD_eq_getElem?_getD, List.getElem?_eq_getElem (by omega : number - 1 < lines.length), Option.getD_some]
  have hrow := @toList_row line (toString (last : Int)).length number (lines.getD (number - 1) "")
  rw [← String.length_toList, toList_toString_natCast] at hrow ⊢
  refine ⟨⟨_, hline, hrow, ?_⟩, length_header hlast⟩
  rw [hrow, readRow_header]

/-- An excerpt of a text, for every line number and window: its rows show the lines of one range, in order, and each
of them can be read back. One row is marked if the line asked for exists, and else none. -/
theorem rows_ofText (window : Window) (text : String) (line : Int) :
    ∃ first last, IsRange window (Text.splitLines text).length line first last
      ∧ List.Forall₂ (IsRow (Text.splitLines text) line last) (List.range' first (last + 1 - first))
        (Text.pieces '\n' (ofText window text line).toList)
      ∧ (Text.pieces '\n' (ofText window text line).toList).countP (·.head? = some '>')
        = if 1 ≤ line ∧ line ≤ (Text.splitLines text).length then 1 else 0 := by
  have hne := Text.splitLines_ne_nil text
  obtain ⟨first, last, hrange, h⟩ := exists_isRange window (List.length_pos_of_ne_nil hne) line
  refine ⟨first, last, h, ?_, ?_⟩
  · rw [ofText, pieces_render hne fun _ => Text.notMem_of_mem_splitLines, rows_eq_map hrange h, List.map_map,
      List.forall₂_map_right_iff, List.forall₂_same]
    intro number hnumber
    have hbound := List.mem_range'_1.1 hnumber
    exact isRow_row (h.first_pos.trans hbound.1) (by omega) h.last_le
  · rw [List.countP_eq_length_filter, ofText, filter_head?_render hne (fun _ => Text.notMem_of_mem_splitLines) hrange h,
      List.length_map]
    split <;> rfl

/-- The column of the numbers is as wide as the last of them. -/
example : ofText {} "a\nb\nc\nd\ne\nf\ng\nh\ni\nj\n" 9 = "   8: h\n>  9: i\n  10: j" := by decide

/-- Behind the end of a text its last line is shown and not marked. -/
example : ofText {} "a\nb\n" 9 = "  2: b" := by decide

end Excerpt

end UseSites
