import UseSites.Path
import UseSites.Proofs.Text.Pieces
/-!
# Regular paths

A path is regular when its segments are ones that reading a text can yield: not empty, no single dot and
without slashes. Reading a text makes a regular path, and a regular path is read back from its text. So
regular paths with the same text are equal, and lists sorted by text have no ties between different paths.
-/

namespace UseSites

namespace Path

def Regular (path : Path) : Prop :=
  ∀ segment ∈ path.segments, counts segment.toList = true ∧ '/' ∉ segment.toList

theorem regular_ofString (text : String) : (ofString text).Regular := by
  intro segment hsegment
  obtain ⟨piece, hpiece, rfl⟩ := List.mem_map.1 hsegment
  obtain ⟨hmem, hcounts⟩ := List.mem_filter.1 hpiece
  rw [String.toList_ofList]
  exact ⟨hcounts, Text.notMem_of_mem_pieces hmem⟩

/-! ### Reading back a text -/

theorem toList_joinSegments (segments : List String) :
    (joinSegments segments).toList = ['/'].intercalate (segments.map String.toList) :=
  String.toList_intercalate

theorem takeWhile_slash_joinSegments {path : Path} (hregular : path.Regular) :
    (joinSegments path.segments).toList.takeWhile (· = '/') = [] := by
  rw [toList_joinSegments]
  cases hsegments : path.segments with
  | nil => rfl
  | cons segment rest =>
    obtain ⟨hcounts, hslash⟩ := hregular segment (by rw [hsegments]; exact List.mem_cons_self)
    cases htext : segment.toList with
    | nil => rw [htext] at hcounts; cases hcounts
    | cons c others =>
      rw [htext] at hslash
      have hc : c ≠ '/' := fun heq => hslash (heq ▸ List.mem_cons_self)
      cases rest <;> simp [htext, hc, List.intercalate_cons_cons]

theorem ofText_append {rest : List Char} (anchor : Anchor) (hrest : rest.takeWhile (· = '/') = []) :
    Anchor.ofText (anchor.text.toList ++ rest) = anchor := by
  cases anchor <;> simp [Anchor.ofText, Anchor.text, hrest]

/-- The segments that are read from a text do not depend on slashes in front. -/
theorem filter_counts_pieces_append (anchor : Anchor) (rest : List Char) :
    (Text.pieces '/' (anchor.text.toList ++ rest)).filter counts = (Text.pieces '/' rest).filter counts := by
  cases anchor with
  | here => rfl
  | root =>
    change (Text.pieces '/' ('/' :: rest)).filter counts = _
    rw [Text.pieces_mark_cons]
    rfl
  | doubleRoot =>
    change (Text.pieces '/' ('/' :: '/' :: rest)).filter counts = _
    rw [Text.pieces_mark_cons, Text.pieces_mark_cons]
    rfl

theorem filter_counts_pieces_joinSegments {path : Path} (hregular : path.Regular) :
    (Text.pieces '/' (joinSegments path.segments).toList).filter counts = path.segments.map String.toList := by
  have hcounts : (path.segments.map String.toList).filter counts = path.segments.map String.toList := by
    refine List.filter_eq_self.2 fun text htext => ?_
    obtain ⟨segment, hsegment, rfl⟩ := List.mem_map.1 htext
    exact (hregular segment hsegment).1
  rw [toList_joinSegments]
  by_cases hempty : path.segments = []
  · rw [hempty]
    rfl
  · rw [Text.pieces_intercalate (by simpa using hempty) fun text htext => ?_, hcounts]
    obtain ⟨segment, hsegment, rfl⟩ := List.mem_map.1 htext
    exact (hregular segment hsegment).2

theorem ofString_toString {path : Path} (hregular : path.Regular) : ofString path.toString = path := by
  rw [toString]
  split
  · rename_i hhere
    obtain ⟨anchor, segments⟩ := path
    obtain ⟨rfl, rfl⟩ := hhere
    decide
  · rw [ofString, String.toList_append, ofText_append path.anchor (takeWhile_slash_joinSegments hregular),
      filter_counts_pieces_append, filter_counts_pieces_joinSegments hregular, List.map_map]
    have htexts : String.ofList ∘ String.toList = id := funext fun text => String.ofList_toList
    rw [htexts, List.map_id]

theorem toString_inj {path other : Path} (hpath : path.Regular) (hother : other.Regular)
    (h : path.toString = other.toString) : path = other := by
  rw [← ofString_toString hpath, h, ofString_toString hother]

/-! ### Paths below a directory -/

theorem toString_of_segments_ne_nil {path : Path} (h : path.segments ≠ []) :
    path.toString = path.anchor.text ++ joinSegments path.segments := by
  rw [toString, if_neg fun hhere => h hhere.2]

/-- Below one directory the text tells paths apart, whatever the segments of the directory are. -/
theorem eq_of_toString_append_eq {anchor : Anchor} {directory first second : List String}
    (hfirst : first ≠ []) (hsecond : second ≠ []) (hfirstSlash : ∀ segment ∈ first, '/' ∉ segment.toList)
    (hsecondSlash : ∀ segment ∈ second, '/' ∉ segment.toList)
    (h : (Path.mk anchor (directory ++ first)).toString = (Path.mk anchor (directory ++ second)).toString) :
    first = second := by
  have hpieces : ∀ below : List String, below ≠ [] → (∀ segment ∈ below, '/' ∉ segment.toList) →
      Text.pieces '/' (joinSegments (directory ++ below)).toList
        = (directory.map String.toList).flatMap (Text.pieces '/') ++ below.map String.toList := by
    intro below hbelow hslash
    rw [toList_joinSegments, Text.pieces_intercalate_eq_flatMap (by simp [hbelow]), List.map_append,
      List.flatMap_append, Text.flatMap_pieces_of_notMem (List.forall_mem_map.2 hslash)]
  rw [toString_of_segments_ne_nil (List.append_ne_nil_of_right_ne_nil _ hfirst),
    toString_of_segments_ne_nil (List.append_ne_nil_of_right_ne_nil _ hsecond), String.append_right_inj] at h
  have hboth := hpieces first hfirst hfirstSlash
  rw [h, hpieces second hsecond hsecondSlash, List.append_cancel_left_eq] at hboth
  exact (List.map_injective_iff.2 (fun _ _ => String.toList_injective) hboth).symm

end Path

end UseSites
