import Mathlib.Data.List.Infix
import UseSites.Category
import UseSites.Proofs.Text.Pieces
/-!
# Categories by segments

The category of a file is decided by searching the text of its path for markers, slashes included. Read by
segments this is simpler: a marker between slashes is found where its word is a whole segment that has others
on both sides, so neither the first segment nor the name of the file counts, however many slashes two markers
share. Only the two dotted markers can be part of a segment, and of any segment.
-/

namespace UseSites

namespace Category

/-- Whether a word is a segment other than the first and the last one. -/
def IsInner (segments : List String) (word : String) : Prop :=
  ∃ i, 1 ≤ i ∧ i + 2 ≤ segments.length ∧ segments[i]? = some word

theorem isInner_iff_mem {segments : List String} {word : String} :
    IsInner segments word ↔ word ∈ segments.tail.dropLast := by
  rw [IsInner, List.mem_iff_getElem?]
  constructor
  · rintro ⟨i, hfirst, hlast, hsegment⟩
    refine ⟨i - 1, ?_⟩
    rw [List.getElem?_dropLast, List.length_tail, if_pos (by omega), List.getElem?_tail, Nat.sub_add_cancel hfirst,
      hsegment]
  · rintro ⟨i, hsegment⟩
    rw [List.getElem?_dropLast, List.length_tail, List.getElem?_tail] at hsegment
    split at hsegment
    · exact ⟨i + 1, by omega, by omega, hsegment⟩
    · cases hsegment

instance (segments : List String) (word : String) : Decidable (IsInner segments word) :=
  decidable_of_iff _ isInner_iff_mem.symm

def IsDotted (segment : String) : Prop :=
  ".test.".toList <:+: segment.toList ∨ ".spec.".toList <:+: segment.toList

instance (segment : String) : Decidable (IsDotted segment) := inferInstanceAs (Decidable (_ ∨ _))

def ofSegments (segments : List String) : Category :=
  if IsInner segments "api" then api
  else if IsInner segments "database" then database
  else if (∃ word ∈ ["__tests__", "tests", "test"], IsInner segments word) ∨ ∃ segment ∈ segments, IsDotted segment then
    test
  else if IsInner segments "domains" ∨ IsInner segments "services" then service
  else internal

theorem occursIn_iff (marker text : List Char) : occursIn marker text = true ↔ marker <:+: text := by
  induction text with
  | nil => rw [occursIn, List.isEmpty_iff, List.infix_nil]
  | cons c rest ih => rw [occursIn, Bool.or_eq_true, List.isPrefixOf_iff_prefix, ih, List.infix_cons_iff]

theorem length_segments (path : String) :
    (segments path).length = (Text.pieces '/' (normalPath path).toList).length := by rw [segments, List.length_map]

theorem segments_getElem?_eq_some {path word : String} {i : Nat} :
    (segments path)[i]? = some word ↔ (Text.pieces '/' (normalPath path).toList)[i]? = some word.toList := by
  rw [segments, List.getElem?_map, Option.map_eq_some_iff]
  constructor
  · rintro ⟨piece, hpiece, rfl⟩
    rwa [String.toList_ofList]
  · intro h
    exact ⟨word.toList, h, String.ofList_toList⟩

/-- A marker between slashes is found where its word is an inner segment. -/
theorem occursIn_slashed_iff (marker word : String) (hmarker : marker.toList = '/' :: (word.toList ++ ['/']))
    (hword : '/' ∉ word.toList) (path : String) :
    occursIn marker.toList (normalPath path).toList = true ↔ IsInner (segments path) word := by
  rw [hmarker, occursIn_iff, Text.infix_between_marks_iff hword, IsInner, length_segments]
  simp only [segments_getElem?_eq_some]

/-- A marker without slashes is found where it is in one of the segments. -/
theorem occursIn_dotted_iff {marker : List Char} (hmarker : '/' ∉ marker) (path : String) :
    occursIn marker (normalPath path).toList = true ↔ ∃ segment ∈ segments path, marker <:+: segment.toList := by
  rw [occursIn_iff, Text.infix_iff_exists_piece hmarker, segments]
  simp only [List.mem_map, exists_exists_and_eq_and, String.toList_ofList]

theorem find?_rule_cons (applies : Category × List String → Bool) (rule : Category × List String)
    (rest : List (Category × List String)) :
    (((rule :: rest).find? applies).map (·.1)).getD internal
      = if applies rule = true then rule.1 else ((rest.find? applies).map (·.1)).getD internal := by
  rw [List.find?_cons]
  cases applies rule <;> rfl

/-- The category of a file is that of the segments of its path. -/
theorem ofPath_eq_ofSegments (path : String) : ofPath path = ofSegments (segments path) := by
  have hslashed (marker word : String) (hmarker : marker.toList = '/' :: (word.toList ++ ['/']))
      (hword : '/' ∉ word.toList) :
      occursIn marker.toList (normalPath path).toList = true ↔ IsInner (segments path) word :=
    occursIn_slashed_iff marker word hmarker hword path
  have hapi := hslashed "/api/" "api" (by decide) (by decide)
  have hdatabase := hslashed "/database/" "database" (by decide) (by decide)
  have hdunder := hslashed "/__tests__/" "__tests__" (by decide) (by decide)
  have htests := hslashed "/tests/" "tests" (by decide) (by decide)
  have htest := hslashed "/test/" "test" (by decide) (by decide)
  have hdomains := hslashed "/domains/" "domains" (by decide) (by decide)
  have hservices := hslashed "/services/" "services" (by decide) (by decide)
  have hdotted : occursIn ".test.".toList (normalPath path).toList = true
      ∨ occursIn ".spec.".toList (normalPath path).toList = true ↔ ∃ segment ∈ segments path, IsDotted segment := by
    rw [occursIn_dotted_iff (by decide) path, occursIn_dotted_iff (by decide) path]
    simp only [IsDotted, and_or_left, exists_or]
  -- the rules in their order, each with its markers replaced by what they say of the segments
  simp only [ofPath, rules, serviceMarkers, find?_rule_cons, List.any_cons, List.any_nil, Bool.or_false,
    Bool.or_eq_true, hapi, hdatabase, hdunder, htests, htest, hdotted, hdomains, hservices, List.find?_nil,
    Option.map_none, Option.getD_none, ofSegments, List.exists_mem_cons_iff, List.not_mem_nil, false_and, exists_false,
    or_false, or_assoc]

/-- Neither the name of a file nor the first segment counts, however they are called. -/
example : ofSegments ["database", "tests", "src", "api"] = test := by decide

end Category

end UseSites
