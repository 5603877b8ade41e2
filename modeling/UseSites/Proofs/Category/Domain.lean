import UseSites.Proofs.Category.Segments
/-!
# Domains by segments

The domain of a service file is found by searching its path for each service marker and reading on behind the one
that comes first. In segments: it is the segment after the first inner segment that is the word of a marker, as long
as that segment is not empty and not the name of the file.

The search keeps the earliest occurrence among the markers it has tried (`Earliest`), and trying one more keeps this
(`earliest_earlier`). Places in the text and numbers of segments are in the same order, because the number of a
segment counts the slashes up to it.
-/

namespace UseSites

namespace Category

/-! ### The earliest occurrence -/

/-- Whether one of the markers stands in a text, with so much of the text before it and the given rest behind it. -/
def Occurs (markers : List (List Char)) (text : List Char) (found : Nat × List Char) : Prop :=
  ∃ marker ∈ markers, ∃ before, text = before ++ marker ++ found.2 ∧ before.length = found.1

structure Earliest (markers : List (List Char)) (text : List Char) (best : Option (Nat × List Char)) : Prop where
  occurs : ∀ found ∈ best, Occurs markers text found
  first : ∀ other, Occurs markers text other → ∃ found ∈ best, found.1 ≤ other.1

theorem earliest_nil (text : List Char) : Earliest [] text none where
  occurs _ hfound := absurd hfound (Option.not_mem_none _)
  first := fun _ ⟨_, hmarker, _⟩ => absurd hmarker List.not_mem_nil

theorem occurs_append {markers others : List (List Char)} {text : List Char} {found : Nat × List Char} :
    Occurs (markers ++ others) text found ↔ Occurs markers text found ∨ Occurs others text found := by
  simp only [Occurs, List.mem_append, or_and_right, exists_or]

theorem occurs_cons {marker : List Char} {c : Char} {rest : List Char} (hstart : ¬ marker <+: c :: rest)
    {found : Nat × List Char} :
    Occurs [marker] (c :: rest) found ↔ ∃ later, Occurs [marker] rest later ∧ found = (later.1 + 1, later.2) := by
  simp only [Occurs, List.mem_singleton, exists_eq_left]
  constructor
  · rintro ⟨before, happend, hlength⟩
    cases before with
    | nil => exact absurd ⟨found.2, happend.symm⟩ hstart
    | cons d before =>
      obtain ⟨rfl, hrest⟩ := List.cons.inj happend
      exact ⟨(before.length, found.2), ⟨before, hrest, rfl⟩, Prod.ext hlength.symm rfl⟩
  · rintro ⟨later, ⟨before, hrest, hlength⟩, rfl⟩
    exact ⟨c :: before, congrArg (c :: ·) hrest, congrArg (· + 1) hlength⟩

theorem earliest_afterMarker? (marker text : List Char) : Earliest [marker] text (afterMarker? marker text) := by
  induction text with
  | nil =>
    rw [afterMarker?]
    split
    · rename_i hempty
      obtain rfl := List.isEmpty_iff.1 hempty
      refine ⟨fun found hfound => ?_, fun _ _ => ⟨_, rfl, Nat.zero_le _⟩⟩
      obtain rfl := Option.some.inj hfound
      exact ⟨[], List.mem_singleton_self _, [], rfl, rfl⟩
    · rename_i hempty
      refine ⟨fun _ hfound => absurd hfound (Option.not_mem_none _), ?_⟩
      rintro other ⟨_, hmarker, before, happend, -⟩
      obtain rfl := List.mem_singleton.1 hmarker
      obtain ⟨hbefore, -⟩ := List.append_eq_nil_iff.1 happend.symm
      exact absurd (List.isEmpty_iff.2 (List.append_eq_nil_iff.1 hbefore).2) hempty
  | cons c rest ih =>
    rw [afterMarker?]
    split
    · rename_i hstart
      obtain ⟨after, happend⟩ := List.isPrefixOf_iff_prefix.1 hstart
      refine ⟨fun found hfound => ?_, fun _ _ => ⟨_, rfl, Nat.zero_le _⟩⟩
      obtain rfl := Option.some.inj hfound
      refine ⟨marker, List.mem_singleton_self _, [], ?_, rfl⟩
      rw [← happend, List.drop_left, List.nil_append]
    · rename_i hstart
      have hcons (found : Nat × List Char) := @occurs_cons _ _ _ (mt List.isPrefixOf_iff_prefix.2 hstart) found
      constructor
      · intro found hfound
        obtain ⟨later, hlater, rfl⟩ := Option.map_eq_some_iff.1 hfound
        exact (hcons _).2 ⟨later, ih.occurs later hlater, rfl⟩
      · intro other hother
        obtain ⟨later, hlater, rfl⟩ := (hcons other).1 hother
        obtain ⟨found, hfound, hle⟩ := ih.first later hlater
        exact ⟨_, Option.mem_map_of_mem _ hfound, Nat.succ_le_succ hle⟩

theorem mem_of_mem_earlier {best other : Option (Nat × List Char)} {found : Nat × List Char}
    (h : found ∈ earlier best other) : found ∈ best ∨ found ∈ other := by
  cases best with
  | none => exact Or.inr h
  | some first =>
    cases other with
    | none => exact Or.inl h
    | some second =>
      rw [earlier] at h
      split at h
      · exact Or.inr h
      · exact Or.inl h

theorem exists_mem_earlier_le {best other : Option (Nat × List Char)} {found : Nat × List Char}
    (h : found ∈ best ∨ found ∈ other) : ∃ kept ∈ earlier best other, kept.1 ≤ found.1 := by
  cases best with
  | none => exact ⟨found, h.resolve_left (Option.not_mem_none found), le_refl _⟩
  | some first =>
    cases other with
    | none => exact ⟨found, h.resolve_right (Option.not_mem_none found), le_refl _⟩
    | some second =>
      rw [Option.mem_some_iff, Option.mem_some_iff] at h
      rw [earlier]
      split
      · exact ⟨second, rfl, by rcases h with rfl | rfl <;> omega⟩
      · exact ⟨first, rfl, by rcases h with rfl | rfl <;> omega⟩

theorem earliest_earlier (marker : List Char) {markers : List (List Char)} {text : List Char}
    {best : Option (Nat × List Char)} (hbest : Earliest markers text best) :
    Earliest (markers ++ [marker]) text (earlier best (afterMarker? marker text)) := by
  have hone := earliest_afterMarker? marker text
  constructor
  · intro found hfound
    exact occurs_append.2 ((mem_of_mem_earlier hfound).imp (hbest.occurs found) (hone.occurs found))
  · intro other hother
    obtain ⟨found, hfound, hle⟩ : ∃ found, (found ∈ best ∨ found ∈ afterMarker? marker text) ∧ found.1 ≤ other.1 := by
      rcases occurs_append.1 hother with h | h
      · obtain ⟨found, hfound, hle⟩ := hbest.first other h
        exact ⟨found, Or.inl hfound, hle⟩
      · obtain ⟨found, hfound, hle⟩ := hone.first other h
        exact ⟨found, Or.inr hfound, hle⟩
    obtain ⟨kept, hkept, hkeptLe⟩ := exists_mem_earlier_le hfound
    exact ⟨kept, hkept, Nat.le_trans hkeptLe hle⟩

theorem earliest_foldl (markers : List String) {tried : List (List Char)} {text : List Char}
    {best : Option (Nat × List Char)} (hbest : Earliest tried text best) :
    Earliest (tried ++ markers.map String.toList) text
      (markers.foldl (fun best marker => earlier best (afterMarker? marker.toList text)) best) := by
  induction markers generalizing tried best with
  | nil => rwa [List.map_nil, List.append_nil]
  | cons marker rest ih =>
    have hstep := ih (earliest_earlier marker.toList hbest)
    rwa [List.append_assoc, List.singleton_append] at hstep

/-! ### The first service segment -/

/-- The segments that a service marker has between its slashes. -/
def serviceWords : List String := ["domains", "services"]

/-- Whether the segment with a number is an inner one and names the service layer. -/
def IsService (segments : List String) (i : Nat) : Prop :=
  1 ≤ i ∧ i + 2 ≤ segments.length ∧ ∃ word ∈ serviceWords, segments[i]? = some word

instance (segments : List String) (i : Nat) : Decidable (IsService segments i) :=
  inferInstanceAs (Decidable (_ ∧ _ ∧ _))

structure IsFirstService (segments : List String) (i : Nat) : Prop where
  service : IsService segments i
  first : ∀ j < i, ¬ IsService segments j

theorem IsFirstService.eq {segments : List String} {i j : Nat} (hi : IsFirstService segments i)
    (hj : IsFirstService segments j) : i = j := by
  rcases Nat.lt_trichotomy i j with hlt | heq | hlt
  · exact absurd hi.service (hj.first i hlt)
  · exact heq
  · exact absurd hj.service (hi.first j hlt)

theorem map_toList_serviceMarkers :
    serviceMarkers.map String.toList = serviceWords.map fun word => '/' :: (word.toList ++ ['/']) := by decide

theorem notMem_of_mem_serviceWords {word : String} (hword : word ∈ serviceWords) : '/' ∉ word.toList := by
  revert word
  decide

/-- A segment of the service layer is an occurrence of a service marker, with as many slashes before it as there are
segments between it and the first one. -/
theorem isService_iff (path : String) (i : Nat) :
    IsService (segments path) i ↔ ∃ marker ∈ serviceMarkers.map String.toList, ∃ before after,
      (normalPath path).toList = before ++ marker ++ after ∧ before.count '/' + 1 = i := by
  rw [map_toList_serviceMarkers, IsService, length_segments]
  constructor
  · rintro ⟨hfirst, hlast, word, hword, hsegment⟩
    obtain ⟨before, after, htext, hcount⟩ := (Text.between_marks_iff (notMem_of_mem_serviceWords hword)).2
      ⟨hfirst, hlast, segments_getElem?_eq_some.1 hsegment⟩
    exact ⟨_, List.mem_map_of_mem hword, before, after, by simpa using htext, hcount⟩
  · rintro ⟨marker, hmarker, before, after, htext, hcount⟩
    obtain ⟨word, hword, rfl⟩ := List.mem_map.1 hmarker
    obtain ⟨hfirst, hlast, hpiece⟩ := (Text.between_marks_iff (notMem_of_mem_serviceWords hword)).1
      ⟨before, after, by simpa using htext, hcount⟩
    exact ⟨hfirst, hlast, word, hword, segments_getElem?_eq_some.2 hpiece⟩

/-- Where the earliest service marker stands is the first segment of the service layer, and what follows the marker
are the segments after it. -/
theorem Earliest.exists_isFirstService {path : String} {position : Nat} {rest : List Char}
    (h : Earliest (serviceMarkers.map String.toList) (normalPath path).toList (some (position, rest))) :
    ∃ i, IsFirstService (segments path) i
      ∧ Text.pieces '/' rest = (Text.pieces '/' (normalPath path).toList).drop (i + 1) := by
  obtain ⟨marker, hmarker, before, htext, hlength⟩ := h.occurs _ rfl
  refine ⟨before.count '/' + 1, ⟨(isService_iff path _).2 ⟨marker, hmarker, before, rest, htext, rfl⟩, ?_⟩, ?_⟩
  · intro j hj hservice
    obtain ⟨other, hother, shorter, after, hshorter, rfl⟩ := (isService_iff path j).1 hservice
    obtain ⟨found, hfound, hle⟩ := h.first (shorter.length, after) ⟨other, hother, shorter, hshorter, rfl⟩
    obtain rfl := Option.some.inj hfound
    rw [List.append_assoc] at htext hshorter
    have hstart : before <+: shorter :=
      List.prefix_of_prefix_length_le ⟨_, htext.symm⟩ ⟨_, hshorter.symm⟩ (hlength.trans_le hle)
    have hcount := hstart.sublist.count_le '/'
    omega
  · rw [map_toList_serviceMarkers] at hmarker
    obtain ⟨word, hword, rfl⟩ := List.mem_map.1 hmarker
    have hbetween : (normalPath path).toList = before ++ '/' :: (word.toList ++ '/' :: rest) := by
      rw [htext]
      simp only [List.append_assoc, List.cons_append, List.nil_append]
    rw [hbetween, Text.pieces_between_marks (notMem_of_mem_serviceWords hword), ← Text.length_pieces,
      List.drop_length_add_append, List.drop_succ_cons, List.drop_zero]

theorem leadingSegment?_eq_some_iff {remainder : List Char} {domain : String} :
    leadingSegment? remainder = some domain
      ↔ 2 ≤ (Text.pieces '/' remainder).length ∧ (Text.pieces '/' remainder)[0]? = some domain.toList
        ∧ domain ≠ "" := by
  have hslash : remainder.contains '/' = true ↔ 2 ≤ (Text.pieces '/' remainder).length := by
    rw [List.contains_iff_mem, Text.length_pieces, ← List.count_pos_iff]
    omega
  rw [← List.head?_eq_getElem?, Text.head?_pieces, ← hslash, leadingSegment?]
  simp only [Bool.or_eq_true, List.isEmpty_iff, Bool.not_eq_true']
  split
  · rename_i hnone
    constructor
    · intro h
      cases h
    · rintro ⟨hcontains, hfirst, hne⟩
      rcases hnone with hempty | hslashless
      · rw [hempty] at hfirst
        exact absurd (String.toList_eq_nil_iff.1 (Option.some.inj hfirst).symm) hne
      · rw [hcontains] at hslashless
        cases hslashless
  · rename_i hsome
    rw [not_or, Bool.not_eq_false] at hsome
    rw [Option.some.injEq, Option.some.injEq]
    constructor
    · rintro rfl
      rw [String.toList_ofList]
      exact ⟨hsome.2, rfl, fun hempty => hsome.1 (String.ofList_eq_empty_iff.1 hempty)⟩
    · rintro ⟨-, hfirst, -⟩
      rw [hfirst, String.ofList_toList]

/-- The domain of a file is the segment after the first one of the service layer, if there is one in between that and
the name of the file and it is not empty. -/
theorem domain?_eq_some_iff (path domain : String) :
    domain? path = some domain ↔ ∃ i, IsFirstService (segments path) i ∧ i + 3 ≤ (segments path).length
      ∧ (segments path)[i + 1]? = some domain ∧ domain ≠ "" := by
  have hearliest := earliest_foldl serviceMarkers (earliest_nil (normalPath path).toList)
  rw [List.nil_append] at hearliest
  rw [domain?]
  dsimp only
  generalize serviceMarkers.foldl _ none = found at hearliest ⊢
  cases found with
  | none =>
    constructor
    · intro h
      cases h
    · rintro ⟨i, hfirst, -⟩
      obtain ⟨marker, hmarker, before, after, htext, -⟩ := (isService_iff path i).1 hfirst.service
      obtain ⟨_, hfound, -⟩ := hearliest.first (before.length, after) ⟨marker, hmarker, before, htext, rfl⟩
      cases hfound
  | some found =>
    obtain ⟨position, rest⟩ := found
    obtain ⟨i, hfirst, hpieces⟩ := hearliest.exists_isFirstService
    have hnext : (2 ≤ (Text.pieces '/' rest).length ↔ i + 3 ≤ (segments path).length)
        ∧ ((Text.pieces '/' rest)[0]? = some domain.toList ↔ (segments path)[i + 1]? = some domain) := by
      rw [segments_getElem?_eq_some, length_segments, hpieces, List.length_drop, List.getElem?_drop]
      exact ⟨by omega, Iff.rfl⟩
    rw [Option.bind_some, leadingSegment?_eq_some_iff, hnext.1, hnext.2]
    constructor
    · intro h
      exact ⟨i, hfirst, h⟩
    · rintro ⟨j, hother, h⟩
      rwa [hfirst.eq hother]

/-! ### Scope -/

theorem inScope_eq_false_iff (path filter : String) (category : Category) :
    inScope path category filter = false ↔ filter ≠ everyDomain ∧ category = service
      ∧ ∃ domain, domain? path = some domain ∧ domain ≠ Text.lower filter := by
  rw [inScope, Bool.or_eq_false_iff, Bool.or_eq_false_iff, beq_eq_false_iff_ne, bne_eq_false_iff_eq, and_assoc]
  refine and_congr_right fun _ => and_congr_right fun _ => ?_
  cases domain? path with
  | none => simp
  | some domain => simp

/-- The domain of a file by the segments of its path, and which files a search limited to a domain leaves out. -/
theorem domain_and_scope_by_segments (path : String) :
    (∀ domain, domain? path = some domain ↔ ∃ i, IsFirstService (segments path) i ∧ i + 3 ≤ (segments path).length
        ∧ (segments path)[i + 1]? = some domain ∧ domain ≠ "")
      ∧ (∀ filter, inScope path (ofPath path) filter = false ↔ filter ≠ "database" ∧ ofPath path = service
        ∧ ∃ domain, domain? path = some domain ∧ domain ≠ Text.lower filter)
      ∧ ∀ filter other, filter ≠ "database" → other ≠ "database" → Text.lower filter = Text.lower other →
        inScope path (ofPath path) filter = inScope path (ofPath path) other := by
  refine ⟨domain?_eq_some_iff path, fun filter => inScope_eq_false_iff path filter _, ?_⟩
  intro filter other hfilter hother hlower
  rw [Bool.eq_iff_iff, ← not_iff_not, Bool.not_eq_true, Bool.not_eq_true, inScope_eq_false_iff, inScope_eq_false_iff,
    hlower]
  exact and_congr_left' ⟨fun _ => hother, fun _ => hfilter⟩

/-- With two service markers in a path the first one decides, and how a filter is written makes no difference. -/
theorem scope_nestedMarkers :
    domain? "/Src/services/domains/a/b.ts" = some "domains" ∧ "Billing" ≠ "database" ∧ "BILLING" ≠ "database"
      ∧ Text.lower "Billing" = Text.lower "BILLING"
      ∧ inScope "/Src/services/domains/a/b.ts" (ofPath "/Src/services/domains/a/b.ts") "Billing"
        = inScope "/Src/services/domains/a/b.ts" (ofPath "/Src/services/domains/a/b.ts") "BILLING" := by
  have h := domain_and_scope_by_segments "/Src/services/domains/a/b.ts"
  have hsegments : segments "/Src/services/domains/a/b.ts" = ["", "src", "services", "domains", "a", "b.ts"] := by
    decide
  have hfirst : IsFirstService ["", "src", "services", "domains", "a", "b.ts"] 2 := ⟨by decide, by decide⟩
  refine ⟨(h.1 "domains").2 ⟨2, ?_⟩, by decide, by decide, by decide, h.2.2 _ _ (by decide) (by decide) (by decide)⟩
  rw [hsegments]
  exact ⟨hfirst, by decide, by decide, by decide⟩

end Category

end UseSites
