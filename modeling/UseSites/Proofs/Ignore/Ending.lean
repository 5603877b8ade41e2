import Mathlib.Data.List.Infix
import UseSites.Ignore.Selection
import UseSites.Proofs.Text.Pieces
/-!
# Patterns that ask for an ending

A star and some plain characters make the pattern of all names with an ending. It has no slash, so it holds at
any depth, and it also holds for what is below a folder whose name has the ending: `endsSegment_of_reach?`. The
end of a pattern is taken for reached in front of a last line feed as well.
-/

namespace UseSites.Ignore

variable {p : Char → Bool} {next : List Char → Option Reach} {text : List Char} {reach : Reach}

theorem longest_eq_some (h : longest p next text = some reach) :
    ∃ skipped rest, text = skipped ++ rest ∧ (∀ c ∈ skipped, p c = true) ∧ next rest = some reach := by
  induction text with
  | nil => exact ⟨[], [], rfl, List.forall_mem_nil _, h⟩
  | cons c rest ih =>
    rw [longest] at h
    split at h
    · rename_i hc
      split at h
      · rename_i found hlonger
        cases h
        obtain ⟨skipped, others, rfl, hskipped, hnext⟩ := ih hlonger
        exact ⟨c :: skipped, others, rfl, List.forall_mem_cons.2 ⟨hc, hskipped⟩, hnext⟩
      · exact ⟨[], c :: rest, rfl, List.forall_mem_nil _, h⟩
    · exact ⟨[], c :: rest, rfl, List.forall_mem_nil _, h⟩

theorem deepest_eq_some (h : deepest next text = some reach) :
    ∃ folders rest, text = folders ++ '/' :: rest ∧ next rest = some reach := by
  induction text with
  | nil => cases h
  | cons c rest ih =>
    rw [deepest] at h
    split at h
    · cases h
    · split at h
      · rename_i found hdeeper
        cases h
        obtain ⟨folders, others, rfl, hnext⟩ := ih hdeeper
        exact ⟨c :: folders, others, rfl, hnext⟩
      · split at h
        · rename_i hslash
          exact ⟨[], rest, by rw [hslash, List.nil_append], h⟩
        · cases h

namespace Step

def ofEnding (ending : List Char) : List Step :=
  .above :: .glyph .stretch :: (ending.map (fun c => .glyph (.char c)) ++ [.finish])

theorem take_above_eq_some (h : Step.above.take next text = some reach) :
    next text = some reach ∨ ∃ folders rest, text = folders ++ '/' :: rest ∧ next rest = some reach := by
  cases text with
  | nil => exact Or.inl h
  | cons c rest =>
    simp only [take] at h
    split at h
    · rename_i found hdeep
      cases h
      split at hdeep
      · obtain ⟨folders, others, rfl, hnext⟩ := deepest_eq_some hdeep
        exact Or.inr ⟨c :: folders, others, rfl, hnext⟩
      · cases hdeep
    · exact Or.inl h

theorem reach?_chars_append {ending : List Char} {steps : List Step}
    (h : reach? (ending.map (fun c => .glyph (.char c)) ++ steps) text = some reach) :
    ∃ rest, text = ending ++ rest ∧ reach? steps rest = some reach := by
  induction ending generalizing text with
  | nil => exact ⟨text, rfl, h⟩
  | cons d ending ih =>
    rw [List.map_cons, List.cons_append, reach?] at h
    cases text with
    | nil => cases h
    | cons c rest =>
      simp only [take, Glyph.covers, beq_iff_eq] at h
      split at h
      · rename_i hc
        obtain ⟨others, rfl, hrest⟩ := ih h
        exact ⟨others, by rw [hc, List.cons_append], hrest⟩
      · cases h

theorem reach?_finish_eq_some (h : reach? [.finish] text = some reach) :
    text = [] ∨ (∃ rest, text = '/' :: rest) ∨ text = ['\n'] := by
  rw [reach?] at h
  unfold take at h
  split at h <;> simp_all

end Step

/-- A segment has an ending, or the last segment has it in front of a line feed. -/
def EndsSegment (ending : List Char) (segments : List (List Char)) : Prop :=
  (∃ segment ∈ segments, ending <:+ segment)
    ∨ ∃ segment, segments.getLast? = some segment ∧ ending ++ ['\n'] <:+ segment

theorem EndsSegment.append_left {ending : List Char} {segments : List (List Char)} (h : EndsSegment ending segments)
    (folders : List (List Char)) : EndsSegment ending (folders ++ segments) := by
  rcases h with ⟨segment, hsegment, hends⟩ | ⟨segment, hlast, hends⟩
  · exact Or.inl ⟨segment, List.mem_append_right _ hsegment, hends⟩
  · refine Or.inr ⟨segment, ?_, hends⟩
    rw [List.getLast?_append, hlast, Option.some_or]

/-- Behind the folders a stretch without slashes, the ending and the end of a name are left. -/
theorem endsSegment_of_stretch {ending : List Char} (hending : '/' ∉ ending)
    (h : Step.reach? (.glyph .stretch :: (ending.map (fun c => .glyph (.char c)) ++ [.finish])) text = some reach) :
    EndsSegment ending (Text.pieces '/' text) := by
  rw [Step.reach?, Step.take] at h
  obtain ⟨skipped, others, rfl, hskipped, hnext⟩ := longest_eq_some h
  obtain ⟨rest, rfl, hfinish⟩ := Step.reach?_chars_append hnext
  have hname : '/' ∉ skipped ++ ending := by
    rw [List.mem_append, not_or]
    exact ⟨fun hmem => by simpa using hskipped '/' hmem, hending⟩
  rw [← List.append_assoc]
  rcases Step.reach?_finish_eq_some hfinish with rfl | ⟨below, rfl⟩ | rfl
  · rw [List.append_nil, Text.pieces_of_notMem hname]
    exact Or.inl ⟨_, List.mem_singleton_self _, List.suffix_append _ _⟩
  · rw [Text.pieces_append_mark, Text.pieces_of_notMem hname]
    exact Or.inl ⟨_, List.mem_cons_self, List.suffix_append _ _⟩
  · have hline : '/' ∉ skipped ++ ending ++ ['\n'] := by
      rw [List.mem_append, not_or]
      exact ⟨hname, by decide⟩
    rw [Text.pieces_of_notMem hline]
    exact Or.inr ⟨_, List.getLast?_singleton, by rw [List.append_assoc]; exact List.suffix_append _ _⟩

theorem endsSegment_of_reach? {ending : List Char} (hending : '/' ∉ ending)
    (h : Step.reach? (Step.ofEnding ending) text = some reach) : EndsSegment ending (Text.pieces '/' text) := by
  rw [Step.ofEnding, Step.reach?] at h
  rcases Step.take_above_eq_some h with hname | ⟨folders, rest, rfl, hname⟩
  · exact endsSegment_of_stretch hending hname
  · rw [Text.pieces_append_mark]
    exact (endsSegment_of_stretch hending hname).append_left _

/-- What is selected is so by a pattern that holds for it. -/
theorem exists_reach?_of_selects {patterns : List Pattern} {path : String} (h : selects patterns path = true) :
    ∃ pattern ∈ patterns, ∃ reach, pattern.reach? path = some reach := by
  rw [selects] at h
  split at h
  · rename_i pattern hpattern
    have hholding : ∃ reach, pattern ∈ holding reach patterns path := by
      rcases Option.or_eq_some_iff.1 hpattern with hlast | ⟨-, hlast⟩
      · exact ⟨.itself, List.mem_of_getLast? hlast⟩
      · exact ⟨.folder, List.mem_of_getLast? hlast⟩
    obtain ⟨reach, hholding⟩ := hholding
    obtain ⟨hmem, hreach⟩ := List.mem_filter.1 hholding
    exact ⟨pattern, hmem, reach, beq_iff_eq.1 hreach⟩
  · cases h

end UseSites.Ignore
