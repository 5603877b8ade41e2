import Mathlib.Data.List.Nodup
import Mathlib.Data.List.Perm.Basic
import Mathlib.Data.Prod.Lex
import Mathlib.Data.String.Basic
import UseSites.Report.Basic
/-!
# The order of a report

The lists of a report are sorted by keys: references by file, line and role, failures and paths by text.
Sorting keeps elements with the same key as they were, so that in general the result depends on the order
one starts from. It does not when the same key is found only in the same element, which is what the lemmas
ending in `_of_perm` ask for.
-/

namespace UseSites

theorem not_decide_lt_iff {κ : Type} [LinearOrder κ] {x y : κ} [Decidable (y < x)] :
    (!decide (y < x)) = true ↔ x ≤ y := by
  rw [Bool.not_eq_true', decide_eq_false_iff_not, not_lt]

section Sorting

variable {α κ : Type} [LinearOrder κ] (key : α → κ) {le : α → α → Bool} {xs ys : List α}

theorem pairwise_mergeSort_of_key (hle : ∀ a b, le a b = true ↔ key a ≤ key b) (xs : List α) :
    (xs.mergeSort le).Pairwise fun a b => key a ≤ key b := by
  have htrans : ∀ a b c, le a b = true → le b c = true → le a c = true := by
    intro a b c hab hbc
    rw [hle] at hab hbc ⊢
    exact hab.trans hbc
  have htotal : ∀ a b, (le a b || le b a) = true := by
    intro a b
    rw [Bool.or_eq_true, hle, hle]
    exact le_total (key a) (key b)
  exact (List.pairwise_mergeSort htrans htotal xs).imp fun h => (hle _ _).1 h

/-- Sorting by a key undoes a permutation, provided a key belongs to one element only. -/
theorem mergeSort_eq_of_perm (hle : ∀ a b, le a b = true ↔ key a ≤ key b) (hperm : xs.Perm ys)
    (htie : ∀ a ∈ xs, ∀ b ∈ xs, key a = key b → a = b) : xs.mergeSort le = ys.mergeSort le := by
  have hsorted : (xs.mergeSort le).Perm (ys.mergeSort le) :=
    (List.mergeSort_perm xs le).trans (hperm.trans (List.mergeSort_perm ys le).symm)
  refine List.Perm.eq_of_pairwise ?_ (pairwise_mergeSort_of_key key hle xs) (pairwise_mergeSort_of_key key hle ys)
    hsorted
  intro a b ha hb hab hba
  exact htie a (List.mem_mergeSort.1 ha) b (hperm.mem_iff.2 (List.mem_mergeSort.1 hb)) (le_antisymm hab hba)

/-- A list that is strictly increasing is what sorting makes of any arrangement of it. -/
theorem mergeSort_eq_of_strict (hle : ∀ a b, le a b = true ↔ key a ≤ key b) (hperm : xs.Perm ys)
    (hstrict : ys.Pairwise fun a b => key a < key b) : xs.mergeSort le = ys := by
  have hkeys : (ys.map key).Nodup := List.pairwise_map.2 (hstrict.imp ne_of_lt)
  rw [mergeSort_eq_of_perm key hle hperm fun a ha b hb heq =>
    List.inj_on_of_nodup_map hkeys (hperm.mem_iff.1 ha) (hperm.mem_iff.1 hb) heq]
  exact List.mergeSort_of_pairwise (hstrict.imp fun hlt => (hle _ _).2 hlt.le)

/-- Sorting makes a list strictly increasing when no key occurs twice. -/
theorem pairwise_lt_mergeSort (hle : ∀ a b, le a b = true ↔ key a ≤ key b) (hkeys : (xs.map key).Nodup) :
    (xs.mergeSort le).Pairwise fun a b => key a < key b := by
  have hdistinct : ((xs.mergeSort le).map key).Nodup := ((List.mergeSort_perm xs le).map key).nodup_iff.2 hkeys
  exact (pairwise_mergeSort_of_key key hle xs).imp₂ (fun _ _ => lt_of_le_of_ne) (List.pairwise_map.1 hdistinct)

end Sorting

namespace Reference

def place (reference : Reference) : Int ×ₗ Nat ×ₗ String :=
  toLex (reference.line, toLex (reference.role.rank, reference.role.name))

def key (reference : Reference) : String ×ₗ Int ×ₗ Nat ×ₗ String := toLex (reference.file, reference.place)

theorem before_iff (a b : Reference) : a.before b = true ↔ a.key < b.key := by
  unfold before key place
  rw [Prod.Lex.toLex_lt_toLex, Prod.Lex.toLex_lt_toLex, Prod.Lex.toLex_lt_toLex]
  by_cases hfile : a.file = b.file
  · by_cases hline : a.line = b.line
    · by_cases hrank : a.role.rank = b.role.rank <;> simp [hfile, hline, hrank]
    · simp [hfile, hline]
  · simp [hfile]

theorem not_before_iff (a b : Reference) : (!b.before a) = true ↔ a.key ≤ b.key := by
  rw [Bool.not_eq_true', ← Bool.not_eq_true, before_iff, not_lt]

theorem of_place_eq {a b : Reference} (h : a.place = b.place) : a.line = b.line ∧ a.role = b.role := by
  have hparts := toLex.injective h
  simp only [Prod.mk.injEq, EmbeddingLike.apply_eq_iff_eq] at hparts
  obtain ⟨hline, -, hname⟩ := hparts
  refine ⟨hline, ?_⟩
  cases hrole : a.role <;> cases hother : b.role <;> simp_all [Role.name]

theorem of_key_eq {a b : Reference} (h : a.key = b.key) : a.file = b.file ∧ a.line = b.line ∧ a.role = b.role := by
  obtain ⟨hfile, hplace⟩ := Prod.mk.inj (toLex.injective h)
  exact ⟨hfile, of_place_eq hplace⟩

/-- References in strict order differ in file, line or role. -/
theorem nodup_of_pairwise_key {references : List Reference} (h : references.Pairwise fun a b => a.key < b.key) :
    (references.map fun reference => (reference.file, reference.line, reference.role)).Nodup := by
  refine List.pairwise_map.2 (h.imp fun {a b} hlt heq => ?_)
  obtain ⟨hfile, hrest⟩ := Prod.mk.inj heq
  obtain ⟨hline, hrole⟩ := Prod.mk.inj hrest
  rw [key, key, place, place, hfile, hline, hrole] at hlt
  exact lt_irrefl _ hlt

theorem sorted_of_perm {references others : List Reference} (hperm : references.Perm others)
    (htie : ∀ a ∈ references, ∀ b ∈ references, a.file = b.file → a.line = b.line → a.role = b.role → a = b) :
    sorted references = sorted others := by
  refine mergeSort_eq_of_perm key (fun a b => not_before_iff a b) hperm fun a ha b hb hkey => ?_
  obtain ⟨hfile, hline, hrole⟩ := of_key_eq hkey
  exact htie a ha b hb hfile hline hrole

/-! ### References of several files -/

/-- The references in one file by line, rank of the role and name of the role. -/
def sortedInFile (references : List Reference) : List Reference :=
  references.mergeSort fun a b => decide (a.place ≤ b.place)

theorem sortedInFile_perm (references : List Reference) : (sortedInFile references).Perm references :=
  List.mergeSort_perm _ _

theorem pairwise_sortedInFile {references : List Reference} {text : String}
    (hfile : ∀ reference ∈ references, reference.file = text) (hplaces : (references.map place).Nodup) :
    (sortedInFile references).Pairwise fun a b => a.key < b.key := by
  have hstrict : (sortedInFile references).Pairwise fun a b => a.place < b.place :=
    pairwise_lt_mergeSort place (fun _ _ => decide_eq_true_iff) hplaces
  refine List.Pairwise.imp_of_mem (fun {a b} ha hb hplace => ?_) hstrict
  rw [key, key, Prod.Lex.toLex_lt_toLex, hfile a (List.mem_mergeSort.1 ha), hfile b (List.mem_mergeSort.1 hb)]
  exact Or.inr ⟨rfl, hplace⟩

variable {α : Type} {xs : List α} {text : α → String} {found : α → List Reference}

/-- References of files whose texts increase, sorted file by file, are sorted. -/
theorem pairwise_flatMap_sortedInFile (hxs : xs.Pairwise fun a b => text a < text b)
    (hfile : ∀ a ∈ xs, ∀ reference ∈ found a, reference.file = text a)
    (hplaces : ∀ a ∈ xs, ((found a).map place).Nodup) :
    (xs.flatMap fun a => sortedInFile (found a)).Pairwise fun a b => a.key < b.key := by
  rw [List.pairwise_flatMap]
  refine ⟨fun a ha => pairwise_sortedInFile (hfile a ha) (hplaces a ha), ?_⟩
  refine hxs.imp_of_mem fun {a b} ha hb htext first hfirst second hsecond => ?_
  rw [key, key, Prod.Lex.toLex_lt_toLex, hfile a ha first (List.mem_mergeSort.1 hfirst),
    hfile b hb second (List.mem_mergeSort.1 hsecond)]
  exact Or.inl htext

theorem sorted_flatMap {references : List Reference} (hperm : references.Perm (xs.flatMap found))
    (hxs : xs.Pairwise fun a b => text a < text b)
    (hfile : ∀ a ∈ xs, ∀ reference ∈ found a, reference.file = text a)
    (hplaces : ∀ a ∈ xs, ((found a).map place).Nodup) :
    sorted references = xs.flatMap fun a => sortedInFile (found a) := by
  have hfound : (xs.flatMap found).Perm (xs.flatMap fun a => sortedInFile (found a)) :=
    List.Perm.flatMap_left xs fun a _ => (sortedInFile_perm (found a)).symm
  exact mergeSort_eq_of_strict key (fun a b => not_before_iff a b) (hperm.trans hfound)
    (pairwise_flatMap_sortedInFile hxs hfile hplaces)

end Reference

namespace Report

theorem sortedFailures_of_perm {failures others : List Failure} (hperm : failures.Perm others)
    (htie : ∀ a ∈ failures, ∀ b ∈ failures, a.path = b.path → a = b) :
    sortedFailures failures = sortedFailures others :=
  mergeSort_eq_of_perm Failure.path (fun _ _ => not_decide_lt_iff) hperm htie

theorem sortedPaths_of_perm {paths others : List Path} (hperm : paths.Perm others)
    (htie : ∀ a ∈ paths, ∀ b ∈ paths, a.toString = b.toString → a = b) : sortedPaths paths = sortedPaths others :=
  mergeSort_eq_of_perm Path.toString (fun _ _ => not_decide_lt_iff) hperm htie

end Report

end UseSites
