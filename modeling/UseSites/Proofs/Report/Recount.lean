import Mathlib
import UseSites.Report.Reference
/-!
# Recounting references

A summary has one number for each role and one for each category. They are the numbers that one gets by
counting the references again, and since every reference has one role and one category, both tables add up to
the number of all references.
-/

namespace UseSites

theorem Role.mem_all (role : Role) : role ∈ Role.all := by
  cases role <;> decide

theorem Category.mem_all (category : Category) : category ∈ Category.all := by
  cases category <;> decide

theorem sum_map_indicator {κ : Type} [DecidableEq κ] (keys : List κ) (own : κ) :
    (keys.map fun k => if own == k then 1 else 0).sum = keys.count own := by
  induction keys with
  | nil => rfl
  | cons k rest ih => rw [List.map_cons, List.sum_cons, ih, List.count_cons, BEq.comm, Nat.add_comm]

/-- Counting by a key counts everything once, when each key is listed once. -/
theorem sum_map_countP {α κ : Type} [DecidableEq κ] {keys : List κ} (hkeys : keys.Nodup) {key : α → κ} {xs : List α}
    (hmem : ∀ x ∈ xs, key x ∈ keys) : (keys.map fun k => xs.countP (key · == k)).sum = xs.length := by
  induction xs with
  | nil => simp
  | cons x rest ih =>
    obtain ⟨hx, hrest⟩ := List.forall_mem_cons.1 hmem
    have hone : (keys.map fun k => if key x == k then 1 else 0).sum = 1 := by
      rw [sum_map_indicator, List.count_eq_one_of_mem hkeys hx]
    simp only [List.countP_cons, List.sum_map_add, ih hrest, hone, List.length_cons]

namespace Summary

/-- A summary has the numbers of some references: one entry for each role and each category. -/
structure Recounts (summary : Summary) (references : List Reference) : Prop where
  role : ∀ role, (role, references.countP (·.role == role)) ∈ summary.byRole
  role_nodup : (summary.byRole.map Prod.fst).Nodup
  role_sum : (summary.byRole.map Prod.snd).sum = references.length
  category : ∀ category, (category, references.countP (·.category == category)) ∈ summary.byCategory
  category_nodup : (summary.byCategory.map Prod.fst).Nodup
  category_sum : (summary.byCategory.map Prod.snd).sum = references.length

theorem recounts_ofReferences (references : List Reference) : (ofReferences references).Recounts references where
  role role := List.mem_map_of_mem (Role.mem_all role)
  role_nodup := by
    rw [ofReferences, List.map_map]
    exact (by decide : Role.all.Nodup)
  role_sum := by
    rw [ofReferences, List.map_map]
    exact sum_map_countP (by decide) fun reference _ => Role.mem_all reference.role
  category category := List.mem_map_of_mem (Category.mem_all category)
  category_nodup := by
    rw [ofReferences, List.map_map]
    exact (by decide : Category.all.Nodup)
  category_sum := by
    rw [ofReferences, List.map_map]
    exact sum_map_countP (by decide) fun reference _ => Category.mem_all reference.category

end Summary

end UseSites
