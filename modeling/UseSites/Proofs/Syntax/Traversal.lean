import Mathlib.Data.List.Induction
/-!
# Loops over a stack

A loop takes the top off a stack, lists it, and puts there in reverse what comes next after it. What it lists in the
end is the recursion along `next`, and `after_order` says how far it has come with it after any number of turns. It
rests on the step lemma `whole_turn`: what has been listed and what is still to come from the stack are together always
the same list. The stack may get longer in a turn, but there is one less on it and below it, so the loop ends.
-/

namespace UseSites

/-- A loop over a stack: what is on the stack, with the top at the end, and what has been listed. -/
structure Traversal (α : Type) where
  stack : List α
  listed : List α

namespace Traversal

variable {α β : Type} {next : α → List α} {nextImage : β → List β}

def turn (next : α → List α) (loop : Traversal α) : Traversal α :=
  match loop.stack.getLast? with
  | none => loop
  | some top => ⟨loop.stack.dropLast ++ (next top).reverse, loop.listed ++ [top]⟩

@[simp] theorem turn_nil (listed : List α) : turn next ⟨[], listed⟩ = ⟨[], listed⟩ := rfl

@[simp] theorem turn_append_singleton (rest : List α) (top : α) (listed : List α) :
    turn next ⟨rest ++ [top], listed⟩ = ⟨rest ++ (next top).reverse, listed ++ [top]⟩ := by
  simp [turn]

@[elab_as_elim]
theorem topCases {motive : Traversal α → Prop} (finished : ∀ listed, motive ⟨[], listed⟩)
    (busy : ∀ rest top listed, motive ⟨rest ++ [top], listed⟩) (loop : Traversal α) : motive loop := by
  obtain ⟨stack, listed⟩ := loop
  cases stack using List.reverseRecOn with
  | nil => exact finished listed
  | append_singleton rest top _ => exact busy rest top listed

/-- The loop after some turns, when it starts with one thing on the stack. -/
def after (next : α → List α) (root : α) : Nat → Traversal α
  | 0 => ⟨[root], []⟩
  | n + 1 => (after next root n).turn next

theorem length_listed_after (next : α → List α) (root : α) (n : Nat) :
    (after next root n).listed.length ≤ n
      ∧ ((after next root n).stack ≠ [] → (after next root n).listed.length = n) := by
  induction n with
  | zero => simp [after]
  | succ n ih =>
    rw [after]
    generalize after next root n = loop at ih ⊢
    cases loop using topCases with
    | finished listed =>
      simp only [turn_nil, ne_eq, not_true_eq_false, false_implies, and_true] at ih ⊢
      omega
    | busy rest top listed =>
      have hlength := ih.2 (by simp)
      simp only [turn_append_singleton, List.length_append, List.length_singleton] at hlength ⊢
      omega

/-! ### What the loop lists -/

section

variable {order : α → List α} (horder : ∀ a, order a = a :: (next a).flatMap order)

/-- What has been listed and what is still to come. -/
def whole (order : α → List α) (loop : Traversal α) : List α := loop.listed ++ loop.stack.reverse.flatMap order

include horder

theorem whole_turn (loop : Traversal α) : (loop.turn next).whole order = loop.whole order := by
  cases loop using topCases with
  | finished listed => rfl
  | busy rest top listed => simp [whole, horder top]

theorem whole_after (root : α) (n : Nat) : (after next root n).whole order = order root := by
  induction n with
  | zero => simp [after, whole]
  | succ n ih => rw [after, whole_turn horder, ih]

/-- After some turns the loop has listed as many as there were turns, and it is at its end when there are no more. -/
theorem after_order (root : α) (n : Nat) :
    (after next root n).listed = (order root).take n
      ∧ ((after next root n).stack = [] ↔ (order root).length ≤ n) := by
  have hwhole := whole_after horder root n
  have hlength := length_listed_after next root n
  generalize after next root n = loop at hwhole hlength ⊢
  cases loop using topCases with
  | finished listed =>
    obtain rfl : listed = order root := by simpa [whole] using hwhole
    exact ⟨(List.take_of_length_le hlength.1).symm, by simpa using hlength.1⟩
  | busy rest top listed =>
    obtain rfl : listed.length = n := hlength.2 (by simp)
    have hmore : listed.length < (order root).length := by
      rw [← hwhole]
      simp [whole, horder top]
    exact ⟨by rw [← hwhole, whole, List.take_left], by simpa using hmore⟩

end

/-! ### Loops that follow each other -/

def map (f : α → β) (loop : Traversal α) : Traversal β := ⟨loop.stack.map f, loop.listed.map f⟩

theorem map_turn {f : α → β} (hnext : ∀ a, (next a).map f = nextImage (f a)) (loop : Traversal α) :
    (loop.turn next).map f = (loop.map f).turn nextImage := by
  cases loop using topCases with
  | finished listed => rfl
  | busy rest top listed => simp [map, hnext]

theorem map_after {f : α → β} (hnext : ∀ a, (next a).map f = nextImage (f a)) (root : α) (n : Nat) :
    (after next root n).map f = after nextImage (f root) n := by
  induction n with
  | zero => rfl
  | succ n ih => rw [after, after, map_turn hnext, ih]

end Traversal

end UseSites
