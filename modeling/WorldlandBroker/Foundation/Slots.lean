import Mathlib.Algebra.BigOperators.Group.List.Basic

/-!
# Lists as numbered slots

A list that only grows at its end and is changed one position at a time: what
is found in a slot after such a change, and what the change does to a sum over
all slots.
-/

namespace WorldlandBroker.Foundation

variable {α : Type*} {slots : List α} {a b : α} {i c : ℕ}

theorem slot_of_append (h : (slots ++ [a])[i]? = some b) :
    slots[i]? = some b ∨ (i = slots.length ∧ b = a) := by
  rw [List.getElem?_append] at h
  split at h
  · exact .inl h
  · rw [List.getElem?_singleton] at h
    split at h
    · cases h
      exact .inr ⟨by omega, rfl⟩
    · contradiction

theorem slot_of_set (h : (slots.set c a)[i]? = some b) :
    (i = c ∧ b = a) ∨ (i ≠ c ∧ slots[i]? = some b) := by
  rcases eq_or_ne c i with rfl | hne
  · rw [List.getElem?_set_self'] at h
    cases hslot : slots[c]? with
    | none =>
        rw [hslot] at h
        contradiction
    | some old =>
        rw [hslot] at h
        cases h
        exact .inl ⟨rfl, rfl⟩
  · rw [List.getElem?_set_ne hne] at h
    exact .inr ⟨hne.symm, h⟩

theorem filterMap_set {β : Type*} {f : α → Option β} (h : slots[c]? = some b) (hf : f a = f b) :
    (slots.set c a).filterMap f = slots.filterMap f := by
  induction slots generalizing c with
  | nil => rfl
  | cons first rest ih =>
      cases c with
      | zero =>
          cases h
          rw [List.set_cons_zero, List.filterMap_cons, List.filterMap_cons, hf]
      | succ c =>
          rw [List.set_cons_succ, List.filterMap_cons, List.filterMap_cons,
            ih (by simpa using h)]

theorem set_slot (h : slots[c]? = some b) : (slots.set c a)[c]? = some a :=
  List.getElem?_set_self (List.getElem?_eq_some_iff.mp h).1

theorem forall_append {P : ℕ → α → Prop} (hslots : ∀ i b, slots[i]? = some b → P i b)
    (hnew : P slots.length a) : ∀ i b, (slots ++ [a])[i]? = some b → P i b := by
  intro i b hb
  rcases slot_of_append hb with hold | ⟨rfl, rfl⟩
  · exact hslots i b hold
  · exact hnew

theorem forall_set {P : ℕ → α → Prop} (hslots : ∀ i b, slots[i]? = some b → P i b)
    (hnew : P c a) : ∀ i b, (slots.set c a)[i]? = some b → P i b := by
  intro i b hb
  rcases slot_of_set hb with ⟨rfl, rfl⟩ | ⟨-, hold⟩
  · exact hnew
  · exact hslots i b hold

/-- Stated without subtraction: what slot `c` counted before and counts now. -/
theorem sum_set {M : Type*} [AddCommMonoid M] (f : α → M) (h : slots[c]? = some b) :
    ((slots.set c a).map f).sum + f b = (slots.map f).sum + f a := by
  induction slots generalizing c with
  | nil => simp at h
  | cons first rest ih =>
      cases c with
      | zero =>
          cases h
          simp [add_comm, add_left_comm]
      | succ c =>
          simp only [List.set_cons_succ, List.map_cons, List.sum_cons]
          rw [add_assoc, ih (by simpa using h), add_assoc]

end WorldlandBroker.Foundation
