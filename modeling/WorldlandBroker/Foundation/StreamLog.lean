import Mathlib.Data.List.Basic
import Mathlib.Tactic.Common

/-!
# A log with a consumer group

An append-only log of messages and one group of consumers that share a cursor.
Reading new messages moves the cursor past them and leaves them pending until
they are acknowledged; the cursor never goes back.  A message is known by its
position.
-/

namespace WorldlandBroker.Foundation

variable {μ : Type*}

/-- `next` is the first message that no read has returned. -/
structure ConsumerGroup where
  next : ℕ
  pending : List ℕ
  deriving DecidableEq

structure StreamLog (μ : Type*) where
  entries : List μ
  group : Option ConsumerGroup
  next_le : ∀ g, group = some g → g.next ≤ entries.length

namespace StreamLog

def empty : StreamLog μ := ⟨[], none, by simp⟩

def add (s : StreamLog μ) (m : μ) : StreamLog μ where
  entries := s.entries ++ [m]
  group := s.group
  next_le g hg := by
    have hnext := s.next_le g hg
    rw [List.length_append]
    omega

/-- A new group starts behind the last message; one that exists is kept. -/
def createGroup (s : StreamLog μ) : StreamLog μ :=
  match s.group with
  | some _ => s
  | none => {
      entries := s.entries
      group := some ⟨s.entries.length, []⟩
      next_le := fun g hg => by
        obtain rfl := Option.some.inj hg
        exact Nat.le_refl _ }

def upcoming (s : StreamLog μ) (g : ConsumerGroup) (count : ℕ) : List (μ × ℕ) :=
  ((s.entries.drop g.next).take count).zipIdx g.next

theorem length_upcoming (s : StreamLog μ) (g : ConsumerGroup) (count : ℕ) :
    (s.upcoming g count).length = min count (s.entries.length - g.next) := by
  simp [upcoming]

def readNew (s : StreamLog μ) (count : ℕ) : List (μ × ℕ) × StreamLog μ :=
  match hgroup : s.group with
  | none => ([], s)
  | some g => (s.upcoming g count, {
      entries := s.entries
      group := some ⟨g.next + (s.upcoming g count).length,
        g.pending ++ (s.upcoming g count).map Prod.snd⟩
      next_le := fun g' hg' => by
        obtain rfl := Option.some.inj hg'
        have hnext := s.next_le g hgroup
        rw [length_upcoming]
        simp only
        omega })

def ack (s : StreamLog μ) (id : ℕ) : StreamLog μ where
  entries := s.entries
  group := s.group.map fun g => { g with pending := g.pending.filter (· ≠ id) }
  next_le g' hg' := by
    obtain ⟨g, hg, rfl⟩ := Option.map_eq_some_iff.mp hg'
    exact s.next_le g hg

def Deliverable (s : StreamLog μ) (id : ℕ) : Prop :=
  ∃ g, s.group = some g ∧ g.next ≤ id ∧ id < s.entries.length

def CaughtUp (s : StreamLog μ) : Prop :=
  ∀ g, s.group = some g → g.next = s.entries.length

structure Passed (s : StreamLog μ) (id : ℕ) : Prop where
  length : id < s.entries.length
  next : ∀ g, s.group = some g → id < g.next

/-! ## Entries and groups -/

@[simp] theorem add_entries (s : StreamLog μ) (m : μ) :
    (s.add m).entries = s.entries ++ [m] := rfl

@[simp] theorem createGroup_entries (s : StreamLog μ) :
    s.createGroup.entries = s.entries := by
  unfold createGroup
  split <;> rfl

theorem ack_group (s : StreamLog μ) (id : ℕ) :
    (s.ack id).group = s.group.map fun g => { g with pending := g.pending.filter (· ≠ id) } :=
  rfl

@[simp] theorem readNew_entries (s : StreamLog μ) (count : ℕ) :
    (s.readNew count).2.entries = s.entries := by
  unfold readNew
  split <;> rfl

theorem readNew_of_group {s : StreamLog μ} {g : ConsumerGroup} (hgroup : s.group = some g)
    (count : ℕ) :
    (s.readNew count).1 = s.upcoming g count ∧
      ∃ pending, (s.readNew count).2.group =
        some ⟨g.next + (s.upcoming g count).length, pending⟩ := by
  unfold readNew
  split
  · rename_i hnone
    cases hnone.symm.trans hgroup
  · rename_i g' hsome
    cases hsome.symm.trans hgroup
    exact ⟨rfl, _, rfl⟩

theorem readNew_of_none {s : StreamLog μ} (hgroup : s.group = none) (count : ℕ) :
    s.readNew count = ([], s) := by
  unfold readNew
  split
  · rfl
  · rename_i g hsome
    cases hgroup.symm.trans hsome

theorem createGroup_of_none {s : StreamLog μ} (hgroup : s.group = none) :
    s.createGroup.group = some ⟨s.entries.length, []⟩ := by
  unfold createGroup
  split
  · rename_i g hsome
    cases hgroup.symm.trans hsome
  · rfl

theorem createGroup_of_group {s : StreamLog μ} {g : ConsumerGroup}
    (hgroup : s.group = some g) : s.createGroup = s := by
  unfold createGroup
  rw [hgroup]

/-! ## What is deliverable -/

theorem deliverable_add_self {s : StreamLog μ} {g : ConsumerGroup}
    (hgroup : s.group = some g) (m : μ) : (s.add m).Deliverable s.entries.length := by
  refine ⟨g, hgroup, s.next_le g hgroup, ?_⟩
  rw [add_entries, List.length_append]
  exact Nat.lt_succ_self _

theorem Deliverable.add {s : StreamLog μ} {id : ℕ} (h : s.Deliverable id) (m : μ) :
    (s.add m).Deliverable id := by
  obtain ⟨g, hgroup, hnext, hid⟩ := h
  refine ⟨g, hgroup, hnext, ?_⟩
  rw [add_entries, List.length_append]
  omega

theorem Deliverable.createGroup {s : StreamLog μ} {id : ℕ} (h : s.Deliverable id) :
    s.createGroup.Deliverable id := by
  obtain ⟨g, hgroup, hid⟩ := h
  rw [createGroup_of_group hgroup]
  exact ⟨g, hgroup, hid⟩

theorem Deliverable.ack {s : StreamLog μ} {id : ℕ} (h : s.Deliverable id) (id' : ℕ) :
    (s.ack id').Deliverable id := by
  obtain ⟨g, hgroup, hid⟩ := h
  refine ⟨{ g with pending := g.pending.filter (· ≠ id') }, ?_, hid⟩
  rw [ack_group, hgroup]
  rfl

theorem mem_upcoming {s : StreamLog μ} {g : ConsumerGroup} {count id : ℕ} {m : μ} :
    (m, id) ∈ s.upcoming g count ↔
      g.next ≤ id ∧ id < g.next + count ∧ s.entries[id]? = some m := by
  rw [upcoming, List.mem_zipIdx_iff_le_and_getElem?_sub, List.getElem?_take]
  constructor
  · rintro ⟨hnext, hentry⟩
    split at hentry
    · rename_i hcount
      rw [List.getElem?_drop, Nat.add_sub_cancel' hnext] at hentry
      exact ⟨hnext, by omega, hentry⟩
    · contradiction
  · rintro ⟨hnext, hcount, hentry⟩
    refine ⟨hnext, ?_⟩
    rw [if_pos (by omega), List.getElem?_drop, Nat.add_sub_cancel' hnext]
    exact hentry

theorem Deliverable.readNew {s : StreamLog μ} {id : ℕ} (h : s.Deliverable id) (count : ℕ) :
    (∃ m, (m, id) ∈ (s.readNew count).1 ∧ s.entries[id]? = some m) ∨
      (s.readNew count).2.Deliverable id := by
  obtain ⟨g, hgroup, hnext, hid⟩ := h
  obtain ⟨hbatch, pending, hafter⟩ := readNew_of_group hgroup count
  by_cases hread : id < g.next + count
  · have hentry : s.entries[id]? = some s.entries[id] := List.getElem?_eq_getElem hid
    refine .inl ⟨s.entries[id], ?_, hentry⟩
    rw [hbatch]
    exact mem_upcoming.mpr ⟨hnext, hread, hentry⟩
  · refine .inr ⟨_, hafter, ?_, ?_⟩
    · simp only [length_upcoming]
      omega
    · rw [readNew_entries]
      exact hid

theorem deliverable_of_mem_readNew {s : StreamLog μ} {count id : ℕ} {m : μ}
    (h : (m, id) ∈ (s.readNew count).1) : s.Deliverable id ∧ s.entries[id]? = some m := by
  cases hgroup : s.group with
  | none =>
      rw [readNew_of_none hgroup] at h
      cases h
  | some g =>
      rw [(readNew_of_group hgroup count).1] at h
      obtain ⟨hnext, -, hentry⟩ := mem_upcoming.mp h
      have hid : id < s.entries.length := (List.getElem?_eq_some_iff.mp hentry).1
      exact ⟨⟨g, hgroup, hnext, hid⟩, hentry⟩

theorem readNew_of_caughtUp {s : StreamLog μ} (h : s.CaughtUp) (count : ℕ) :
    (s.readNew count).1 = [] ∧ (s.readNew count).2.CaughtUp := by
  cases hgroup : s.group with
  | none =>
      rw [readNew_of_none hgroup]
      exact ⟨rfl, h⟩
  | some g =>
      obtain ⟨hbatch, pending, hafter⟩ := readNew_of_group hgroup count
      have hnothing : (s.upcoming g count).length = 0 := by
        rw [length_upcoming, h g hgroup]
        simp
      constructor
      · rw [hbatch]
        exact List.eq_nil_of_length_eq_zero hnothing
      · intro g' hg'
        cases hafter.symm.trans hg'
        simp only [hnothing, readNew_entries, Nat.add_zero]
        exact h g hgroup

theorem CaughtUp.createGroup {s : StreamLog μ} (h : s.CaughtUp) : s.createGroup.CaughtUp := by
  cases hgroup : s.group with
  | none =>
      intro g hg
      cases (createGroup_of_none hgroup).symm.trans hg
      rw [createGroup_entries]
  | some g =>
      rw [createGroup_of_group hgroup]
      exact h

theorem passed_add {s : StreamLog μ} (hgroup : s.group = none) (m : μ) :
    (s.add m).Passed s.entries.length := by
  constructor
  · rw [add_entries, List.length_append]
    exact Nat.lt_succ_self _
  · intro g hg
    cases hgroup.symm.trans hg

theorem Passed.add {s : StreamLog μ} {id : ℕ} (h : s.Passed id) (m : μ) :
    (s.add m).Passed id := by
  refine ⟨?_, h.next⟩
  rw [add_entries, List.length_append]
  exact Nat.lt_add_right _ h.length

theorem Passed.createGroup {s : StreamLog μ} {id : ℕ} (h : s.Passed id) :
    s.createGroup.Passed id := by
  cases hgroup : s.group with
  | none =>
      refine ⟨by rw [createGroup_entries]; exact h.length, ?_⟩
      intro g hg
      cases (createGroup_of_none hgroup).symm.trans hg
      exact h.length
  | some g =>
      rw [createGroup_of_group hgroup]
      exact h

theorem Passed.ack {s : StreamLog μ} {id : ℕ} (h : s.Passed id) (id' : ℕ) :
    (s.ack id').Passed id := by
  refine ⟨h.length, ?_⟩
  intro g hg
  rw [ack_group] at hg
  obtain ⟨g', hg', rfl⟩ := Option.map_eq_some_iff.mp hg
  exact h.next g' hg'

theorem Passed.readNew {s : StreamLog μ} {id : ℕ} (h : s.Passed id) (count : ℕ) :
    (s.readNew count).2.Passed id := by
  cases hgroup : s.group with
  | none =>
      rw [readNew_of_none hgroup]
      exact h
  | some g =>
      obtain ⟨-, pending, hafter⟩ := readNew_of_group hgroup count
      refine ⟨by rw [readNew_entries]; exact h.length, ?_⟩
      intro g' hg'
      cases hafter.symm.trans hg'
      exact Nat.lt_add_right _ (h.next g hgroup)

theorem Passed.not_deliverable {s : StreamLog μ} {id : ℕ} (h : s.Passed id) :
    ¬ s.Deliverable id := by
  rintro ⟨g, hgroup, hle, -⟩
  have hlt := h.next g hgroup
  omega

end StreamLog

end WorldlandBroker.Foundation
