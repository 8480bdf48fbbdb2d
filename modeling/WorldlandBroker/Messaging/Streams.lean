import WorldlandBroker.Foundation.StreamLog

/-!
# Producers and consumers

The wrapper around Redis streams that the control plane and its hosts share.  An
entry holds its payload under the key `data`; a consumer asks for new entries
only, so that what it has been given once it is never given again.
-/

namespace WorldlandBroker.Messaging

open Foundation

/-- The fields of an entry that are read back; `data` may be missing. -/
structure Entry (π : Type*) where
  data : Option π
  deriving DecidableEq

structure Message (π : Type*) where
  id : ℕ
  data : π
  deriving DecidableEq

variable {π : Type*}

def publish (s : StreamLog (Entry π)) (payload : π) : StreamLog (Entry π) :=
  s.add ⟨some payload⟩

/-- The group is made at `$`; that it exists already is no error. -/
def newConsumer (s : StreamLog (Entry π)) : StreamLog (Entry π) := s.createGroup

/-- Entries without a payload are skipped, and stay pending. -/
def readMessages (s : StreamLog (Entry π)) (count : ℕ) :
    List (Message π) × StreamLog (Entry π) :=
  let (batch, s) := s.readNew count
  (batch.filterMap fun (entry, id) => entry.data.map fun data => ⟨id, data⟩, s)

def ack (s : StreamLog (Entry π)) (messageID : ℕ) : StreamLog (Entry π) := s.ack messageID

/-! ## A payload in the stream -/

def Holds (s : StreamLog (Entry π)) (id : ℕ) (payload : π) : Prop :=
  s.entries[id]? = some ⟨some payload⟩

theorem holds_publish (s : StreamLog (Entry π)) (payload : π) :
    Holds (publish s payload) s.entries.length payload := by
  simp [Holds, publish]

theorem Holds.publish {s : StreamLog (Entry π)} {id : ℕ} {payload : π}
    (h : Holds s id payload) (payload' : π) : Holds (publish s payload') id payload := by
  have hid : id < s.entries.length := (List.getElem?_eq_some_iff.mp h).1
  unfold Holds Messaging.publish at *
  rw [StreamLog.add_entries, List.getElem?_append_left hid]
  exact h

theorem holds_of_entries {s s' : StreamLog (Entry π)} {id : ℕ} {payload : π}
    (h : Holds s id payload) (hentries : s'.entries = s.entries) : Holds s' id payload := by
  unfold Holds at *
  rw [hentries]
  exact h

theorem readMessages_entries (s : StreamLog (Entry π)) (count : ℕ) :
    (readMessages s count).2.entries = s.entries := by
  simp only [readMessages, StreamLog.readNew_entries]

theorem mem_readMessages {s : StreamLog (Entry π)} {count : ℕ} {m : Message π} :
    m ∈ (readMessages s count).1 ↔ (⟨some m.data⟩, m.id) ∈ (s.readNew count).1 := by
  simp only [readMessages, List.mem_filterMap, Option.map_eq_some_iff]
  constructor
  · rintro ⟨⟨⟨entry⟩, id⟩, hmem, data, rfl, rfl⟩
    exact hmem
  · intro hmem
    exact ⟨_, hmem, m.data, rfl, rfl⟩

/-- A payload that may be read is read, or may be read the next time. -/
theorem Holds.readMessages {s : StreamLog (Entry π)} {id : ℕ} {payload : π}
    (h : Holds s id payload) (hdeliverable : s.Deliverable id) (count : ℕ) :
    ⟨id, payload⟩ ∈ (readMessages s count).1 ∨
      (Messaging.readMessages s count).2.Deliverable id := by
  rcases hdeliverable.readNew count with ⟨entry, hread, hentry⟩ | hlater
  · left
    cases hentry.symm.trans h
    exact mem_readMessages.mpr hread
  · exact .inr hlater

theorem readMessages_of_caughtUp {s : StreamLog (Entry π)} (h : s.CaughtUp) (count : ℕ) :
    (readMessages s count).1 = [] ∧ (readMessages s count).2.CaughtUp := by
  obtain ⟨hnothing, hafter⟩ := StreamLog.readNew_of_caughtUp h count
  refine ⟨?_, hafter⟩
  simp only [readMessages, hnothing, List.filterMap_nil]

theorem deliverable_of_mem_readMessages {s : StreamLog (Entry π)} {count : ℕ}
    {m : Message π} (hm : m ∈ (readMessages s count).1) :
    s.Deliverable m.id ∧ Holds s m.id m.data :=
  StreamLog.deliverable_of_mem_readNew (mem_readMessages.mp hm)

end WorldlandBroker.Messaging
