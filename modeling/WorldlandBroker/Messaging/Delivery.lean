import WorldlandBroker.Foundation.Run
import WorldlandBroker.Messaging.Streams
import WorldlandBroker.Registration.Accounting

/-!
# Delivering registrations

The registration worker reads a batch of at most ten messages, handles them one
after the other and acknowledges each, whether its handler has failed or not.
The process may crash between any two of these steps and is started again under
the same consumer name.  What a handled request does is `Registration.step`.
-/

namespace WorldlandBroker.Messaging

open Foundation Registration

/-- `batch` has been read and not been reached, `acking` has been handled. -/
structure Worker (π : Type*) where
  batch : List (Message π)
  handling : Option (Message π)
  acking : Option ℕ
  deriving DecidableEq

def Worker.idle {π : Type*} : Worker π := ⟨[], none, none⟩

structure Delivery where
  stream : StreamLog (Entry String)
  worker : Option (Worker String)
  handled : List ℕ

inductive DeliveryAction where
  | publish (payload : String)
  | boot
  | read
  | readFailed (lost : Bool)
  | handle
  | finish
  | ack (accepted : Bool)
  | crash
  deriving DecidableEq

-- `json.Unmarshal`, the only thing that a handler can fail at
variable (unmarshal : String → Option RegistrationRequest)

def finishHandling (s : Delivery) (batch : List (Message String)) (m : Message String) :
    Delivery where
  stream := s.stream
  worker := some ⟨batch, none, some m.id⟩
  handled :=
    match unmarshal m.data with
    | none => s.handled
    | some _ => s.handled ++ [m.id]

def deliveryStep (s : Delivery) : DeliveryAction → Option Delivery
  | .publish payload => some { s with stream := publish s.stream payload }
  | .boot =>
      match s.worker with
      | some _ => none
      | none => some { s with stream := newConsumer s.stream, worker := some .idle }
  | .read =>
      match s.worker with
      | some ⟨[], none, none⟩ =>
          let (messages, stream) := readMessages s.stream 10
          some { s with stream := stream, worker := some ⟨messages, none, none⟩ }
      | _ => none
  -- the command has not arrived, or its reply is lost
  | .readFailed lost =>
      match s.worker with
      | some ⟨[], none, none⟩ => some { s with
          stream := if lost then (readMessages s.stream 10).2 else s.stream }
      | _ => none
  | .handle =>
      match s.worker with
      | some ⟨m :: batch, none, none⟩ =>
          some { s with worker := some ⟨batch, some m, none⟩ }
      | _ => none
  | .finish =>
      match s.worker with
      | some ⟨batch, some m, none⟩ => some (finishHandling unmarshal s batch m)
      | _ => none
  | .ack accepted =>
      match s.worker with
      | some ⟨batch, none, some id⟩ => some { s with
          stream := if accepted then ack s.stream id else s.stream
          worker := some ⟨batch, none, none⟩ }
      | _ => none
  | .crash =>
      match s.worker with
      | none => none
      | some _ => some { s with worker := none }

/-! ## What is safe -/

def InHand (s : Delivery) (id : ℕ) : Prop :=
  ∃ w, s.worker = some w ∧ ∃ m : Message String, m.id = id ∧
    (m ∈ w.batch ∨ w.handling = some m)

def Safe (s : Delivery) (id : ℕ) : Prop :=
  id ∈ s.handled ∨ InHand s id ∨ s.stream.Deliverable id

def PublishedToGroup (past : List (Transition Delivery DeliveryAction)) (id : ℕ) : Prop :=
  ∃ r ∈ past, (∃ payload, r.act = .publish payload) ∧ r.pre.stream.group ≠ none ∧
    id = r.pre.stream.entries.length

/--
No crash with messages in hand, no reply lost that had messages, and no message
handled that does not unmarshal.
-/
def Undisturbed (s : Delivery) : DeliveryAction → Prop
  | .crash => ∀ w ∈ s.worker, w.batch = [] ∧ w.handling = none
  | .readFailed lost => lost = true → (readMessages s.stream 10).1 = []
  | .finish => ∀ w ∈ s.worker, ∀ m ∈ w.handling, (unmarshal m.data).isSome
  | _ => True

instance (s : Delivery) (a : DeliveryAction) : Decidable (Undisturbed unmarshal s a) :=
  match a with
  | .crash => inferInstanceAs (Decidable (∀ w ∈ s.worker, w.batch = [] ∧ w.handling = none))
  | .readFailed lost =>
      inferInstanceAs (Decidable (lost = true → (readMessages s.stream 10).1 = []))
  | .finish =>
      inferInstanceAs (Decidable
        (∀ w ∈ s.worker, ∀ m ∈ w.handling, (unmarshal m.data).isSome))
  | .publish _ | .boot | .read | .handle | .ack _ => .isTrue trivial

structure Kept (s : Delivery) (id : ℕ) : Prop where
  held : ∃ payload, Holds s.stream id payload
  safe : Safe s id

/-! ## Steps -/

variable {unmarshal} {s s' : Delivery} {id : ℕ}

private theorem kept_publish {payload : String} {g : ConsumerGroup}
    (hgroup : s.stream.group = some g)
    (hs : deliveryStep unmarshal s (.publish payload) = some s') :
    Kept s' s.stream.entries.length := by
  cases hs
  constructor
  · exact ⟨payload, holds_publish s.stream payload⟩
  · right; right
    exact StreamLog.deliverable_add_self hgroup _

theorem Kept.publish {payload : String} (h : Kept s id)
    (hs : deliveryStep unmarshal s (.publish payload) = some s') : Kept s' id := by
  cases hs
  constructor
  · obtain ⟨held, hheld⟩ := h.held
    exact ⟨held, hheld.publish payload⟩
  · rcases h.safe with hhandled | hinHand | hdeliverable
    · exact .inl hhandled
    · exact .inr (.inl hinHand)
    · exact .inr (.inr (hdeliverable.add _))

theorem Kept.boot (h : Kept s id)
    (hs : deliveryStep unmarshal s .boot = some s') : Kept s' id := by
  simp only [deliveryStep] at hs
  split at hs
  · contradiction
  · rename_i hdown
    cases hs
    constructor
    · obtain ⟨payload, hheld⟩ := h.held
      exact ⟨payload, holds_of_entries hheld (StreamLog.createGroup_entries _)⟩
    · rcases h.safe with hhandled | ⟨w, hw, -⟩ | hdeliverable
      · exact .inl hhandled
      · cases hdown.symm.trans hw
      · exact .inr (.inr hdeliverable.createGroup)

private theorem not_inHand_of_idle (hidle : s.worker = some ⟨[], none, none⟩) : ¬ InHand s id := by
  rintro ⟨w, hw, m, -, hm⟩
  cases hidle.symm.trans hw
  rcases hm with hm | hm <;> cases hm

theorem Kept.read (h : Kept s id)
    (hs : deliveryStep unmarshal s .read = some s') : Kept s' id := by
  simp only [deliveryStep] at hs
  split at hs
  · rename_i hidle
    cases hs
    obtain ⟨payload, hheld⟩ := h.held
    constructor
    · exact ⟨payload, holds_of_entries hheld (readMessages_entries _ _)⟩
    · rcases h.safe with hhandled | hinHand | hdeliverable
      · exact .inl hhandled
      · exact absurd hinHand (not_inHand_of_idle hidle)
      · rcases hheld.readMessages hdeliverable 10 with hread | hlater
        · exact .inr (.inl ⟨_, rfl, _, rfl, .inl hread⟩)
        · exact .inr (.inr hlater)
  · contradiction

theorem Kept.readFailed {lost : Bool} (h : Kept s id)
    (hundisturbed : Undisturbed unmarshal s (.readFailed lost))
    (hs : deliveryStep unmarshal s (.readFailed lost) = some s') : Kept s' id := by
  simp only [deliveryStep] at hs
  split at hs
  · rename_i hidle
    cases hs
    cases lost with
    | false => exact h
    | true =>
        have hnothing : (readMessages s.stream 10).1 = [] := hundisturbed rfl
        obtain ⟨payload, hheld⟩ := h.held
        constructor
        · exact ⟨payload, holds_of_entries hheld (readMessages_entries _ _)⟩
        · rcases h.safe with hhandled | hinHand | hdeliverable
          · exact .inl hhandled
          · exact absurd hinHand (not_inHand_of_idle hidle)
          · rcases hheld.readMessages hdeliverable 10 with hread | hlater
            · rw [hnothing] at hread
              cases hread
            · exact .inr (.inr hlater)
  · contradiction

theorem Kept.handle (h : Kept s id)
    (hs : deliveryStep unmarshal s .handle = some s') : Kept s' id := by
  simp only [deliveryStep] at hs
  split at hs
  · rename_i m batch hworker
    cases hs
    refine ⟨h.held, ?_⟩
    rcases h.safe with hhandled | ⟨w, hw, m', hid, hm⟩ | hdeliverable
    · exact .inl hhandled
    · cases hworker.symm.trans hw
      refine .inr (.inl ⟨_, rfl, m', hid, ?_⟩)
      rcases hm with hm | hm
      · rcases List.mem_cons.mp hm with rfl | hm
        · exact .inr rfl
        · exact .inl hm
      · cases hm
    · exact .inr (.inr hdeliverable)
  · contradiction

theorem Kept.finish (h : Kept s id) (hundisturbed : Undisturbed unmarshal s .finish)
    (hs : deliveryStep unmarshal s .finish = some s') : Kept s' id := by
  simp only [deliveryStep] at hs
  split at hs
  · rename_i batch m hworker
    cases hs
    obtain ⟨req, hreq⟩ := Option.isSome_iff_exists.mp (hundisturbed _ hworker m rfl)
    have hafter : (finishHandling unmarshal s batch m).handled = s.handled ++ [m.id] := by
      simp only [finishHandling, hreq]
    refine ⟨h.held, ?_⟩
    rcases h.safe with hhandled | ⟨w, hw, m', hid, hm⟩ | hdeliverable
    · left
      rw [hafter]
      exact List.mem_append_left _ hhandled
    · cases hworker.symm.trans hw
      rcases hm with hm | hm
      · exact .inr (.inl ⟨_, rfl, m', hid, .inl hm⟩)
      · left
        cases hm
        rw [hafter, ← hid]
        simp
    · exact .inr (.inr hdeliverable)
  · contradiction

theorem Kept.ack {accepted : Bool} (h : Kept s id)
    (hs : deliveryStep unmarshal s (.ack accepted) = some s') : Kept s' id := by
  simp only [deliveryStep] at hs
  split at hs
  · rename_i batch id' hworker
    cases hs
    constructor
    · cases accepted with
      | false => exact h.held
      | true => exact h.held
    · rcases h.safe with hhandled | ⟨w, hw, m, hid, hm⟩ | hdeliverable
      · exact .inl hhandled
      · cases hworker.symm.trans hw
        rcases hm with hm | hm
        · exact .inr (.inl ⟨_, rfl, m, hid, .inl hm⟩)
        · cases hm
      · right; right
        cases accepted with
        | false => exact hdeliverable
        | true => exact hdeliverable.ack id'
  · contradiction

theorem Kept.crash (h : Kept s id) (hundisturbed : Undisturbed unmarshal s .crash)
    (hs : deliveryStep unmarshal s .crash = some s') : Kept s' id := by
  simp only [deliveryStep] at hs
  split at hs
  · contradiction
  · cases hs
    refine ⟨h.held, ?_⟩
    rcases h.safe with hhandled | ⟨w, hw, m, -, hm⟩ | hdeliverable
    · exact .inl hhandled
    · obtain ⟨hbatch, hhandling⟩ := hundisturbed w hw
      rw [hbatch, hhandling] at hm
      rcases hm with hm | hm <;> cases hm
    · exact .inr (.inr hdeliverable)

theorem Kept.step {a : DeliveryAction} (h : Kept s id)
    (hundisturbed : Undisturbed unmarshal s a)
    (hs : deliveryStep unmarshal s a = some s') : Kept s' id := by
  cases a with
  | publish payload => exact h.publish hs
  | boot => exact h.boot hs
  | read => exact h.read hs
  | readFailed lost => exact h.readFailed hundisturbed hs
  | handle => exact h.handle hs
  | finish => exact h.finish hundisturbed hs
  | ack accepted => exact h.ack hs
  | crash => exact h.crash hundisturbed hs

/-! ## Runs -/

/--
In an undisturbed run every message that was published to the group is handled,
in the worker's hands or still to be read.
-/
theorem registration_never_lost {s₀ : Delivery}
    {past : List (Transition Delivery DeliveryAction)}
    (hrun : Run (deliveryStep unmarshal) (fun _ => Undisturbed unmarshal) s₀ past s) :
    ∀ id, PublishedToGroup past id → Safe s id := by
  intro id hpublished
  have hkept : PublishedToGroup past id → Kept s id := by
    apply hrun.invariant (I := fun past s => PublishedToGroup past id → Kept s id)
    · rintro ⟨r, hr, -⟩
      cases hr
    · rintro past s a s' - hpre hundisturbed hs ⟨r, hr, ⟨payload, hact⟩, hgroup, hid⟩
      rcases List.mem_append.mp hr with hr | hr
      · exact (hpre ⟨r, hr, ⟨payload, hact⟩, hgroup, hid⟩).step hundisturbed hs
      · obtain rfl := List.mem_singleton.mp hr
        obtain ⟨g, hgroup⟩ := Option.ne_none_iff_exists'.mp hgroup
        cases hact
        rw [hid]
        exact kept_publish hgroup hs
  exact (hkept hpublished).safe

/-! ## What is lost stays lost -/

structure Lost (s : Delivery) (id : ℕ) : Prop where
  passed : s.stream.Passed id
  notInHand : ¬ InHand s id
  unhandled : id ∉ s.handled

theorem Lost.not_safe (h : Lost s id) : ¬ Safe s id := by
  rintro (hhandled | hinHand | hdeliverable)
  · exact h.unhandled hhandled
  · exact h.notInHand hinHand
  · exact h.passed.not_deliverable hdeliverable

theorem Lost.frame (h : Lost s id) (hpassed : s'.stream.Passed id)
    (hhandled : s'.handled = s.handled)
    (hworker : ∀ w', s'.worker = some w' → ∀ m : Message String,
      m ∈ w'.batch ∨ w'.handling = some m →
        ∃ w, s.worker = some w ∧ (m ∈ w.batch ∨ w.handling = some m)) : Lost s' id := by
  refine ⟨hpassed, ?_, ?_⟩
  · rintro ⟨w', hw', m, hid, hm⟩
    obtain ⟨w, hw, hheld⟩ := hworker w' hw' m hm
    exact h.notInHand ⟨w, hw, m, hid, hheld⟩
  · rw [hhandled]
    exact h.unhandled

theorem Lost.read (h : Lost s id)
    (hs : deliveryStep unmarshal s .read = some s') : Lost s' id := by
  simp only [deliveryStep] at hs
  split at hs
  · cases hs
    refine ⟨h.passed.readNew 10, ?_, h.unhandled⟩
    rintro ⟨w, hw, m, hid, hm⟩
    cases hw
    rcases hm with hread | hnone
    · have hdeliverable := (deliverable_of_mem_readMessages hread).1
      rw [hid] at hdeliverable
      exact h.passed.not_deliverable hdeliverable
    · cases hnone
  · contradiction

theorem Lost.finish (h : Lost s id)
    (hs : deliveryStep unmarshal s .finish = some s') : Lost s' id := by
  simp only [deliveryStep] at hs
  split at hs
  · rename_i batch m hworker
    cases hs
    have hother : m.id ≠ id := fun hid => h.notInHand ⟨_, hworker, m, hid, .inr rfl⟩
    refine ⟨h.passed, ?_, ?_⟩
    · rintro ⟨w, hw, m', hid, hm'⟩
      cases hw
      rcases hm' with hm' | hnone
      · exact h.notInHand ⟨_, hworker, m', hid, .inl hm'⟩
      · cases hnone
    · simp only [finishHandling]
      split
      · exact h.unhandled
      · intro hhandled
        rcases List.mem_append.mp hhandled with hhandled | hself
        · exact h.unhandled hhandled
        · exact hother (List.mem_singleton.mp hself).symm
  · contradiction

theorem Lost.step {a : DeliveryAction} (h : Lost s id)
    (hs : deliveryStep unmarshal s a = some s') : Lost s' id := by
  cases a with
  | publish payload =>
      cases hs
      exact h.frame (h.passed.add _) rfl fun w hw m hm => ⟨w, hw, hm⟩
  | boot =>
      simp only [deliveryStep] at hs
      split at hs
      · contradiction
      · cases hs
        refine h.frame h.passed.createGroup rfl ?_
        intro w hw m hm
        cases hw
        rcases hm with hm | hm <;> cases hm
  | read => exact h.read hs
  | readFailed lost =>
      simp only [deliveryStep] at hs
      split at hs
      · cases hs
        refine h.frame ?_ rfl fun w hw m hm => ⟨w, hw, hm⟩
        cases lost with
        | false => exact h.passed
        | true => exact h.passed.readNew 10
      · contradiction
  | handle =>
      simp only [deliveryStep] at hs
      split at hs
      · rename_i first batch hworker
        cases hs
        refine h.frame h.passed rfl ?_
        intro w hw m hm
        cases hw
        refine ⟨_, hworker, .inl ?_⟩
        rcases hm with hm | hm
        · exact List.mem_cons_of_mem _ hm
        · cases hm
          exact List.mem_cons_self
      · contradiction
  | finish => exact h.finish hs
  | ack accepted =>
      simp only [deliveryStep] at hs
      split at hs
      · rename_i batch id' hworker
        cases hs
        refine h.frame ?_ rfl ?_
        · cases accepted with
          | false => exact h.passed
          | true => exact h.passed.ack id'
        · intro w hw m hm
          cases hw
          exact ⟨_, hworker, hm⟩
      · contradiction
  | crash =>
      simp only [deliveryStep] at hs
      split at hs
      · contradiction
      · cases hs
        refine h.frame h.passed rfl ?_
        intro w hw
        cases hw

/-- No later step, disturbed or not, brings a lost registration back. -/
theorem lost_for_good {s₀ : Delivery} {past : List (Transition Delivery DeliveryAction)}
    (hrun : Run (deliveryStep unmarshal) anyStep s₀ past s) (hlost : Lost s₀ id) :
    ¬ Safe s id := by
  have hstill : Lost s id := by
    apply hrun.always (I := fun s => Lost s id) hlost
    intro _ _ _ _ hpre _ hs
    exact hpre.step hs
  exact hstill.not_safe

/-! ## A worker that is started again -/

def samplePayload : String :=
  "\x7b\"provider_id\":\"p1\",\"spec\":\x7b\"hostname\":\"node-1\",\"cpu_cores\":64," ++
    "\"total_memory_mb\":262144,\"gpus\":[\x7b\"name\":\"RTX 4090\"\x7d],\"total_gpus\":8\x7d," ++
    "\"capacity\":\x7b\"gpu_count\":8,\"cpu_cores\":64,\"memory_mb\":262144," ++
    "\"total_gpus\":\x7b\"RTX 4090\":8\x7d,\"total_cpu_cores\":64,\"total_memory_mb\":262144," ++
    "\"available_gpus\":\x7b\"RTX 4090\":8\x7d,\"available_cpu_cores\":64," ++
    "\"available_memory_mb\":262144\x7d\x7d"

def sampleUnmarshal (payload : String) : Option RegistrationRequest :=
  if payload = samplePayload then some sampleRequest else none

def quiet : Delivery := ⟨.empty, none, []⟩

def restartActions : List DeliveryAction :=
  [.boot, .publish samplePayload, .read, .handle, .finish, .ack true, .crash,
    .publish samplePayload, .boot]

private theorem restartActions_checked :
    ∃ run ∈ trace (deliveryStep sampleUnmarshal) quiet restartActions,
      (∀ r ∈ run.1, Undisturbed sampleUnmarshal r.pre r.act) ∧
        ∃ r ∈ run.1, r.act = .publish samplePayload ∧ r.pre.stream.group ≠ none ∧
          1 = r.pre.stream.entries.length := by
  decide +kernel

theorem registration_never_lost_sample :
    ∃ run ∈ trace (deliveryStep sampleUnmarshal) quiet restartActions, Safe run.2 1 := by
  obtain ⟨run, hrun, hundisturbed, r, hr, hact, hgroup, hid⟩ := restartActions_checked
  have hpublished : PublishedToGroup run.1 1 := ⟨r, hr, ⟨samplePayload, hact⟩, hgroup, hid⟩
  exact ⟨run, hrun,
    registration_never_lost ((Run.of_trace hrun).guarded hundisturbed) 1 hpublished⟩

def killedActions : List DeliveryAction :=
  [.boot, .publish samplePayload, .read, .handle, .crash, .boot]

private theorem killedActions_checked :
    ∃ run ∈ trace (deliveryStep sampleUnmarshal) quiet killedActions,
      (∃ r ∈ run.1, r.act = .publish samplePayload ∧ r.pre.stream.group ≠ none ∧
          0 = r.pre.stream.entries.length) ∧
        run.2.worker = some ⟨[], none, none⟩ ∧ run.2.handled = [] ∧
          ∀ g ∈ run.2.stream.group, ¬ g.next ≤ 0 := by
  decide +kernel

theorem registration_lost_on_crash :
    ¬ ∀ (unmarshal : String → Option RegistrationRequest) (s₀ s : Delivery)
        (past : List (Transition Delivery DeliveryAction)),
      Run (deliveryStep unmarshal) anyStep s₀ past s →
        ∀ id, PublishedToGroup past id → Safe s id := by
  intro hclaim
  obtain ⟨run, hrun, ⟨r, hr, hact, hgroup, hid⟩, hidle, hhandled, hnext⟩ :=
    killedActions_checked
  have hpublished : PublishedToGroup run.1 0 := ⟨r, hr, ⟨samplePayload, hact⟩, hgroup, hid⟩
  rcases hclaim _ _ _ _ (Run.of_trace hrun) 0 hpublished with hsafe | hinHand | ⟨g, hg, hle, -⟩
  · rw [hhandled] at hsafe
    cases hsafe
  · exact not_inHand_of_idle hidle hinHand
  · exact hnext g hg hle

end WorldlandBroker.Messaging
