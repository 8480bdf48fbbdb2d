import WorldlandBroker.Foundation.Run
import WorldlandBroker.Registration.Handler

/-!
# Re-registration and live accounting

As long as no request is completed for a provider with resources in use whose
status was read as anything but joined, and none of its requests starts mining,
neither registrations nor heartbeats, sweeps and joins change what the ledger
says of the provider.
-/

namespace WorldlandBroker.Registration

open Foundation Provider

/-! ## The accounts of a provider -/

def Live (s : State) (id : String) : Prop :=
  ∃ p ∈ s.providers id,
    (∃ t, 0 < p.capacity.inUse t) ∨ 0 < p.capacity.inUseCPUCores ∨
      0 < p.capacity.inUseMemoryMB ∨ (∃ t, 0 < p.capacity.mining t) ∨
      0 < p.capacity.miningCPUCores ∨ 0 < p.capacity.miningMemoryMB

/-- What is in use, what is mining, and what `AllocateResources` would grant. -/
structure SameAccounts (p p' : ProviderState) : Prop where
  inUse : ∀ t, p'.capacity.inUse t = p.capacity.inUse t
  inUseCPUCores : p'.capacity.inUseCPUCores = p.capacity.inUseCPUCores
  inUseMemoryMB : p'.capacity.inUseMemoryMB = p.capacity.inUseMemoryMB
  mining : ∀ t, p'.capacity.mining t = p.capacity.mining t
  miningCPUCores : p'.capacity.miningCPUCores = p.capacity.miningCPUCores
  miningMemoryMB : p'.capacity.miningMemoryMB = p.capacity.miningMemoryMB
  granted : ∀ a, (allocateResources p'.spec p'.capacity a).1 = .ok () ↔
    (allocateResources p.spec p.capacity a).1 = .ok ()

def AccountsKept (s s' : State) (id : String) : Prop :=
  ∃ p p', s.providers id = some p ∧ s'.providers id = some p' ∧
    SameAccounts p.toProviderState p'.toProviderState

/-! ## What the run must observe -/

def Harmless (o : Orchestrator) (h : Handling) : Prop :=
  h.joined.isSome ∧ (h.req.miningConfig = none ∨ o.miningManager = false)

instance (o : Orchestrator) (h : Handling) : Decidable (Harmless o h) :=
  inferInstanceAs (Decidable (_ ∧ _))

/-- A request for a live provider is completed only where that stores and starts nothing. -/
def Careful (o : Orchestrator) (s : State) : Action → Prop
  | .finish _ _ => ∀ h ∈ s.handling, Live s h.req.providerID → Harmless o h
  | _ => True

def careful (o : Orchestrator) : Guard State Action := fun _ s a => Careful o s a

/-- The action moves resources of the provider, other than for a request handled since `s₀`. -/
def Action.Moves (s₀ : State) (id : String) : Action → Prop
  | .ledger id' _ => id' = id
  | .deploy d _ _ => ∃ deployment ∈ s₀.deployments[d]?, deployment.providerID = id
  | _ => False

instance (s₀ : State) (id : String) (a : Action) : Decidable (a.Moves s₀ id) := by
  unfold Action.Moves
  split <;> infer_instance

/-! ## What every step keeps -/

def State.ledger (s : State) (id : String) : Option (SystemSpec × ProviderCapacity) :=
  (s.providers id).map fun p => (p.spec, p.capacity)

structure Untouched (s₀ s : State) (id : String) : Prop where
  ledger : s.ledger id = s₀.ledger id
  deployments : ∀ (d : ℕ) deployment, s.deployments[d]? = some deployment →
    deployment.providerID = id →
      ∃ deployment₀ ∈ s₀.deployments[d]?, deployment₀.providerID = id

theorem State.ledger_eq {s : State} {id : String} {p : RegisteredProvider}
    (h : s.providers id = some p) : s.ledger id = some (p.spec, p.capacity) := by
  rw [State.ledger, h, Option.map_some]

private theorem live_of_ledger {s s' : State} {id : String} (h : s'.ledger id = s.ledger id)
    (hlive : Live s id) : Live s' id := by
  obtain ⟨p, hp, hused⟩ := hlive
  rw [State.ledger_eq hp] at h
  obtain ⟨p', hp', hfigures⟩ := Option.map_eq_some_iff.mp h
  rw [Prod.mk.injEq] at hfigures
  rw [← hfigures.2] at hused
  exact ⟨p', hp', hused⟩

private theorem accountsKept_of_ledger {s s' : State} {id : String} (h : s'.ledger id = s.ledger id)
    (hlive : Live s id) : AccountsKept s s' id := by
  obtain ⟨p, hp, -⟩ := hlive
  rw [State.ledger_eq hp] at h
  obtain ⟨p', hp', hfigures⟩ := Option.map_eq_some_iff.mp h
  obtain ⟨hspec, hcapacity⟩ := Prod.mk.inj hfigures
  refine ⟨p, p', hp, hp', ?_⟩
  constructor <;> simp [hspec, hcapacity]

section Updates

variable {providers : String → Option RegisteredProvider} {id id' : String}

/-- Rewriting what a heartbeat or a join rewrites leaves the figures alone. -/
theorem figures_of_map {f : RegisteredProvider → RegisteredProvider}
    (hf : ∀ p, (f p).spec = p.spec ∧ (f p).capacity = p.capacity) :
    (Function.update providers id' ((providers id').map f) id).map
        (fun p => (p.spec, p.capacity)) =
      (providers id).map fun p => (p.spec, p.capacity) := by
  rcases eq_or_ne id id' with rfl | hne
  · rw [Function.update_self, Option.map_map]
    apply Option.map_congr
    intro p _
    simp [hf p]
  · rw [Function.update_of_ne hne]

private theorem figures_of_markStale (now : ℤ) (p : RegisteredProvider) :
    (markStale now p).spec = p.spec ∧ (markStale now p).capacity = p.capacity := by
  unfold markStale
  split <;> exact ⟨rfl, rfl⟩

private theorem runLedger_of_ne (hne : id' ≠ id) (op : LedgerOp) :
    runLedger providers id' op id = providers id :=
  Function.update_of_ne hne.symm _ _

end Updates

section Steps

variable {o : Orchestrator} {s₀ s s' : State} {id : String} {a : Action}

theorem handleRegistration_joined {h : Handling} {nodeName : String}
    (hjoined : h.joined = some nodeName) (kubeadm : Option (List String)) (now : ℤ) :
    (handleRegistration o h kubeadm now).2 = none := by
  rw [handleRegistration, hjoined]

theorem handleRegistration_unjoined {h : Handling} (hunjoined : h.joined = none)
    (kubeadm : Option (List String)) (now : ℤ) :
    ∃ p, (handleRegistration o h kubeadm now).2 = some p ∧ p.status = statusApproved ∧
      p.spec = h.req.spec ∧ p.capacity = h.req.capacity := by
  unfold handleRegistration
  simp only [hunjoined]
  cases generateJoinToken kubeadm with
  | none => exact ⟨_, rfl, rfl, rfl, rfl⟩
  | some token => exact ⟨_, rfl, rfl, rfl, rfl⟩

private theorem startedMining_harmless {h : Handling} (hharmless : Harmless o h)
    (response : RegistrationResponse) : startedMining o h.req response = none := by
  unfold startedMining
  rcases hharmless.2 with hnone | hmanager
  · rw [hnone]
  · cases h.req.miningConfig with
    | none => rfl
    | some config => simp [hmanager]

theorem Untouched.finish {kubeadm : Option (List String)} {now : ℤ}
    (h : Untouched s₀ s id) (hlive : Live s₀ id)
    (hcareful : Careful o s (.finish kubeadm now))
    (hs : step o s (.finish kubeadm now) = some s') : Untouched s₀ s' id := by
  simp only [step] at hs
  cases hhandling : s.handling with
  | none =>
      rw [hhandling] at hs
      contradiction
  | some handling =>
      rw [hhandling] at hs
      cases hs
      by_cases hid : handling.req.providerID = id
      · have hharmless : Harmless o handling := by
          apply hcareful handling hhandling
          rw [hid]
          exact live_of_ledger h.ledger hlive
        obtain ⟨nodeName, hjoined⟩ := Option.isSome_iff_exists.mp hharmless.1
        simp only [handleRegistration_joined hjoined, startedMining_harmless hharmless]
        exact ⟨h.ledger, h.deployments⟩
      · constructor
        · rw [← h.ledger]
          simp only [State.ledger]
          cases (handleRegistration o handling kubeadm now).2 with
          | none => rfl
          | some p => simp only [Function.update_of_ne (Ne.symm hid)]
        · cases startedMining o handling.req (handleRegistration o handling kubeadm now).1 with
          | none => exact h.deployments
          | some config =>
              apply forall_append h.deployments
              intro hnew
              exact absurd hnew hid

theorem Untouched.step (h : Untouched s₀ s id) (hlive : Live s₀ id)
    (hcareful : Careful o s a) (hmoves : ¬ a.Moves s₀ id)
    (hs : Registration.step o s a = some s') : Untouched s₀ s' id := by
  cases a with
  | receive req =>
      simp only [Registration.step] at hs
      split at hs
      · contradiction
      · cases hs
        exact ⟨h.ledger, h.deployments⟩
  | finish kubeadm now => exact h.finish hlive hcareful hs
  | deploy d first deployed =>
      simp only [Registration.step] at hs
      split at hs
      · contradiction
      · rename_i deployment hslot
        have hid : deployment.providerID ≠ id := by
          intro hid
          exact hmoves (h.deployments d deployment hslot hid)
        split at hs
        · contradiction
        · cases hs
          constructor
          · rw [← h.ledger]
            simp only [State.ledger, runLedger_of_ne hid]
          · apply forall_set h.deployments
            intro hnew
            exact absurd hnew hid
  | handleHeartbeat hb now =>
      cases hs
      refine ⟨?_, h.deployments⟩
      rw [← h.ledger]
      exact figures_of_map fun _ => ⟨rfl, rfl⟩
  | checkStaleProviders now =>
      cases hs
      refine ⟨?_, h.deployments⟩
      rw [← h.ledger, State.ledger, State.ledger, Option.map_map]
      apply Option.map_congr
      intro p _
      simp [figures_of_markStale now p]
  | onNodeJoined nodeName providerID =>
      cases hs
      refine ⟨?_, h.deployments⟩
      rw [← h.ledger]
      exact figures_of_map fun _ => ⟨rfl, rfl⟩
  | ledger providerID op =>
      cases hs
      refine ⟨?_, h.deployments⟩
      rw [← h.ledger]
      simp only [State.ledger, runLedger_of_ne hmoves]

theorem reregistration_keeps_accounts {past : List (Transition State Action)}
    (hrun : Run (Registration.step o) (careful o) s₀ past s) (hlive : Live s₀ id)
    (hquiet : ∀ r ∈ past, ¬ r.act.Moves s₀ id) : AccountsKept s₀ s id := by
  suffices huntouched : Untouched s₀ s id from
    accountsKept_of_ledger huntouched.ledger hlive
  induction hrun with
  | nil => exact ⟨rfl, fun d deployment hslot hid => ⟨deployment, hslot, hid⟩⟩
  | @snoc past s s' a hrun hcareful hs ih =>
      apply Untouched.step
      · apply ih
        intro r hr
        exact hquiet r (List.mem_append_left _ hr)
      · exact hlive
      · exact hcareful
      · exact hquiet ⟨s, a, s'⟩ (by simp)
      · exact hs

end Steps

/-! ## A provider that joins and rents out two GPUs -/

private theorem careful_of_harmless {o : Orchestrator} {s : State} (a : Action)
    (h : ∀ handling ∈ s.handling, Harmless o handling) : Careful o s a := by
  cases a with
  | finish kubeadm now => exact fun handling hhandling _ => h handling hhandling
  | _ => trivial

def initial : State := ⟨fun _ => none, none, []⟩

def sampleOrchestrator : Orchestrator := ⟨"10.0.0.1", 6443, true⟩

def sampleRequest : RegistrationRequest := ⟨"p1", sampleSpec, sampleCapacity, none⟩

def joinActions : List Action :=
  [.receive sampleRequest, .finish none 0, .onNodeJoined "node-1" "p1",
    .ledger "p1" (.allocateResources ⟨"RTX 4090", 2, 8, 16384⟩)]

def availableHeartbeat : Action := .handleHeartbeat ⟨"p1", "node-1", statusAvailable⟩ 30

def repeatActions : List Action :=
  [.receive sampleRequest, availableHeartbeat, .finish none 60, .checkStaleProviders 90]

private theorem repeatActions_checked :
    ∃ run ∈ trace (step sampleOrchestrator) initial joinActions,
      (∃ p ∈ run.2.providers "p1", p.capacity.inUse "RTX 4090" = 2) ∧
        ∃ again ∈ trace (step sampleOrchestrator) run.2 repeatActions, ∀ r ∈ again.1,
          (∀ h ∈ r.pre.handling, Harmless sampleOrchestrator h) ∧
            ¬ r.act.Moves run.2 "p1" := by
  decide +kernel

theorem reregistration_keeps_accounts_sample :
    ∃ run ∈ trace (step sampleOrchestrator) initial joinActions,
      ∃ again ∈ trace (step sampleOrchestrator) run.2 repeatActions,
        AccountsKept run.2 again.2 "p1" := by
  obtain ⟨run, hrun, ⟨p, hp, hused⟩, again, hagain, hsteps⟩ := repeatActions_checked
  have hlive : Live run.2 "p1" := ⟨p, hp, .inl ⟨"RTX 4090", by omega⟩⟩
  have hcareful : Run (step sampleOrchestrator) (careful sampleOrchestrator) run.2 again.1
      again.2 :=
    (Run.of_trace hagain).guarded fun r hr => careful_of_harmless r.act (hsteps r hr).1
  exact ⟨run, hrun, again, hagain,
    reregistration_keeps_accounts hcareful hlive fun r hr => (hsteps r hr).2⟩

def againActions : List Action := [.receive sampleRequest, .finish none 60]

private theorem againActions_checked :
    ∃ run ∈ trace (step sampleOrchestrator) initial (joinActions ++ [availableHeartbeat]),
      ∃ again ∈ trace (step sampleOrchestrator) run.2 againActions,
        ∃ p ∈ run.2.providers "p1", ∃ p' ∈ again.2.providers "p1",
          p.capacity.inUse "RTX 4090" = 2 ∧ p'.capacity.inUse "RTX 4090" = 0 := by
  decide +kernel

theorem reregistration_forgets_rentals :
    ¬ ∀ (o : Orchestrator) (before after : List (Transition State Action)) (s s' : State)
        (req : RegistrationRequest) (kubeadm : Option (List String)) (now : ℤ),
      Run (step o) anyStep initial before s → Live s req.providerID →
      Run (step o) anyStep s after s' →
      after.map Transition.act = [.receive req, .finish kubeadm now] →
        AccountsKept s s' req.providerID := by
  intro hclaim
  obtain ⟨run, hrun, again, hagain, p, hp, p', hp', hbefore, hafter⟩ := againActions_checked
  have hlive : Live run.2 "p1" := ⟨p, hp, .inl ⟨"RTX 4090", by omega⟩⟩
  obtain ⟨q, q', hq, hq', hsame⟩ := hclaim sampleOrchestrator _ _ _ _ sampleRequest none 60
    (Run.of_trace hrun) hlive (Run.of_trace hagain) (trace_acts hagain)
  cases hp.symm.trans hq
  cases hp'.symm.trans hq'
  have hkept : p'.capacity.inUse "RTX 4090" = p.capacity.inUse "RTX 4090" :=
    hsame.inUse "RTX 4090"
  omega

end WorldlandBroker.Registration
