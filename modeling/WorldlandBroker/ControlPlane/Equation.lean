import WorldlandBroker.ControlPlane.Postings
import WorldlandBroker.Provider.Balance

/-!
# The ledger equation of the whole system

Along a run a provider's ledger keeps `Total = Available + InUse + Mining` as long
as the actions about it find the pools the code takes for granted.  The watch, the
sweeper and `DeleteJob` do not check what they give back, so two of them may
return the same job.
-/

namespace WorldlandBroker.ControlPlane

open Foundation Provider Job State

variable {K : QuantityAPI} {s s' s₀ : State K} {a : Action}

variable {id : String} {p : ProviderState}

structure Sound (s : State K) (a : Action) (id : String) (p : ProviderState) :
    Prop where
  allocation : ∀ x, admits s a = some x → x.providerID = id →
    p.capacity.PoolReady p.spec
  release : ∀ r, returns s a = some r → r.providerID = id →
    0 ≤ r.gpuCount ∧
      r.gpuCount ≤ p.capacity.inUse (resolveGPUType p.spec r.gpuType)
  deployment : ∀ config first deployed,
    a = .mining id (.deploy config first deployed) →
      DeploysSoundly id p.spec p.capacity config first deployed

def soundActions (id : String) : Guard (State K) Action := fun _ s a =>
  ∀ p, s.providers id = some p → Sound s a id p

private theorem run_balanced {call : MiningCall} (h : Balanced p.capacity)
    (hcall : call.Admissible p.capacity)
    (hdeploy : ∀ config first deployed, call = .deploy config first deployed →
      DeploysSoundly id p.spec p.capacity config first deployed) :
    Balanced (call.run id p) := by
  cases call with
  | allocate gpuType gpuCount =>
      obtain ⟨e, hshift⟩ := allocateMining_shift p.capacity
        (miningGPUType gpuType) hcall h.mining_nonneg
      exact h.shift hshift
  | release gpuType gpuCount =>
      obtain ⟨e, hshift⟩ := releaseMining_shift p.capacity
        (miningGPUType gpuType) hcall h.available_nonneg
      exact h.shift hshift
  | deploy config first deployed =>
      obtain ⟨e, hshift⟩ := (hdeploy config first deployed rfl).shift h.available_nonneg
      exact h.shift hshift
  | stop deleted =>
      obtain ⟨e, hshift⟩ := stopMining_shift p.capacity deleted
      exact h.shift hshift
  | sync reported =>
      obtain ⟨e, hshift⟩ := syncMining_shift p.capacity reported
      exact h.shift hshift

private theorem change_balanced {c : ProviderCapacity}
    (h : Balanced p.capacity) (hsound : Sound s a id p)
    (hchange : Change s a id p c) : Balanced c := by
  cases hchange with
  | kept => exact h
  | asked x hadmits hreturns hid =>
      exact h.allocate (hsound.allocation x hadmits hid)
        (admits_gpuCount_pos hadmits).le
  | returned r hreturns hadmits hid =>
      obtain ⟨hcount, hinUse⟩ := hsound.release r hreturns hid
      exact (h.release_iff hcount r.cpuCores r.memoryMB).mpr hinUse
  | mined call haction hcall =>
      refine run_balanced h hcall fun config first deployed hdeploy => ?_
      exact hsound.deployment config first deployed (hdeploy ▸ haction)

def LedgerBalanced (s : State K) (id : String) : Prop :=
  ∀ p, s.providers id = some p → Balanced p.capacity

def LedgerRegistered (s : State K) (id : String) : Prop :=
  ∀ p, s.providers id = some p → Registered p.capacity

private theorem step_balanced (h : LedgerBalanced s id)
    (hsound : ∀ p, s.providers id = some p → Sound s a id p)
    (hstep : step s a = some s') : LedgerBalanced s' id := by
  intro p' hp'
  rcases step_capacity hstep id with ⟨-, hnone⟩ | ⟨p, c, hp, hafter, hchange⟩
  · rw [hnone] at hp'
    contradiction
  · rw [hafter] at hp'
    cases hp'
    exact change_balanced (h p hp) (hsound p hp) hchange

/-- Actions that are sound for a provider keep its equation in every state of every run. -/
theorem ledger_equation {past : List (Transition (State K) Action)}
    (h₀ : LedgerRegistered s₀ id) (hrun : Run step (soundActions id) s₀ past s) :
    LedgerBalanced s id :=
  hrun.always (fun p hp => (h₀ p hp).balanced)
    fun _ _ _ _ hbalanced hguard hstep => step_balanced hbalanced hguard hstep

private theorem sampleState_registered (id : String) : LedgerRegistered sampleState id := by
  intro p hp
  simp only [sampleState] at hp
  split at hp
  · cases hp
    refine ⟨fun t => rfl, fun t => rfl, fun t => rfl, fun t => ?_⟩
    simp only [ProviderCapacity.total, sampleCapacity, NilMap.count_put]
    split
    · decide
    · simp
  · contradiction

private theorem soundActions_of {past : List (Transition (State K) Action)}
    (hmining : ∀ call, a ≠ .mining id call)
    (hadmits : ∀ x, admits s a = some x → ∀ p,
      s.providers x.providerID = some p → p.capacity.availableGPUs ≠ none)
    (hreturns : ∀ r, returns s a = some r → ∀ p,
      s.providers r.providerID = some p → 0 ≤ r.gpuCount ∧
        r.gpuCount ≤ p.capacity.inUse (resolveGPUType p.spec r.gpuType)) :
    soundActions id past s a := by
  intro p hp
  refine ⟨fun x hx hid hnone => ?_, fun r hr hid => ?_,
    fun config first deployed ha => absurd ha (hmining _)⟩
  · exact absurd hnone (hadmits x hx p (hid ▸ hp))
  · exact hreturns r hr p (hid ▸ hp)

/-- A job whose pod is removed while the watch is up. -/
theorem ledger_equation_watched : ∃ past s,
    Run step (soundActions "p1") sampleState past s ∧ past.length = 7 ∧
      LedgerBalanced s "p1" := by
  have hstart : Run step (soundActions "p1") sampleState [] sampleState := .nil
  have hcreated := hstart.take (.createJob "alice" sampleRequest none none)
    (soundActions_of (by simp) (by simp [admits]) (by simp [returns])) rfl
  have hallocated := hcreated.take (.allocate 0)
    (soundActions_of (by simp) (by
      intro x hx p hp
      cases hx
      cases hp
      decide) (by simp [returns])) rfl
  have hpod := hallocated.take (.createPod 0 0 true)
    (soundActions_of (by simp) (by simp [admits]) (by simp [returns])) rfl
  have hservice := hpod.take (.createService 0 true)
    (soundActions_of (by simp) (by simp [admits]) (by simp [returns])) rfl
  have hadded := hservice.take .deliver
    (soundActions_of (by simp) (by simp [admits]) (by
      intro r hr
      cases hr)) rfl
  have hremoved := hadded.take (.removePod 0)
    (soundActions_of (by simp) (by simp [admits]) (by simp [returns])) rfl
  have hreturned := hremoved.take .deliver
    (soundActions_of (by simp) (by simp [admits]) (by
      intro r hr p hp
      cases hr
      cases hp
      decide)) rfl
  exact ⟨_, _, hreturned, rfl, ledger_equation (sampleState_registered "p1") hreturned⟩

/-- The watch and the sweeper both return the two GPUs of a failed pod. -/
theorem equation_broken_twice : ∃ past s p,
    Run step anyStep sampleState past s ∧ (∀ id, LedgerRegistered sampleState id) ∧
      s.providers "p1" = some p ∧ p.capacity.total "RTX 4090" = 8 ∧
      p.capacity.available "RTX 4090" = 10 ∧ p.capacity.inUse "RTX 4090" = 0 ∧
      p.capacity.mining "RTX 4090" = 0 :=
  ⟨_, _, _, Run.of_isSome sampleFailure_runs, sampleState_registered, rfl,
    by decide, by decide, by decide, by decide⟩

end WorldlandBroker.ControlPlane
