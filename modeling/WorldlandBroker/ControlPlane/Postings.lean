import WorldlandBroker.ControlPlane.Inversion
import WorldlandBroker.Provider.LedgerEffect

/-!
# What an action posts to the ledgers

Whatever an action does to the rest of the system, it changes the ledger of a
provider in one of three ways: one allocation call, one release or one mining
call.  `admits` and `returns` read the first two off the state it is taken in.
-/

namespace WorldlandBroker.ControlPlane

open Foundation Provider Job State

variable {K : QuantityAPI} {s s' : State K} {a : Action}

structure Admission where
  job : ℕ
  providerID : String
  req : CreateJobRequest
  gpuModel : String
  deriving DecidableEq

def Admission.allocation (x : Admission) : ResourceAllocation :=
  requestAllocation x.req x.gpuModel

def CreateThread.admission (t : CreateThread) (job : ℕ) : Option Admission :=
  t.provider.map fun providerID => ⟨job, providerID, t.req, t.gpuModel⟩

def CreateThread.rollback (t : CreateThread) (job : ℕ) : Option Release :=
  t.provider.map fun providerID => explicitRelease job providerID t.allocation

def DeleteThread.release (t : DeleteThread) : Option Release :=
  t.allocation.map fun x => explicitRelease t.job x.1 x.2

def admits (s : State K) : Action → Option Admission
  | .allocate job => (s.createAt job .checked).bind (·.admission job)
  | _ => none

def returns (s : State K) : Action → Option Release
  | .rollBack job => (s.createAt job .failed).bind (·.rollback job)
  | .release request =>
      ((s.deletes request).filter fun t => t.deleted).bind (·.release)
  | .deliver => s.events.head?.bind eventRelease
  | .sweepNext => s.sweep.bind fun w => w.pods.head?.bind (sweepRelease w.now)
  | _ => none

def granted (o : Registry) (x : Admission) : Bool :=
  match (o.allocateResources x.providerID x.allocation).1 with
  | .ok _ => true
  | .error _ => false

theorem eventRelease_eq_some {event : PodWatchEvent} {r : Release}
    (h : eventRelease event = some r) :
    event.info.providerID ≠ "" ∧ r = podRelease event.info := by
  unfold eventRelease at h
  split at h
  · split at h
    · contradiction
    · rename_i hid
      exact ⟨hid, (Option.some.inj h).symm⟩
  · split at h
    · split at h
      · contradiction
      · rename_i hid
        exact ⟨hid, (Option.some.inj h).symm⟩
    · contradiction
  · contradiction

theorem sweepRelease_eq_some {now : ℤ} {info : GPUJobPodInfo} {r : Release}
    (h : sweepRelease now info = some r) :
    info.providerID ≠ "" ∧ r = podRelease info := by
  unfold sweepRelease at h
  split at h
  · split at h
    · rename_i hid
      exact ⟨hid.1, (Option.some.inj h).symm⟩
    · contradiction
  · contradiction

/-! ## The registry -/

namespace Registry

theorem setCapacity_apply {o : Registry} {providerID : String}
    {p : ProviderState} (hp : o providerID = some p) (c : ProviderCapacity)
    (id : String) :
    o.setCapacity providerID p c id = (o id).map fun q =>
      if id = providerID then { q with capacity := c } else q := by
  unfold setCapacity
  by_cases hid : id = providerID
  · subst hid
    simp [hp]
  · simp [hid]

theorem allocateResources_apply (o : Registry) (providerID : String)
    (a : ResourceAllocation) (id : String) :
    (o.allocateResources providerID a).2 id = (o id).map fun p =>
      if id = providerID then
        { p with
          capacity := (Provider.allocateResources p.spec p.capacity a).2 }
      else p := by
  unfold allocateResources
  cases hp : o providerID with
  | none =>
      by_cases hid : id = providerID
      · subst hid
        simp [hp]
      · simp [hid]
  | some p =>
      simp only []
      rw [setCapacity_apply hp]
      by_cases hid : id = providerID
      · subst hid
        simp [hp]
      · simp [hid]

theorem releaseJobResources_apply (o : Registry) (r : Release) (id : String) :
    o.releaseJobResources r id = (o id).map fun p =>
      if id = r.providerID then
        { p with
          capacity := Provider.releaseJobResources p.spec p.capacity r.gpuType
            r.gpuCount r.cpuCores r.memoryMB }
      else p := by
  unfold releaseJobResources
  cases hp : o r.providerID with
  | none =>
      by_cases hid : id = r.providerID
      · subst hid
        simp [hp]
      · simp [hid]
  | some p =>
      simp only []
      rw [setCapacity_apply hp]
      by_cases hid : id = r.providerID
      · subst hid
        simp [hp]
      · simp [hid]

theorem releaseJobResources_explicit {o : Registry} {providerID : String}
    {p : ProviderState} (hp : o providerID = some p) (job : ℕ)
    (a : ResourceAllocation) :
    o.releaseJobResources (explicitRelease job providerID a) providerID =
      some { p with capacity := releaseResources p.spec p.capacity a } := by
  rw [releaseJobResources_apply, hp, Option.map_some, explicitRelease, if_pos rfl]
  rfl

end Registry

inductive Posting (s : State K) (a : Action) : Registry → Prop where
  | kept (hreturns : returns s a = none) (hadmits : admits s a = none) :
      Posting s a s.providers
  | asked (x : Admission) (hadmits : admits s a = some x)
      (hreturns : returns s a = none) :
      Posting s a (s.providers.allocateResources x.providerID x.allocation).2
  | returned (r : Release) (hreturns : returns s a = some r)
      (hadmits : admits s a = none) :
      Posting s a (s.providers.releaseJobResources r)
  | mined (id : String) (p : ProviderState) (call : MiningCall)
      (haction : a = .mining id call) (hp : s.providers id = some p)
      (hcall : call.Admissible p.capacity) :
      Posting s a (s.providers.setCapacity id p (call.run id p))

/-! ## Who asks for resources -/

theorem admits_eq_some {x : Admission} (h : admits s a = some x) :
    a = .allocate x.job ∧ ∃ t, s.creates x.job = some t ∧
      t.stage = .checked ∧ t.admission x.job = some x := by
  cases a with
  | allocate job =>
      obtain ⟨t, ht, hx⟩ := Option.bind_eq_some_iff.mp h
      obtain ⟨ht, hstage⟩ := createAt_eq_some.mp ht
      obtain ⟨providerID, hprovider, rfl⟩ := Option.map_eq_some_iff.mp hx
      exact ⟨rfl, t, ht, hstage, hx⟩
  | _ => contradiction

theorem admission_eq_some {t : CreateThread} {job : ℕ} {x : Admission}
    (h : t.admission job = some x) : x.job = job ∧
      t.provider = some x.providerID ∧ x.allocation = t.allocation := by
  obtain ⟨providerID, hprovider, rfl⟩ := Option.map_eq_some_iff.mp h
  exact ⟨rfl, hprovider, rfl⟩

theorem admits_gpuCount_pos {x : Admission} (h : admits s a = some x) :
    0 < x.allocation.gpuCount := by
  obtain ⟨-, t, -, -, hx⟩ := admits_eq_some h
  rw [(admission_eq_some hx).2.2]
  exact requestAllocation_gpuCount_pos t.req t.gpuModel

/-! ## Every step is one posting -/

private theorem asked_posting {job : ℕ} {t : CreateThread} {providerID : String}
    {outcome : Outcome} {o : Registry}
    (ht : s.creates job = some t) (hstage : t.stage = .checked)
    (hprovider : t.provider = some providerID)
    (hresult : s.providers.allocateResources providerID t.allocation =
      (outcome, o)) : Posting s (.allocate job) o := by
  have hadmits : admits s (.allocate job) =
      some ⟨job, providerID, t.req, t.gpuModel⟩ := by
    simp [admits, createAt_eq_some.mpr ⟨ht, hstage⟩, CreateThread.admission,
      hprovider]
  have hresult' : (s.providers.allocateResources providerID t.allocation).2 = o := by
    rw [hresult]
  have hposting := Posting.asked _ hadmits rfl
  exact hresult' ▸ hposting

private theorem rollBack_posting {job : ℕ} {t : CreateThread}
    (ht : s.creates job = some t) (hstage : t.stage = .failed) :
    Posting s (.rollBack job) (s.rollBack job t).providers := by
  have hreturns : returns s (.rollBack job) = t.rollback job := by
    simp [returns, createAt_eq_some.mpr ⟨ht, hstage⟩]
  unfold State.rollBack
  cases hprovider : t.provider with
  | none =>
      exact .kept (by simp [hreturns, CreateThread.rollback, hprovider]) rfl
  | some providerID =>
      exact .returned _ (by simp [hreturns, CreateThread.rollback, hprovider]) rfl

private theorem release_posting {request : ℕ} {t : DeleteThread}
    (ht : s.deletes request = some t) (hdeleted : t.deleted = true) :
    Posting s (.release request) (s.release request t).providers := by
  have hreturns : returns s (.release request) = t.release := by
    simp [returns, ht, Option.filter, hdeleted]
  unfold State.release
  cases hallocation : t.allocation with
  | none =>
      exact .kept (by simp [hreturns, DeleteThread.release, hallocation]) rfl
  | some x =>
      exact .returned _ (by simp [hreturns, DeleteThread.release, hallocation]) rfl

private theorem deliver_posting {event : PodWatchEvent} {events : List PodWatchEvent}
    (hevents : s.events = event :: events) :
    Posting s .deliver (handlePodEvent s.providers event) := by
  have hreturns : returns s .deliver = eventRelease event := by
    simp [returns, hevents]
  unfold handlePodEvent
  split
  · rename_i hnone
    exact .kept (hreturns.trans hnone) rfl
  · rename_i hsome
    exact .returned _ (hreturns.trans hsome) rfl

private theorem sweep_posting {now : ℤ} {info : GPUJobPodInfo} {pods : List GPUJobPodInfo}
    (hsweep : s.sweep = some ⟨now, info :: pods⟩) :
    Posting s .sweepNext (sweepPod s.providers now info) := by
  have hreturns : returns s .sweepNext = sweepRelease now info := by
    simp [returns, hsweep]
  unfold sweepPod
  split
  · rename_i hnone
    exact .kept (hreturns.trans hnone) rfl
  · rename_i hsome
    exact .returned _ (hreturns.trans hsome) rfl

private theorem step_posting (h : step s a = some s') : Posting s a s'.providers := by
  cases step_move h with
  | unallocated job t ht hstage hprovider =>
      refine .kept rfl ?_
      simp [admits, createAt_eq_some.mpr ⟨ht, hstage⟩, CreateThread.admission,
        hprovider]
  | allocationFailed job t providerID message o ht hstage hprovider hresult =>
      exact asked_posting ht hstage hprovider hresult
  | allocated job t providerID o ht hstage hprovider hresult =>
      exact asked_posting ht hstage hprovider hresult
  | rollBack job t ht hstage => exact rollBack_posting ht hstage
  | release request t ht hdeleted => exact release_posting ht hdeleted
  | deliver event events hevents => exact deliver_posting hevents
  | sweepDone now hsweep => exact .kept (by simp [returns, hsweep]) rfl
  | sweepNext now info pods hsweep => exact sweep_posting hsweep
  | mining id p call hp hcall => exact .mined id p call rfl hp hcall
  | _ => exact .kept rfl rfl

inductive Change (s : State K) (a : Action) (id : String) (p : ProviderState) :
    ProviderCapacity → Prop where
  | kept (hreturns : ∀ r, returns s a = some r → r.providerID ≠ id)
      (hadmits : ∀ x, admits s a = some x → x.providerID ≠ id) :
      Change s a id p p.capacity
  | asked (x : Admission) (hadmits : admits s a = some x)
      (hreturns : returns s a = none) (hid : x.providerID = id) :
      Change s a id p (allocateResources p.spec p.capacity x.allocation).2
  | returned (r : Release) (hreturns : returns s a = some r)
      (hadmits : admits s a = none) (hid : r.providerID = id) :
      Change s a id p (releaseJobResources p.spec p.capacity r.gpuType
        r.gpuCount r.cpuCores r.memoryMB)
  | mined (call : MiningCall) (haction : a = .mining id call)
      (hcall : call.Admissible p.capacity) :
      Change s a id p (call.run id p)

/-- Providers stay registered, and only their capacity changes. -/
theorem step_capacity (h : step s a = some s') (id : String) :
    (s.providers id = none ∧ s'.providers id = none) ∨
      ∃ p c, s.providers id = some p ∧
        s'.providers id = some { p with capacity := c } ∧ Change s a id p c := by
  have hposting := step_posting h
  cases hp : s.providers id with
  | none =>
      refine .inl ⟨rfl, ?_⟩
      generalize s'.providers = o at hposting
      cases hposting with
      | kept => exact hp
      | asked => rw [Registry.allocateResources_apply, hp, Option.map_none]
      | returned => rw [Registry.releaseJobResources_apply, hp, Option.map_none]
      | mined _ _ _ _ hq =>
          rw [Registry.setCapacity_apply hq, hp, Option.map_none]
  | some p =>
      refine .inr ⟨p, ?_⟩
      generalize s'.providers = o at hposting
      cases hposting with
      | kept hreturns hadmits =>
          refine ⟨p.capacity, rfl, hp, .kept ?_ ?_⟩
          · simp [hreturns]
          · simp [hadmits]
      | asked x hadmits hreturns =>
          rw [Registry.allocateResources_apply, hp, Option.map_some]
          by_cases hid : id = x.providerID
          · rw [if_pos hid]
            exact ⟨_, rfl, rfl, .asked x hadmits hreturns hid.symm⟩
          · rw [if_neg hid]
            refine ⟨p.capacity, rfl, rfl, .kept (by simp [hreturns]) ?_⟩
            intro y hy
            rw [hadmits] at hy
            cases hy
            exact Ne.symm hid
      | returned r hreturns hadmits =>
          rw [Registry.releaseJobResources_apply, hp, Option.map_some]
          by_cases hid : id = r.providerID
          · rw [if_pos hid]
            exact ⟨_, rfl, rfl, .returned r hreturns hadmits hid.symm⟩
          · rw [if_neg hid]
            refine ⟨p.capacity, rfl, rfl, .kept ?_ (by simp [hadmits])⟩
            intro y hy
            rw [hreturns] at hy
            cases hy
            exact Ne.symm hid
      | mined id' q call haction hq hcall =>
          rw [Registry.setCapacity_apply hq, hp, Option.map_some]
          subst haction
          by_cases hid : id = id'
          · subst hid
            rw [hp] at hq
            cases hq
            rw [if_pos rfl]
            exact ⟨_, rfl, rfl, .mined call rfl hcall⟩
          · rw [if_neg hid]
            exact ⟨p.capacity, rfl, rfl, .kept (by simp [returns]) (by simp [admits])⟩

end WorldlandBroker.ControlPlane
