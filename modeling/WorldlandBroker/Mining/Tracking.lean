import WorldlandBroker.Mining.Pods

/-!
# Keeping track of the mining pod

While updates of a provider are under way the one that was started last has the GPU
count of the ledger, and without one the pod has that count or the next tick notices
that it is gone.  Updates may overlap and end in any order.  What matters is what the
one that ends last finds and leaves behind, and that no deployment or tick moves the
ledger to a count that neither the newest update nor the pod has.
-/

namespace WorldlandBroker.Mining

open Foundation Provider
open ControlPlane (Registry)

/-! ## What the run must observe -/

def podGPUCount : Option MiningPod → ℤ
  | none => 0
  | some pod => pod.gpuCount

def Moving (providerID : String) (update : MiningUpdate) : Prop :=
  update.providerID = providerID ∧ update.stage ≠ .finished

instance (providerID : String) (update : MiningUpdate) :
    Decidable (Moving providerID update) :=
  inferInstanceAs (Decidable (_ ∧ _))

def InFlight (s : State) (providerID : String) : Prop :=
  ∃ update ∈ s.updates, Moving providerID update

instance (s : State) (providerID : String) : Decidable (InFlight s providerID) :=
  inferInstanceAs (Decidable (∃ update ∈ s.updates, Moving providerID update))

def OthersMove (s : State) (u : ℕ) (providerID : String) : Prop :=
  ∃ update ∈ s.updates.eraseIdx u, Moving providerID update

instance (s : State) (u : ℕ) (providerID : String) : Decidable (OthersMove s u providerID) :=
  inferInstanceAs (Decidable (∃ update ∈ s.updates.eraseIdx u, Moving providerID update))

/-- The counts that updates of the provider were started with, the newest at the end. -/
def State.asked (s : State) (providerID : String) : List ℤ :=
  s.updates.filterMap fun update =>
    if update.providerID = providerID then some update.config.gpuCount else none

def State.newest (s : State) (providerID : String) : Option ℤ := (s.asked providerID).getLast?

/-- The pod has this count, or the newest update is going to give it one. -/
def HeadsFor (s : State) (providerID : String) (gpuCount : ℤ) : Prop :=
  if InFlight s providerID then s.newest providerID = some gpuCount
  else ∀ pod ∈ s.pods providerID, pod.gpuCount = gpuCount

instance (s : State) (providerID : String) (gpuCount : ℤ) :
    Decidable (HeadsFor s providerID gpuCount) := by
  unfold HeadsFor
  infer_instance

/-- Ticks look at the provider as long as its ledger has GPUs that mine. -/
def Watched (s : State) (providerID : String) : Prop :=
  ∀ p ∈ s.providers providerID, 0 < p.capacity.miningGPUCount → p.capacity.miningPodName ≠ ""

instance (s : State) (id : String) : Decidable (Watched s id) :=
  inferInstanceAs (Decidable (∀ p ∈ s.providers id, _ → _))

/--
The last update to end finds a pod of the newest count or creates one, or it leaves
none to a provider that ticks look at.
-/
def EndsWell (s : State) (u : ℕ) (update : MiningUpdate) (created : Bool) : Prop :=
  OthersMove s u update.providerID ∨
    match s.pods update.providerID with
    | some pod => s.newest update.providerID = some pod.gpuCount
    | none =>
        if created then
          s.newest update.providerID = some (buildMiningPod update.config).gpuCount
        else Watched s update.providerID

instance (s : State) (u : ℕ) (update : MiningUpdate) (created : Bool) :
    Decidable (EndsWell s u update created) := by
  unfold EndsWell
  split <;> infer_instance

def Returns (s : State) (providerID : String) (p : ProviderState) : Prop :=
  p.capacity.miningPodName ≠ "" ∧ 0 < p.capacity.miningGPUCount ∧
    (getMiningPodStatus (s.pods providerID) = "failed" ∨
      getMiningPodStatus (s.pods providerID) = "stopped")

instance (s : State) (id : String) (p : ProviderState) : Decidable (Returns s id p) :=
  inferInstanceAs (Decidable (_ ∧ _))

/-- A deployment for which the GPUs suffice, by what becomes of its pod. -/
def DeploysWell (s : State) (id : String) (p : ProviderState) (config : MiningConfig)
    (first : Option String) : Job.Reply → Prop
  | .done => 0 ≤ config.gpuCount ∧ HeadsFor s id config.gpuCount ∧
      p.capacity.miningGPUCount = p.capacity.mining (deployGPUType p.spec first)
  | .failed => True
  | .lost => InFlight s id ∨ s.pods id ≠ none ∨
      (buildMiningPod config).gpuCount = p.capacity.miningGPUCount

instance (s : State) (id : String) (p : ProviderState) (config : MiningConfig)
    (first : Option String) (reply : Job.Reply) :
    Decidable (DeploysWell s id p config first reply) := by
  have hpods : Decidable (s.pods id ≠ none) :=
    decidable_of_iff ((s.pods id).isSome = true) Option.isSome_iff_ne_none
  cases reply with
  | done => exact inferInstanceAs (Decidable (_ ∧ _ ∧ _))
  | failed => exact inferInstanceAs (Decidable True)
  | lost => exact inferInstanceAs (Decidable (_ ∨ _ ∨ _))

def Careful (s : State) : Action → Prop
  | .deploy id config first reply => ∀ p ∈ s.providers id,
      (deployMiningForProvider id p.spec p.capacity config first (.ok ())).1 = .ok () →
        DeploysWell s id p config first reply
  | .allocate _ _ _ | .release _ _ _ | .setPhase _ _ => True
  | .deletePod u answered => ∀ update ∈ s.updates[u]?,
      update.stage = .started → answered = false → EndsWell s u update false
  | .createPod u answered => ∀ update ∈ s.updates[u]?,
      update.stage = .deleted → EndsWell s u update answered
  | .tick id answered => ∀ p ∈ s.providers id, answered = true → Returns s id p → HeadsFor s id 0
  | .removePod id => s.pods id ≠ none → InFlight s id ∨ Watched s id

instance (s : State) (a : Action) : Decidable (Careful s a) := by
  unfold Careful
  split <;> infer_instance

/-- Only what is done to the one provider counts. -/
def careful (id : String) : Guard State Action := fun _ s a =>
  a.provider s = some id → Careful s a

/-! ## The invariant -/

/-- Without an update the pod has the ledger's count, or the next tick notices it is gone. -/
def Settled (pod : Option ℤ) (c : ProviderCapacity) : Prop :=
  match pod with
  | none => c.miningGPUCount = 0 ∨ c.miningPodName ≠ ""
  | some gpuCount => gpuCount = c.miningGPUCount

def State.requested (s : State) (providerID : String) : Option ℤ :=
  (s.pods providerID).map MiningPod.gpuCount

private theorem requested_update (providers : Registry) (pods : String → Option MiningPod)
    (updates : List MiningUpdate) (id : String) (pod : Option MiningPod) :
    State.requested ⟨providers, Function.update pods id pod, updates⟩ id =
      pod.map MiningPod.gpuCount := by
  rw [State.requested]
  exact congrArg _ (Function.update_self ..)

structure Tracked (s : State) (id : String) : Prop where
  nonneg : ∀ p, s.providers id = some p → ∀ t, 0 ≤ p.capacity.mining t
  pending : InFlight s id → ∀ p, s.providers id = some p →
    s.newest id = some p.capacity.miningGPUCount
  settled : ¬ InFlight s id → ∀ p, s.providers id = some p →
    Settled (s.requested id) p.capacity

theorem Settled.same {pod : Option ℤ} {c c' : ProviderCapacity} (h : Settled pod c)
    (hsame : SameMining c c') : Settled pod c' := by
  have hcount : c'.miningGPUCount = c.miningGPUCount := by
    rw [ProviderCapacity.miningGPUCount, hsame.gpus, ProviderCapacity.miningGPUCount]
  cases pod with
  | none => rwa [Settled, hcount, hsame.podName]
  | some gpuCount => rwa [Settled, hcount]

private theorem buildMiningPod_gpuCount {config : MiningConfig} (h : 0 ≤ config.gpuCount) :
    (buildMiningPod config).gpuCount = config.gpuCount := by
  simp only [buildMiningPod]
  split
  · rfl
  · omega

theorem Watched.settled {s : State} {id : String} {p : ProviderState} (h : Watched s id)
    (hp : s.providers id = some p) (hnonneg : 0 ≤ p.capacity.miningGPUCount) :
    Settled none p.capacity := by
  rcases hnonneg.eq_or_lt with hzero | hpositive
  · exact .inl hzero.symm
  · exact .inr (h p hp hpositive)

section Steps

variable {s s' : State} {id : String} {p : ProviderState} {result : Outcome × ProviderCapacity}
  {u : ℕ} {update : MiningUpdate}

theorem Tracked.count_nonneg (h : Tracked s id) (hp : s.providers id = some p) :
    0 ≤ p.capacity.miningGPUCount :=
  NilMap.total_nonneg _ (h.nonneg p hp)

/-- A step after which the provider's mining, pod and updates are as before. -/
theorem Tracked.frame (h : Tracked s id)
    (hproviders : ∀ p', s'.providers id = some p' →
      ∃ p, s.providers id = some p ∧ SameMining p.capacity p'.capacity)
    (hpods : s'.requested id = s.requested id) (hflight : InFlight s' id ↔ InFlight s id)
    (hnewest : s'.newest id = s.newest id) : Tracked s' id where
  nonneg p' hp' t := by
    obtain ⟨p, hp, hsame⟩ := hproviders p' hp'
    rw [ProviderCapacity.mining, hsame.gpus]
    exact h.nonneg p hp t
  pending hmoves p' hp' := by
    obtain ⟨p, hp, hsame⟩ := hproviders p' hp'
    rw [ProviderCapacity.miningGPUCount, hsame.gpus, hnewest]
    exact h.pending (hflight.mp hmoves) p hp
  settled hidle p' hp' := by
    obtain ⟨p, hp, hsame⟩ := hproviders p' hp'
    rw [hpods]
    exact (h.settled (hidle ∘ hflight.mpr) p hp).same hsame

/-! ## Steps about the provider -/

theorem setCapacity_self {p' : ProviderState} {c : ProviderCapacity}
    (h : s.providers.setCapacity id p c id = some p') : p'.capacity = c := by
  rw [Registry.setCapacity, Function.update_self] at h
  cases h
  rfl

/-- The ledger and the pod come to a count that they were heading for. -/
theorem Tracked.of_headsFor {c : ProviderCapacity} {pod : Option MiningPod}
    (hnonneg : ∀ t, 0 ≤ c.mining t) (hheads : HeadsFor s id c.miningGPUCount)
    (hpod : ¬ InFlight s id → (∀ pod ∈ s.pods id, pod.gpuCount = c.miningGPUCount) →
      Settled (pod.map MiningPod.gpuCount) c) :
    Tracked ⟨s.providers.setCapacity id p c, Function.update s.pods id pod, s.updates⟩ id where
  nonneg p' hp' := by
    rw [setCapacity_self hp']
    exact hnonneg
  pending hflight p' hp' := by
    rw [setCapacity_self hp']
    exact (if_pos hflight : HeadsFor s id _ = _).mp hheads
  settled hidle p' hp' := by
    have hcount : ∀ pod ∈ s.pods id, pod.gpuCount = c.miningGPUCount :=
      (if_neg hidle : HeadsFor s id _ = _).mp hheads
    rw [setCapacity_self hp', requested_update]
    exact hpod hidle hcount

private theorem newest_startUpdate (hok : result.1 = .ok ()) :
    (startUpdate s id p result).newest id = some result.2.miningGPUCount := by
  simp [State.newest, State.asked, startUpdate, hok]

theorem Tracked.started (hok : result.1 = .ok ()) (hnonneg : ∀ t, 0 ≤ result.2.mining t) :
    Tracked (startUpdate s id p result) id where
  nonneg p' hp' := by
    rw [setCapacity_self hp']
    exact hnonneg
  pending _ p' hp' := by
    rw [setCapacity_self hp', newest_startUpdate hok]
  settled hrest := by
    refine absurd ⟨⟨id, ⟨result.2.miningGPUCount, result.2.miningCPUCores,
      result.2.miningMemoryMB⟩, .started⟩, ?_, rfl, by simp⟩ hrest
    simp only [startUpdate, hok]
    exact List.mem_append_right _ List.mem_cons_self

private theorem newest_set (hslot : s.updates[u]? = some update) (stage : UpdateStage) :
    ({ s with updates := s.updates.set u { update with stage := stage } } : State).newest id =
      s.newest id :=
  congrArg List.getLast? (filterMap_set hslot rfl)

theorem Tracked.advanced (h : Tracked s id) (hslot : s.updates[u]? = some update)
    (hmoving : Moving id update) {stage : UpdateStage} (hstage : stage ≠ .finished) :
    Tracked { s with updates := s.updates.set u { update with stage := stage } } id := by
  apply h.frame
  · intro p hp
    exact ⟨p, hp, rfl, rfl⟩
  · rfl
  · constructor
    · intro _
      exact ⟨update, List.mem_of_getElem? hslot, hmoving⟩
    · intro _
      exact ⟨_, List.mem_of_getElem? (set_slot hslot), hmoving.1, hstage⟩
  · exact newest_set hslot stage

theorem inFlight_finished_iff {s : State} {u : ℕ} {update : MiningUpdate}
    (pods : String → Option MiningPod) :
    InFlight ⟨s.providers, pods, s.updates.set u { update with stage := .finished }⟩ id ↔
      OthersMove s u id := by
  constructor
  · rintro ⟨other, hmem, hother⟩
    obtain ⟨v, hv⟩ := List.mem_iff_getElem?.mp hmem
    rcases slot_of_set hv with ⟨-, rfl⟩ | ⟨hne, hold⟩
    · exact absurd rfl hother.2
    · exact ⟨other, List.mem_eraseIdx_iff_getElem?.mpr ⟨v, hne, hold⟩, hother⟩
  · rintro ⟨other, hmem, hother⟩
    obtain ⟨v, hne, hv⟩ := List.mem_eraseIdx_iff_getElem?.mp hmem
    refine ⟨other, List.mem_of_getElem? (i := v) ?_, hother⟩
    rw [List.getElem?_set_ne hne.symm]
    exact hv

theorem Tracked.ended (h : Tracked s id) (hslot : s.updates[u]? = some update)
    (hmoving : Moving id update) {created : Bool} (hends : EndsWell s u update created) :
    Tracked ⟨s.providers, Function.update s.pods id
        (createUpdatedPod (s.pods id) update.config created),
      s.updates.set u { update with stage := .finished }⟩ id := by
  obtain rfl : update.providerID = id := hmoving.1
  have hflight : InFlight s update.providerID := ⟨update, List.mem_of_getElem? hslot, hmoving⟩
  refine ⟨h.nonneg, fun _ p hp => ?_, fun hrest p hp => ?_⟩
  · exact (newest_set hslot .finished).trans (h.pending hflight p hp)
  · have hnewest := h.pending hflight p hp
    have hlast := hends.resolve_left (hrest ∘ (inFlight_finished_iff _).mpr)
    rw [requested_update]
    cases hpod : s.pods update.providerID with
    | some pod =>
        rw [hpod, hnewest] at hlast
        exact (Option.some.inj hlast).symm
    | none =>
        rw [hpod] at hlast
        cases created with
        | true => exact (Option.some.inj (hnewest.symm.trans hlast)).symm
        | false => exact Watched.settled hlast hp (h.count_nonneg hp)

theorem Tracked.failedDelete (h : Tracked s id) (hslot : s.updates[u]? = some update)
    (hmoving : Moving id update) (hends : EndsWell s u update false) :
    Tracked { s with updates := s.updates.set u { update with stage := .finished } } id := by
  have hended := h.ended hslot hmoving hends
  have hpods : Function.update s.pods id
      (createUpdatedPod (s.pods id) update.config false) = s.pods := by
    rw [Function.update_eq_self_iff]
    cases s.pods id with
    | none | some pod => rfl
  rwa [hpods] at hended

theorem Tracked.kept (h : Tracked s id) (hp : s.providers id = some p)
    {c : ProviderCapacity} (hsame : SameMining p.capacity c) :
    Tracked ⟨s.providers.setCapacity id p c, s.pods, s.updates⟩ id := by
  apply h.frame
  · intro p' hp'
    exact ⟨p, hp, setCapacity_self hp' ▸ hsame⟩
  · rfl
  · exact Iff.rfl
  · rfl

theorem Tracked.refused (h : Tracked s id) (hp : s.providers id = some p) {message : String}
    (herror : result.1 = .error message) (hsame : SameMining p.capacity result.2) :
    Tracked (startUpdate s id p result) id := by
  simp only [startUpdate, herror]
  exact h.kept hp hsame

theorem Tracked.allocated (h : Tracked s id) {gpuType : String} {count : ℤ}
    (hp : s.providers id = some p) (hcount : 1 ≤ count) :
    Tracked (startUpdate s id p (allocateMiningGPU p.capacity gpuType count)) id := by
  rcases allocateMining_cases p.capacity gpuType count with
    ⟨message, herror, hsame⟩ | ⟨hok, hgpus⟩
  · exact h.refused hp herror hsame
  · apply Tracked.started hok
    intro t
    have hbefore : 0 ≤ p.capacity.mining t := h.nonneg p hp t
    rw [ProviderCapacity.mining] at hbefore ⊢
    rw [hgpus, NilMap.count_add]
    split <;> omega

theorem Tracked.released (h : Tracked s id) {gpuType : String} {count : ℤ}
    (hp : s.providers id = some p) :
    Tracked (startUpdate s id p (releaseMiningGPU p.capacity gpuType count)) id := by
  rcases releaseMining_cases p.capacity gpuType count with
    ⟨message, herror, hsame⟩ | ⟨hok, henough, hgpus⟩
  · exact h.refused hp herror hsame
  · apply Tracked.started hok
    intro t
    have hbefore : 0 ≤ p.capacity.mining t := h.nonneg p hp t
    rw [ProviderCapacity.mining] at hbefore henough ⊢
    rw [hgpus, NilMap.count_add]
    split
    · rename_i htype
      subst htype
      omega
    · omega

theorem Tracked.deployed (h : Tracked s id) (hp : s.providers id = some p)
    {c : ProviderCapacity} {gpuType : String} {config : MiningConfig}
    (hgpus : c.miningGPUs = p.capacity.miningGPUs.put gpuType config.gpuCount)
    (hcount : 0 ≤ config.gpuCount) (hheads : HeadsFor s id config.gpuCount)
    (hkind : p.capacity.miningGPUCount = p.capacity.mining gpuType) :
    Tracked ⟨s.providers.setCapacity id p c, Function.update s.pods id
      (some ((s.pods id).getD (buildMiningPod config))), s.updates⟩ id := by
  have htotal : c.miningGPUCount = config.gpuCount := by
    rw [ProviderCapacity.miningGPUCount, ProviderCapacity.mining] at hkind
    rw [ProviderCapacity.miningGPUCount, hgpus, NilMap.total_put, hkind]
    ring
  apply Tracked.of_headsFor
  · intro t
    rw [ProviderCapacity.mining, hgpus, NilMap.count_put]
    split
    · exact hcount
    · exact h.nonneg p hp t
  · rwa [htotal]
  · intro _ hpod
    cases hold : s.pods id with
    | none => exact (buildMiningPod_gpuCount hcount).trans htotal.symm
    | some pod => exact hpod pod hold

/-- The pod is there, but its deployment is taken to have failed. -/
theorem Tracked.lost (h : Tracked s id) (hp : s.providers id = some p)
    {c : ProviderCapacity} {config : MiningConfig} (hsame : SameMining p.capacity c)
    (hfits : InFlight s id ∨ s.pods id ≠ none ∨
      (buildMiningPod config).gpuCount = p.capacity.miningGPUCount) :
    Tracked ⟨s.providers.setCapacity id p c, Function.update s.pods id
      (some ((s.pods id).getD (buildMiningPod config))), s.updates⟩ id := by
  have hkept := h.kept hp hsame
  refine ⟨hkept.nonneg, hkept.pending, fun hidle p' hp' => ?_⟩
  have hsettled := hkept.settled hidle p' hp'
  have hcount : p'.capacity.miningGPUCount = p.capacity.miningGPUCount := by
    rw [setCapacity_self hp', ProviderCapacity.miningGPUCount, hsame.gpus,
      ProviderCapacity.miningGPUCount]
  rw [requested_update]
  cases hpod : s.pods id with
  | some pod =>
      rw [State.requested, hpod] at hsettled
      exact hsettled
  | none =>
      rcases hfits with hflight | hsome | hbuilt
      · exact absurd hflight hidle
      · exact absurd hpod hsome
      · exact hbuilt.trans hcount.symm

theorem Tracked.synced (h : Tracked s id) (hp : s.providers id = some p)
    (reported : Except String String)
    (hreturns : ∀ status, reported = .ok status → p.capacity.miningPodName ≠ "" →
      0 < p.capacity.miningGPUCount → (status = "failed" ∨ status = "stopped") →
        HeadsFor s id 0) :
    Tracked { s with
      providers := s.providers.setCapacity id p (syncMiningPodState p.capacity reported) }
      id := by
  rcases syncMining_cases p.capacity reported with
    hsame | ⟨⟨status, hreported, hname, hpositive, hended⟩, hcleared⟩
  · exact h.kept hp hsame
  · have hheads := hreturns status hreported hname hpositive hended
    have hcount : (syncMiningPodState p.capacity reported).miningGPUCount = 0 := by
      rw [ProviderCapacity.miningGPUCount, hcleared]
      rfl
    rw [← hcount] at hheads
    have htracked : Tracked ⟨_, Function.update s.pods id (s.pods id), s.updates⟩ id :=
      Tracked.of_headsFor (p := p) (fun t => by
        rw [ProviderCapacity.mining, hcleared, NilMap.count_none]) hheads
        fun _ hpod => by
          cases hold : s.pods id with
          | none => exact .inl hcount
          | some pod => exact hpod pod hold
    rwa [Function.update_eq_self] at htracked

theorem Tracked.phased (h : Tracked s id) (phase : PodPhase) :
    Tracked ⟨s.providers, Function.update s.pods id
      ((s.pods id).map fun pod => { pod with phase := phase }), s.updates⟩ id := by
  apply h.frame
  · intro p hp
    exact ⟨p, hp, rfl, rfl⟩
  · simp only [State.requested, Function.update_self, Option.map_map]
    rfl
  · exact Iff.rfl
  · rfl

theorem Tracked.removed (h : Tracked s id)
    (hnoticed : s.pods id ≠ none → InFlight s id ∨ Watched s id) :
    Tracked { s with pods := Function.update s.pods id none } id := by
  by_cases hpod : s.pods id = none
  · rwa [← hpod, Function.update_eq_self]
  · refine ⟨h.nonneg, h.pending, fun hidle p hp => ?_⟩
    rw [requested_update]
    rcases hnoticed hpod with hflight | hwatched
    · exact absurd hflight hidle
    · exact hwatched.settled hp (h.count_nonneg hp)

end Steps

/-! ## Steps about another provider -/

structure Unaffected (s s' : State) (id : String) : Prop where
  provider : s'.providers id = s.providers id
  pod : s'.pods id = s.pods id
  inFlight : InFlight s' id ↔ InFlight s id
  newest : s'.newest id = s.newest id

section Elsewhere

variable {s s' : State} {id id' : String} {u : ℕ} {update : MiningUpdate}

private theorem setCapacity_elsewhere (hid : id' ≠ id) (p : ProviderState) (c : ProviderCapacity) :
    s.providers.setCapacity id' p c id = s.providers id := by
  rw [Registry.setCapacity, Function.update_of_ne hid.symm]

private theorem startUpdate_elsewhere (hid : id' ≠ id) (p : ProviderState)
    (result : Outcome × ProviderCapacity) : Unaffected s (startUpdate s id' p result) id where
  provider := setCapacity_elsewhere hid p result.2
  pod := rfl
  inFlight := by
    simp only [startUpdate, InFlight]
    cases result.1 with
    | error message => rfl
    | ok => simp [Moving, hid]
  newest := by
    simp only [startUpdate, State.newest, State.asked]
    cases result.1 with
    | error message => rfl
    | ok => simp [hid]

private theorem target_ne (hslot : s.updates[u]? = some update)
    (h : s.updates[u]?.map MiningUpdate.providerID ≠ some id) : update.providerID ≠ id := by
  intro hid
  apply h
  rw [hslot, Option.map_some, hid]

private theorem setStage_elsewhere (hslot : s.updates[u]? = some update)
    (hid : update.providerID ≠ id)
    (stage : UpdateStage) {pods : String → Option MiningPod} (hpods : pods id = s.pods id) :
    Unaffected s ⟨s.providers, pods, s.updates.set u { update with stage := stage }⟩ id where
  provider := rfl
  pod := hpods
  inFlight := by
    constructor
    · rintro ⟨other, hmem, hmoving⟩
      obtain ⟨v, hv⟩ := List.mem_iff_getElem?.mp hmem
      rcases slot_of_set hv with ⟨-, rfl⟩ | ⟨-, hold⟩
      · exact absurd hmoving.1 hid
      · exact ⟨other, List.mem_of_getElem? hold, hmoving⟩
    · rintro ⟨other, hmem, hmoving⟩
      obtain ⟨v, hv⟩ := List.mem_iff_getElem?.mp hmem
      refine ⟨other, List.mem_of_getElem? (i := v) ?_, hmoving⟩
      rw [List.getElem?_set_ne]
      · exact hv
      · rintro rfl
        rw [hslot] at hv
        cases hv
        exact hid hmoving.1
  newest := newest_set hslot stage

private theorem step_elsewhere {a : Action} (hs : step s a = some s') (h : a.provider s ≠ some id) :
    Unaffected s s' id := by
  cases step_effect hs with
  | @deployed id' =>
      have hid : id' ≠ id := fun heq => h (congrArg some heq)
      exact ⟨setCapacity_elsewhere hid _ _, Function.update_of_ne hid.symm _ _, Iff.rfl, rfl⟩
  | @refused id' =>
      have hid : id' ≠ id := fun heq => h (congrArg some heq)
      exact ⟨setCapacity_elsewhere hid _ _, rfl, Iff.rfl, rfl⟩
  | @allocated id' =>
      have hid : id' ≠ id := fun heq => h (congrArg some heq)
      exact startUpdate_elsewhere hid _ _
  | @released id' =>
      have hid : id' ≠ id := fun heq => h (congrArg some heq)
      exact startUpdate_elsewhere hid _ _
  | podDeleted hslot => exact setStage_elsewhere hslot (target_ne hslot h) _ rfl
  | podCreated hslot =>
      have hid := target_ne hslot h
      exact setStage_elsewhere hslot hid _ (Function.update_of_ne hid.symm _ _)
  | @ticked id' =>
      have hid : id' ≠ id := fun heq => h (congrArg some heq)
      exact ⟨setCapacity_elsewhere hid _ _, rfl, Iff.rfl, rfl⟩
  | @phaseSet id' =>
      have hid : id' ≠ id := fun heq => h (congrArg some heq)
      exact ⟨rfl, Function.update_of_ne hid.symm _ _, Iff.rfl, rfl⟩
  | @podRemoved id' =>
      have hid : id' ≠ id := fun heq => h (congrArg some heq)
      exact ⟨rfl, Function.update_of_ne hid.symm _ _, Iff.rfl, rfl⟩

theorem Tracked.elsewhere (h : Tracked s id) (hunaffected : Unaffected s s' id) :
    Tracked s' id := by
  apply h.frame
  · intro p hp
    exact ⟨p, hunaffected.provider ▸ hp, rfl, rfl⟩
  · rw [State.requested, hunaffected.pod, State.requested]
  · exact hunaffected.inFlight
  · exact hunaffected.newest

end Elsewhere

/-! ## Every step -/

private theorem target_eq {s : State} {id : String} {u : ℕ} {update : MiningUpdate}
    (hslot : s.updates[u]? = some update)
    (h : s.updates[u]?.map MiningUpdate.providerID = some id) : update.providerID = id := by
  rw [hslot, Option.map_some, Option.some_inj] at h
  exact h

theorem Tracked.step {s s' : State} {a : Action} {id : String} (h : Tracked s id)
    (hcareful : a.provider s = some id → Careful s a) (hs : step s a = some s') :
    Tracked s' id := by
  by_cases htarget : a.provider s = some id
  · replace hcareful := hcareful htarget
    cases step_effect hs with
    | @deployed _ config first reply p hp hok =>
        cases htarget
        have hwell := hcareful p hp hok
        cases reply with
        | done =>
            obtain ⟨hcount, hheads, hkind⟩ := hwell
            exact h.deployed hp (deployMining_ok hok).2 hcount hheads hkind
        | failed =>
            have hsame := deployMining_failed id p.spec p.capacity config first
              "failed to create mining pod"
            have hkept := h.kept hp hsame
            rwa [← Function.update_eq_self id s.pods] at hkept
        | lost =>
            exact h.lost hp (deployMining_failed id p.spec p.capacity config first
              "failed to create mining pod") hwell
    | refused hp herror =>
        cases htarget
        exact h.kept hp (deployMining_error herror)
    | allocated hp hcount =>
        cases htarget
        exact h.allocated hp hcount
    | released hp =>
        cases htarget
        exact h.released hp
    | @podDeleted u answered update hslot hstarted =>
        have hmoving : Moving id update := ⟨target_eq hslot htarget, by simp [hstarted]⟩
        cases answered with
        | false => exact h.failedDelete hslot hmoving (hcareful update hslot hstarted rfl)
        | true => exact h.advanced hslot hmoving (by simp)
    | @podCreated u answered update hslot hdeleted =>
        have hmoving : Moving id update := ⟨target_eq hslot htarget, by simp [hdeleted]⟩
        obtain rfl : update.providerID = id := hmoving.1
        exact h.ended hslot hmoving (hcareful update hslot hdeleted)
    | @ticked id' answered p hp =>
        cases htarget
        apply h.synced hp
        intro status hreported hname hpositive hended
        cases answered with
        | false => contradiction
        | true =>
            cases hreported
            exact hcareful p hp rfl ⟨hname, hpositive, hended⟩
    | phaseSet =>
        cases htarget
        exact h.phased _
    | podRemoved =>
        cases htarget
        exact h.removed hcareful
  · exact h.elsewhere (step_elsewhere hs htarget)

end WorldlandBroker.Mining
