import WorldlandBroker.ControlPlane.Outstanding

/-!
# When a release covers what was debited

An outstanding job may stop being covered in three ways: its pod asks for less
than was debited, its rollback goes to another pool than the debit came from, or
its pod disappears while the watch is down and nobody has returned it.  The
sweeper does not help with the last one: it lists existing pods only.
-/

namespace WorldlandBroker.ControlPlane

open Foundation Provider Job State

variable {K : QuantityAPI} {s s' s₀ : State K} {a : Action}
  {past : List (Transition (State K) Action)} {job : ℕ} {id : String}

/-! ## The condition -/

/-- The text of a request means at least the amounts it is debited for. -/
structure Fits (K : QuantityAPI) (t : CreateThread) : Prop where
  provider : t.provider ≠ some ""
  amounts : t.allocation.Nonneg
  quantities : ∃ cpu memory gpus storage,
    K.parse (podCPUText t.req) = some cpu ∧
    K.parse (podMemoryText t.req) = some memory ∧
    K.parse (podGPUText t.req) = some gpus ∧
    K.parse (podStorageText t.req) = some storage ∧
    t.allocation.cpuCores ≤ podCPUCores K cpu ∧
    t.allocation.memoryMB ≤ podMemoryMB K memory ∧
    0 ≤ decodeCPU (quantityText K cpu) ∧ 0 ≤ decodeMemory (quantityText K memory)

def Pending (s : State K) (x : Admission) : Prop :=
  (∃ t, s.creates x.job = some t ∧ t.stage = .failed) ∨
    ∃ request t r, s.deletes request = some t ∧ t.deleted = true ∧
      t.release = some r ∧ closes s.providers r x

/-- What is asked of the jobs of provider `id`. -/
structure Covered (id : String) (past : List (Transition (State K) Action)) (s : State K)
    (a : Action) : Prop where
  admission : ∀ job t x, a = .allocate job → s.creates job = some t →
    t.admission job = some x → x.providerID = id →
      t.allocation.Nonneg ∧ (granted s.providers x → Fits K t)
  rollback : ∀ job r x, a = .rollBack job → returns s a = some r →
    outstanding past job = some x → x.providerID = id → closes s.providers r x
  removal : ∀ uid x, a = .removePod uid → s.watching = false →
    outstanding past uid = some x → x.providerID = id → Pending s x

def coveredActions (id : String) : Guard (State K) Action := Covered id

/-! ## Pods that cover a job -/

structure Covers (info : GPUJobPodInfo) (x : Admission) : Prop where
  job : info.uid = x.job
  provider : info.providerID = x.providerID
  gpuModel : info.gpuModel = x.allocation.gpuType
  gpus : x.allocation.gpuCount ≤ info.gpuCount
  cpu : x.allocation.cpuCores ≤ info.cpuCores
  memory : x.allocation.memoryMB ≤ info.memoryMB

theorem Covers.closes {info : GPUJobPodInfo} {x : Admission} (h : Covers info x)
    {o : Registry} (hregistered : (o x.providerID).isSome) :
    closes o (podRelease info) x := by
  obtain ⟨p, hp⟩ := Option.isSome_iff_exists.mp hregistered
  exact closes_iff.mpr ⟨p, hp, h.job, h.provider, by rw [podRelease, h.gpuModel],
    h.gpus, h.cpu, h.memory⟩

/-! ## The state itself -/

structure Orderly (s : State K) : Prop where
  opened : ∀ job t, s.creates job = some t → job < s.nextJob
  requests : ∀ request t, s.deletes request = some t → request < s.nextRequest
  pods : ∀ uid pod, s.pods uid = some pod → pod.uid = uid ∧ uid < s.nextJob
  unpodded : ∀ job t, s.creates job = some t →
    t.stage = .checked ∨ t.stage = .allocated → s.pods job = none

theorem Orderly.requests_step (h : Orderly s) (hstep : step s a = some s')
    {request : ℕ} {t : DeleteThread} (ht : s'.deletes request = some t) :
    request < s'.nextRequest := by
  have hbefore (hold : s.deletes request = some t) : request < s.nextRequest :=
    h.requests request t hold
  cases step_move hstep with
  | deleteJob user jobID serviceFound =>
      by_cases hrequest : request = s.nextRequest
      · rw [hrequest]
        exact Nat.lt_succ_self _
      · have hold : s.deletes request = some t := by
          rw [← ht]
          exact (Function.update_of_ne hrequest _ _).symm
        exact (hbefore hold).trans (Nat.lt_succ_self _)
  | deletionRefused request' t' accepted ht' =>
      simp only [setDelete, Function.update_apply] at ht
      split at ht
      · contradiction
      · exact hbefore ht
  | deletionAccepted request' t' accepted ht' =>
      simp only [setDelete, Function.update_apply] at ht
      split at ht
      · rename_i hrequest
        exact hrequest ▸ h.requests request' t' ht'
      · exact hbefore ht
  | release request' t' ht' =>
      simp only [State.release, setDelete, Function.update_apply] at ht
      split at ht
      · contradiction
      · exact hbefore ht
  | _ => exact hbefore ht

theorem Orderly.pods_step (h : Orderly s) (hstep : step s a = some s') {uid : ℕ}
    {pod : Pod K} (hpod : s'.pods uid = some pod) :
    pod.uid = uid ∧ uid < s'.nextJob := by
  have hnext := step_nextJob hstep
  rcases step_pods hstep hpod with ⟨phase, hold⟩ | ⟨t, hcreates, -⟩
  · obtain ⟨huid, hlt⟩ := h.pods uid _ hold
    exact ⟨huid, hlt.trans_le hnext⟩
  · obtain ⟨now, accepted, -, hbuilt⟩ := hcreates.action
    exact ⟨(buildGPUPod_eq_some hbuilt).1,
      (h.opened uid t hcreates.thread).trans_le hnext⟩

theorem Orderly.unpodded_step (h : Orderly s) (hstep : step s a = some s')
    {t : CreateThread} (ht : s'.creates job = some t)
    (hstage : t.stage = .checked ∨ t.stage = .allocated) :
    s'.pods job = none := by
  have hnone : s.pods job = none := by
    cases step_creates hstep ht with
    | kept t ht₀ => exact h.unpodded job t ht₀ hstage
    | opened t hjob =>
        by_contra hsome
        obtain ⟨pod, hpod⟩ := Option.ne_none_iff_exists'.mp hsome
        exact absurd (h.pods job pod hpod).2 hjob.ge.not_gt
    | allocated t ht₀ hchecked => exact h.unpodded job t ht₀ (.inl hchecked)
    | podCreated => simp at hstage
    | failed => simp at hstage
  by_contra hsome
  obtain ⟨pod, hpod⟩ := Option.ne_none_iff_exists'.mp hsome
  rcases step_pods hstep hpod with ⟨phase, hold⟩ | ⟨t₀, -, hafter⟩
  · rw [hnone] at hold
    contradiction
  · rw [hafter] at ht
    cases ht
    simp at hstage

theorem Orderly.step (h : Orderly s) (hstep : step s a = some s') : Orderly s' where
  opened _ _ ht := opened_step hstep h.opened ht
  requests _ _ ht := h.requests_step hstep ht
  pods _ _ hpod := h.pods_step hstep hpod
  unpodded _ _ ht hstage := h.unpodded_step hstep ht hstage

/-! ## Nothing negative is returned -/

structure Sized (s : State K) (id : String) : Prop where
  fits : ∀ job t, s.creates job = some t → t.stage ≠ .checked →
    t.provider = some id → Fits K t
  mentioned : ∀ info, Mentions s info → info.providerID ≠ "" → info.providerID = id →
    (podRelease info).amount.Nonneg
  pods : ∀ uid pod, s.pods uid = some pod → pod.providerID ≠ "" → pod.providerID = id →
    0 ≤ decodeCPU (quantityText K pod.cpu) ∧
      0 ≤ decodeMemory (quantityText K pod.memory)
  deleting : ∀ request t x, s.deletes request = some t →
    t.allocation = some x → x.1 = id → x.2.Nonneg

theorem Fits.of_stage {t : CreateThread} (h : Fits K t) (stage : CreateStage) :
    Fits K { t with stage := stage } :=
  ⟨h.provider, h.amounts, h.quantities⟩

theorem Sized.fits_step (h : Sized s id) (hguard : Covered id past s a)
    (hstep : step s a = some s') {t : CreateThread}
    (ht : s'.creates job = some t) (hstage : t.stage ≠ .checked)
    (hprovider : t.provider = some id) : Fits K t := by
  cases step_creates hstep ht with
  | kept t ht₀ => exact h.fits job t ht₀ hstage hprovider
  | opened t hjob hchecked => exact absurd hchecked hstage
  | allocated t ht₀ hchecked haction hgranted =>
      have hx : t.admission job = some ⟨job, id, t.req, t.gpuModel⟩ := by
        have hasked : t.provider = some id := hprovider
        simp [CreateThread.admission, hasked]
      have hadmission := hguard.admission job t _ haction ht₀ hx rfl
      exact (hadmission.2 (hgranted _ hx)).of_stage _
  | podCreated t pod hpod =>
      exact (h.fits job t hpod.thread (by simp [hpod.stage]) hprovider).of_stage _
  | failed t ht₀ hbefore =>
      refine (h.fits job t ht₀ ?_ hprovider).of_stage _
      rcases hbefore with hbefore | hbefore <;> simp [hbefore]

theorem Fits.covers (hK : K.Lawful) {t : CreateThread} {x : Admission}
    {pod : Pod K} (h : Fits K t) (hx : t.admission job = some x)
    (hpod : CreatesPod s a job t pod) :
    Covers (parsePodToGPUJobInfo pod) x ∧
      0 ≤ decodeCPU (quantityText K pod.cpu) ∧
      0 ≤ decodeMemory (quantityText K pod.memory) := by
  obtain ⟨now, accepted, -, hbuilt⟩ := hpod.action
  obtain ⟨huid, hid, hmodel, hcpu, hmemory, hgpus⟩ := buildGPUPod_eq_some hbuilt
  obtain ⟨cpu, memory, gpus, storage, hcpu', hmemory', -, -, hcpuLe, hmemoryLe,
    hcpuText, hmemoryText⟩ := h.quantities
  obtain ⟨hjob, hprovider, hallocation⟩ := admission_eq_some hx
  cases hcpu.symm.trans hcpu'
  cases hmemory.symm.trans hmemory'
  rw [hprovider, Option.getD_some] at hid
  refine ⟨⟨huid.trans hjob.symm, hid, ?_, ?_, ?_, ?_⟩, hcpuText, hmemoryText⟩
  · rw [hallocation]
    exact hmodel
  · rw [hallocation]
    exact (podGPUCount_eq hK hgpus t.gpuModel).ge
  · rw [hallocation]
    exact hcpuLe
  · rw [hallocation]
    exact hmemoryLe

theorem Covers.nonneg {info : GPUJobPodInfo} {x : Admission} (h : Covers info x)
    (hx : x.allocation.Nonneg) : (podRelease info).amount.Nonneg :=
  ⟨hx.gpus.trans h.gpus, hx.cpu.trans h.cpu, hx.memory.trans h.memory⟩

theorem Sized.newPod (hK : K.Lawful) (h : Sized s id) {t : CreateThread} {pod : Pod K}
    (hpod : CreatesPod s a job t pod) (hnamed : pod.providerID ≠ "")
    (hid : pod.providerID = id) :
    (podRelease (parsePodToGPUJobInfo pod)).amount.Nonneg ∧
      0 ≤ decodeCPU (quantityText K pod.cpu) ∧
      0 ≤ decodeMemory (quantityText K pod.memory) := by
  obtain ⟨now, accepted, -, hbuilt⟩ := hpod.action
  have hprovider := (buildGPUPod_eq_some hbuilt).2.1
  cases hasked : t.provider with
  | none =>
      rw [hasked] at hprovider
      exact absurd hprovider hnamed
  | some providerID =>
      rw [hasked, Option.getD_some, hid] at hprovider
      subst hprovider
      have hfits := h.fits job t hpod.thread (by simp [hpod.stage]) hasked
      have hx : t.admission job = some ⟨job, id, t.req, t.gpuModel⟩ := by
        simp [CreateThread.admission, hasked]
      obtain ⟨hcovers, hcpu, hmemory⟩ := hfits.covers hK hx hpod
      exact ⟨hcovers.nonneg hfits.amounts, hcpu, hmemory⟩

theorem Sized.step (hK : K.Lawful) (h : Sized s id) (hguard : Covered id past s a)
    (hstep : step s a = some s') : Sized s' id where
  fits _ _ ht hstage hprovider := h.fits_step hguard hstep ht hstage hprovider
  mentioned info hmention hnamed hid := by
    rcases step_mentions hstep hmention with
      ⟨status, hold⟩ | ⟨job, t, pod, hpod, rfl⟩
    · have hnonneg := h.mentioned _ hold hnamed hid
      exact hnonneg
    · exact (h.newPod hK hpod hnamed hid).1
  pods uid pod hpod hnamed hid := by
    rcases step_pods hstep hpod with ⟨phase, hold⟩ | ⟨t, hcreates, -⟩
    · have hread := h.pods uid _ hold hnamed hid
      exact hread
    · exact (h.newPod hK hcreates hnamed hid).2
  deleting request t x ht hx hid := by
    rcases step_deletes hstep ht hx with
      ⟨t₀, ht₀, -, hx₀⟩ | ⟨uid, pod, hpod, -, hprovider, hnamed, hx₀⟩
    · exact h.deleting request t₀ x ht₀ hx₀ hid
    · obtain ⟨-, -, hgpus, hcpu, hmemory⟩ := deletedAllocation_eq_some hx₀
      obtain ⟨hcpuText, hmemoryText⟩ := h.pods uid pod hpod hnamed (hprovider ▸ hid)
      refine ⟨?_, hcpu ▸ hcpuText, hmemory ▸ hmemoryText⟩
      rw [hgpus]
      split <;> omega

theorem Sized.returns_nonneg (h : Sized s id) {r : Release} (hr : returns s a = some r)
    (hid : r.providerID = id) : r.amount.Nonneg := by
  cases returns_path hr with
  | rolledBack job t providerID ht hstage hprovider =>
      have hfits := h.fits job t ht (by simp [hstage]) (hprovider.trans (congrArg some hid))
      exact ⟨hfits.amounts.gpus, hfits.amounts.cpu, hfits.amounts.memory⟩
  | deleted request t x ht hallocation =>
      have hnonneg := h.deleting request t x ht hallocation hid
      exact ⟨hnonneg.gpus, hnonneg.cpu, hnonneg.memory⟩
  | delivered info hmention hnamed => exact h.mentioned info hmention hnamed hid
  | swept info hmention hnamed => exact h.mentioned info hmention hnamed hid

end WorldlandBroker.ControlPlane
