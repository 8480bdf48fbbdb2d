import WorldlandBroker.ControlPlane.Hands

/-!
# Two hands on one job

As long as somebody holds a job the system can still come to return it: the queue is
delivered, the sweep goes on or a new one begins, and a request in flight is finished.
-/

namespace WorldlandBroker.ControlPlane

open Foundation Provider Job State

variable {K : QuantityAPI} {s s' s₀ : State K} {a : Action}
  {past : List (Transition (State K) Action)} {job : ℕ}

def CanReturn (s : State K) (job : ℕ) : Prop :=
  ∃ later s', Run step intCounts s later s' ∧ 0 < later.countP (returnsFor job)

theorem intCounts_of (h : ∀ user req found allocatable,
    a ≠ .createJob user req found allocatable) : intCounts past s a :=
  fun user req found allocatable haction => absurd haction (h user req found allocatable)

theorem CanReturn.of_return (hint : intCounts [] s a) (hstep : step s a = some s')
    (hreturns : returnsFor job ⟨s, a, s'⟩) : CanReturn s job :=
  ⟨_, s', Run.nil.take a hint hstep, by simp [hreturns]⟩

theorem CanReturn.of_step (hint : intCounts [] s a) (hstep : step s a = some s')
    (h : CanReturn s' job) : CanReturn s job := by
  obtain ⟨later, last, hrun, hcount⟩ := h
  refine ⟨[⟨s, a, s'⟩] ++ later, last, ?_, ?_⟩
  · exact Run.append (fun _ _ _ _ hint => hint) (Run.nil.take a hint hstep) hrun
  · rw [List.countP_append]
    omega

/-! ## The watch and the sweep -/

private theorem canReturn_event {n : ℕ} (h : HeldBy s job (.event n)) : CanReturn s job := by
  obtain ⟨event, hevent, hjob, hid, htells⟩ := h
  induction n generalizing s with
  | zero =>
      cases hevents : s.events with
      | nil => simp [hevents] at hevent
      | cons first rest =>
          obtain rfl : first = event := by simpa [hevents] using hevent
          obtain ⟨r, hr⟩ := Option.isSome_iff_exists.mp (eventRelease_isSome.mpr ⟨hid, htells⟩)
          refine .of_return (a := .deliver) (intCounts_of (by simp))
            (by simp only [step, hevents]; rfl) (returnsFor_iff.mpr ⟨r, ?_, ?_⟩)
          · simp [returns, hevents, hr]
          · rw [(eventRelease_eq_some hr).2]
            exact hjob
  | succ n ih =>
      cases hevents : s.events with
      | nil => simp [hevents] at hevent
      | cons first rest =>
          refine .of_step (a := .deliver) (intCounts_of (by simp))
            (by simp only [step, hevents]; rfl) (ih ?_)
          simpa [hevents] using hevent

private theorem sweepRelease_isSome {now : ℤ} {info : GPUJobPodInfo} (hid : info.providerID ≠ "")
    (hdue : shouldDelete now info = true) (hgpus : 0 < info.gpuCount) :
    sweepRelease now info = some (podRelease info) := by
  rw [sweepRelease, if_pos hdue, if_pos ⟨hid, .inl hgpus⟩]

private theorem canReturn_listed {n : ℕ} {now : ℤ} {pods : List GPUJobPodInfo}
    {info : GPUJobPodInfo}
    (hsweep : s.sweep = some ⟨now, pods⟩) (hinfo : pods[n]? = some info)
    (hjob : info.uid = job) (hid : info.providerID ≠ "") (hdue : shouldDelete now info = true)
    (hgpus : 0 < info.gpuCount) : CanReturn s job := by
  induction n generalizing s pods with
  | zero =>
      cases pods with
      | nil => contradiction
      | cons first rest =>
          obtain rfl : first = info := by simpa using hinfo
          refine .of_return (a := .sweepNext) (intCounts_of (by simp))
            (by simp only [step, hsweep]; rfl) (returnsFor_iff.mpr ⟨podRelease first, ?_, hjob⟩)
          simp [returns, hsweep, sweepRelease_isSome hid hdue hgpus]
  | succ n ih =>
      cases pods with
      | nil => contradiction
      | cons first rest =>
          exact .of_step (a := .sweepNext) (intCounts_of (by simp))
            (by simp only [step, hsweep]; rfl) (ih rfl (by simpa using hinfo))

/-- An open sweep comes to its end and leaves the pods as they are. -/
theorem canReturn_of_swept
    (h : ∀ s' : State K, s'.sweep = none → s'.pods = s.pods → s'.nextJob = s.nextJob →
      CanReturn s' job) : CanReturn s job := by
  cases hsweep : s.sweep with
  | none => exact h s hsweep rfl rfl
  | some w =>
      obtain ⟨now, pods⟩ := w
      induction pods generalizing s with
      | nil =>
          have hstep : step s .sweepNext = some { s with sweep := none } := by
            simp only [step, hsweep]
          exact .of_step (intCounts_of (by simp)) hstep (h _ rfl rfl rfl)
      | cons first rest ih =>
          have hstep : step s .sweepNext = some { s with
              providers := sweepPod s.providers now first
              sweep := some ⟨now, rest⟩ } := by
            simp only [step, hsweep]
          exact .of_step (intCounts_of (by simp)) hstep (ih h rfl)

private theorem canReturn_pod {pod : Pod K} (hpod : s.pods job = some pod) (huid : pod.uid = job)
    (hopened : job < s.nextJob) (hid : pod.providerID ≠ "")
    (hgpus : 0 < podGPUCount K pod.gpus) : CanReturn s job := by
  refine canReturn_of_swept fun s' hnone hpods hnext => ?_
  refine .of_step (a := .list (pod.expiresAt + 1)) (intCounts_of (by simp))
    (by simp only [step, hnone, Option.isNone_none, if_true]; rfl) ?_
  have hmem : parsePodToGPUJobInfo pod ∈ (List.range s'.nextJob).filterMap fun uid =>
      (s'.pods uid).map parsePodToGPUJobInfo := by
    refine List.mem_filterMap.mpr ⟨job, List.mem_range.mpr (hnext ▸ hopened), ?_⟩
    rw [hpods, hpod]
    rfl
  obtain ⟨n, hn⟩ := List.mem_iff_getElem?.mp hmem
  refine canReturn_listed rfl hn huid hid ?_ hgpus
  simp [shouldDelete, parsePodToGPUJobInfo]

/-! ## Requests in flight -/

private theorem canReturn_failed {t : CreateThread} (ht : s.creates job = some t)
    (hprovider : t.provider ≠ none) (hstage : t.stage = .failed) : CanReturn s job := by
  obtain ⟨providerID, hprovider⟩ := Option.ne_none_iff_exists'.mp hprovider
  have hat := createAt_eq_some.mpr ⟨ht, hstage⟩
  refine .of_return (a := .rollBack job) (intCounts_of (by simp))
    (by simp only [step, hat, Option.map_some]; rfl) (returnsFor_iff.mpr
      ⟨explicitRelease job providerID t.allocation, ?_, rfl⟩)
  simp [returns, hat, CreateThread.rollback, hprovider]

/-- A creation that is past its allocation can still fail. -/
theorem canReturn_creation {t : CreateThread} (ht : s.creates job = some t)
    (hprovider : t.provider ≠ none) (hstage : t.stage ≠ .checked) : CanReturn s job := by
  cases hat : t.stage with
  | checked => contradiction
  | allocated =>
      refine .of_step (a := .failTenant job) (intCounts_of (by simp))
        (by simp only [step, createAt_eq_some.mpr ⟨ht, hat⟩, Option.map_some]; rfl) ?_
      exact canReturn_failed (t := { t with stage := .failed })
        (Function.update_self _ _ _) hprovider rfl
  | podCreated =>
      refine .of_step (a := .createService job false) (intCounts_of (by simp))
        (by simp only [step, createAt_eq_some.mpr ⟨ht, hat⟩, Option.map_some]; rfl) ?_
      exact canReturn_failed (t := { t with stage := .failed })
        (Function.update_self _ _ _) hprovider rfl
  | failed => exact canReturn_failed ht hprovider hat

private theorem canReturn_accepted {request : ℕ} {t : DeleteThread}
    (ht : s.deletes request = some t) (hjob : t.job = job) (hallocation : t.allocation ≠ none)
    (hdeleted : t.deleted = true) : CanReturn s job := by
  obtain ⟨x, hx⟩ := Option.ne_none_iff_exists'.mp hallocation
  refine .of_return (a := .release request) (intCounts_of (by simp))
    (by simp only [step, ht, Option.filter, hdeleted, if_true, Option.map_some]; rfl)
    (returnsFor_iff.mpr ⟨explicitRelease t.job x.1 x.2, ?_, hjob⟩)
  simp [returns, ht, Option.filter, hdeleted, DeleteThread.release, hx]

private theorem canReturn_named {request : ℕ} {t : DeleteThread}
    (ht : s.deletes request = some t) (hjob : t.job = job) (hallocation : t.allocation ≠ none)
    (hnamed : (s.podNamed t.tenant t.jobID).isSome) : CanReturn s job := by
  cases hdeleted : t.deleted with
  | true => exact canReturn_accepted ht hjob hallocation hdeleted
  | false =>
      have hstep : step s (.deletePod request true) =
          some (s.setDelete request (some { t with deleted := true })) := by
        simp [step, ht, Option.filter, hdeleted, deletePod, hnamed]
      refine .of_step (intCounts_of (by simp)) hstep ?_
      exact canReturn_accepted (t := { t with deleted := true })
        (Function.update_self _ _ _) hjob hallocation rfl

/-- A name that a pod can be given again within the same second. -/
structure Named (s : State K) : Prop where
  pods : ∀ uid pod, s.pods uid = some pod →
    ∃ user now, pod.tenant = tenantOf user ∧ pod.name = jobName user now
  deletes : ∀ request t, s.deletes request = some t → t.allocation ≠ none →
    ∃ user now, t.tenant = tenantOf user ∧ t.jobID = jobName user now

def bareRequest : CreateJobRequest := ⟨"", "", 1, "", "", "", 1⟩

private theorem buildGPUPod_bare (hK : K.Documented) (uid : ℕ) (user : String) (now : ℤ) :
    ∃ pod : Pod K, buildGPUPod K uid user "" "" bareRequest now = some pod ∧
      pod.tenant = tenantOf user ∧ pod.name = jobName user now := by
  obtain ⟨cpu, hcpu, -⟩ := hK.readable (podCPUText bareRequest) _ rfl
  obtain ⟨memory, hmemory, -⟩ := hK.readable (podMemoryText bareRequest) _ rfl
  obtain ⟨gpus, hgpus, -⟩ := hK.readable (podGPUText bareRequest) _ (readNumeral_decimal 1)
  obtain ⟨storage, hstorage, -⟩ := hK.readable (podStorageText bareRequest) _ rfl
  exact ⟨_, by simp only [buildGPUPod, hcpu, hmemory, hgpus, hstorage]; rfl, rfl, rfl⟩

private theorem buildGPUPod_named {uid : ℕ} {user providerID gpuModel : String}
    {req : CreateJobRequest} {now : ℤ} {pod : Pod K}
    (h : buildGPUPod K uid user providerID gpuModel req now = some pod) :
    pod.tenant = tenantOf user ∧ pod.name = jobName user now := by
  unfold buildGPUPod at h
  split at h
  · cases h
    exact ⟨rfl, rfl⟩
  · contradiction

theorem Named.deletes_step (h : Named s) (hstep : step s a = some s') {request : ℕ}
    {t : DeleteThread} (ht : s'.deletes request = some t) (hallocation : t.allocation ≠ none) :
    ∃ user now, t.tenant = tenantOf user ∧ t.jobID = jobName user now := by
  cases step_move hstep with
  | deleteJob user jobID serviceFound =>
      simp only [State.deleteJob, setDelete, Function.update_apply] at ht
      split at ht
      · have hnew := Option.some.inj ht
        cases hfound : s.podNamed (tenantOf user) jobID with
        | none =>
            rw [hfound] at hnew
            subst hnew
            contradiction
        | some pod =>
            rw [hfound] at hnew
            subst hnew
            obtain ⟨uid, -, hnamed⟩ := List.exists_of_findSome?_eq_some hfound
            obtain ⟨hpod, hsame⟩ := Option.filter_eq_some_iff.mp hnamed
            obtain ⟨htenant, hname⟩ := of_decide_eq_true hsame
            obtain ⟨user', now, hpodTenant, hpodName⟩ := h.pods uid pod hpod
            exact ⟨user', now, htenant.symm.trans hpodTenant, hname.symm.trans hpodName⟩
      · exact h.deletes request t ht hallocation
  | deletionAccepted request' t' accepted ht' =>
      simp only [setDelete, Function.update_apply] at ht
      split at ht
      · cases ht
        exact h.deletes request' t' ht' hallocation
      · exact h.deletes request t ht hallocation
  | deletionRefused | release =>
      simp only [State.release, setDelete, Function.update_apply] at ht
      split at ht
      · contradiction
      · exact h.deletes request t ht hallocation
  | _ => exact h.deletes request t ht hallocation

theorem Named.step (h : Named s) (hstep : step s a = some s') : Named s' where
  pods uid pod hpod := by
    rcases step_pods hstep hpod with ⟨phase, hold⟩ | ⟨t, hcreates, -⟩
    · have hnamed := h.pods uid _ hold
      exact hnamed
    · obtain ⟨now, accepted, -, hbuilt⟩ := hcreates.action
      obtain ⟨htenant, hname⟩ := buildGPUPod_named hbuilt
      exact ⟨t.user, now, htenant, hname⟩
  deletes _ _ ht hallocation := h.deletes_step hstep ht hallocation

private theorem podNamed_isSome {uid : ℕ} {pod : Pod K} (hpod : s.pods uid = some pod)
    (huid : uid < s.nextJob) : (s.podNamed pod.tenant pod.name).isSome := by
  rw [podNamed, List.findSome?_isSome_iff]
  exact ⟨uid, List.mem_range.mpr huid, by simp [hpod, Option.filter]⟩

theorem Orderly.podNamed_opened (h : Orderly s) (creates : ℕ → Option CreateThread)
    (tenant name : String) :
    ({ s with creates := creates, nextJob := s.nextJob + 1 } : State K).podNamed tenant name =
      s.podNamed tenant name := by
  have hnone : s.pods s.nextJob = none := by
    by_contra hsome
    obtain ⟨pod, hpod⟩ := Option.ne_none_iff_exists'.mp hsome
    exact absurd (h.pods s.nextJob pod hpod).2 (lt_irrefl _)
  simp [podNamed, List.range_succ, List.findSome?_append, hnone]

/-- A deletion finds a pod of the name it goes by, if need be a new one. -/
theorem canReturn_deletion (hK : K.Documented) (horderly : Orderly s) (hnamed : Named s)
    {request : ℕ} {t : DeleteThread} (ht : s.deletes request = some t) (hjob : t.job = job)
    (hallocation : t.allocation ≠ none) : CanReturn s job := by
  by_cases hfound : (s.podNamed t.tenant t.jobID).isSome
  · exact canReturn_named ht hjob hallocation hfound
  obtain ⟨user, now, htenant, hname⟩ := hnamed.deletes request t ht hallocation
  obtain ⟨pod, hbuilt, hpodTenant, hpodName⟩ := buildGPUPod_bare hK s.nextJob user now
  have hfree : s.podNamed pod.tenant pod.name = none := by
    rw [hpodTenant, hpodName, ← htenant, ← hname]
    simpa using hfound
  -- the request comes in, is granted without a provider, and its pod takes the name
  let thread : CreateThread := ⟨user, bareRequest, none, "", .checked⟩
  let opened := { s.setCreate s.nextJob (some thread) with nextJob := s.nextJob + 1 }
  let allocated := opened.setCreate s.nextJob (some { thread with stage := .allocated })
  let created := { allocated.setCreate s.nextJob (some { thread with stage := .podCreated }) with
    pods := Function.update s.pods s.nextJob (some pod)
    events := s.emit .added pod }
  have hopened : step s (.createJob user bareRequest none none) = some opened := rfl
  have hallocated : step opened (.allocate s.nextJob) = some allocated := by
    simp [step, createAt, opened, allocated, thread, setCreate, Option.filter, State.allocate]
  have hcreated : step allocated (.createPod s.nextJob now true) = some created := by
    have hthread : allocated.createAt s.nextJob .allocated =
        some { thread with stage := .allocated } :=
      createAt_eq_some.mpr ⟨Function.update_self _ _ _, rfl⟩
    have hname : allocated.podNamed pod.tenant pod.name = none :=
      (horderly.podNamed_opened _ _ _).trans hfree
    simp only [step, hthread, Option.map_some, State.createPod, thread, Option.getD_none, hbuilt,
      hname, and_self, if_true]
    rfl
  refine .of_step (fun _ _ _ _ haction => ?_) hopened (.of_step (intCounts_of (by simp))
    hallocated (.of_step (intCounts_of (by simp)) hcreated ?_))
  · cases haction
    decide
  · refine canReturn_named (t := t) ht hjob hallocation ?_
    rw [htenant, hname, ← hpodTenant, ← hpodName]
    exact podNamed_isSome (Function.update_self _ _ _) (Nat.lt_succ_self _)

/-! ## Every hand -/

structure Between (past : List (Transition (State K) Action)) (s : State K) : Prop where
  tracked : Tracked past s
  orderly : Orderly s
  named : Named s

theorem Idle.between (h : Idle s) : Between [] s where
  tracked := h.tracked
  orderly := by
    refine ⟨?_, ?_, ?_, ?_⟩
    · intro job t ht
      simp [h.creates] at ht
    · intro request t ht
      simp [h.deletes] at ht
    · intro uid pod hpod
      simp [h.pods] at hpod
    · intro job t ht
      simp [h.creates] at ht
  named := by
    refine ⟨?_, ?_⟩
    · intro uid pod hpod
      simp [h.pods] at hpod
    · intro request t ht
      simp [h.deletes] at ht

theorem between (hK : K.Documented) (h₀ : Idle s₀) (hrun : Run step intCounts s₀ past s) :
    Between past s :=
  hrun.invariant h₀.between fun _ _ _ _ _ h hint hstep =>
    ⟨h.tracked.step hK hint hstep, h.orderly.step hstep, h.named.step hstep⟩

theorem Tracked.gpuCount_pos (h : Tracked past s) {info : GPUJobPodInfo}
    (hmention : Mentions s info) (hid : info.providerID ≠ "") : 0 < info.gpuCount := by
  obtain ⟨x, hx, -, hgpus, -⟩ := h.mentioned info hmention hid
  exact (debits_pos (hx ▸ List.mem_singleton_self x)).trans_eq hgpus.symm

theorem Between.canReturn (h : Between past s) (hK : K.Documented) (hdebits : debits past job ≠ [])
    {hand : Hand} (hheld : HeldBy s job hand) : CanReturn s job := by
  cases hand with
  | creation =>
      obtain ⟨t, ht, hprovider⟩ := hheld
      exact canReturn_creation ht hprovider fun hstage =>
        hdebits (h.tracked.checked job t ht hstage)
  | deletion request =>
      obtain ⟨t, ht, hjob, hallocation⟩ := hheld
      exact canReturn_deletion hK h.orderly h.named ht hjob hallocation
  | event n => exact canReturn_event hheld
  | listed n =>
      obtain ⟨w, info, hw, hinfo, hjob, hid, hdue⟩ := hheld
      have hgpus := h.tracked.gpuCount_pos
        (.listed w info hw (List.mem_of_getElem? hinfo)) hid
      exact canReturn_listed hw hinfo hjob hid hdue hgpus
  | pod =>
      obtain ⟨pod, hpod, hid⟩ := hheld
      obtain ⟨huid, hopened⟩ := h.orderly.pods job pod hpod
      exact canReturn_pod hpod huid hopened hid (h.tracked.gpuCount_pos (.pod job pod hpod) hid)

theorem Tracked.returnsFor_of_heldBy (h : Tracked past s) {hand : Hand}
    (hhand : a.handFor job = some hand) (hheld : HeldBy s job hand)
    (hstep : ControlPlane.step s a = some s') : returnsFor job ⟨s, a, s'⟩ := by
  rw [returnsFor_iff]
  cases step_move hstep with
  | rollBack job' t ht hstage =>
      simp only [Action.handFor] at hhand
      split at hhand
      · rename_i hjob
        subst hjob
        cases hhand
        obtain ⟨t', ht', hprovider⟩ := hheld
        cases ht.symm.trans ht'
        obtain ⟨providerID, hprovider⟩ := Option.ne_none_iff_exists'.mp hprovider
        refine ⟨explicitRelease job' providerID t.allocation, ?_, rfl⟩
        simp [returns, createAt_eq_some.mpr ⟨ht, hstage⟩, CreateThread.rollback, hprovider]
      · contradiction
  | release request t ht hdeleted =>
      cases hhand
      obtain ⟨t', ht', hjob, hallocation⟩ := hheld
      cases ht.symm.trans ht'
      obtain ⟨x, hx⟩ := Option.ne_none_iff_exists'.mp hallocation
      refine ⟨explicitRelease t.job x.1 x.2, ?_, hjob⟩
      simp [returns, ht, Option.filter, hdeleted, DeleteThread.release, hx]
  | deliver first rest hevents =>
      cases hhand
      obtain ⟨event, hevent, hjob, hid, htells⟩ := hheld
      obtain rfl : first = event := by simpa [hevents] using hevent
      obtain ⟨r, hr⟩ := Option.isSome_iff_exists.mp (eventRelease_isSome.mpr ⟨hid, htells⟩)
      refine ⟨r, by simp [returns, hevents, hr], ?_⟩
      rw [(eventRelease_eq_some hr).2]
      exact hjob
  | sweepDone now hsweep =>
      cases hhand
      obtain ⟨w, info, hw, hinfo, -⟩ := hheld
      cases hsweep.symm.trans hw
      contradiction
  | sweepNext now first rest hsweep =>
      cases hhand
      obtain ⟨w, info, hw, hinfo, hjob, hid, hdue⟩ := hheld
      cases hsweep.symm.trans hw
      obtain rfl : first = info := by simpa using hinfo
      have hgpus := h.gpuCount_pos (.listed _ first hsweep List.mem_cons_self) hid
      refine ⟨podRelease first, ?_, hjob⟩
      simp [returns, hsweep, sweepRelease_isSome hid hdue hgpus]
  | _ => contradiction

end WorldlandBroker.ControlPlane
