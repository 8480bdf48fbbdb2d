import WorldlandBroker.ControlPlane.Postings

/-!
# What the system knows about pods

The watch and the sweeper act on what was once read off a pod: the pod itself
may have changed its phase since, or be gone.  A step adds such knowledge only
by creating a pod.
-/

namespace WorldlandBroker.ControlPlane

open Foundation Provider Job State

variable {K : QuantityAPI} {s s' : State K} {a : Action} {info : GPUJobPodInfo}

/-- A pod, an undelivered event or an open sweep tells this of a pod. -/
inductive Mentions (s : State K) : GPUJobPodInfo → Prop where
  | pod (uid : ℕ) (pod : Pod K) (hpod : s.pods uid = some pod) :
      Mentions s (parsePodToGPUJobInfo pod)
  | event (event : PodWatchEvent) (hevent : event ∈ s.events) :
      Mentions s event.info
  | listed (w : Sweep) (info : GPUJobPodInfo) (hsweep : s.sweep = some w)
      (hinfo : info ∈ w.pods) : Mentions s info

theorem Mentions.mono (h : Mentions s' info)
    (hpods : ∀ uid pod, s'.pods uid = some pod → s.pods uid = some pod)
    (hevents : s'.events ⊆ s.events)
    (hsweep : ∀ w, s'.sweep = some w →
      ∃ w₀, s.sweep = some w₀ ∧ w.pods ⊆ w₀.pods) : Mentions s info := by
  cases h with
  | pod uid pod hpod => exact .pod uid pod (hpods uid pod hpod)
  | event event hevent => exact .event event (hevents hevent)
  | listed w info hw hinfo =>
      obtain ⟨w₀, hw₀, hsubset⟩ := hsweep w hw
      exact .listed w₀ info hw₀ (hsubset hinfo)

theorem Mentions.of_eq (h : Mentions s' info) (hpods : s'.pods = s.pods)
    (hevents : s'.events = s.events) (hsweep : s'.sweep = s.sweep) :
    Mentions s info :=
  h.mono (fun _ _ hpod => hpods ▸ hpod) (fun _ he => hevents ▸ he)
    fun w hw => ⟨w, hsweep ▸ hw, List.Subset.refl _⟩

inductive ReturnPath (s : State K) : Action → Release → Prop where
  | rolledBack (job : ℕ) (t : CreateThread) (providerID : String)
      (ht : s.creates job = some t) (hstage : t.stage = .failed)
      (hprovider : t.provider = some providerID) :
      ReturnPath s (.rollBack job) (explicitRelease job providerID t.allocation)
  | deleted (request : ℕ) (t : DeleteThread) (x : String × ResourceAllocation)
      (ht : s.deletes request = some t) (hallocation : t.allocation = some x) :
      ReturnPath s (.release request) (explicitRelease t.job x.1 x.2)
  | delivered (info : GPUJobPodInfo) (hmention : Mentions s info)
      (hid : info.providerID ≠ "") : ReturnPath s .deliver (podRelease info)
  | swept (info : GPUJobPodInfo) (hmention : Mentions s info)
      (hid : info.providerID ≠ "") : ReturnPath s .sweepNext (podRelease info)

theorem returns_path {r : Release} (hr : returns s a = some r) : ReturnPath s a r := by
  cases a with
  | rollBack job =>
      obtain ⟨t, ht, hx⟩ := Option.bind_eq_some_iff.mp hr
      obtain ⟨ht, hstage⟩ := createAt_eq_some.mp ht
      obtain ⟨providerID, hprovider, rfl⟩ := Option.map_eq_some_iff.mp hx
      exact .rolledBack job t providerID ht hstage hprovider
  | release request =>
      obtain ⟨t, ht, hx⟩ := Option.bind_eq_some_iff.mp hr
      obtain ⟨ht, -⟩ := Option.filter_eq_some_iff.mp ht
      obtain ⟨x, hallocation, rfl⟩ := Option.map_eq_some_iff.mp hx
      exact .deleted request t x ht hallocation
  | deliver =>
      obtain ⟨event, hevent, hx⟩ := Option.bind_eq_some_iff.mp hr
      obtain ⟨hid, rfl⟩ := eventRelease_eq_some hx
      exact .delivered event.info (.event event (List.mem_of_mem_head? hevent)) hid
  | sweepNext =>
      obtain ⟨w, hw, hx⟩ := Option.bind_eq_some_iff.mp hr
      obtain ⟨info, hinfo, hx⟩ := Option.bind_eq_some_iff.mp hx
      obtain ⟨hid, rfl⟩ := sweepRelease_eq_some hx
      exact .swept info (.listed w info hw (List.mem_of_mem_head? hinfo)) hid
  | _ => contradiction

private theorem mem_emit {type : EventType} {pod : Pod K} {event : PodWatchEvent}
    (h : event ∈ s.emit type pod) :
    event ∈ s.events ∨ event.info = parsePodToGPUJobInfo pod := by
  unfold emit at h
  split at h
  · rcases List.mem_append.mp h with h | h
    · exact .inl h
    · rw [List.mem_singleton.mp h]
      exact .inr rfl
  · exact .inl h

theorem Mentions.of_update {uid : ℕ} {value : Option (Pod K)}
    {type : EventType} {pod : Pod K} (h : Mentions s' info)
    (hpods : s'.pods = Function.update s.pods uid value)
    (hvalue : ∀ pod', value = some pod' → pod' = pod)
    (hevents : s'.events = s.emit type pod) (hsweep : s'.sweep = s.sweep) :
    Mentions s info ∨ info = parsePodToGPUJobInfo pod := by
  cases h with
  | pod uid' pod' hpod =>
      rw [hpods] at hpod
      by_cases huid : uid' = uid
      · subst huid
        rw [Function.update_self] at hpod
        rw [hvalue pod' hpod]
        exact .inr rfl
      · rw [Function.update_of_ne huid] at hpod
        exact .inl (.pod uid' pod' hpod)
  | event event hevent =>
      rw [hevents] at hevent
      rcases mem_emit hevent with hold | hnew
      · exact .inl (.event event hold)
      · exact .inr hnew
  | listed w info hw hinfo => exact .inl (.listed w info (hsweep ▸ hw) hinfo)

theorem mem_podInfos {f : Pod K → PodWatchEvent} {event : PodWatchEvent}
    (h : event ∈ (List.range s.nextJob).filterMap fun uid =>
      (s.pods uid).map f) : ∃ uid pod, s.pods uid = some pod ∧ event = f pod := by
  obtain ⟨uid, -, huid⟩ := List.mem_filterMap.mp h
  obtain ⟨pod, hpod, rfl⟩ := Option.map_eq_some_iff.mp huid
  exact ⟨uid, pod, hpod, rfl⟩

structure CreatesPod (s : State K) (a : Action) (job : ℕ) (t : CreateThread)
    (pod : Pod K) : Prop where
  thread : s.creates job = some t
  stage : t.stage = .allocated
  action : ∃ now accepted, a = .createPod job now accepted ∧
    buildGPUPod K job t.user (t.provider.getD "") t.gpuModel t.req now = some pod

/-- Whatever a step comes to know, it knew before up to a phase, or has created. -/
theorem step_mentions (h : step s a = some s') (hmention : Mentions s' info) :
    (∃ status, Mentions s { info with status := status }) ∨
      ∃ job t pod, CreatesPod s a job t pod ∧
        info = parsePodToGPUJobInfo pod := by
  have hknown : Mentions s info →
      ∃ status, Mentions s { info with status := status } :=
    fun hmention => ⟨info.status, hmention⟩
  cases step_move h with
  | podCreated job t now accepted pod ht hstage hbuilt =>
      rcases hmention.of_update rfl (fun _ hpod => (Option.some.inj hpod).symm)
        rfl rfl with hold | hnew
      · exact .inl (hknown hold)
      · exact .inr ⟨job, t, pod, ⟨ht, hstage, now, accepted, rfl, hbuilt⟩, hnew⟩
  | setPhase uid pod phase hpod =>
      rcases hmention.of_update rfl (fun _ hpod => (Option.some.inj hpod).symm)
        rfl rfl with hold | hnew
      · exact .inl (hknown hold)
      · subst hnew
        exact .inl ⟨pod.phase, .pod uid pod hpod⟩
  | removePod uid pod hpod =>
      rcases hmention.of_update rfl (fun _ hpod => by contradiction) rfl rfl with
        hold | hnew
      · exact .inl (hknown hold)
      · subst hnew
        exact .inl (hknown (.pod uid pod hpod))
  | reconnect =>
      cases hmention with
      | pod uid pod hpod => exact .inl (hknown (.pod uid pod hpod))
      | event event hevent =>
          obtain ⟨uid, pod, hpod, rfl⟩ := mem_podInfos hevent
          exact .inl (hknown (.pod uid pod hpod))
      | listed w info hw hinfo => exact .inl (hknown (.listed w info hw hinfo))
  | deliver event events hevents =>
      refine .inl (hknown (hmention.mono (fun _ _ hpod => hpod) ?_
        fun w hw => ⟨w, hw, List.Subset.refl _⟩))
      rw [hevents]
      exact List.subset_cons_self event events
  | list now =>
      cases hmention with
      | pod uid pod hpod => exact .inl (hknown (.pod uid pod hpod))
      | event event hevent => exact .inl (hknown (.event event hevent))
      | listed w info hw hinfo =>
          cases hw
          obtain ⟨uid, -, huid⟩ := List.mem_filterMap.mp hinfo
          obtain ⟨pod, hpod, rfl⟩ := Option.map_eq_some_iff.mp huid
          exact .inl (hknown (.pod uid pod hpod))
  | sweepDone now hsweep =>
      exact .inl (hknown (hmention.mono (fun _ _ hpod => hpod)
        (List.Subset.refl _) fun w hw => by contradiction))
  | sweepNext now info pods hsweep =>
      refine .inl (hknown (hmention.mono (fun _ _ hpod => hpod)
        (List.Subset.refl _) fun w hw => ?_))
      cases hw
      exact ⟨_, hsweep, List.subset_cons_self info pods⟩
  | _ => exact .inl (hknown (hmention.of_eq rfl rfl rfl))

theorem step_pods (h : step s a = some s') {uid : ℕ} {pod : Pod K}
    (hpod : s'.pods uid = some pod) :
    (∃ phase, s.pods uid = some { pod with phase := phase }) ∨
      ∃ t, CreatesPod s a uid t pod ∧
        s'.creates uid = some { t with stage := .podCreated } := by
  have hkept (hpod : s.pods uid = some pod) :
      ∃ phase, s.pods uid = some { pod with phase := phase } :=
    ⟨pod.phase, hpod⟩
  cases step_move h with
  | podCreated job t now accepted pod' ht hstage hbuilt =>
      simp only [Function.update_apply] at hpod
      split at hpod
      · rename_i huid
        subst huid
        cases hpod
        exact .inr ⟨t, ⟨ht, hstage, now, accepted, rfl, hbuilt⟩,
          Function.update_self _ _ _⟩
      · exact .inl (hkept hpod)
  | setPhase uid' pod' phase hbefore =>
      simp only [State.setPhase, Function.update_apply] at hpod
      split at hpod
      · rename_i huid
        subst huid
        cases hpod
        exact .inl ⟨pod'.phase, hbefore⟩
      · exact .inl (hkept hpod)
  | removePod uid' pod' hbefore =>
      simp only [State.removePod, Function.update_apply] at hpod
      split at hpod
      · contradiction
      · exact .inl (hkept hpod)
  | _ => exact .inl (hkept hpod)

/-! ## Creation requests -/

inductive Advance (s : State K) (a : Action) (s' : State K) (job : ℕ) :
    CreateThread → Prop where
  | kept (t : CreateThread) (ht : s.creates job = some t) : Advance s a s' job t
  | opened (t : CreateThread) (hjob : job = s.nextJob) (hstage : t.stage = .checked)
      (hnext : s'.nextJob = s.nextJob + 1)
      (hasked : ∃ user found allocatable, a = .createJob user t.req found allocatable) :
      Advance s a s' job t
  | allocated (t : CreateThread) (ht : s.creates job = some t)
      (hstage : t.stage = .checked) (haction : a = .allocate job)
      (hgranted : ∀ x, t.admission job = some x → granted s.providers x) :
      Advance s a s' job { t with stage := .allocated }
  | podCreated (t : CreateThread) (pod : Pod K)
      (hpod : CreatesPod s a job t pod) (hafter : s'.pods job = some pod) :
      Advance s a s' job { t with stage := .podCreated }
  | failed (t : CreateThread) (ht : s.creates job = some t)
      (hstage : t.stage = .allocated ∨ t.stage = .podCreated) :
      Advance s a s' job { t with stage := .failed }

theorem step_creates (h : step s a = some s') {job : ℕ} {t : CreateThread}
    (ht : s'.creates job = some t) : Advance s a s' job t := by
  -- a move replaces the thread of one job by `value`, or none at all
  have hreplaced {job' : ℕ} {value : Option CreateThread}
      (heq : s'.creates = Function.update s.creates job' value)
      (hself : job = job' → ∀ t', value = some t' → Advance s a s' job t') :
      Advance s a s' job t := by
    rw [heq] at ht
    by_cases hjob : job = job'
    · subst hjob
      rw [Function.update_self] at ht
      exact hself rfl t ht
    · rw [Function.update_of_ne hjob] at ht
      exact .kept t ht
  cases step_move h with
  | opened user req found allocatable t' hstage hreq =>
      refine hreplaced rfl fun hjob t'' ht'' => ?_
      cases ht''
      exact .opened t' hjob hstage rfl ⟨user, found, allocatable, by rw [hreq]⟩
  | unallocated job' t' ht' hstage hprovider =>
      refine hreplaced rfl fun hjob t'' ht'' => ?_
      subst hjob
      cases ht''
      exact .allocated t' ht' hstage rfl
        (by simp [CreateThread.admission, hprovider])
  | allocated job' t' providerID o ht' hstage hprovider hresult =>
      refine hreplaced rfl fun hjob t'' ht'' => ?_
      subst hjob
      cases ht''
      refine .allocated t' ht' hstage rfl fun x hx => ?_
      obtain ⟨-, hasked, hallocation⟩ := admission_eq_some hx
      cases hprovider.symm.trans hasked
      simp [granted, hallocation, hresult]
  | failTenant job' t' ht' hstage | podRefused job' t' _ _ ht' hstage =>
      refine hreplaced rfl fun hjob t'' ht'' => ?_
      subst hjob
      cases ht''
      exact .failed t' ht' (.inl hstage)
  | podCreated job' t' now accepted pod ht' hstage hbuilt =>
      refine hreplaced rfl fun hjob t'' ht'' => ?_
      subst hjob
      cases ht''
      exact .podCreated t' pod ⟨ht', hstage, now, accepted, rfl, hbuilt⟩
        (Function.update_self _ _ _)
  | serviceRefused job' t' accepted ht' hstage =>
      refine hreplaced rfl fun hjob t'' ht'' => ?_
      subst hjob
      cases ht''
      exact .failed t' ht' (.inr hstage)
  | allocationFailed | podPanicked | serviceCreated | rollBack =>
      exact hreplaced rfl fun _ _ hnone => by contradiction
  | _ => exact .kept t ht

theorem opened_step (h : step s a = some s')
    (hopened : ∀ job t, s.creates job = some t → job < s.nextJob) {job : ℕ}
    {t : CreateThread} (ht : s'.creates job = some t) : job < s'.nextJob := by
  have hnext := step_nextJob h
  cases step_creates h ht with
  | kept t ht₀ => exact (hopened job t ht₀).trans_le hnext
  | opened t hjob _ hafter => omega
  | allocated t ht₀ => exact (hopened job t ht₀).trans_le hnext
  | podCreated t pod hpod => exact (hopened job t hpod.thread).trans_le hnext
  | failed t ht₀ => exact (hopened job t ht₀).trans_le hnext

inductive Carried (s : State K) (a : Action) (s' : State K) (job : ℕ)
    (t : CreateThread) : Prop where
  | allocated (hstage : t.stage = .checked)
  | panicked (hstage : t.stage = .allocated) (now : ℤ)
      (hbuilt : buildGPUPod K job t.user (t.provider.getD "") t.gpuModel t.req
        now = none)
  | podCreated (pod : Pod K) (hpod : CreatesPod s a job t pod)
      (hafter : s'.pods job = some pod)
  | failed (hstage : t.stage = .allocated ∨ t.stage = .podCreated)
      (hafter : s'.creates job = some { t with stage := .failed })
  | served (hstage : t.stage = .podCreated)
  | rolledBack (hstage : t.stage = .failed) (haction : a = .rollBack job)

theorem step_creation (h : step s a = some s') {job : ℕ} {t : CreateThread}
    (hcreation : a.creation = some job) (ht : s.creates job = some t) :
    Carried s a s' job t := by
  cases step_move h with
  | unallocated _ t' ht' hstage | allocationFailed _ t' _ _ _ ht' hstage
  | allocated _ t' _ _ ht' hstage =>
      cases hcreation
      cases ht.symm.trans ht'
      exact .allocated hstage
  | failTenant _ t' ht' hstage | podRefused _ t' _ _ ht' hstage =>
      cases hcreation
      cases ht.symm.trans ht'
      exact .failed (.inl hstage) (Function.update_self _ _ _)
  | podPanicked _ t' now _ ht' hstage hbuilt =>
      cases hcreation
      cases ht.symm.trans ht'
      exact .panicked hstage now hbuilt
  | podCreated _ t' now accepted pod ht' hstage hbuilt =>
      cases hcreation
      cases ht.symm.trans ht'
      exact .podCreated pod ⟨ht, hstage, now, accepted, rfl, hbuilt⟩
        (Function.update_self _ _ _)
  | serviceCreated _ t' _ ht' hstage =>
      cases hcreation
      cases ht.symm.trans ht'
      exact .served hstage
  | serviceRefused _ t' _ ht' hstage =>
      cases hcreation
      cases ht.symm.trans ht'
      exact .failed (.inr hstage) (Function.update_self _ _ _)
  | rollBack _ t' ht' hstage =>
      cases hcreation
      cases ht.symm.trans ht'
      exact .rolledBack hstage rfl
  | _ => contradiction

/-! ## Deletion requests -/

theorem step_deletes (h : step s a = some s') {request : ℕ} {t : DeleteThread}
    (ht : s'.deletes request = some t) {x : String × ResourceAllocation}
    (hx : t.allocation = some x) :
    (∃ t₀, s.deletes request = some t₀ ∧ t₀.job = t.job ∧
        t₀.allocation = some x) ∨
      ∃ uid pod, s.pods uid = some pod ∧ t.job = pod.uid ∧
        x.1 = pod.providerID ∧ pod.providerID ≠ "" ∧
        deletedAllocation (getJobStatus pod) = some x.2 := by
  -- a move replaces the thread of one request by `value`, or none at all
  have hreplaced {request' : ℕ} {value : Option DeleteThread}
      (heq : s'.deletes = Function.update s.deletes request' value)
      (hself : request = request' → value = some t →
        ∃ t₀, s.deletes request = some t₀ ∧ t₀.job = t.job ∧
          t₀.allocation = some x) :
      ∃ t₀, s.deletes request = some t₀ ∧ t₀.job = t.job ∧
        t₀.allocation = some x := by
    rw [heq] at ht
    by_cases hrequest : request = request'
    · subst hrequest
      rw [Function.update_self] at ht
      exact hself rfl ht
    · rw [Function.update_of_ne hrequest] at ht
      exact ⟨t, ht, rfl, hx⟩
  cases step_move h with
  | deleteJob user jobID serviceFound =>
      by_cases hrequest : request = s.nextRequest
      · right
        subst hrequest
        change Function.update s.deletes s.nextRequest (some _) s.nextRequest =
          some t at ht
        rw [Function.update_self] at ht
        have hnew := Option.some.inj ht
        cases hpod : s.podNamed (tenantOf user) jobID with
        | none =>
            rw [hpod] at hnew
            subst hnew
            contradiction
        | some pod =>
            rw [hpod] at hnew
            subst hnew
            simp only [] at hx
            split at hx
            · obtain ⟨allocation, hallocation, rfl⟩ := Option.map_eq_some_iff.mp hx
              obtain ⟨uid, hpod⟩ := podNamed_eq_some hpod
              exact ⟨uid, pod, hpod, rfl, rfl,
                (deletedAllocation_eq_some hallocation).1, hallocation⟩
            · contradiction
      · exact .inl (hreplaced rfl fun hself => absurd hself hrequest)
  | deletionAccepted request' t' accepted ht' =>
      refine .inl (hreplaced rfl fun hrequest hnew => ?_)
      subst hrequest
      cases hnew
      exact ⟨t', ht', rfl, hx⟩
  | deletionRefused | release =>
      exact .inl (hreplaced rfl fun _ hnone => by contradiction)
  | _ => exact .inl ⟨t, ht, rfl, hx⟩

end WorldlandBroker.ControlPlane
