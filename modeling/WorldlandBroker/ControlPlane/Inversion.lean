import WorldlandBroker.ControlPlane.Step

/-!
# Inversion of a step

What each action can do to the state, with the part of the state it applied to,
and what a step leaves alone.  Proofs about runs do their case analysis on these
and leave `step` folded.
-/

namespace WorldlandBroker.ControlPlane

open Foundation Provider Job State

variable {K : QuantityAPI} {s s' : State K} {a : Action} {job uid request : ℕ}

theorem createAt_eq_some {stage : CreateStage} {t : CreateThread} :
    s.createAt job stage = some t ↔ s.creates job = some t ∧ t.stage = stage := by
  simp [createAt, Option.filter_eq_some_iff]

theorem podNamed_eq_some {tenant name : String} {pod : Pod K}
    (h : s.podNamed tenant name = some pod) : ∃ uid, s.pods uid = some pod := by
  obtain ⟨uid, -, hpod⟩ := List.exists_of_findSome?_eq_some h
  exact ⟨uid, (Option.filter_eq_some_iff.mp hpod).1⟩

theorem acceptRequest_eq_ok {o : Registry} {user : String} {req : CreateJobRequest}
    {found : Option (String × ProviderState)} {allocatable : Option ℤ}
    {t : CreateThread}
    (h : acceptRequest o user req found allocatable = .ok t) :
    t.stage = .checked ∧ t.req = req := by
  unfold acceptRequest at h
  split at h
  · contradiction
  · cases h
    exact ⟨rfl, rfl⟩
  · split at h
    · contradiction
    · cases h
      exact ⟨rfl, rfl⟩

inductive Move (s : State K) : Action → State K → Prop where
  | refused (user : String) (req : CreateJobRequest)
      (found : Option (String × ProviderState)) (allocatable : Option ℤ) :
      Move s (.createJob user req found allocatable) s
  | opened (user : String) (req : CreateJobRequest)
      (found : Option (String × ProviderState)) (allocatable : Option ℤ)
      (t : CreateThread) (hstage : t.stage = .checked) (hreq : t.req = req) :
      Move s (.createJob user req found allocatable)
        { s.setCreate s.nextJob (some t) with nextJob := s.nextJob + 1 }
  | unallocated (job : ℕ) (t : CreateThread) (ht : s.creates job = some t)
      (hstage : t.stage = .checked) (hprovider : t.provider = none) :
      Move s (.allocate job)
        (s.setCreate job (some { t with stage := .allocated }))
  | allocationFailed (job : ℕ) (t : CreateThread) (providerID message : String)
      (o : Registry) (ht : s.creates job = some t) (hstage : t.stage = .checked)
      (hprovider : t.provider = some providerID)
      (hresult : s.providers.allocateResources providerID t.allocation =
        (.error message, o)) :
      Move s (.allocate job) { s.setCreate job none with providers := o }
  | allocated (job : ℕ) (t : CreateThread) (providerID : String) (o : Registry)
      (ht : s.creates job = some t) (hstage : t.stage = .checked)
      (hprovider : t.provider = some providerID)
      (hresult : s.providers.allocateResources providerID t.allocation =
        (.ok (), o)) :
      Move s (.allocate job)
        { s.setCreate job (some { t with stage := .allocated }) with
          providers := o }
  | failTenant (job : ℕ) (t : CreateThread)
      (ht : s.creates job = some t) (hstage : t.stage = .allocated) :
      Move s (.failTenant job)
        (s.setCreate job (some { t with stage := .failed }))
  | podPanicked (job : ℕ) (t : CreateThread) (now : ℤ) (accepted : Bool)
      (ht : s.creates job = some t) (hstage : t.stage = .allocated)
      (hbuilt : buildGPUPod K job t.user (t.provider.getD "") t.gpuModel t.req
        now = none) :
      Move s (.createPod job now accepted) (s.setCreate job none)
  | podRefused (job : ℕ) (t : CreateThread) (now : ℤ) (accepted : Bool)
      (ht : s.creates job = some t) (hstage : t.stage = .allocated) :
      Move s (.createPod job now accepted)
        (s.setCreate job (some { t with stage := .failed }))
  | podCreated (job : ℕ) (t : CreateThread) (now : ℤ) (accepted : Bool)
      (pod : Pod K) (ht : s.creates job = some t) (hstage : t.stage = .allocated)
      (hbuilt : buildGPUPod K job t.user (t.provider.getD "") t.gpuModel t.req
        now = some pod) :
      Move s (.createPod job now accepted)
        { s.setCreate job (some { t with stage := .podCreated }) with
          pods := Function.update s.pods job (some pod)
          events := s.emit .added pod }
  | serviceCreated (job : ℕ) (t : CreateThread) (accepted : Bool)
      (ht : s.creates job = some t) (hstage : t.stage = .podCreated) :
      Move s (.createService job accepted) (s.setCreate job none)
  | serviceRefused (job : ℕ) (t : CreateThread) (accepted : Bool)
      (ht : s.creates job = some t) (hstage : t.stage = .podCreated) :
      Move s (.createService job accepted)
        (s.setCreate job (some { t with stage := .failed }))
  | rollBack (job : ℕ) (t : CreateThread)
      (ht : s.creates job = some t) (hstage : t.stage = .failed) :
      Move s (.rollBack job) (s.rollBack job t)
  | deleteJob (user jobID : String) (serviceFound : Bool) :
      Move s (.deleteJob user jobID serviceFound)
        (s.deleteJob user jobID serviceFound)
  | deletionRefused (request : ℕ) (t : DeleteThread) (accepted : Bool)
      (ht : s.deletes request = some t) (hdeleted : t.deleted = false) :
      Move s (.deletePod request accepted) (s.setDelete request none)
  | deletionAccepted (request : ℕ) (t : DeleteThread) (accepted : Bool)
      (ht : s.deletes request = some t) (hdeleted : t.deleted = false) :
      Move s (.deletePod request accepted)
        (s.setDelete request (some { t with deleted := true }))
  | release (request : ℕ) (t : DeleteThread)
      (ht : s.deletes request = some t) (hdeleted : t.deleted = true) :
      Move s (.release request) (s.release request t)
  | setPhase (uid : ℕ) (pod : Pod K) (phase : String)
      (hpod : s.pods uid = some pod) :
      Move s (.setPhase uid phase) (s.setPhase uid pod phase)
  | removePod (uid : ℕ) (pod : Pod K) (hpod : s.pods uid = some pod) :
      Move s (.removePod uid) (s.removePod uid pod)
  | disconnect : Move s .disconnect { s with watching := false }
  | reconnect (hevents : s.events = []) : Move s .reconnect s.reconnect
  | deliver (event : PodWatchEvent) (events : List PodWatchEvent)
      (hevents : s.events = event :: events) :
      Move s .deliver { s with
        providers := handlePodEvent s.providers event
        events := events }
  | list (now : ℤ) : Move s (.list now) (s.listPods now)
  | sweepDone (now : ℤ) (hsweep : s.sweep = some ⟨now, []⟩) :
      Move s .sweepNext { s with sweep := none }
  | sweepNext (now : ℤ) (info : GPUJobPodInfo) (pods : List GPUJobPodInfo)
      (hsweep : s.sweep = some ⟨now, info :: pods⟩) :
      Move s .sweepNext { s with
        providers := sweepPod s.providers now info
        sweep := some ⟨now, pods⟩ }
  | mining (id : String) (p : ProviderState) (call : MiningCall)
      (hp : s.providers id = some p) (hcall : call.Admissible p.capacity) :
      Move s (.mining id call) (s.mine id p call)

/-! ## The requests -/

private theorem createJob_move (s : State K) (user : String) (req : CreateJobRequest)
    (found : Option (String × ProviderState)) (allocatable : Option ℤ) :
    Move s (.createJob user req found allocatable)
      (s.createJob user req found allocatable) := by
  unfold State.createJob
  split
  · exact .refused user req found allocatable
  · rename_i t haccepted
    obtain ⟨hstage, hreq⟩ := acceptRequest_eq_ok haccepted
    exact .opened user req found allocatable t hstage hreq

private theorem allocate_move {t : CreateThread} (ht : s.creates job = some t)
    (hstage : t.stage = .checked) : Move s (.allocate job) (s.allocate job t) := by
  unfold State.allocate
  split
  · rename_i hprovider
    exact .unallocated job t ht hstage hprovider
  · rename_i providerID hprovider
    split
    · rename_i message o hresult
      exact .allocationFailed job t providerID message o ht hstage hprovider hresult
    · rename_i o hresult
      exact .allocated job t providerID o ht hstage hprovider hresult

private theorem createPod_move {t : CreateThread} (ht : s.creates job = some t)
    (hstage : t.stage = .allocated) (now : ℤ) (accepted : Bool) :
    Move s (.createPod job now accepted) (s.createPod job t now accepted) := by
  unfold State.createPod
  split
  · rename_i hbuilt
    exact .podPanicked job t now accepted ht hstage hbuilt
  · rename_i pod hbuilt
    split
    · exact .podCreated job t now accepted pod ht hstage hbuilt
    · exact .podRefused job t now accepted ht hstage

private theorem createService_move {t : CreateThread} (ht : s.creates job = some t)
    (hstage : t.stage = .podCreated) (accepted : Bool) :
    Move s (.createService job accepted) (s.createService job t accepted) := by
  unfold State.createService
  split
  · exact .serviceCreated job t accepted ht hstage
  · exact .serviceRefused job t accepted ht hstage

private theorem deletePod_move {t : DeleteThread} (ht : s.deletes request = some t)
    (hdeleted : t.deleted = false) (accepted : Bool) :
    Move s (.deletePod request accepted) (s.deletePod request t accepted) := by
  unfold State.deletePod
  split
  · exact .deletionAccepted request t accepted ht hdeleted
  · exact .deletionRefused request t accepted ht hdeleted

theorem step_move (h : step s a = some s') : Move s a s' := by
  cases a with
  | createJob user req found allocatable =>
      cases h
      exact createJob_move s user req found allocatable
  | allocate job =>
      obtain ⟨t, ht, rfl⟩ := Option.map_eq_some_iff.mp h
      obtain ⟨ht, hstage⟩ := createAt_eq_some.mp ht
      exact allocate_move ht hstage
  | failTenant job =>
      obtain ⟨t, ht, rfl⟩ := Option.map_eq_some_iff.mp h
      obtain ⟨ht, hstage⟩ := createAt_eq_some.mp ht
      exact .failTenant job t ht hstage
  | createPod job now accepted =>
      obtain ⟨t, ht, rfl⟩ := Option.map_eq_some_iff.mp h
      obtain ⟨ht, hstage⟩ := createAt_eq_some.mp ht
      exact createPod_move ht hstage now accepted
  | createService job accepted =>
      obtain ⟨t, ht, rfl⟩ := Option.map_eq_some_iff.mp h
      obtain ⟨ht, hstage⟩ := createAt_eq_some.mp ht
      exact createService_move ht hstage accepted
  | rollBack job =>
      obtain ⟨t, ht, rfl⟩ := Option.map_eq_some_iff.mp h
      obtain ⟨ht, hstage⟩ := createAt_eq_some.mp ht
      exact .rollBack job t ht hstage
  | deleteJob user jobID serviceFound =>
      cases h
      exact .deleteJob user jobID serviceFound
  | deletePod request accepted =>
      obtain ⟨t, ht, rfl⟩ := Option.map_eq_some_iff.mp h
      obtain ⟨ht, hdeleted⟩ := Option.filter_eq_some_iff.mp ht
      exact deletePod_move ht (by simpa using hdeleted) accepted
  | release request =>
      obtain ⟨t, ht, rfl⟩ := Option.map_eq_some_iff.mp h
      obtain ⟨ht, hdeleted⟩ := Option.filter_eq_some_iff.mp ht
      exact .release request t ht hdeleted
  | setPhase uid phase =>
      obtain ⟨pod, hpod, rfl⟩ := Option.map_eq_some_iff.mp h
      exact .setPhase uid pod phase hpod
  | removePod uid =>
      obtain ⟨pod, hpod, rfl⟩ := Option.map_eq_some_iff.mp h
      exact .removePod uid pod hpod
  | disconnect =>
      simp only [step] at h
      split at h
      · cases h
        exact .disconnect
      · contradiction
  | reconnect =>
      simp only [step] at h
      split at h
      · rename_i hdown
        cases h
        exact .reconnect hdown.2
      · contradiction
  | deliver =>
      simp only [step] at h
      split at h
      · contradiction
      · rename_i event events hevents
        cases h
        exact .deliver event events hevents
  | list now =>
      simp only [step] at h
      split at h
      · cases h
        exact .list now
      · contradiction
  | sweepNext =>
      simp only [step] at h
      split at h
      · contradiction
      · rename_i now hsweep
        cases h
        exact .sweepDone now hsweep
      · rename_i now info pods hsweep
        cases h
        exact .sweepNext now info pods hsweep
  | mining id call =>
      obtain ⟨p, hp, hcall⟩ := Option.bind_eq_some_iff.mp h
      split at hcall
      · rename_i hadmissible
        cases hcall
        exact .mining id p call hp hadmissible
      · contradiction

/-! ## What a step leaves alone -/

def Action.creation : Action → Option ℕ
  | .allocate job | .failTenant job | .createPod job _ _ | .createService job _
  | .rollBack job => some job
  | _ => none

def Action.pod : Action → Option ℕ
  | .createPod uid _ _ | .setPhase uid _ | .removePod uid => some uid
  | _ => none

def Action.deletion : Action → Option ℕ
  | .deletePod request _ | .release request => some request
  | _ => none

theorem step_nextJob (h : step s a = some s') : s.nextJob ≤ s'.nextJob := by
  cases step_move h with
  | opened => exact Nat.le_succ _
  | _ => exact le_rfl

theorem creates_kept (h : step s a = some s') (hjob : job < s.nextJob)
    (hcreation : a.creation ≠ some job) : s'.creates job = s.creates job := by
  have hne {job' : ℕ} (haction : a.creation = some job') : job ≠ job' :=
    fun hjob => hcreation (hjob ▸ haction)
  cases step_move h with
  | opened => exact Function.update_of_ne hjob.ne _ _
  | unallocated | allocationFailed | allocated | failTenant | podPanicked
  | podRefused | podCreated | serviceCreated | serviceRefused | rollBack =>
      exact Function.update_of_ne (hne rfl) _ _
  | _ => rfl

theorem pods_kept (h : step s a = some s') (hpod : a.pod ≠ some uid) :
    s'.pods uid = s.pods uid := by
  have hne {uid' : ℕ} (haction : a.pod = some uid') : uid ≠ uid' :=
    fun huid => hpod (huid ▸ haction)
  cases step_move h with
  | podCreated | setPhase | removePod =>
      exact Function.update_of_ne (hne rfl) _ _
  | _ => rfl

theorem deletes_kept (h : step s a = some s') (hrequest : request < s.nextRequest)
    (hdeletion : a.deletion ≠ some request) :
    s'.deletes request = s.deletes request := by
  have hne {request' : ℕ} (haction : a.deletion = some request') :
      request ≠ request' := fun hrequest => hdeletion (hrequest ▸ haction)
  cases step_move h with
  | deleteJob => exact Function.update_of_ne hrequest.ne _ _
  | deletionRefused | deletionAccepted | release =>
      exact Function.update_of_ne (hne rfl) _ _
  | _ => rfl

private theorem subset_emit (s : State K) (type : EventType) (pod : Pod K) :
    s.events ⊆ s.emit type pod := by
  unfold emit
  split
  · exact List.subset_append_left _ _
  · exact List.Subset.refl _

theorem events_kept (h : step s a = some s') {event : PodWatchEvent}
    (hevent : event ∈ s.events) (hdeliver : a ≠ .deliver) :
    event ∈ s'.events := by
  cases step_move h with
  | podCreated _ _ _ _ pod => exact subset_emit s .added pod hevent
  | setPhase uid pod phase => exact subset_emit s .modified _ hevent
  | removePod uid pod => exact subset_emit s .deleted pod hevent
  | reconnect hevents => simp [hevents] at hevent
  | deliver => exact absurd rfl hdeliver
  | _ => exact hevent

end WorldlandBroker.ControlPlane
