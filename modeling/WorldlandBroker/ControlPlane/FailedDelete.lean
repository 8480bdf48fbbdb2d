import WorldlandBroker.ControlPlane.Step
import WorldlandBroker.Job.Isolation

/-!
# Deleting a job twice

`DELETE /api/v1/jobs/:id` over the whole cluster and the ledger.  What is given back
is read from the job's pod and service before either is deleted, and the service goes
first, whether or not the pod follows it.
-/

namespace WorldlandBroker.ControlPlane

open Foundation Provider Job

structure JobHandler (K : QuantityAPI) where
  cluster : Cluster K
  providers : Registry

structure DeleteAnswers where
  reads : ReadAnswers
  serviceDeleted : Bool
  podDeleted : Reply

inductive DeleteResponse where
  | badRequest (error : String)
  | failed (details : String)
  | deleted
  deriving DecidableEq

variable {K : QuantityAPI}

/-- What `DeleteJob` gives back of a job whose status it reads. -/
def jobRelease (p : JobPod K) : Option Release :=
  (deletedAllocation (Job.getJobStatus p.pod)).map
    (explicitRelease p.pod.uid p.pod.providerID)

def Registry.releaseAllocation (o : Registry) (r : Option Release) : Registry :=
  match r with
  | none => o
  | some r => o.releaseJobResources r

namespace JobHandler

/-- The status is read for the release alone: where it is not found the deletion goes on. -/
def deleteJob (h : JobHandler K) (jobID user : String) (answers : DeleteAnswers) :
    DeleteResponse × JobHandler K :=
  if jobID = "" then (.badRequest "job_id is required", h)
  else
    let release : Option Release :=
      match (h.cluster (tenantOf user)).findJob jobID answers.reads with
      | .error _ => none
      | .ok (p, _) => jobRelease p
    match h.cluster.deleteJob jobID user answers.serviceDeleted answers.podDeleted with
    | (.error e, c) => (.failed e, ⟨c, h.providers⟩)
    | (.ok (), c) => (.deleted, ⟨c, h.providers.releaseAllocation release⟩)

end JobHandler

/-! ## A job that is there -/

structure JobThere (n : Namespace K) (jobID : String) : Prop where
  present : n.present = true
  pod : (n.getPod jobID).isSome = true
  service : (n.getService (jobID ++ "-ssh")).isSome = true

structure Answered (reads : ReadAnswers) (jobID : String) : Prop where
  pod : reads.pod jobID = true
  service : reads.service jobID = true

def Spares (user jobID : String) (a : JobAction) : Prop :=
  a.ns = tenantOf user →
    match a with
    | .request (.deleteJob _ other _ _) => other ≠ jobID
    | .event _ (.removePod name) => name ≠ jobID
    | .event _ (.deleteService name) => name ≠ jobID ++ "-ssh"
    | .event _ .removeNamespace => False
    | _ => True

/--
Without a success the job is left as it was: it is found, and whatever happens that
spares it, a later deletion that succeeds gives its resources back.
-/
structure LeavesAccountable (sel : LabelSelector) (h : JobHandler K) (jobID user : String) :
    Prop where
  there : JobThere (h.cluster (tenantOf user)) jobID
  found : ∀ reads, Answered reads jobID →
    ∃ response, h.cluster.getJobStatus jobID user reads = .ok response
  released : ∀ p, (h.cluster (tenantOf user)).getPod jobID = some p →
    ∀ acts, (∀ a ∈ acts, Spares user jobID a) → ∀ o (later : DeleteAnswers) h',
      Answered later.reads jobID →
      JobHandler.deleteJob ⟨jobRun sel h.cluster acts, o⟩ jobID user later = (.deleted, h') →
      h'.providers = o.releaseAllocation (jobRelease p)

structure Deletes (h : JobHandler K) (jobID user : String) (answers : DeleteAnswers) :
    Prop where
  named : jobID ≠ ""
  pod : ((h.cluster (tenantOf user)).getPod jobID).isSome = true
  answered : answers.podDeleted = .done

structure KeepsService (h : JobHandler K) (jobID user : String) (answers : DeleteAnswers) :
    Prop where
  there : JobThere (h.cluster (tenantOf user)) jobID
  service : jobID = "" ∨ answers.serviceDeleted = false

/-! ## What a namespace keeps -/

structure KeepsJob (n n' : Namespace K) (jobID : String) : Prop where
  present : n.present = true → n'.present = true
  pod : ∀ p, n.getPod jobID = some p →
    ∃ p', n'.getPod jobID = some p' ∧ jobRelease p' = jobRelease p
  service : (n.getService (jobID ++ "-ssh")).isSome = true →
    (n'.getService (jobID ++ "-ssh")).isSome = true

variable {n n' n'' : Namespace K} {jobID name user : String} {sel : LabelSelector}

private theorem getPod_updatePod {f : JobPod K → JobPod K} (n : Namespace K) (name jobID : String)
    (hname : ∀ p, (f p).pod.name = p.pod.name) :
    (n.updatePod name f).getPod jobID =
      (n.getPod jobID).map fun p => if p.pod.name = name then f p else p := by
  rw [Namespace.getPod, Namespace.updatePod, List.find?_map]
  congr 2
  funext p
  dsimp only [Function.comp_apply]
  split
  · rw [hname]
  · rfl

private theorem isSome_getPod_deletePod (n : Namespace K) (name jobID : String) :
    ((n.deletePod name).getPod jobID).isSome = (n.getPod jobID).isSome := by
  rw [Namespace.deletePod, getPod_updatePod n name jobID, Option.isSome_map]
  exact fun _ => rfl

private theorem getService_deleteService (n : Namespace K) (name : String) :
    (n.deleteService name).getService name = none := by
  simp [Namespace.getService, Namespace.deleteService, List.find?_eq_none]

namespace KeepsJob

theorem refl (n : Namespace K) (jobID : String) : KeepsJob n n jobID :=
  ⟨fun h => h, fun p hp => ⟨p, hp, rfl⟩, fun h => h⟩

theorem trans (h : KeepsJob n n' jobID) (h' : KeepsJob n' n'' jobID) :
    KeepsJob n n'' jobID := by
  refine ⟨fun hpresent => h'.present (h.present hpresent), ?_,
    fun hservice => h'.service (h.service hservice)⟩
  intro p hp
  obtain ⟨p', hp', hrelease'⟩ := h.pod p hp
  obtain ⟨p'', hp'', hrelease''⟩ := h'.pod p' hp'
  exact ⟨p'', hp'', hrelease''.trans hrelease'⟩

theorem there (h : KeepsJob n n' jobID) (hn : JobThere n jobID) : JobThere n' jobID := by
  obtain ⟨p, hp⟩ := Option.isSome_iff_exists.mp hn.pod
  obtain ⟨p', hp', -⟩ := h.pod p hp
  exact ⟨h.present hn.present, Option.isSome_iff_exists.mpr ⟨p', hp'⟩, h.service hn.service⟩

theorem updatePod {f : JobPod K → JobPod K} (n : Namespace K) (name jobID : String)
    (hname : ∀ p, (f p).pod.name = p.pod.name) (hrelease : ∀ p, jobRelease (f p) = jobRelease p) :
    KeepsJob n (n.updatePod name f) jobID := by
  refine ⟨fun h => h, ?_, fun h => h⟩
  intro p hp
  have hfind := getPod_updatePod n name jobID hname
  refine ⟨if p.pod.name = name then f p else p, by rw [hfind, hp]; rfl, ?_⟩
  split
  · exact hrelease p
  · rfl

theorem deletePod (n : Namespace K) (name jobID : String) :
    KeepsJob n (n.deletePod name) jobID :=
  updatePod n name jobID (fun _ => rfl) (fun _ => rfl)

theorem removePod (n : Namespace K) (hname : name ≠ jobID) :
    KeepsJob n (n.removePod name) jobID := by
  refine ⟨fun h => h, ?_, fun h => h⟩
  intro p hp
  refine ⟨p, ?_, rfl⟩
  rw [Namespace.getPod, Namespace.removePod, List.find?_filter, ← hp, Namespace.getPod]
  congr 1
  funext q
  by_cases hq : q.pod.name = jobID
  · simp [hq, Ne.symm hname]
  · simp [hq]

theorem deleteService (n : Namespace K) (hname : name ≠ jobID ++ "-ssh") :
    KeepsJob n (n.deleteService name) jobID := by
  refine ⟨fun h => h, fun p hp => ⟨p, hp, rfl⟩, ?_⟩
  intro h
  rw [Namespace.getService, Namespace.deleteService, List.find?_filter]
  rw [Namespace.getService] at h
  convert h using 3
  rename_i svc _
  by_cases hsvc : svc.name = jobID ++ "-ssh"
  · simp [hsvc, Ne.symm hname]
  · simp [hsvc]

theorem addPod (n : Namespace K) {p : JobPod K} (hname : p.pod.name ≠ jobID) :
    KeepsJob n (n.addPod p) jobID := by
  have hfind : ∀ pods : List (JobPod K),
      (pods.orderedInsert (fun p q => p.pod.name ≤ q.pod.name) p).find?
        (fun q => q.pod.name = jobID) = pods.find? fun q => q.pod.name = jobID := by
    intro pods
    induction pods with
    | nil => simp [hname]
    | cons q pods ih =>
        rw [List.orderedInsert_cons]
        split
        · simp [hname]
        · rw [List.find?_cons, List.find?_cons, ih]
  exact ⟨fun h => h, fun q hq => ⟨q, (hfind n.pods).trans hq, rfl⟩, fun h => h⟩

theorem addService (n : Namespace K) (svc : Service) (jobID : String) :
    KeepsJob n (n.addService svc) jobID := by
  refine ⟨fun h => h, fun p hp => ⟨p, hp, rfl⟩, ?_⟩
  intro h
  rw [Namespace.getService, Namespace.addService, List.find?_append, Option.isSome_or]
  exact Bool.or_eq_true_iff.mpr (.inl h)

theorem exposePod (n : Namespace K) (user name jobID : String) (answers : CreateAnswers) :
    KeepsJob n (n.exposePod user name answers).2 jobID := by
  have hcreated (svc : Service) (q : Prop) [Decidable q] :
      KeepsJob n (if q then n.addService svc else n) jobID := by
    split
    · exact addService n svc jobID
    · exact refl n jobID
  unfold Namespace.exposePod
  simp only []
  split
  · exact hcreated ..
  · split
    · exact (hcreated ..).trans (deletePod ..)
    · exact hcreated ..

theorem createPodAndService (hn : JobThere n jobID) (user : String) (offered : Offered)
    (req : CreateJobRequest) (answers : CreateAnswers) (now : ℤ) :
    KeepsJob n (n.createPodAndService user offered req answers now).2 jobID := by
  unfold Namespace.createPodAndService
  split
  · exact refl n jobID
  · rename_i p _
    split
    · exact refl n jobID
    rename_i hfree
    have hname : p.pod.name ≠ jobID := by
      rintro rfl
      refine hfree (.inr (.inl ?_))
      intro hnone
      have hpod := hn.pod
      rw [hnone] at hpod
      cases hpod
    split
    · exact addPod n hname
    · have hkeeps := (addPod n hname).trans
        (exposePod (n.addPod p) user p.pod.name jobID answers)
      split
      all_goals
        rename_i heq
        rw [heq] at hkeeps
        exact hkeeps

theorem createGPUJob (hn : JobThere n jobID) (user : String) (offered : Offered)
    (req : CreateJobRequest) (answers : CreateAnswers) (now : ℤ) :
    KeepsJob n (n.createGPUJob user offered req answers now).2 jobID := by
  have htenant : (n.ensureTenant user req answers).2 = n := by
    unfold Namespace.ensureTenant
    rw [hn.present]
    split
    · split <;> rfl
    · rfl
  unfold Namespace.createGPUJob
  split
  · rename_i n' heq
    rw [heq] at htenant
    rw [show n' = n from htenant]
    exact refl n jobID
  · rename_i n' heq
    rw [heq] at htenant
    rw [show n' = n from htenant]
    exact createPodAndService hn ..

theorem deleteJob (n : Namespace K) (hname : name ≠ jobID) (serviceDeleted : Bool)
    (reply : Reply) : KeepsJob n (n.deleteJob name serviceDeleted reply).2 jobID := by
  have hservice : KeepsJob n
      (if serviceDeleted then n.deleteService (name ++ "-ssh") else n) jobID := by
    split
    · exact deleteService n fun heq => hname ((String.append_left_inj _).mp heq)
    · exact refl n jobID
  unfold Namespace.deleteJob
  simp only []
  split
  · exact hservice.trans (deletePod ..)
  · exact hservice

theorem event (n : Namespace K) {ns : String} {e : ClusterEvent}
    (hns : ns = tenantOf user) (hspares : Spares user jobID (.event ns e)) :
    KeepsJob n (e.apply n) jobID := by
  replace hspares := hspares hns
  cases e with
  | schedule name nodeName => exact updatePod n name jobID (fun _ => rfl) fun _ => rfl
  | setStatus name phase statuses =>
      exact updatePod n name jobID (fun _ => rfl) fun _ => rfl
  | deletePod name => exact deletePod n name jobID
  | deleteService name => exact deleteService n hspares
  | removePod name => exact removePod n hspares
  | removeNamespace => exact hspares.elim

theorem request (hn : JobThere n jobID) {r : JobRequest} (hns : tenantOf r.user = tenantOf user)
    (hspares : Spares user jobID (.request r)) : KeepsJob n (r.handle sel n).2 jobID := by
  replace hspares := hspares hns
  cases r with
  | createJob user req offered answers now =>
      cases offered with
      | error e => exact refl n jobID
      | ok offered => exact createGPUJob hn ..
  | getJob user name reads => exact refl n jobID
  | listJobs user reads => exact refl n jobID
  | deleteJob user name serviceDeleted reply => exact deleteJob n hspares serviceDeleted reply

theorem step (sel : LabelSelector) {c : Cluster K}
    (hn : JobThere (c (tenantOf user)) jobID) {a : JobAction}
    (hspares : Spares user jobID a) :
    KeepsJob (c (tenantOf user)) ((jobStep sel c a).2 (tenantOf user)) jobID := by
  rw [jobStep_eq]
  change KeepsJob _ ((jobSystem K sel).step c a (tenantOf user)) jobID
  by_cases hns : a.ns = tenantOf user
  · have hstep : (jobSystem K sel).step c a (tenantOf user) =
        (a.handle sel (c (tenantOf user))).2 := Parts.step_same hns
    rw [hstep]
    cases a with
    | request r => exact request hn hns hspares
    | event ns e => exact event _ hns hspares
  · have hstep : (jobSystem K sel).step c a (tenantOf user) = c (tenantOf user) :=
      Parts.step_other hns
    rw [hstep]
    exact refl ..

theorem run (sel : LabelSelector) {c : Cluster K}
    (hn : JobThere (c (tenantOf user)) jobID) {acts : List JobAction}
    (hspares : ∀ a ∈ acts, Spares user jobID a) :
    KeepsJob (c (tenantOf user)) (jobRun sel c acts (tenantOf user)) jobID := by
  induction acts generalizing c with
  | nil => exact refl ..
  | cons a acts ih =>
      have hstep := step sel hn (hspares a List.mem_cons_self)
      exact hstep.trans (ih (hstep.there hn) fun a' ha' =>
        hspares a' (List.mem_cons_of_mem _ ha'))

end KeepsJob

/-! ## Deleting -/

theorem JobThere.findJob (hn : JobThere n jobID) {reads : ReadAnswers}
    (hreads : Answered reads jobID) {p : JobPod K} (hp : n.getPod jobID = some p) :
    ∃ svc, n.findJob jobID reads = .ok (p, svc) := by
  obtain ⟨svc, hsvc⟩ := Option.isSome_iff_exists.mp hn.service
  refine ⟨svc, ?_⟩
  simp only [Namespace.findJob, hp, hsvc, hreads.pod, hreads.service, Option.filter_some,
    if_true]

/-- A job that is there is found, and its resources are given back. -/
theorem leavesAccountable_iff (sel : LabelSelector) {h : JobHandler K} :
    LeavesAccountable sel h jobID user ↔ JobThere (h.cluster (tenantOf user)) jobID := by
  refine ⟨fun hleaves => hleaves.there, fun hn => ⟨hn, ?_, ?_⟩⟩
  · intro reads hreads
    obtain ⟨p, hp⟩ := Option.isSome_iff_exists.mp hn.pod
    obtain ⟨svc, hfound⟩ := hn.findJob hreads hp
    exact ⟨_, by rw [Cluster.getJobStatus, Namespace.getJobStatus, hfound]; rfl⟩
  · intro p hp acts hspares o later h' hreads hdeleted
    have hkeeps := KeepsJob.run sel hn hspares
    obtain ⟨p', hp', hrelease⟩ := hkeeps.pod p hp
    obtain ⟨svc, hfound⟩ := (hkeeps.there hn).findJob hreads hp'
    unfold JobHandler.deleteJob at hdeleted
    split at hdeleted
    · cases hdeleted
    · simp only [hfound] at hdeleted
      split at hdeleted
      · cases hdeleted
      · cases hdeleted
        rw [hrelease]

variable {h : JobHandler K} {answers : DeleteAnswers}

theorem there_deleteJob_iff {serviceDeleted : Bool} {reply : Reply} :
    JobThere (n.deleteJob jobID serviceDeleted reply).2 jobID ↔
      JobThere n jobID ∧ serviceDeleted = false := by
  have hpod (n : Namespace K) : JobThere (if reply.carriedOut then n.deletePod jobID else n)
      jobID ↔ JobThere n jobID := by
    split
    · exact ⟨fun ⟨hpresent, hpod, hservice⟩ =>
        ⟨hpresent, by rwa [isSome_getPod_deletePod] at hpod, hservice⟩,
        (KeepsJob.deletePod n jobID jobID).there⟩
    · rfl
  unfold Namespace.deleteJob
  simp only []
  rw [hpod]
  cases serviceDeleted with
  | false => simp
  | true =>
      refine iff_of_false ?_ (by simp)
      rintro ⟨-, -, hservice⟩
      rw [if_pos rfl, getService_deleteService] at hservice
      cases hservice

private theorem deleteJob_cluster (hnamed : jobID ≠ "") :
    (h.deleteJob jobID user answers).2.cluster (tenantOf user) =
      ((h.cluster (tenantOf user)).deleteJob jobID answers.serviceDeleted
        answers.podDeleted).2 := by
  have hcluster : (h.deleteJob jobID user answers).2.cluster =
      (h.cluster.deleteJob jobID user answers.serviceDeleted answers.podDeleted).2 := by
    rw [JobHandler.deleteJob, if_neg hnamed]
    simp only []
    split
    all_goals
      rename_i heq
      rw [heq]
  rw [hcluster]
  exact Function.update_self ..

private theorem deleteJob_deleted :
    (h.deleteJob jobID user answers).1 = .deleted ↔ Deletes h jobID user answers := by
  unfold JobHandler.deleteJob
  split
  · rename_i hempty
    constructor
    · intro hresponse
      cases hresponse
    · intro hdeletes
      exact absurd hempty hdeletes.named
  · rename_i hnamed
    have hpod : ((if answers.serviceDeleted then
        (h.cluster (tenantOf user)).deleteService (jobID ++ "-ssh")
      else h.cluster (tenantOf user)).getPod jobID) =
        (h.cluster (tenantOf user)).getPod jobID := by
      split <;> rfl
    have hresult : (h.cluster.deleteJob jobID user answers.serviceDeleted
        answers.podDeleted).1 = if ((h.cluster (tenantOf user)).getPod jobID).isSome = true ∧
          answers.podDeleted = .done then .ok () else .error "failed to delete job" := by
      rw [← hpod]
      rfl
    simp only []
    split
    · rename_i heq
      rw [heq] at hresult
      split at hresult
      · cases hresult
      · rename_i hfailed
        refine iff_of_false nofun ?_
        intro hdeletes
        exact hfailed ⟨hdeletes.pod, hdeletes.answered⟩
    · rename_i heq
      rw [heq] at hresult
      split at hresult
      · rename_i hdone
        exact iff_of_true rfl ⟨hnamed, hdone.1, hdone.2⟩
      · cases hresult

/--
For every cluster, ledger, user and job, and for everything the API server may answer
to a deletion: unless the deletion succeeds, the job's pod and service are both still
there, the job is found and a later deletion that succeeds gives its resources back,
exactly where the deletion does succeed, or the job was there and its service was not
deleted.
-/
theorem failed_delete_leaves_job_iff (sel : LabelSelector) (h : JobHandler K)
    (jobID user : String) (answers : DeleteAnswers) :
    ((h.deleteJob jobID user answers).1 ≠ .deleted →
      LeavesAccountable sel (h.deleteJob jobID user answers).2 jobID user) ↔
    Deletes h jobID user answers ∨ KeepsService h jobID user answers := by
  rw [← deleteJob_deleted, ← Classical.or_iff_not_imp_left]
  by_cases hdeleted : (h.deleteJob jobID user answers).1 = .deleted
  · exact iff_of_true (.inl hdeleted) (.inl hdeleted)
  rw [or_iff_right hdeleted, or_iff_right hdeleted]
  rw [leavesAccountable_iff]
  by_cases hnamed : jobID = ""
  · have hsame : (h.deleteJob jobID user answers).2 = h := by
      rw [JobHandler.deleteJob, if_pos hnamed]
    rw [hsame]
    exact ⟨fun hthere => ⟨hthere, .inl hnamed⟩, KeepsService.there⟩
  · rw [deleteJob_cluster hnamed, there_deleteJob_iff]
    constructor
    · rintro ⟨hthere, hservice⟩
      exact ⟨hthere, .inr hservice⟩
    · intro hkeeps
      exact ⟨hkeeps.there, hkeeps.service.resolve_left hnamed⟩

/-! ## A job that has lost its service -/

private theorem serviceless_deleteJob
    (hservice : (h.cluster (tenantOf user)).getService (jobID ++ "-ssh") = none)
    (answers : DeleteAnswers) :
    (h.deleteJob jobID user answers).2.providers = h.providers ∧
      ((h.deleteJob jobID user answers).2.cluster (tenantOf user)).getService
        (jobID ++ "-ssh") = none := by
  by_cases hnamed : jobID = ""
  · rw [JobHandler.deleteJob, if_pos hnamed]
    exact ⟨rfl, hservice⟩
  constructor
  · have hfound : ∃ e, (h.cluster (tenantOf user)).findJob jobID answers.reads = .error e := by
      unfold Namespace.findJob
      split
      · exact ⟨_, rfl⟩
      · rw [hservice]
        exact ⟨_, rfl⟩
    obtain ⟨e, hfound⟩ := hfound
    rw [JobHandler.deleteJob, if_neg hnamed, hfound]
    simp only []
    split <;> rfl
  · rw [deleteJob_cluster hnamed]
    have hkept (n : Namespace K) : ((if answers.podDeleted.carriedOut then n.deletePod jobID
        else n).getService (jobID ++ "-ssh")) = n.getService (jobID ++ "-ssh") := by
      split <;> rfl
    rw [Namespace.deleteJob, hkept]
    split
    · exact getService_deleteService ..
    · exact hservice

/-- However often its deletion is asked for, nothing is given back. -/
theorem serviceless_never_released
    (hservice : (h.cluster (tenantOf user)).getService (jobID ++ "-ssh") = none)
    (attempts : List DeleteAnswers) :
    (attempts.foldl (fun h answers => (h.deleteJob jobID user answers).2) h).providers =
      h.providers := by
  induction attempts generalizing h with
  | nil => rfl
  | cons answers attempts ih =>
      obtain ⟨hproviders, hstill⟩ := serviceless_deleteJob hservice answers
      exact (ih hstill).trans hproviders

/-! ## A deletion that gives nothing back -/

def aliceRents : JobHandler sampleQuantities where
  cluster := jobRun rentalSelector (Cluster.initial sampleQuantities) [aliceCreates]
  providers := (sampleState.providers.allocateResources "p1" ⟨"RTX 4090", 1, 8, 16384⟩).2

/-- The service goes and the pod stays; asked again, the pod goes as well. -/
def podRefused : DeleteAnswers := ⟨⟨true, fun _ => true, fun _ => true, fun _ => none⟩,
  true, .failed⟩

def podAccepted : DeleteAnswers := { podRefused with podDeleted := .done }

theorem retried_delete_releases_nothing :
    (aliceRents.deleteJob "gpu-alice-0" "alice" podRefused).1 ≠ .deleted ∧
    ¬ LeavesAccountable rentalSelector
      (aliceRents.deleteJob "gpu-alice-0" "alice" podRefused).2 "gpu-alice-0" "alice" ∧
    (((aliceRents.cluster (tenantOf "alice")).getPod "gpu-alice-0").bind
      jobRelease).isSome = true ∧
    ((aliceRents.deleteJob "gpu-alice-0" "alice" podRefused).2.deleteJob "gpu-alice-0" "alice"
      podAccepted).1 = .deleted ∧
    ((aliceRents.deleteJob "gpu-alice-0" "alice" podRefused).2.deleteJob "gpu-alice-0" "alice"
      podAccepted).2.providers = aliceRents.providers := by
  have hservice : ((aliceRents.deleteJob "gpu-alice-0" "alice" podRefused).2.cluster
      (tenantOf "alice")).getService ("gpu-alice-0" ++ "-ssh") = none := by decide
  have hretried := serviceless_never_released hservice [podAccepted]
  refine ⟨by decide, ?_, by decide, by decide, hretried.trans rfl⟩
  rw [leavesAccountable_iff]
  rintro ⟨-, -, hthere⟩
  rw [hservice] at hthere
  cases hthere

end WorldlandBroker.ControlPlane
