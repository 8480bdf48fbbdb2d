import WorldlandBroker.ControlPlane.FailedDelete

/-!
# What a renter reads back

The scheduler, the nodes and the sweeper change where a rental pod is and how it
fares, and nothing changes what was rented.  From its creation on a job is thus
reported as it was asked for, until it is taken away.
-/

namespace WorldlandBroker.ControlPlane

open Foundation Provider Job

variable {K : QuantityAPI}

def rented (p : JobPod K) : JobPod K :=
  { p with
    pod := { p.pod with phase := "" }
    nodeName := ""
    containerStatuses := []
    deleting := false }

structure OnlyJob (n : Namespace K) (p : JobPod K) (svc : Service) : Prop where
  pods : ∀ q ∈ n.pods, q.pod.name = p.pod.name → rented q = rented p
  services : ∀ other ∈ n.services, other.name = p.pod.name ++ "-ssh" → other = svc

variable {n n' : Namespace K} {p q : JobPod K} {svc : Service} {jobID name user : String}
  {sel : LabelSelector}

namespace OnlyJob

theorem updatePod (h : OnlyJob n p svc) (name : String) {f : JobPod K → JobPod K}
    (hname : ∀ q, (f q).pod.name = q.pod.name) (hf : ∀ q, rented (f q) = rented q) :
    OnlyJob (n.updatePod name f) p svc := by
  refine ⟨?_, h.services⟩
  intro q' hq' hjob
  obtain ⟨q, hq, rfl⟩ := List.mem_map.mp hq'
  split at hjob
  · rename_i hchanged
    rw [if_pos hchanged, hf]
    exact h.pods q hq ((hname q).symm.trans hjob)
  · rename_i hkept
    rw [if_neg hkept]
    exact h.pods q hq hjob

theorem deletePod (h : OnlyJob n p svc) (name : String) : OnlyJob (n.deletePod name) p svc :=
  h.updatePod name (fun _ => rfl) fun _ => rfl

theorem deleteService (h : OnlyJob n p svc) (name : String) :
    OnlyJob (n.deleteService name) p svc :=
  ⟨h.pods, fun other hother => h.services other (List.mem_of_mem_filter hother)⟩

theorem removePod (h : OnlyJob n p svc) (name : String) : OnlyJob (n.removePod name) p svc :=
  ⟨fun q hq => h.pods q (List.mem_of_mem_filter hq), h.services⟩

theorem addPod (h : OnlyJob n p svc) (hq : q.pod.name = p.pod.name → rented q = rented p) :
    OnlyJob (n.addPod q) p svc := by
  refine ⟨?_, h.services⟩
  intro q' hq'
  rcases (List.mem_orderedInsert _).mp hq' with rfl | hold
  · exact hq
  · exact h.pods q' hold

theorem addService (h : OnlyJob n p svc) {new : Service}
    (hnew : new.name = p.pod.name ++ "-ssh" → new = svc) : OnlyJob (n.addService new) p svc := by
  refine ⟨h.pods, ?_⟩
  intro other hother
  rcases List.mem_append.mp hother with hold | hadded
  · exact h.services other hold
  · rw [List.mem_singleton.mp hadded]
    exact hnew

theorem exposePod (h : OnlyJob n p svc) (user : String) (answers : CreateAnswers)
    (hname : name ≠ p.pod.name) : OnlyJob (n.exposePod user name answers).2 p svc := by
  have hother : (buildNodePortService user name answers.nodePort).name ≠ p.pod.name ++ "-ssh" :=
    fun hsame => hname ((String.append_left_inj _).mp hsame)
  have hcreated (condition : Prop) [Decidable condition] :
      OnlyJob (if condition then n.addService (buildNodePortService user name answers.nodePort)
        else n) p svc := by
    split
    · exact h.addService fun hsame => absurd hsame hother
    · exact h
  unfold Namespace.exposePod
  simp only []
  split
  · exact hcreated _
  · split
    · exact (hcreated _).deletePod name
    · exact hcreated _

theorem createPodAndService (h : OnlyJob n p svc) (hthere : JobThere n p.pod.name) (user : String)
    (offered : Offered) (req : CreateJobRequest) (answers : CreateAnswers) (now : ℤ) :
    OnlyJob (n.createPodAndService user offered req answers now).2 p svc := by
  unfold Namespace.createPodAndService
  split
  · exact h
  · rename_i q _
    split
    · exact h
    · rename_i hfree
      have hname : q.pod.name ≠ p.pod.name := by
        intro hsame
        apply hfree
        right
        left
        rw [hsame]
        exact Option.isSome_iff_ne_none.mp hthere.pod
      have hadded := h.addPod fun hsame => absurd hsame hname
      have hexposed := hadded.exposePod user answers hname
      split
      · exact hadded
      · split
        all_goals
          rename_i heq
          rw [heq] at hexposed
          exact hexposed

theorem createGPUJob (h : OnlyJob n p svc) (hthere : JobThere n p.pod.name) (user : String)
    (offered : Offered) (req : CreateJobRequest) (answers : CreateAnswers) (now : ℤ) :
    OnlyJob (n.createGPUJob user offered req answers now).2 p svc := by
  have htenant : (n.ensureTenant user req answers).2 = n := by
    unfold Namespace.ensureTenant
    rw [if_pos hthere.present]
    split
    · split <;> rfl
    · rfl
  unfold Namespace.createGPUJob
  split
  all_goals
    rename_i n' heq
    rw [heq] at htenant
    obtain rfl : n' = n := htenant
  · exact h
  · exact h.createPodAndService hthere user offered req answers now

theorem deleteJob (h : OnlyJob n p svc) (name : String) (serviceDeleted : Bool) (reply : Reply) :
    OnlyJob (n.deleteJob name serviceDeleted reply).2 p svc := by
  have hservice :
      OnlyJob (if serviceDeleted then n.deleteService (name ++ "-ssh") else n) p svc := by
    split
    · exact h.deleteService _
    · exact h
  unfold Namespace.deleteJob
  simp only []
  split
  · exact hservice.deletePod name
  · exact hservice

theorem event (h : OnlyJob n p svc) (e : ClusterEvent) : OnlyJob (e.apply n) p svc := by
  cases e with
  | schedule name nodeName => exact h.updatePod name (fun _ => rfl) fun _ => rfl
  | setStatus name phase statuses => exact h.updatePod name (fun _ => rfl) fun _ => rfl
  | deletePod name => exact h.deletePod name
  | deleteService name => exact h.deleteService name
  | removePod name => exact h.removePod name
  | removeNamespace =>
      change OnlyJob (if n.terminating = true then .absent K else n) p svc
      split
      · exact ⟨fun _ hq => absurd hq List.not_mem_nil, fun _ hsvc => absurd hsvc List.not_mem_nil⟩
      · exact h

theorem handle (h : OnlyJob n p svc) (hthere : JobThere n p.pod.name) (a : JobAction) :
    OnlyJob (a.handle sel n).2 p svc := by
  cases a with
  | event ns e => exact h.event e
  | request r =>
      cases r with
      | createJob user req offered answers now =>
          cases offered with
          | error e => exact h
          | ok offered => exact h.createGPUJob hthere user offered req answers now
      | getJob | listJobs => exact h
      | deleteJob user name serviceDeleted reply => exact h.deleteJob name serviceDeleted reply

theorem step {c : Cluster K} (h : OnlyJob (c (tenantOf user)) p svc)
    (hthere : JobThere (c (tenantOf user)) p.pod.name) (a : JobAction) :
    OnlyJob ((jobStep sel c a).2 (tenantOf user)) p svc := by
  rw [jobStep_eq]
  change OnlyJob ((jobSystem K sel).step c a (tenantOf user)) p svc
  by_cases hns : a.ns = tenantOf user
  · have hstep : (jobSystem K sel).step c a (tenantOf user) =
        (a.handle sel (c (tenantOf user))).2 := Parts.step_same hns
    rw [hstep]
    exact h.handle hthere a
  · have hstep : (jobSystem K sel).step c a (tenantOf user) = c (tenantOf user) :=
      Parts.step_other hns
    rw [hstep]
    exact h

theorem run {c : Cluster K} (h : OnlyJob (c (tenantOf user)) p svc)
    (hthere : JobThere (c (tenantOf user)) p.pod.name) {acts : List JobAction}
    (hspared : ∀ a ∈ acts, Spares user p.pod.name a) :
    OnlyJob (jobRun sel c acts (tenantOf user)) p svc := by
  induction acts generalizing c with
  | nil => exact h
  | cons a acts ih =>
      have hkept := KeepsJob.step sel hthere (hspared a List.mem_cons_self)
      exact ih (h.step hthere a) (hkept.there hthere) fun a' ha' =>
        hspared a' (List.mem_cons_of_mem _ ha')

end OnlyJob

/-! ## A job that was created -/

theorem exposePod_eq_ok {answers : CreateAnswers} {nodePort : ℤ}
    (h : n.exposePod user jobID answers = (.ok nodePort, n')) :
    nodePort = answers.nodePort ∧ n.getService (jobID ++ "-ssh") = none ∧
      n' = n.addService (buildNodePortService user jobID answers.nodePort) := by
  unfold Namespace.exposePod at h
  simp only [] at h
  split at h
  · rename_i hserved
    obtain ⟨hdone, hactive, hfree⟩ := hserved
    have hcarried : answers.serviceCreated.carriedOut = true := by
      rw [hdone]
      rfl
    rw [if_pos ⟨hcarried, hactive, hfree⟩] at h
    cases h
    exact ⟨rfl, hfree, rfl⟩
  · cases h

theorem getPod_eq_none (h : n.getPod name = none) : ∀ q ∈ n.pods, q.pod.name ≠ name := by
  intro q hq
  simpa using List.find?_eq_none.mp h q hq

theorem getService_eq_none (h : n.getService name = none) :
    ∀ svc ∈ n.services, svc.name ≠ name := by
  intro svc hsvc
  simpa using List.find?_eq_none.mp h svc hsvc

private theorem created_job_there {offered : Offered} {req : CreateJobRequest}
    {answers : CreateAnswers}
    {now : ℤ} {response : JobResponse}
    (h : n.createPodAndService user offered req answers now = (.ok response, n')) :
    ∃ p, buildJobPod K answers.uid user offered req now = some p ∧
      response = createdResponse p.pod.name req answers.nodePort now ∧
      JobThere n' p.pod.name ∧
      OnlyJob n' p (buildNodePortService user p.pod.name answers.nodePort) := by
  unfold Namespace.createPodAndService at h
  split at h
  · cases h
  · rename_i p hbuilt
    refine ⟨p, hbuilt, ?_⟩
    split at h
    · cases h
    · rename_i hfree
      split at h
      · cases h
      · split at h
        · cases h
        · rename_i nodePort n₁ hexposed
          cases h
          obtain ⟨rfl, hnoService, rfl⟩ := exposePod_eq_ok hexposed
          have hactive : n.active = true := by
            by_contra hinactive
            exact hfree (.inl (by simpa using hinactive))
          have hnoPod : n.getPod p.pod.name = none := by
            by_contra hpod
            exact hfree (.inr (.inl hpod))
          refine ⟨rfl, ⟨?_, ?_, ?_⟩, ?_, ?_⟩
          · exact (Bool.and_eq_true_iff.mp hactive).1
          · rw [Namespace.getPod, List.find?_isSome]
            exact ⟨p, (List.mem_orderedInsert _).mpr (.inl rfl), by simp⟩
          · rw [Namespace.getService, List.find?_isSome]
            exact ⟨_, List.mem_append_right _ List.mem_cons_self, by simp [buildNodePortService]⟩
          · intro q hq hjob
            rcases (List.mem_orderedInsert _).mp hq with rfl | hold
            · rfl
            · exact absurd hjob (getPod_eq_none hnoPod q hold)
          · intro other hother hssh
            rcases List.mem_append.mp hother with hold | hadded
            · exact absurd hssh (getService_eq_none hnoService other hold)
            · exact List.mem_singleton.mp hadded

/-! ## What is reported -/

/-- The request, and what the handler and the cluster have added to it. -/
structure Reports (K : QuantityAPI) (offered : Offered) (req : CreateJobRequest) (now : ℤ)
    (created r : JobResponse) : Prop where
  jobID : r.jobID = created.jobID
  sshPort : r.sshPort = created.sshPort
  storageGB : r.storageGB = created.storageGB
  providerID : r.providerID = offered.providerID
  gpuModel : r.gpuModel = offered.gpuModel
  pricePerHour : r.pricePerHour = offered.pricePerHour
  expiresAt : r.expiresAt = Job.expiresAt now req.duration
  gpus : ∃ gpus, K.parse (podGPUText req) = some gpus ∧ r.gpuCount = K.value gpus
  cpu : ∃ cpu, K.parse (podCPUText req) = some cpu ∧ r.cpuCores = quantityText K cpu
  memory : ∃ memory, K.parse (podMemoryText req) = some memory ∧
    r.memoryGB = quantityText K memory

def SelectsOwn (sel : LabelSelector) (user : String) : Prop :=
  ∃ selected, sel ("user-id=" ++ user ++ ",worldland.io/gpu-rental=true") = some selected ∧
    ∀ labels : List (String × String), labels.lookup "user-id" = some user →
      labels.lookup "worldland.io/gpu-rental" = some "true" → selected labels = true

/-- A failure changes the texts of the response and nothing else. -/
theorem jobResponse_kept (jobID : String) (q : JobPod K) (svc : Service) (reads : ReadAnswers) :
    ∃ status message failureReason failureMessage suggestion,
      jobResponse jobID q svc reads =
        { runningResponse jobID q svc reads with
          status := status
          message := message
          failureReason := failureReason
          failureMessage := failureMessage
          suggestion := suggestion } := by
  unfold jobResponse
  simp only []
  split
  · split
    · exact ⟨_, _, _, _, _, rfl⟩
    · unfold JobResponse.withFailure
      split
      · exact ⟨_, _, _, _, _, rfl⟩
      · split <;> exact ⟨_, _, _, _, _, rfl⟩
  · exact ⟨_, _, _, _, _, rfl⟩

private theorem expiresAt_of_built {pod : Pod K} {providerID gpuModel : String}
    {req : CreateJobRequest}
    {now : ℤ} {uid : ℕ} (h : buildGPUPod K uid user providerID gpuModel req now = some pod) :
    pod.expiresAt = Job.expiresAt now req.duration := by
  unfold buildGPUPod at h
  split at h
  · cases h
    rfl
  · cases h

private theorem reports_of_rented {offered : Offered} {req : CreateJobRequest} {now : ℤ} {uid : ℕ}
    {nodePort : ℤ} (hbuilt : buildJobPod K uid user offered req now = some p)
    (hrented : rented q = rented p) (reads : ReadAnswers) :
    Reports K offered req now (createdResponse p.pod.name req nodePort now)
      (jobResponse p.pod.name q (buildNodePortService user p.pod.name nodePort) reads) := by
  obtain ⟨pod, hpod, rfl⟩ := Option.map_eq_some_iff.mp hbuilt
  obtain ⟨-, hprovider, hmodel, hcpu, hmemory, hgpus⟩ := buildGPUPod_eq_some hpod
  obtain ⟨status, message, reason, failure, suggestion, hresponse⟩ := jobResponse_kept
    pod.name q (buildNodePortService user pod.name nodePort) reads
  rw [hresponse]
  -- each of these is a field that no event writes
  have hgpus' : q.pod.gpus = pod.gpus := congrArg (fun r => r.pod.gpus) hrented
  have hcpu' : q.pod.cpu = pod.cpu := congrArg (fun r => r.pod.cpu) hrented
  have hmemory' : q.pod.memory = pod.memory := congrArg (fun r => r.pod.memory) hrented
  exact {
    jobID := rfl
    sshPort := rfl
    storageGB := congrArg JobPod.storageGB hrented
    providerID := (congrArg (fun r => r.pod.providerID) hrented).trans hprovider
    gpuModel := (congrArg (fun r => r.pod.gpuModel) hrented).trans hmodel
    pricePerHour := congrArg JobPod.pricePerHour hrented
    expiresAt := (congrArg (fun r => r.pod.expiresAt) hrented).trans (expiresAt_of_built hpod)
    gpus := ⟨pod.gpus, hgpus, congrArg K.value hgpus'⟩
    cpu := ⟨pod.cpu, hcpu, congrArg (quantityText K) hcpu'⟩
    memory := ⟨pod.memory, hmemory, congrArg (quantityText K) hmemory'⟩ }

/-! ## Along every run -/

theorem labels_of_built {offered : Offered} {req : CreateJobRequest} {now : ℤ} {uid : ℕ}
    (hbuilt : buildJobPod K uid user offered req now = some p) :
    p.labels.lookup "user-id" = some user ∧
      p.labels.lookup "worldland.io/gpu-rental" = some "true" := by
  obtain ⟨pod, -, rfl⟩ := Option.map_eq_some_iff.mp hbuilt
  exact ⟨rfl, rfl⟩

theorem OnlyJob.getPod (h : OnlyJob n p svc) (hthere : JobThere n p.pod.name) :
    ∃ q, n.getPod p.pod.name = some q ∧ rented q = rented p := by
  obtain ⟨q, hq⟩ := Option.isSome_iff_exists.mp hthere.pod
  obtain ⟨hmem, hname⟩ := Namespace.getPod_eq_some hq
  exact ⟨q, hq, h.pods q hmem hname⟩

theorem OnlyJob.getService (h : OnlyJob n p svc) (hthere : JobThere n p.pod.name) :
    n.getService (p.pod.name ++ "-ssh") = some svc := by
  obtain ⟨other, hother⟩ := Option.isSome_iff_exists.mp hthere.service
  have hname : other.name = p.pod.name ++ "-ssh" := by simpa using List.find?_some hother
  rw [hother, h.services other (List.mem_of_find?_eq_some hother) hname]

private theorem getJobStatus_of_only {reads : ReadAnswers} (h : OnlyJob n p svc)
    (hthere : JobThere n p.pod.name) (hreads : Answered reads p.pod.name)
    (hq : n.getPod p.pod.name = some q) :
    n.getJobStatus p.pod.name reads = .ok (jobResponse p.pod.name q svc reads) := by
  simp only [Namespace.getJobStatus, Namespace.findJob, hq, h.getService hthere, hreads.pod,
    hreads.service, Option.filter_some, if_true]
  rfl

theorem mem_listUserJobs {c : Cluster K} {reads : ReadAnswers} {r : JobResponse}
    {selected : List (String × String) → Bool} (hq : q ∈ (c (tenantOf user)).pods)
    (hlabels : selected q.labels = true)
    (hselector : sel ("user-id=" ++ user ++ ",worldland.io/gpu-rental=true") = some selected)
    (hlisted : reads.listed = true)
    (hstatus : c.getJobStatus q.pod.name user reads = .ok r) :
    ∃ responses, c.listUserJobs sel user reads = .ok responses ∧ r ∈ responses := by
  refine ⟨((c (tenantOf user)).pods.filter fun p => selected p.labels).filterMap fun p =>
    (c.getJobStatus p.pod.name user reads).toOption, ?_, ?_⟩
  · simp only [Cluster.listUserJobs, Namespace.listPods, hselector, hlisted, if_true]
    rfl
  · refine List.mem_filterMap.mpr ⟨q, List.mem_filter.mpr ⟨hq, hlabels⟩, ?_⟩
    rw [hstatus]
    rfl

private theorem createJob_created {c c' : Cluster K} {offered : Offered} {req : CreateJobRequest}
    {answers : CreateAnswers} {now : ℤ} {created : JobResponse}
    (h : jobStep sel c (.request (.createJob user req (.ok offered) answers now)) =
      (.job (.ok created), c')) :
    ∃ n : Namespace K, n.createPodAndService user offered req answers now =
      (.ok created, c' (tenantOf user)) := by
  have hanswer := congrArg Prod.fst h
  have hcluster := congrArg Prod.snd h
  change JobAnswer.job ((c (tenantOf user)).createGPUJob user offered req answers now).1 = _
    at hanswer
  change Function.update c (tenantOf user)
    ((c (tenantOf user)).createGPUJob user offered req answers now).2 = c' at hcluster
  rw [JobAnswer.job.injEq] at hanswer
  rw [← hcluster, Function.update_self]
  unfold Namespace.createGPUJob at hanswer ⊢
  split at hanswer
  · cases hanswer
  · rename_i n heq
    exact ⟨n, Prod.ext hanswer rfl⟩

/--
From a job's creation on, and through whatever anyone does that does not take the
job away, its owner's status request is answered with what was asked for, and the
owner's list has the same response.
-/
theorem created_job_read_back {c c' : Cluster K} {offered : Offered} {req : CreateJobRequest}
    {answers : CreateAnswers} {now : ℤ} {created : JobResponse}
    (hcreated : jobStep sel c (.request (.createJob user req (.ok offered) answers now)) =
      (.job (.ok created), c'))
    {acts : List JobAction} (hspared : ∀ a ∈ acts, Spares user created.jobID a)
    {reads : ReadAnswers} (hreads : Answered reads created.jobID) :
    ∃ r, (jobRun sel c' acts).getJobStatus created.jobID user reads = .ok r ∧
      Reports K offered req now created r ∧
      (SelectsOwn sel user → reads.listed = true → ∃ responses,
        (jobRun sel c' acts).listUserJobs sel user reads = .ok responses ∧ r ∈ responses) := by
  obtain ⟨n, hn⟩ := createJob_created hcreated
  obtain ⟨p, hbuilt, rfl, hthere, honly⟩ := created_job_there hn
  change ∀ a ∈ acts, Spares user p.pod.name a at hspared
  change Answered reads p.pod.name at hreads
  have hlater := (KeepsJob.run sel hthere hspared).there hthere
  have honly' : OnlyJob (jobRun sel c' acts (tenantOf user)) p _ := honly.run hthere hspared
  obtain ⟨q, hq, hrented⟩ := honly'.getPod hlater
  have hstatus := getJobStatus_of_only honly' hlater hreads hq
  refine ⟨_, hstatus, reports_of_rented hbuilt hrented reads, ?_⟩
  rintro ⟨selected, hselector, hselected⟩ hlisted
  have hlabels : selected q.labels = true := by
    have hsame : q.labels = p.labels := congrArg (fun r => r.labels) hrented
    rw [hsame]
    exact hselected _ (labels_of_built hbuilt).1 (labels_of_built hbuilt).2
  obtain ⟨hmem, hname⟩ := Namespace.getPod_eq_some hq
  apply mem_listUserJobs hmem hlabels hselector hlisted
  rw [hname]
  exact hstatus

/-! ## A job that runs out of memory -/

def aliceReads : ReadAnswers := ⟨true, fun _ => true, fun _ => true, fun _ => none⟩

/-- Bob tries to delete Alice's job, and it is scheduled, fails and is asked to go. -/
def aliceWaits : List JobAction :=
  [bobCreates, bobDeletesAlices, .event "tenant-alice" (.schedule "gpu-alice-0" "node-1"),
    .event "tenant-alice" (.setStatus "gpu-alice-0" "Failed" [some ⟨"OOMKilled", 137, ""⟩]),
    .event "tenant-alice" (.deletePod "gpu-alice-0")]

private theorem selectsOwn_rentalSelector (user : String) : SelectsOwn rentalSelector user :=
  ⟨_, rfl, fun labels huser _ => by simp [huser]⟩

theorem created_job_read_back_sample :
    ∃ c' r, (jobStep rentalSelector (Cluster.initial sampleQuantities) aliceCreates).2 = c' ∧
      (jobRun rentalSelector c' aliceWaits).getJobStatus "gpu-alice-0" "alice" aliceReads =
        .ok r ∧
      r.providerID = "p1" ∧ r.sshPort = 30022 ∧ ∃ responses,
        (jobRun rentalSelector c' aliceWaits).listUserJobs rentalSelector "alice" aliceReads =
          .ok responses ∧ r ∈ responses := by
  have hcreated : jobStep rentalSelector (Cluster.initial sampleQuantities) aliceCreates =
      (.job (.ok (createdResponse "gpu-alice-0" ⟨"p1", "", 1, "8", "16Gi", "", 24⟩ 30022 0)),
        (jobStep rentalSelector (Cluster.initial sampleQuantities) aliceCreates).2) := by
    apply Prod.ext _ rfl
    rfl
  have hspared : ∀ a ∈ aliceWaits, Spares "alice" "gpu-alice-0" a := by
    intro a ha
    simp only [aliceWaits, List.mem_cons, List.not_mem_nil, or_false] at ha
    rcases ha with rfl | rfl | rfl | rfl | rfl <;> intro hns
    · exact trivial
    · exact absurd hns (by decide)
    · exact trivial
    · exact trivial
    · exact trivial
  have hreads : Answered aliceReads "gpu-alice-0" := ⟨rfl, rfl⟩
  obtain ⟨r, hr, hreports, hlist⟩ := created_job_read_back hcreated hspared hreads
  exact ⟨_, r, rfl, hr, hreports.providerID, hreports.sshPort,
    hlist (selectsOwn_rentalSelector "alice") rfl⟩

end WorldlandBroker.ControlPlane
