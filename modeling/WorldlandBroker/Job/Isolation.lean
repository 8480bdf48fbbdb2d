import WorldlandBroker.Foundation.Parts
import WorldlandBroker.Job.Cluster

/-!
# Tenants apart

Every request works in the namespace of the user who makes it, and no two users
with a name of their own have the same.  A history of requests, and of what the
cluster does meanwhile, is thus a history of each namespace: what one user is
answered does not depend on what others ask for.
-/

namespace WorldlandBroker.Job

open Foundation

variable {K : QuantityAPI}

/-! ## What a user sees -/

def JobAction.madeBy (user : String) : JobAction → Bool
  | .request r => r.user = user
  | .event _ _ => false

/-- The user's requests, and what the cluster does in the user's namespace. -/
def JobAction.concerns (user : String) : JobAction → Bool
  | .request r => r.user = user
  | .event ns _ => ns = tenantOf user

def answersTo (user : String) (sel : LabelSelector) (c : Cluster K) (acts : List JobAction) :
    List (JobAction × JobAnswer) :=
  (jobAnswers sel c acts).filter fun answered => answered.1.madeBy user

def Cluster.TellsOf (c : Cluster K) (user : String) (answers : ReadAnswers)
    (response : JobResponse) : Prop :=
  ∃ ns, ∃ p ∈ (c ns).pods, ∃ svc ∈ (c ns).services, p.creator = user ∧
    svc.creator = user ∧ response = jobResponse p.pod.name p svc answers

def Namespace.ofOthers (n : Namespace K) (user : String) : List (JobPod K) × List Service :=
  (n.pods.filter fun p => p.creator ≠ user, n.services.filter fun svc => svc.creator ≠ user)

/-- What the user reads is the user's own, and others' objects are left alone. -/
structure Isolated (sel : LabelSelector) (user : String) (c : Cluster K) : Prop where
  status : ∀ jobID answers response, c.getJobStatus jobID user answers = .ok response →
    c.TellsOf user answers response
  list : ∀ answers responses, c.listUserJobs sel user answers = .ok responses →
    ∀ response ∈ responses, c.TellsOf user answers response
  others : ∀ r : JobRequest, r.user = user → ∀ ns,
    ((jobStep sel c (.request r)).2 ns).ofOthers user = (c ns).ofOthers user

/-! ## The cluster in its namespaces -/

def JobAction.ns : JobAction → String
  | .request r => tenantOf r.user
  | .event ns _ => ns

def Namespace.listUserJobs (n : Namespace K) (sel : LabelSelector) (user : String)
    (answers : ReadAnswers) : Except String (List JobResponse) :=
  (n.listPods sel user answers).map fun pods =>
    pods.filterMap fun p => (n.getJobStatus p.pod.name answers).toOption

def JobRequest.handle (sel : LabelSelector) (n : Namespace K) :
    JobRequest → JobAnswer × Namespace K
  | .createJob _ _ (.error e) _ _ => (.job (.error e), n)
  | .createJob user req (.ok offered) answers now =>
      ((.job (n.createGPUJob user offered req answers now).1),
        (n.createGPUJob user offered req answers now).2)
  | .getJob _ jobID answers => (.job (n.getJobStatus jobID answers), n)
  | .listJobs user answers => (.jobs (n.listUserJobs sel user answers), n)
  | .deleteJob _ jobID serviceDeleted reply =>
      (.deleted (n.deleteJob jobID serviceDeleted reply).1,
        (n.deleteJob jobID serviceDeleted reply).2)

def JobAction.handle (sel : LabelSelector) (n : Namespace K) :
    JobAction → JobAnswer × Namespace K
  | .request r => r.handle sel n
  | .event _ e => (.nothing, e.apply n)

def jobSystem (K : QuantityAPI) (sel : LabelSelector) :
    Parts String (Namespace K) JobAction JobAnswer where
  part := JobAction.ns
  act a n := (a.handle sel n).2
  answer a n := (a.handle sel n).1

/-- An action reads and writes the namespace it works in and no other. -/
theorem jobStep_eq (sel : LabelSelector) (c : Cluster K) (a : JobAction) :
    jobStep sel c a =
      ((jobSystem K sel).answer a (c a.ns), (jobSystem K sel).step c a) := by
  have hsame (user : String) : Function.update c (tenantOf user) (c (tenantOf user)) = c :=
    Function.update_eq_self ..
  cases a with
  | event ns e => rfl
  | request r =>
      cases r with
      | createJob user req offered answers now =>
          cases offered with
          | error e => exact Prod.ext rfl (hsame user).symm
          | ok offered => rfl
      | getJob user jobID answers => exact Prod.ext rfl (hsame user).symm
      | listJobs user answers => exact Prod.ext rfl (hsame user).symm
      | deleteJob user jobID serviceDeleted reply => rfl

private theorem jobRun_eq (sel : LabelSelector) (c : Cluster K) (acts : List JobAction) :
    jobRun sel c acts = (jobSystem K sel).run c acts := by
  induction acts generalizing c with
  | nil => rfl
  | cons a acts ih =>
      change jobRun sel (jobStep sel c a).2 acts = (jobSystem K sel).run _ acts
      rw [ih, jobStep_eq]

private theorem jobAnswers_eq (sel : LabelSelector) (c : Cluster K) (acts : List JobAction) :
    jobAnswers sel c acts = (jobSystem K sel).answers c acts := by
  induction acts generalizing c with
  | nil => rfl
  | cons a acts ih =>
      rw [jobAnswers, ih, jobStep_eq]
      rfl

/-! ## Namespaces and users -/

structure Namespace.OwnedBy (n : Namespace K) (ns : String) : Prop where
  pods : ∀ p ∈ n.pods, tenantOf p.creator = ns
  services : ∀ svc ∈ n.services, tenantOf svc.creator = ns

variable {sel : LabelSelector} {n n' : Namespace K} {c : Cluster K}
  {ns user jobID name : String} {answers : CreateAnswers} {reads : ReadAnswers}
  {req : CreateJobRequest} {offered : Offered} {now : ℤ}

private theorem user_of_tenantOf_eq {other : String} (huser : user ≠ "" ∧ user ≠ "anonymous")
    (h : tenantOf other = tenantOf user) : other = user := by
  rw [tenantOf, tenantOf, if_pos huser] at h
  split at h
  · exact (String.append_right_inj _).mp h
  · have htext := congrArg (fun s => s.toList.take 1) h
    simp [String.toList_append] at htext

theorem JobAction.concerns_iff (huser : user ≠ "" ∧ user ≠ "anonymous") (a : JobAction) :
    a.concerns user = true ↔ a.ns = tenantOf user := by
  cases a with
  | request r =>
      simp only [concerns, ns, decide_eq_true_eq]
      exact ⟨fun h => by rw [h], user_of_tenantOf_eq huser⟩
  | event ns e => simp [concerns, JobAction.ns]

namespace Namespace.OwnedBy

theorem absent (ns : String) : (Namespace.absent K).OwnedBy ns :=
  ⟨fun _ h => absurd h List.not_mem_nil, fun _ h => absurd h List.not_mem_nil⟩

theorem fresh (ns : String) : (Namespace.fresh K).OwnedBy ns :=
  ⟨fun _ h => absurd h List.not_mem_nil, fun _ h => absurd h List.not_mem_nil⟩

theorem addPod (h : n.OwnedBy ns) {p : JobPod K} (hp : tenantOf p.creator = ns) :
    (n.addPod p).OwnedBy ns := by
  refine ⟨fun q hq => ?_, h.services⟩
  rcases List.mem_orderedInsert _ |>.mp hq with rfl | hold
  · exact hp
  · exact h.pods q hold

theorem addService (h : n.OwnedBy ns) {svc : Service} (hsvc : tenantOf svc.creator = ns) :
    (n.addService svc).OwnedBy ns := by
  refine ⟨h.pods, fun q hq => ?_⟩
  rcases List.mem_append.mp hq with hold | hnew
  · exact h.services q hold
  · rw [List.mem_singleton.mp hnew]
    exact hsvc

theorem updatePod (h : n.OwnedBy ns) (name : String) {f : JobPod K → JobPod K}
    (hf : ∀ p, (f p).creator = p.creator) : (n.updatePod name f).OwnedBy ns := by
  refine ⟨fun q hq => ?_, h.services⟩
  obtain ⟨p, hp, rfl⟩ := List.mem_map.mp hq
  split
  · rw [hf]
    exact h.pods p hp
  · exact h.pods p hp

theorem removePod (h : n.OwnedBy ns) (name : String) : (n.removePod name).OwnedBy ns :=
  ⟨fun p hp => h.pods p (List.mem_filter.mp hp).1, h.services⟩

theorem deletePod (h : n.OwnedBy ns) (name : String) : (n.deletePod name).OwnedBy ns :=
  h.updatePod name fun _ => rfl

theorem deleteService (h : n.OwnedBy ns) (name : String) : (n.deleteService name).OwnedBy ns :=
  ⟨h.pods, fun svc hsvc => h.services svc (List.mem_filter.mp hsvc).1⟩

theorem createNamespace (h : n.OwnedBy ns) (reply : Reply) :
    (n.createNamespace reply).OwnedBy ns := by
  unfold Namespace.createNamespace
  split
  · exact fresh ns
  · exact h

theorem deleteNamespace (h : n.OwnedBy ns) (carriedOut : Bool) :
    (n.deleteNamespace carriedOut).OwnedBy ns := by
  unfold Namespace.deleteNamespace
  split
  · exact ⟨h.pods, h.services⟩
  · exact h

theorem createTenantEnvironment (h : n.OwnedBy ns) (answers : CreateAnswers)
    (cfg : TenantConfig) : (n.createTenantEnvironment answers cfg).2.OwnedBy ns := by
  have hcreated := h.createNamespace answers.namespaceCreated
  have hdeleted := hcreated.deleteNamespace answers.namespaceDeleted
  unfold Namespace.createTenantEnvironment
  split
  · exact hcreated
  · split
    · exact hcreated
    · split
      · exact hdeleted
      · split
        · exact hdeleted
        · exact hcreated

theorem ensureTenant (h : n.OwnedBy ns) (user : String) (req : CreateJobRequest)
    (answers : CreateAnswers) : (n.ensureTenant user req answers).2.OwnedBy ns := by
  unfold Namespace.ensureTenant
  split
  · split
    · exact h
    · split
      · exact h
      · exact h.createTenantEnvironment answers _
  · exact h

/-! ### Creating -/

theorem exposePod (h : n.OwnedBy (tenantOf user)) (jobID : String) (answers : CreateAnswers) :
    (n.exposePod user jobID answers).2.OwnedBy (tenantOf user) := by
  have hcreated (P : Prop) [Decidable P] : (if P then
      n.addService (buildNodePortService user jobID answers.nodePort) else n).OwnedBy
        (tenantOf user) := by
    split
    · exact h.addService rfl
    · exact h
  unfold Namespace.exposePod
  simp only
  split
  · exact hcreated _
  · split
    · exact (hcreated _).deletePod jobID
    · exact hcreated _

theorem creator_of_buildJobPod {p : JobPod K} {uid : ℕ}
    (hp : buildJobPod K uid user offered req now = some p) : p.creator = user := by
  obtain ⟨pod, -, rfl⟩ := Option.map_eq_some_iff.mp hp
  rfl

theorem createPodAndService (h : n.OwnedBy (tenantOf user)) (offered : Offered)
    (req : CreateJobRequest) (answers : CreateAnswers) (now : ℤ) :
    (n.createPodAndService user offered req answers now).2.OwnedBy (tenantOf user) := by
  unfold Namespace.createPodAndService
  split
  · exact h
  · rename_i p hp
    have hadded := h.addPod (congrArg tenantOf (creator_of_buildJobPod hp))
    have hexposed := hadded.exposePod p.pod.name answers
    split
    · exact h
    · split
      · exact hadded
      · split <;> rename_i heq <;> rw [heq] at hexposed <;> exact hexposed

theorem createGPUJob (h : n.OwnedBy (tenantOf user)) (offered : Offered)
    (req : CreateJobRequest) (answers : CreateAnswers) (now : ℤ) :
    (n.createGPUJob user offered req answers now).2.OwnedBy (tenantOf user) := by
  have hensured := h.ensureTenant user req answers
  unfold Namespace.createGPUJob
  split <;> rename_i heq <;> rw [heq] at hensured
  · exact hensured
  · exact hensured.createPodAndService offered req answers now

theorem deleteJob (h : n.OwnedBy ns) (jobID : String) (serviceDeleted : Bool) (reply : Reply) :
    (n.deleteJob jobID serviceDeleted reply).2.OwnedBy ns := by
  have hservice : (if serviceDeleted then n.deleteService (jobID ++ "-ssh") else n).OwnedBy
      ns := by
    split
    · exact h.deleteService _
    · exact h
  unfold Namespace.deleteJob
  simp only
  split
  · exact hservice.deletePod jobID
  · exact hservice

/-! ### Steps -/

theorem request (r : JobRequest) (h : n.OwnedBy (tenantOf r.user)) :
    (r.handle sel n).2.OwnedBy (tenantOf r.user) := by
  cases r with
  | createJob user req offered answers now =>
      cases offered with
      | error e => exact h
      | ok offered => exact h.createGPUJob offered req answers now
  | getJob => exact h
  | listJobs => exact h
  | deleteJob user jobID serviceDeleted reply => exact h.deleteJob jobID serviceDeleted reply

theorem event (h : n.OwnedBy ns) (e : ClusterEvent) : (e.apply n).OwnedBy ns := by
  cases e with
  | schedule name nodeName => exact h.updatePod name fun _ => rfl
  | setStatus name phase containerStatuses => exact h.updatePod name fun _ => rfl
  | deletePod name => exact h.deletePod name
  | deleteService name => exact h.deleteService name
  | removePod name => exact h.removePod name
  | removeNamespace =>
      change (if n.terminating = true then Namespace.absent K else n).OwnedBy ns
      split
      · exact absent ns
      · exact h

theorem act (a : JobAction) (h : n.OwnedBy a.ns) : ((jobSystem K sel).act a n).OwnedBy a.ns := by
  cases a with
  | request r => exact request r h
  | event ns e => exact event h e

/-- A namespace with one user holds what that user created. -/
theorem creators (h : n.OwnedBy (tenantOf user)) (huser : user ≠ "" ∧ user ≠ "anonymous") :
    (∀ p ∈ n.pods, p.creator = user) ∧ ∀ svc ∈ n.services, svc.creator = user :=
  ⟨fun p hp => user_of_tenantOf_eq huser (h.pods p hp),
    fun svc hsvc => user_of_tenantOf_eq huser (h.services svc hsvc)⟩

theorem ofOthers (h : n.OwnedBy (tenantOf user)) (huser : user ≠ "" ∧ user ≠ "anonymous") :
    n.ofOthers user = ([], []) := by
  obtain ⟨hpods, hservices⟩ := h.creators huser
  have hp : (n.pods.filter fun p => p.creator ≠ user) = [] := by
    rw [List.filter_eq_nil_iff]
    intro p hp
    simp [hpods p hp]
  have hs : (n.services.filter fun svc => svc.creator ≠ user) = [] := by
    rw [List.filter_eq_nil_iff]
    intro svc hsvc
    simp [hservices svc hsvc]
  rw [Namespace.ofOthers, hp, hs]

end Namespace.OwnedBy

theorem ownedBy_run (sel : LabelSelector) (acts : List JobAction) (ns : String) :
    (jobRun sel (Cluster.initial K) acts ns).OwnedBy ns := by
  have hinitial (ns : String) : (Cluster.initial K ns).OwnedBy ns := by
    unfold Cluster.initial
    split
    · exact .fresh ns
    · exact .absent ns
  rw [jobRun_eq]
  exact Parts.run_invariant (S := jobSystem K sel) (I := fun ns n => n.OwnedBy ns) hinitial
    (fun a _ h => .act a h) acts ns

/-! ## One run -/

theorem Namespace.getPod_eq_some {p : JobPod K} (h : n.getPod name = some p) :
    p ∈ n.pods ∧ p.pod.name = name :=
  ⟨List.mem_of_find?_eq_some h, by simpa using List.find?_some h⟩

theorem Namespace.findJob_eq_ok {p : JobPod K} {svc : Service}
    (h : n.findJob jobID reads = .ok (p, svc)) :
    p ∈ n.pods ∧ p.pod.name = jobID ∧ svc ∈ n.services := by
  unfold Namespace.findJob at h
  split at h
  · contradiction
  · rename_i hpod
    split at h
    · contradiction
    · rename_i hsvc
      cases h
      obtain ⟨hmem, hname⟩ := getPod_eq_some (Option.filter_eq_some_iff.mp hpod).1
      exact ⟨hmem, hname, List.mem_of_find?_eq_some (Option.filter_eq_some_iff.mp hsvc).1⟩

theorem map_eq_ok {α β : Type} {x : Except String α} {f : α → β} {b : β}
    (h : x.map f = .ok b) : ∃ a, x = .ok a ∧ f a = b := by
  cases x with
  | error e => contradiction
  | ok a => exact ⟨a, rfl, Except.ok.inj h⟩

theorem toOption_eq_some {α : Type} {x : Except String α} {a : α}
    (h : x.toOption = some a) : x = .ok a := by
  cases x with
  | error e => contradiction
  | ok a' => exact congrArg Except.ok (Option.some.inj h)

private theorem tellsOf_of_ownedBy (h : (c (tenantOf user)).OwnedBy (tenantOf user))
    (huser : user ≠ "" ∧ user ≠ "anonymous") {response : JobResponse}
    (hresponse : c.getJobStatus jobID user reads = .ok response) :
    c.TellsOf user reads response := by
  obtain ⟨⟨p, svc⟩, hfound, rfl⟩ := map_eq_ok hresponse
  obtain ⟨hp, rfl, hsvc⟩ := Namespace.findJob_eq_ok hfound
  have howned := h.creators huser
  exact ⟨tenantOf user, p, hp, svc, hsvc, howned.1 p hp, howned.2 svc hsvc, rfl⟩

private theorem status_of_mem_listUserJobs {responses : List JobResponse} {response : JobResponse}
    (h : c.listUserJobs sel user reads = .ok responses) (hmem : response ∈ responses) :
    ∃ jobID, c.getJobStatus jobID user reads = .ok response := by
  obtain ⟨pods, -, rfl⟩ := map_eq_ok h
  obtain ⟨p, -, hstatus⟩ := List.mem_filterMap.mp hmem
  exact ⟨p.pod.name, toOption_eq_some hstatus⟩

private theorem ofOthers_jobStep (sel : LabelSelector) (huser : user ≠ "" ∧ user ≠ "anonymous")
    (h : ∀ ns, (c ns).OwnedBy ns) (r : JobRequest) (hr : r.user = user) (ns : String) :
    ((jobStep sel c (.request r)).2 ns).ofOthers user = (c ns).ofOthers user := by
  subst hr
  rw [jobStep_eq]
  change ((jobSystem K sel).step c (.request r) ns).ofOthers r.user = _
  by_cases hns : tenantOf r.user = ns
  · subst hns
    have hstep : (jobSystem K sel).step c (.request r) (tenantOf r.user) =
        (r.handle sel (c (tenantOf r.user))).2 := Parts.step_same rfl
    have hafter : (r.handle sel (c (tenantOf r.user))).2.OwnedBy (tenantOf r.user) :=
      .request r (h _)
    rw [hstep, hafter.ofOthers huser, (h _).ofOthers huser]
  · have hstep : (jobSystem K sel).step c (.request r) ns = c ns := Parts.step_other hns
    rw [hstep]

private theorem isolated_of_ownedBy (sel : LabelSelector) (huser : user ≠ "" ∧ user ≠ "anonymous")
    (h : ∀ ns, (c ns).OwnedBy ns) : Isolated sel user c where
  status _ _ _ hresponse := tellsOf_of_ownedBy (h _) huser hresponse
  list _ _ hresponses response hmem := by
    obtain ⟨jobID, hstatus⟩ := status_of_mem_listUserJobs hresponses hmem
    exact tellsOf_of_ownedBy (h _) huser hstatus
  others := ofOthers_jobStep sel huser h

/-! ## Two runs -/

private theorem answersTo_eq (sel : LabelSelector) (huser : user ≠ "" ∧ user ≠ "anonymous")
    (c : Cluster K) {acts acts' : List JobAction}
    (h : acts.filter (·.concerns user) = acts'.filter (·.concerns user)) :
    answersTo user sel c acts = answersTo user sel c acts' := by
  have hon (acts : List JobAction) :
      (jobSystem K sel).on (tenantOf user) acts = acts.filter (·.concerns user) := by
    unfold Parts.on
    congr 1
    funext a
    rw [Bool.eq_iff_iff, decide_eq_true_eq]
    exact (a.concerns_iff huser).symm
  -- what the user is answered is among the answers from the user's namespace
  have hamong (answered : List (JobAction × JobAnswer)) :
      (answered.filter fun x => x.1.madeBy user) =
        (answered.filter fun x => x.1.ns = tenantOf user).filter fun x => x.1.madeBy user := by
    rw [List.filter_filter]
    congr 1
    funext x
    obtain ⟨a, answer⟩ := x
    cases a with
    | request r =>
        by_cases hr : r.user = user <;> simp [JobAction.madeBy, JobAction.ns, hr]
    | event ns e => rfl
  have hown : (jobSystem K sel).on (tenantOf user) acts =
      (jobSystem K sel).on (tenantOf user) acts' := by
    rw [hon, hon, h]
  have hanswers := Parts.answers_eq (g := c) hown
  unfold answersTo
  rw [jobAnswers_eq, jobAnswers_eq, hamong, hamong ((jobSystem K sel).answers c acts')]
  exact congrArg _ hanswers

/--
After any history, a user with a name of their own is told of their own pods and
services only and changes no others; and whatever histories agree on the user's
requests and on what the cluster does in the user's namespace, the user gets the
same answers.
-/
theorem tenants_isolated (sel : LabelSelector) {user : String}
    (huser : user ≠ "" ∧ user ≠ "anonymous") :
    (∀ acts, Isolated sel user (jobRun sel (Cluster.initial K) acts)) ∧
      ∀ (c : Cluster K) (acts acts' : List JobAction),
        acts.filter (·.concerns user) = acts'.filter (·.concerns user) →
          answersTo user sel c acts = answersTo user sel c acts' :=
  ⟨fun acts => isolated_of_ownedBy sel huser (ownedBy_run sel acts),
    fun c _ _ => answersTo_eq sel huser c⟩

/-! ## Two tenants -/

def rentalSelector : LabelSelector := fun text =>
  some fun labels =>
    text = "user-id=" ++ (labels.lookup "user-id").getD "" ++ ",worldland.io/gpu-rental=true"

def aliceCreates : JobAction :=
  .request (.createJob "alice" ⟨"p1", "", 1, "8", "16Gi", "", 24⟩
    (.ok ⟨"p1", "RTX 4090", "0.50", "203.0.113.7"⟩)
    ⟨true, .done, true, true, true, .done, 1, .done, 30022, true⟩ 0)

def bobCreates : JobAction :=
  .request (.createJob "bob" ⟨"p1", "", 1, "8", "16Gi", "", 24⟩
    (.ok ⟨"p1", "RTX 4090", "0.50", "203.0.113.7"⟩)
    ⟨true, .done, true, true, true, .done, 2, .done, 30023, true⟩ 0)

def bobDeletesAlices : JobAction := .request (.deleteJob "bob" "gpu-alice-0" true .done)

def aliceLists : JobAction :=
  .request (.listJobs "alice" ⟨true, fun _ => true, fun _ => true, fun _ => none⟩)

example : ((jobRun rentalSelector (Cluster.initial sampleQuantities)
    [bobCreates, aliceCreates, bobDeletesAlices]).listUserJobs rentalSelector "alice"
      ⟨true, fun _ => true, fun _ => true, fun _ => none⟩).toOption.map List.length =
        some 1 := by decide

theorem tenants_isolated_sample :
    Isolated rentalSelector "alice" (jobRun rentalSelector (Cluster.initial sampleQuantities)
      [bobCreates, aliceCreates, bobDeletesAlices]) ∧
    answersTo "alice" rentalSelector (Cluster.initial sampleQuantities)
        [bobCreates, aliceCreates, bobDeletesAlices, aliceLists] =
      answersTo "alice" rentalSelector (Cluster.initial sampleQuantities)
        [aliceCreates, aliceLists] :=
  ⟨(tenants_isolated rentalSelector (by decide)).1 _,
    (tenants_isolated rentalSelector (by decide)).2 _ _ _ rfl⟩

end WorldlandBroker.Job
