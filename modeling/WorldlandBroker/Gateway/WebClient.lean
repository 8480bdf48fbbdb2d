import WorldlandBroker.ControlPlane.ReadBack
import WorldlandBroker.Gateway.Visitors
import WorldlandBroker.Job.NetworkFence

/-!
# The web client

The client of the web pages sends the token of its visitor in a header that the job
routes do not read.  All visitors' jobs are thus those of one user without a name, and
stand in the namespace that no fence and no quota is made for.
-/

namespace WorldlandBroker.Gateway

open Foundation Job Wallet ControlPlane

/-! ## Job requests -/

structure Circumstances where
  offered : Except String Offered
  created : CreateAnswers
  reads : ReadAnswers
  serviceDeleted : Bool
  deleted : Job.Reply
  now : ℤ

def HttpRequest.jobRequest (s : Server) (r : HttpRequest) (w : Circumstances) :
    Option JobRequest :=
  match s.serve r with
  | .answered .. => none
  | .handled h context _ =>
      let user := context.userID.getD "anonymous"
      match h with
      -- a body that does not bind is answered by the handler itself
      | .createJob => r.body.map fun req => .createJob user req w.offered w.created w.now
      | .getJob id => some (.getJob user id w.reads)
      | .listJobs => some (.listJobs user w.reads)
      | .deleteJob id => some (.deleteJob user id w.serviceDeleted w.deleted)
      | _ => none

/-! ## The client -/

inductive WebCall where
  | createJob (data : CreateJobRequest)
  | getJob (jobID : String)
  | listJobs
  | deleteJob (jobID : String)

def WebCall.method : WebCall → String
  | .createJob _ => "POST"
  | .getJob _ => "GET"
  | .listJobs => "GET"
  | .deleteJob _ => "DELETE"

def WebCall.path : WebCall → Path
  | .createJob _ => .jobs
  | .getJob jobID => .job jobID
  | .listJobs => .jobs
  | .deleteJob jobID => .job jobID

def WebCall.body : WebCall → Option CreateJobRequest
  | .createJob data => some data
  | _ => none

/-- An empty token counts as none. -/
def authorization : Option String → String
  | none => ""
  | some token => if token = "" then "" else "Bearer " ++ token

structure Visit where
  origin : String
  token : Option String
  call : WebCall
  meanwhile : Circumstances

def Visit.request (v : Visit) : HttpRequest where
  method := v.call.method
  path := v.call.path
  headers name :=
    if headerName name = headerName "Content-Type" then "application/json"
    else if headerName name = headerName "Authorization" then authorization v.token
    else if headerName name = headerName "Origin" then v.origin
    else ""
  body := v.call.body

inductive WebAct where
  | visit (v : Visit)
  | event (ns : String) (e : ClusterEvent)

def WebAct.jobAction (s : Server) : WebAct → Option JobAction
  | .visit v => (v.request.jobRequest s v.meanwhile).map .request
  | .event ns e => some (.event ns e)

def reached (s : Server) (acts : List WebAct) : List JobAction := acts.filterMap (·.jobAction s)

def Visit.withToken (v : Visit) (token : Option String) : Visit := { v with token := token }

def WebAct.withTokens (tokens : Visit → Option String) : WebAct → WebAct
  | .visit v => .visit (v.withToken (tokens v))
  | .event ns e => .event ns e

/-! ## Whose jobs they are -/

variable {K : QuantityAPI} {s : Server} {sel : LabelSelector} {c : Cluster K}
  {n : Namespace K} {p : JobPod K}

theorem Visit.userID_empty (v : Visit) : v.request.headers "X-User-ID" = "" := by
  have hcontent : headerName "X-User-ID" ≠ headerName "Content-Type" := by decide +kernel
  have hauthorization : headerName "X-User-ID" ≠ headerName "Authorization" := by
    decide +kernel
  have horigin : headerName "X-User-ID" ≠ headerName "Origin" := by decide +kernel
  simp [request, hcontent, hauthorization, horigin]

theorem Visit.jobRequest_user {v : Visit} {r : JobRequest}
    (h : v.request.jobRequest s v.meanwhile = some r) : r.user = "anonymous" := by
  unfold HttpRequest.jobRequest at h
  split at h
  · cases h
  · rename_i handler context headers hserved
    obtain ⟨-, rfl⟩ := serve_handled hserved
    have hdev := devAuthMiddleware_empty v.userID_empty
    cases handler with
    | createJob =>
        obtain ⟨req, -, rfl⟩ := Option.map_eq_some_iff.mp h
        change ((devAuthMiddleware v.request.headers).userID.getD "anonymous") = _
        rw [hdev]
        rfl
    | getJob | listJobs | deleteJob =>
        cases h
        change ((devAuthMiddleware v.request.headers).userID.getD "anonymous") = _
        rw [hdev]
        rfl
    | _ => cases h

def Nameless (a : JobAction) : Prop := ∀ r, a = .request r → r.user = "anonymous"

private theorem nameless_reached (s : Server) (acts : List WebAct) :
    ∀ a ∈ reached s acts, Nameless a := by
  rintro a ha r rfl
  obtain ⟨act, -, hact⟩ := List.mem_filterMap.mp ha
  cases act with
  | event ns e => cases hact
  | visit v =>
      obtain ⟨r', hr', heq⟩ := Option.map_eq_some_iff.mp hact
      cases heq
      exact v.jobRequest_user hr'

theorem Nameless.ns_of_request {r : JobRequest} (h : Nameless (.request r)) :
    (JobAction.request r).ns = "default" := by
  rw [JobAction.ns, h r rfl]
  rfl

/-! ## Where they stand -/

private theorem absent_apply (e : ClusterEvent) : e.apply (Namespace.absent K) = .absent K := by
  cases e <;> rfl

private theorem absent_step {ns : String} (hns : ns ≠ "default") {a : JobAction} (ha : Nameless a)
    (habsent : c ns = .absent K) : (jobStep sel c a).2 ns = .absent K := by
  rw [jobStep_eq]
  change (jobSystem K sel).step c a ns = _
  by_cases hpart : a.ns = ns
  · have hstep : (jobSystem K sel).step c a ns = (a.handle sel (c ns)).2 :=
      Parts.step_same hpart
    rw [hstep, habsent]
    cases a with
    | request r => exact absurd (hpart.symm.trans ha.ns_of_request) hns
    | event ns e => exact absent_apply e
  · have hstep : (jobSystem K sel).step c a ns = c ns := Parts.step_other hpart
    rw [hstep, habsent]

theorem absent_run {ns : String} (hns : ns ≠ "default") {acts : List JobAction}
    (hnameless : ∀ a ∈ acts, Nameless a) (habsent : c ns = .absent K) :
    jobRun sel c acts ns = .absent K := by
  induction acts generalizing c with
  | nil => exact habsent
  | cons a acts ih =>
      exact ih (fun a' ha' => hnameless a' (List.mem_cons_of_mem _ ha'))
        (absent_step hns (hnameless a List.mem_cons_self) habsent)

/-! ## What is listed -/

def Labelled (n : Namespace K) : Prop :=
  ∀ p ∈ n.pods, p.labels.lookup "user-id" = some "anonymous" ∧
    p.labels.lookup "worldland.io/gpu-rental" = some "true"

namespace Labelled

theorem updatePod (h : Labelled n) (name : String) {f : JobPod K → JobPod K}
    (hf : ∀ q, (f q).labels = q.labels) : Labelled (n.updatePod name f) := by
  intro p hp
  obtain ⟨q, hq, rfl⟩ := List.mem_map.mp hp
  split
  · rw [hf]
    exact h q hq
  · exact h q hq

theorem addPod (h : Labelled n) {offered : Offered} {req : CreateJobRequest} {now : ℤ} {uid : ℕ}
    (hbuilt : buildJobPod K uid "anonymous" offered req now = some p) : Labelled (n.addPod p) := by
  intro q hq
  rcases (List.mem_orderedInsert _).mp hq with rfl | hold
  · exact labels_of_built hbuilt
  · exact h q hold

theorem exposePod (h : Labelled n) (user name : String) (answers : CreateAnswers) :
    Labelled (n.exposePod user name answers).2 := by
  have hcreated (condition : Prop) [Decidable condition] :
      Labelled (if condition then n.addService (buildNodePortService user name answers.nodePort)
        else n) := by
    split <;> exact h
  unfold Namespace.exposePod
  simp only []
  split
  · exact hcreated _
  · split
    · exact (hcreated _).updatePod name fun _ => rfl
    · exact hcreated _

theorem createGPUJob (h : Labelled n) (offered : Offered) (req : CreateJobRequest)
    (answers : CreateAnswers) (now : ℤ) :
    Labelled (n.createGPUJob "anonymous" offered req answers now).2 := by
  change Labelled (n.createPodAndService "anonymous" offered req answers now).2
  unfold Namespace.createPodAndService
  split
  · exact h
  · rename_i p hbuilt
    have hadded := h.addPod hbuilt
    have hexposed := hadded.exposePod "anonymous" p.pod.name answers
    split
    · exact h
    · split
      · exact hadded
      · split
        all_goals
          rename_i heq
          rw [heq] at hexposed
          exact hexposed

theorem deleteJob (h : Labelled n) (name : String) (serviceDeleted : Bool) (reply : Job.Reply) :
    Labelled (n.deleteJob name serviceDeleted reply).2 := by
  have hservice :
      Labelled (if serviceDeleted then n.deleteService (name ++ "-ssh") else n) := by
    split <;> exact h
  unfold Namespace.deleteJob
  simp only []
  split
  · exact hservice.updatePod name fun _ => rfl
  · exact hservice

theorem event (h : Labelled n) (e : ClusterEvent) : Labelled (e.apply n) := by
  cases e with
  | schedule name nodeName => exact h.updatePod name fun _ => rfl
  | setStatus name phase statuses => exact h.updatePod name fun _ => rfl
  | deletePod name => exact h.updatePod name fun _ => rfl
  | deleteService name => exact h
  | removePod name => exact fun p hp => h p (List.mem_of_mem_filter hp)
  | removeNamespace =>
      change Labelled (if n.terminating = true then .absent K else n)
      split
      · exact fun _ hp => absurd hp List.not_mem_nil
      · exact h

theorem handle (h : Labelled n) {a : JobAction} (ha : Nameless a) :
    Labelled (a.handle sel n).2 := by
  cases a with
  | event ns e => exact h.event e
  | request r =>
      have huser := ha r rfl
      cases r with
      | createJob user req offered answers now =>
          obtain rfl : user = "anonymous" := huser
          cases offered with
          | error e => exact h
          | ok offered => exact h.createGPUJob offered req answers now
      | getJob | listJobs => exact h
      | deleteJob user name serviceDeleted reply => exact h.deleteJob name serviceDeleted reply

theorem run {acts : List JobAction} (hnameless : ∀ a ∈ acts, Nameless a)
    (h : Labelled (c "default")) : Labelled (jobRun sel c acts "default") := by
  induction acts generalizing c with
  | nil => exact h
  | cons a acts ih =>
      apply ih fun a' ha' => hnameless a' (List.mem_cons_of_mem _ ha')
      change Labelled ((jobStep sel c a).2 "default")
      rw [jobStep_eq]
      change Labelled ((jobSystem K sel).step c a "default")
      by_cases hpart : a.ns = "default"
      · have hstep : (jobSystem K sel).step c a "default" = (a.handle sel (c "default")).2 :=
          Parts.step_same hpart
        rw [hstep]
        exact h.handle (hnameless a List.mem_cons_self)
      · have hstep : (jobSystem K sel).step c a "default" = c "default" :=
          Parts.step_other hpart
        rw [hstep]
        exact h

end Labelled

/-! ## The visitors together -/

/-- Of the headers of a request only these two matter. -/
theorem serve_congr {r r' : HttpRequest} (hmethod : r.method = r'.method)
    (hpath : r.path = r'.path) (horigin : r.headers "Origin" = r'.headers "Origin")
    (huser : r.headers "X-User-ID" = r'.headers "X-User-ID") : s.serve r = s.serve r' := by
  have hcors : corsWithConfig s.config.allowedOrigins r.method r.headers =
      corsWithConfig s.config.allowedOrigins r'.method r'.headers := by
    simp only [corsWithConfig, horigin, hmethod]
  have hcontext (h : Handler) : h.context r.headers = h.context r'.headers := by
    have hdev : devAuthMiddleware r.headers = devAuthMiddleware r'.headers := by
      rw [devAuthMiddleware, devAuthMiddleware, huser]
    cases h with
    | createJob | listJobs | getJob | deleteJob => exact hdev
    | _ => rfl
  rw [Server.serve, Server.serve, hcors, hmethod, hpath]
  simp only [hcontext]

private theorem jobRequest_withToken (s : Server) (v : Visit) (token : Option String) :
    (v.withToken token).request.jobRequest s (v.withToken token).meanwhile =
      v.request.jobRequest s v.meanwhile := by
  have horigin (v : Visit) : v.request.headers "Origin" = v.origin := by
    have hcontent : headerName "Origin" ≠ headerName "Content-Type" := by decide +kernel
    have hauthorization : headerName "Origin" ≠ headerName "Authorization" := by decide +kernel
    simp [Visit.request, hcontent, hauthorization]
  have hserved : s.serve (v.withToken token).request = s.serve v.request := by
    refine serve_congr ?_ ?_ ?_ ?_
    · rfl
    · rfl
    · rw [horigin, horigin]
      rfl
    · rw [Visit.userID_empty, Visit.userID_empty]
  rw [HttpRequest.jobRequest, hserved]
  rfl

private theorem reached_withTokens (s : Server) (tokens : Visit → Option String)
    (acts : List WebAct) :
    reached s (acts.map (·.withTokens tokens)) = reached s acts := by
  rw [reached, List.filterMap_map]
  apply List.filterMap_congr
  intro act _
  cases act with
  | visit v => exact congrArg (Option.map _) (jobRequest_withToken s v (tokens v))
  | event ns e => rfl

/--
Whatever visitors ask for through the web client, and whatever the cluster does
meanwhile: all their jobs stand in the shared namespace, and no other one comes to be.
Any visitor's list there has every job, and calls have the same effect and the same
answer whoever makes them.  No fence keeps anything out of such a job's pod.
-/
theorem web_visitors_are_one (s : Server) (sel : LabelSelector) (acts : List WebAct) :
    let c := jobRun sel (Cluster.initial K) (reached s acts)
    (∀ ns, ns ≠ "default" → c ns = .absent K) ∧
    (SelectsOwn sel "anonymous" → ∀ p ∈ (c "default").pods, ∀ reads r,
      c.getJobStatus p.pod.name "anonymous" reads = .ok r → reads.listed = true →
      ∃ responses, c.listUserJobs sel "anonymous" reads = .ok responses ∧ r ∈ responses) ∧
    (∀ tokens, jobAnswers sel (Cluster.initial K) (reached s (acts.map (·.withTokens tokens))) =
      jobAnswers sel (Cluster.initial K) (reached s acts)) ∧
    ∀ others g, others.policies "default" = [] → ∀ p ∈ (c "default").pods, ∀ port,
      (network others g).Connects .outside
        (.pod ⟨.other "default", fun key => p.labels.lookup key⟩) port := by
  have hnameless := nameless_reached s acts
  refine ⟨?_, ?_, ?_, ?_⟩
  · intro ns hns
    apply absent_run hns hnameless
    rw [Cluster.initial, if_neg hns]
  · rintro ⟨selected, hselector, hselected⟩ p hp reads r hstatus hlisted
    have hlabelled : Labelled (jobRun sel (Cluster.initial K) (reached s acts) "default") :=
      Labelled.run hnameless fun _ h => absurd h List.not_mem_nil
    obtain ⟨huser, hrental⟩ := hlabelled p hp
    exact mem_listUserJobs hp (hselected _ huser hrental) hselector hlisted hstatus
  · intro tokens
    rw [reached_withTokens]
  · intro others g hopen p _ port
    rw [Network.connects_pod]
    constructor
    · rintro sender hsender
      cases hsender
    · left
      change ∀ policy ∈ others.policies "default", _
      rw [hopen]
      exact fun policy hpolicy => absurd hpolicy List.not_mem_nil

end WorldlandBroker.Gateway
