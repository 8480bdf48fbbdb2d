import WorldlandBroker.Job.Fence
import WorldlandBroker.Job.Tenant

/-!
# The job manager's cluster

The pods and services of the cluster by namespace, and what the job manager does
with them for each request while tenant isolation is on.  Whether the API server
answers, and what the rest of the system found out, is part of the request; a pod
that is asked to go stays until the cluster removes it.
-/

namespace WorldlandBroker.Job

open Provider

structure Terminated where
  reason : String
  exitCode : ℤ
  message : String
  deriving DecidableEq

/-- `creator` is no field of the object, it keeps whose request made it. -/
structure JobPod (K : QuantityAPI) where
  pod : Pod K
  labels : List (String × String)
  storageGB : String
  pricePerHour : String
  publicIP : String
  nodeName : String
  containerStatuses : List (Option Terminated)
  deleting : Bool
  creator : String

structure ServicePort where
  name : String
  nodePort : ℤ
  deriving DecidableEq

structure Service where
  name : String
  ports : List ServicePort
  creator : String
  deriving DecidableEq

/-- A namespace that terminates is found by name and takes nothing new. -/
structure Namespace (K : QuantityAPI) where
  present : Bool
  terminating : Bool
  pods : List (JobPod K)
  services : List Service

abbrev Cluster (K : QuantityAPI) := String → Namespace K

namespace Namespace

variable {K : QuantityAPI}

def absent (K : QuantityAPI) : Namespace K := ⟨false, false, [], []⟩

def fresh (K : QuantityAPI) : Namespace K := ⟨true, false, [], []⟩

def active (n : Namespace K) : Bool := n.present && !n.terminating

def getPod (n : Namespace K) (name : String) : Option (JobPod K) :=
  n.pods.find? fun p => p.pod.name = name

def getService (n : Namespace K) (name : String) : Option Service :=
  n.services.find? fun svc => svc.name = name

/-- Objects are listed in the order of their names. -/
def addPod (n : Namespace K) (p : JobPod K) : Namespace K :=
  { n with pods := n.pods.orderedInsert (fun p q => p.pod.name ≤ q.pod.name) p }

def addService (n : Namespace K) (svc : Service) : Namespace K :=
  { n with services := n.services ++ [svc] }

def updatePod (n : Namespace K) (name : String) (f : JobPod K → JobPod K) : Namespace K :=
  { n with pods := n.pods.map fun p => if p.pod.name = name then f p else p }

def removePod (n : Namespace K) (name : String) : Namespace K :=
  { n with pods := n.pods.filter fun p => p.pod.name ≠ name }

def deletePod (n : Namespace K) (name : String) : Namespace K :=
  n.updatePod name fun p => { p with deleting := true }

def deleteService (n : Namespace K) (name : String) : Namespace K :=
  { n with services := n.services.filter fun svc => svc.name ≠ name }

end Namespace

def Reply.carriedOut (reply : Reply) : Bool := reply ≠ .failed

/-! ## Responses -/

structure ResourceSuggestion where
  action : String
  recommendedMemory : String
  message : String
  deriving DecidableEq

/-- The texts about a failure are empty while there is none. -/
structure JobResponse extends GPUJobResponse where
  jobID : String
  status : String
  gpuModel : String
  storageGB : String
  sshHost : String
  sshPort : ℤ
  sshUser : String
  pricePerHour : String
  expiresAt : ℤ
  message : String
  failureReason : String
  failureMessage : String
  suggestion : Option ResourceSuggestion

/-! ## Creating -/

structure Offered where
  providerID : String
  gpuModel : String
  pricePerHour : String
  publicIP : String

structure CreateAnswers where
  tenantChecked : Bool
  namespaceCreated : Reply
  quotaCreated : Bool
  policiesCreated : Bool
  namespaceDeleted : Bool
  podCreated : Reply
  uid : ℕ
  serviceCreated : Reply
  nodePort : ℤ
  podDeleted : Bool

variable {K : QuantityAPI}

def buildJobPod (K : QuantityAPI) (uid : ℕ) (user : String) (offered : Offered)
    (req : CreateJobRequest) (now : ℤ) : Option (JobPod K) :=
  (buildGPUPod K uid user offered.providerID offered.gpuModel req now).map fun pod =>
    { pod := pod
      labels := [("app", "gpu-job"), ("job-id", pod.name), ("user-id", user),
        ("worldland.io/gpu-rental", "true"), ("worldland.io/provider-id", offered.providerID)]
      storageGB := podStorageText req
      pricePerHour := offered.pricePerHour
      publicIP := offered.publicIP
      nodeName := ""
      containerStatuses := []
      deleting := false
      creator := user }

def buildNodePortService (user jobID : String) (nodePort : ℤ) : Service :=
  ⟨jobID ++ "-ssh", [⟨"ssh", nodePort⟩], user⟩

def createdResponse (jobID : String) (req : CreateJobRequest) (nodePort now : ℤ) :
    JobResponse where
  providerID := ""
  gpuCount := if req.gpuCount ≤ 0 then 1 else req.gpuCount
  cpuCores := podCPUText req
  memoryGB := podMemoryText req
  jobID := jobID
  status := "creating"
  gpuModel := ""
  storageGB := podStorageText req
  sshHost := ""
  sshPort := nodePort
  sshUser := "root"
  pricePerHour := ""
  expiresAt := now + wrapInt64 (req.duration * 3600 * 10 ^ 9)
  message := "GPU container is being created. Check status in a few seconds."
  failureReason := ""
  failureMessage := ""
  suggestion := none

namespace Namespace

/-- That the namespace exists is no error. -/
def createNamespace (n : Namespace K) (reply : Reply) : Namespace K :=
  if reply.carriedOut = true ∧ n.present = false then fresh K else n

def deleteNamespace (n : Namespace K) (carriedOut : Bool) : Namespace K :=
  if carriedOut then { n with terminating := true } else n

/-- The namespace goes again where its quota or policies are refused. -/
def createTenantEnvironment (n : Namespace K) (answers : CreateAnswers)
    (cfg : TenantConfig) : Except String Unit × Namespace K :=
  let created := n.createNamespace answers.namespaceCreated
  if answers.namespaceCreated ≠ .done then (.error "failed to create namespace", created)
  else
    match createResourceQuota K cfg with
    | none => (.error "panic", created)
    | some _ =>
        if answers.quotaCreated = false then
          (.error "failed to create resource quota",
            created.deleteNamespace answers.namespaceDeleted)
        else if answers.policiesCreated = false then
          (.error "failed to create network policies",
            created.deleteNamespace answers.namespaceDeleted)
        else (.ok (), created)

/-- Only users with a name of their own have a namespace to look for. -/
def ensureTenant (n : Namespace K) (user : String) (req : CreateJobRequest)
    (answers : CreateAnswers) : Except String Unit × Namespace K :=
  if user ≠ "" ∧ user ≠ "anonymous" then
    if answers.tenantChecked = false then (.error "failed to check tenant", n)
    else if n.present then (.ok (), n)
    else n.createTenantEnvironment answers (firstTenantConfig user req)
  else (.ok (), n)

/-- The pod is deleted again where its service is refused. -/
def exposePod (n : Namespace K) (user jobID : String) (answers : CreateAnswers) :
    Except String ℤ × Namespace K :=
  let svc := buildNodePortService user jobID answers.nodePort
  let created :=
    if answers.serviceCreated.carriedOut = true ∧ n.active = true ∧
        n.getService svc.name = none then n.addService svc
    else n
  if answers.serviceCreated = .done ∧ n.active = true ∧ n.getService svc.name = none then
    (.ok answers.nodePort, created)
  else
    (.error "failed to create service",
      if answers.podDeleted then created.deletePod jobID else created)

def createPodAndService (n : Namespace K) (user : String) (offered : Offered)
    (req : CreateJobRequest) (answers : CreateAnswers) (now : ℤ) :
    Except String JobResponse × Namespace K :=
  match buildJobPod K answers.uid user offered req now with
  | none => (.error "panic", n)
  | some p =>
      if n.active = false ∨ n.getPod p.pod.name ≠ none ∨ answers.podCreated = .failed then
        (.error "failed to create pod", n)
      else if answers.podCreated = .lost then (.error "failed to create pod", n.addPod p)
      else
        match (n.addPod p).exposePod user p.pod.name answers with
        | (.error e, n) => (.error e, n)
        | (.ok nodePort, n) => (.ok (createdResponse p.pod.name req nodePort now), n)

def createGPUJob (n : Namespace K) (user : String) (offered : Offered)
    (req : CreateJobRequest) (answers : CreateAnswers) (now : ℤ) :
    Except String JobResponse × Namespace K :=
  match n.ensureTenant user req answers with
  | (.error e, n) => (.error e, n)
  | (.ok (), n) => n.createPodAndService user offered req answers now

end Namespace

/-! ## Reading -/

structure NodeAddress where
  type : String
  address : String
  deriving DecidableEq

/-- What the API server answers to reads; `node` is `none` where it does not. -/
structure ReadAnswers where
  listed : Bool
  pod : String → Bool
  service : String → Bool
  node : String → Option (List NodeAddress)

/-- An external address ends the search, the first internal one is kept meanwhile. -/
def nodeHost (found : String) : List NodeAddress → String
  | [] => found
  | addr :: rest =>
      if addr.type = "ExternalIP" then addr.address
      else if addr.type = "InternalIP" ∧ found = "" then nodeHost addr.address rest
      else nodeHost found rest

def sshHost (p : JobPod K) (answers : ReadAnswers) : String :=
  if p.publicIP ≠ "" then p.publicIP
  else if p.nodeName ≠ "" then ((answers.node p.nodeName).map (nodeHost "")).getD ""
  else ""

def sshPort (svc : Service) : ℤ :=
  svc.ports.foldl (fun port p => if p.name = "ssh" then p.nodePort else port) 0

def trimSpace (s : String) : String :=
  String.ofList ((s.toList.dropWhile isSpace).reverse.dropWhile isSpace).reverse

/-- Text whose number does not scan counts as zero. -/
def currentMemoryGi (text : String) : Option ℤ :=
  if hasSuffix text "Gi" then some (sscanfD text)
  else if hasSuffix text "G" then some (sscanfD text)
  else if hasSuffix text "Mi" then some ((sscanfD text).tdiv 1024)
  else none

def calculateRecommendedMemory (currentMemory : String) : String :=
  if currentMemory = "" then "32Gi"
  else
    match currentMemoryGi (trimSpace currentMemory) with
    | none => "32Gi"
    | some value => decimal (min (max (wrapInt64 (value * 2)) 8) 512) ++ "Gi"

def memorySuggestion (recommended : String) : ResourceSuggestion where
  action := "increase_memory"
  recommendedMemory := recommended
  message := "메모리가 부족하여 컨테이너가 종료되었습니다. " ++ recommended ++
    " 이상의 메모리로 새 Job을 생성해주세요."

/-- A pod never carries the annotation that is read before its memory limit. -/
def JobResponse.withFailure (response : JobResponse) (p : JobPod K) (t : Terminated) :
    JobResponse :=
  if t.reason = "OOMKilled" then
    { response with
      failureReason := "OOMKilled"
      failureMessage := "Container was killed due to memory limit exceeded (Exit Code: " ++
        decimal t.exitCode ++ ")"
      suggestion := some (memorySuggestion (calculateRecommendedMemory (K.print p.pod.memory)))
      message := "Container killed due to out of memory" }
  else if t.exitCode ≠ 0 then
    { response with
      failureReason := t.reason
      failureMessage := "Container exited with code " ++ decimal t.exitCode ++ ": " ++
        t.message }
  else response

def runningResponse (jobID : String) (p : JobPod K) (svc : Service) (answers : ReadAnswers) :
    JobResponse :=
  { Job.getJobStatus p.pod with
    jobID := jobID
    status := p.pod.phase
    gpuModel := p.pod.gpuModel
    storageGB := p.storageGB
    sshHost := Job.sshHost p answers
    sshPort := Job.sshPort svc
    sshUser := "root"
    pricePerHour := p.pricePerHour
    expiresAt := p.pod.expiresAt
    message := "Pod is " ++ p.pod.phase
    failureReason := ""
    failureMessage := ""
    suggestion := none }

/-- Only the first container that has ended is told of. -/
def jobResponse (jobID : String) (p : JobPod K) (svc : Service) (answers : ReadAnswers) :
    JobResponse :=
  let response := runningResponse jobID p svc answers
  if p.pod.phase = "Failed" then
    match p.containerStatuses.findSome? id with
    | none => response
    | some t => response.withFailure p t
  else response

/-- Kubernetes' label selectors; `none` where a text is no selector. -/
abbrev LabelSelector := String → Option (List (String × String) → Bool)

namespace Namespace

def findJob (n : Namespace K) (jobID : String) (answers : ReadAnswers) :
    Except String (JobPod K × Service) :=
  match (n.getPod jobID).filter fun _ => answers.pod jobID with
  | none => .error "job not found"
  | some p =>
      match (n.getService (jobID ++ "-ssh")).filter fun _ => answers.service jobID with
      | none => .error "service not found"
      | some svc => .ok (p, svc)

def getJobStatus (n : Namespace K) (jobID : String) (answers : ReadAnswers) :
    Except String JobResponse :=
  (n.findJob jobID answers).map fun (p, svc) => jobResponse jobID p svc answers

def listPods (n : Namespace K) (sel : LabelSelector) (user : String)
    (answers : ReadAnswers) : Except String (List (JobPod K)) :=
  match sel ("user-id=" ++ user ++ ",worldland.io/gpu-rental=true") with
  | none => .error "failed to list jobs"
  | some selected =>
      if answers.listed then .ok (n.pods.filter fun p => selected p.labels)
      else .error "failed to list jobs"

/-- Whether the service was deleted is not asked. -/
def deleteJob (n : Namespace K) (jobID : String) (serviceDeleted : Bool) (reply : Reply) :
    Except String Unit × Namespace K :=
  let n := if serviceDeleted then n.deleteService (jobID ++ "-ssh") else n
  let found := (n.getPod jobID).isSome
  (if found = true ∧ reply = .done then .ok () else .error "failed to delete job",
    if reply.carriedOut then n.deletePod jobID else n)

end Namespace

/-! ## The whole cluster -/

namespace Cluster

def initial (K : QuantityAPI) : Cluster K := fun ns =>
  if ns = "default" then .fresh K else .absent K

def updateNamespace {α : Type} (c : Cluster K) (ns : String)
    (f : Namespace K → α × Namespace K) : α × Cluster K :=
  ((f (c ns)).1, Function.update c ns (f (c ns)).2)

def createGPUJob (c : Cluster K) (user : String) (offered : Offered)
    (req : CreateJobRequest) (answers : CreateAnswers) (now : ℤ) :
    Except String JobResponse × Cluster K :=
  c.updateNamespace (tenantOf user) fun n => n.createGPUJob user offered req answers now

def getJobStatus (c : Cluster K) (jobID user : String) (answers : ReadAnswers) :
    Except String JobResponse :=
  (c (tenantOf user)).getJobStatus jobID answers

/-- Jobs whose status is not found are left out. -/
def listUserJobs (c : Cluster K) (sel : LabelSelector) (user : String)
    (answers : ReadAnswers) : Except String (List JobResponse) :=
  ((c (tenantOf user)).listPods sel user answers).map fun pods =>
    pods.filterMap fun p => (c.getJobStatus p.pod.name user answers).toOption

def deleteJob (c : Cluster K) (jobID user : String) (serviceDeleted : Bool) (reply : Reply) :
    Except String Unit × Cluster K :=
  c.updateNamespace (tenantOf user) fun n => n.deleteJob jobID serviceDeleted reply

end Cluster

/-! ## Histories -/

inductive JobRequest where
  -- the handler has refused the request, or found room for it
  | createJob (user : String) (req : CreateJobRequest) (offered : Except String Offered)
      (answers : CreateAnswers) (now : ℤ)
  | getJob (user jobID : String) (answers : ReadAnswers)
  | listJobs (user : String) (answers : ReadAnswers)
  | deleteJob (user jobID : String) (serviceDeleted : Bool) (reply : Reply)

def JobRequest.user : JobRequest → String
  | .createJob user .. | .getJob user .. | .listJobs user .. | .deleteJob user .. => user

/-- What the scheduler, the nodes, the sweeper and the cluster's controllers do. -/
inductive ClusterEvent where
  | schedule (name nodeName : String)
  | setStatus (name phase : String) (containerStatuses : List (Option Terminated))
  | deletePod (name : String)
  | deleteService (name : String)
  | removePod (name : String)
  | removeNamespace

inductive JobAction where
  | request (r : JobRequest)
  | event (ns : String) (e : ClusterEvent)

inductive JobAnswer where
  | job (response : Except String JobResponse)
  | jobs (responses : Except String (List JobResponse))
  | deleted (result : Except String Unit)
  | nothing

def ClusterEvent.apply (n : Namespace K) : ClusterEvent → Namespace K
  | .schedule name nodeName => n.updatePod name fun p => { p with nodeName := nodeName }
  | .setStatus name phase containerStatuses =>
      n.updatePod name fun p =>
        { p with pod := { p.pod with phase := phase }, containerStatuses := containerStatuses }
  | .deletePod name => n.deletePod name
  | .deleteService name => n.deleteService name
  | .removePod name => n.removePod name
  | .removeNamespace => if n.terminating then .absent K else n

def jobStep (sel : LabelSelector) (c : Cluster K) : JobAction → JobAnswer × Cluster K
  | .request (.createJob user req offered answers now) =>
      match offered with
      | .error e => (.job (.error e), c)
      | .ok offered =>
          let (response, c) := c.createGPUJob user offered req answers now
          (.job response, c)
  | .request (.getJob user jobID answers) => (.job (c.getJobStatus jobID user answers), c)
  | .request (.listJobs user answers) => (.jobs (c.listUserJobs sel user answers), c)
  | .request (.deleteJob user jobID serviceDeleted reply) =>
      let (result, c) := c.deleteJob jobID user serviceDeleted reply
      (.deleted result, c)
  | .event ns e => c.updateNamespace ns fun n => (.nothing, e.apply n)

def jobRun (sel : LabelSelector) (c : Cluster K) (acts : List JobAction) : Cluster K :=
  acts.foldl (fun c a => (jobStep sel c a).2) c

def jobAnswers (sel : LabelSelector) (c : Cluster K) :
    List JobAction → List (JobAction × JobAnswer)
  | [] => []
  | a :: acts => (a, (jobStep sel c a).1) :: jobAnswers sel (jobStep sel c a).2 acts

end WorldlandBroker.Job
