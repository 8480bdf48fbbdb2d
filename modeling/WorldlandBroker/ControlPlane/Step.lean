import WorldlandBroker.Foundation.Run
import WorldlandBroker.Job.Request
import WorldlandBroker.Provider.Mining

/-!
# The control plane and its cluster

Request handlers, the pod watcher, the sweeper and the mining operations, all
working on one registry of providers, next to the rental pods of the cluster.
Every lock region and every cluster call is one action, so that a run may
interleave them in any order.  What the cluster answers is part of the action.

A deletion the cluster has accepted changes nothing by itself: the pod object
stays until `removePod`, which may also happen without anyone asking for it.
-/

namespace WorldlandBroker.ControlPlane

open Foundation Provider Job

/-! ## The registry -/

abbrev Registry := String → Option ProviderState

structure Release where
  job : ℕ
  providerID : String
  gpuType : String
  gpuCount : ℤ
  cpuCores : ℤ
  memoryMB : ℤ
  deriving DecidableEq

namespace Registry

def setCapacity (o : Registry) (providerID : String) (p : ProviderState)
    (c : ProviderCapacity) : Registry :=
  Function.update o providerID (some { p with capacity := c })

def allocateResources (o : Registry) (providerID : String)
    (a : ResourceAllocation) : Outcome × Registry :=
  match o providerID with
  | none => (.error s!"provider not found: {providerID}", o)
  | some p =>
      let result := Provider.allocateResources p.spec p.capacity a
      (result.1, o.setCapacity providerID p result.2)

def releaseJobResources (o : Registry) (r : Release) : Registry :=
  match o r.providerID with
  | none => o
  | some p =>
      o.setCapacity r.providerID p (Provider.releaseJobResources p.spec
        p.capacity r.gpuType r.gpuCount r.cpuCores r.memoryMB)

end Registry

def explicitRelease (job : ℕ) (providerID : String) (a : ResourceAllocation) :
    Release :=
  ⟨job, providerID, releaseGPUType a.gpuType, a.gpuCount, a.cpuCores, a.memoryMB⟩

def podRelease (info : GPUJobPodInfo) : Release :=
  ⟨info.uid, info.providerID, info.gpuModel, info.gpuCount, info.cpuCores,
    info.memoryMB⟩

/-! ## Requests in flight -/

inductive CreateStage where
  | checked
  | allocated
  | podCreated
  | failed
  deriving DecidableEq

/-- `provider` is empty when the request asks for no provider. -/
structure CreateThread where
  user : String
  req : CreateJobRequest
  provider : Option String
  gpuModel : String
  stage : CreateStage

def CreateThread.allocation (t : CreateThread) : ResourceAllocation :=
  requestAllocation t.req t.gpuModel

/-- `DeleteJob` after it has looked the job up, and after the deletion call. -/
structure DeleteThread where
  job : ℕ
  tenant : String
  jobID : String
  allocation : Option (String × ResourceAllocation)
  deleted : Bool

/-! ## The watch and the sweep -/

inductive EventType where
  | added
  | modified
  | deleted
  deriving DecidableEq

structure PodWatchEvent where
  type : EventType
  info : GPUJobPodInfo
  deriving DecidableEq

def eventRelease (event : PodWatchEvent) : Option Release :=
  match event.type with
  | .deleted =>
      if event.info.providerID = "" then none else some (podRelease event.info)
  | .modified =>
      if event.info.status = "Failed" ∨ event.info.status = "Succeeded" then
        if event.info.providerID = "" then none else some (podRelease event.info)
      else none
  | .added => none

def shouldDelete (now : ℤ) (info : GPUJobPodInfo) : Bool :=
  info.expiresAt < now || info.status = "Failed" || info.status = "Succeeded"

def sweepRelease (now : ℤ) (info : GPUJobPodInfo) : Option Release :=
  if shouldDelete now info then
    if info.providerID ≠ "" ∧
        (0 < info.gpuCount ∨ 0 < info.cpuCores ∨ 0 < info.memoryMB) then
      some (podRelease info)
    else none
  else none

structure Sweep where
  now : ℤ
  pods : List GPUJobPodInfo

/-! ## Mining requests -/

inductive MiningCall where
  | allocate (gpuType : String) (gpuCount : ℤ)
  | release (gpuType : String) (gpuCount : ℤ)
  | deploy (config : MiningConfig) (first : Option String) (deployed : Outcome)
  | stop (deleted : Outcome)
  | sync (reported : Except String String)

def miningGPUType (gpuType : String) : String :=
  if gpuType = "" then "default" else gpuType

/-- A request for fewer than one GPU does not bind; a map yields one of its keys. -/
def MiningCall.Admissible (c : ProviderCapacity) : MiningCall → Prop
  | .allocate _ gpuCount | .release _ gpuCount => 1 ≤ gpuCount
  | .deploy _ first _ => FirstKey c.totalGPUs first
  | .stop _ | .sync _ => True

instance (m : NilMap String) (first : Option String) :
    Decidable (FirstKey m first) :=
  match first with
  | none => inferInstanceAs (Decidable ((m.getD ∅).keys = []))
  | some k => inferInstanceAs (Decidable (k ∈ (m.getD ∅).keys))

instance (c : ProviderCapacity) (call : MiningCall) :
    Decidable (call.Admissible c) :=
  match call with
  | .allocate _ gpuCount => inferInstanceAs (Decidable (1 ≤ gpuCount))
  | .release _ gpuCount => inferInstanceAs (Decidable (1 ≤ gpuCount))
  | .deploy _ first _ => inferInstanceAs (Decidable (FirstKey c.totalGPUs first))
  | .stop _ => inferInstanceAs (Decidable True)
  | .sync _ => inferInstanceAs (Decidable True)

def MiningCall.run (providerID : String) (p : ProviderState) :
    MiningCall → ProviderCapacity
  | .allocate gpuType gpuCount =>
      (allocateMiningGPU p.capacity (miningGPUType gpuType) gpuCount).2
  | .release gpuType gpuCount =>
      (releaseMiningGPU p.capacity (miningGPUType gpuType) gpuCount).2
  | .deploy config first deployed =>
      (deployMiningForProvider providerID p.spec p.capacity config first
        deployed).2
  | .stop deleted => (stopMiningForProvider p.capacity deleted).2
  | .sync reported => syncMiningPodState p.capacity reported

/-! ## The state and its actions -/

/-- Jobs and pods share their numbers: the pod of job `j` is pod `j`. -/
structure State (K : QuantityAPI) where
  providers : Registry
  pods : ℕ → Option (Pod K)
  nextJob : ℕ
  creates : ℕ → Option CreateThread
  nextRequest : ℕ
  deletes : ℕ → Option DeleteThread
  watching : Bool
  events : List PodWatchEvent
  sweep : Option Sweep

inductive Action where
  | createJob (user : String) (req : CreateJobRequest)
      (found : Option (String × ProviderState)) (allocatable : Option ℤ)
  | allocate (job : ℕ)
  | failTenant (job : ℕ)
  | createPod (job : ℕ) (now : ℤ) (accepted : Bool)
  | createService (job : ℕ) (accepted : Bool)
  | rollBack (job : ℕ)
  | deleteJob (user jobID : String) (serviceFound : Bool)
  | deletePod (request : ℕ) (accepted : Bool)
  | release (request : ℕ)
  | setPhase (uid : ℕ) (phase : String)
  | removePod (uid : ℕ)
  | disconnect
  | reconnect
  | deliver
  | list (now : ℤ)
  | sweepNext
  | mining (providerID : String) (call : MiningCall)

variable {K : QuantityAPI}

namespace State

def podNamed (s : State K) (tenant name : String) : Option (Pod K) :=
  (List.range s.nextJob).findSome? fun uid =>
    (s.pods uid).filter fun pod => pod.tenant = tenant ∧ pod.name = name

/-- While the watch is down an event is lost. -/
def emit (s : State K) (type : EventType) (pod : Pod K) : List PodWatchEvent :=
  if s.watching then s.events ++ [⟨type, parsePodToGPUJobInfo pod⟩] else s.events

def setCreate (s : State K) (job : ℕ) (t : Option CreateThread) : State K :=
  { s with creates := Function.update s.creates job t }

def setDelete (s : State K) (request : ℕ) (t : Option DeleteThread) : State K :=
  { s with deletes := Function.update s.deletes request t }

/-! ### `CreateJob` -/

/-- The provider a request names, or the one a search for its GPU type found. -/
def findProvider (o : Registry) (req : CreateJobRequest)
    (found : Option (String × ProviderState)) :
    Except String (Option (String × ProviderState)) :=
  if req.providerID ≠ "" then
    match o req.providerID with
    | none => .error "Provider not found"
    | some p => .ok (some (req.providerID, p))
  else if req.gpuType ≠ "" then
    match found with
    | none => .error "No provider found"
    | some p => .ok (some p)
  else .ok none

def acceptRequest (o : Registry) (user : String) (req : CreateJobRequest)
    (found : Option (String × ProviderState)) (allocatable : Option ℤ) :
    Except String CreateThread :=
  match findProvider o req found with
  | .error message => .error message
  | .ok none => .ok ⟨user, req, none, "", .checked⟩
  | .ok (some (providerID, p)) =>
      match checkProvider p req allocatable with
      | .error message => .error message
      | .ok _ => .ok ⟨user, req, some providerID, firstGPUName p.spec, .checked⟩

def createJob (s : State K) (user : String) (req : CreateJobRequest)
    (found : Option (String × ProviderState)) (allocatable : Option ℤ) :
    State K :=
  match acceptRequest s.providers user req found allocatable with
  | .error _ => s
  | .ok t => { s.setCreate s.nextJob (some t) with nextJob := s.nextJob + 1 }

def allocate (s : State K) (job : ℕ) (t : CreateThread) : State K :=
  match t.provider with
  | none => s.setCreate job (some { t with stage := .allocated })
  | some providerID =>
      match s.providers.allocateResources providerID t.allocation with
      | (.error _, o) => { s.setCreate job none with providers := o }
      | (.ok _, o) =>
          { s.setCreate job (some { t with stage := .allocated }) with
            providers := o }

/-- A panic while the pod is built ends the request where it stands. -/
def createPod (s : State K) (job : ℕ) (t : CreateThread) (now : ℤ)
    (accepted : Bool) : State K :=
  match buildGPUPod K job t.user (t.provider.getD "") t.gpuModel t.req now with
  | none => s.setCreate job none
  | some pod =>
      if accepted ∧ s.podNamed pod.tenant pod.name = none then
        { s.setCreate job (some { t with stage := .podCreated }) with
          pods := Function.update s.pods job (some pod)
          events := s.emit .added pod }
      else s.setCreate job (some { t with stage := .failed })

/-- Without its service the pod is deleted again, and the request fails. -/
def createService (s : State K) (job : ℕ) (t : CreateThread) (accepted : Bool) :
    State K :=
  if accepted then s.setCreate job none
  else s.setCreate job (some { t with stage := .failed })

def rollBack (s : State K) (job : ℕ) (t : CreateThread) : State K :=
  { s.setCreate job none with
    providers :=
      match t.provider with
      | none => s.providers
      | some providerID =>
          s.providers.releaseJobResources
            (explicitRelease job providerID t.allocation) }

/-! ### `DeleteJob` -/

/-- The lookup fails without the pod or its service; the deletion goes on then. -/
def deleteJob (s : State K) (user jobID : String) (serviceFound : Bool) :
    State K :=
  let t : DeleteThread :=
    match s.podNamed (tenantOf user) jobID with
    | none => ⟨0, tenantOf user, jobID, none, false⟩
    | some pod =>
        ⟨pod.uid, tenantOf user, jobID,
          if serviceFound then
            (deletedAllocation (getJobStatus pod)).map (pod.providerID, ·)
          else none,
          false⟩
  { s.setDelete s.nextRequest (some t) with nextRequest := s.nextRequest + 1 }

def deletePod (s : State K) (request : ℕ) (t : DeleteThread) (accepted : Bool) :
    State K :=
  if accepted ∧ (s.podNamed t.tenant t.jobID).isSome then
    s.setDelete request (some { t with deleted := true })
  else s.setDelete request none

def release (s : State K) (request : ℕ) (t : DeleteThread) : State K :=
  { s.setDelete request none with
    providers :=
      match t.allocation with
      | none => s.providers
      | some (providerID, a) =>
          s.providers.releaseJobResources (explicitRelease t.job providerID a) }

/-! ### The cluster, the watch and the sweep -/

def setPhase (s : State K) (uid : ℕ) (pod : Pod K) (phase : String) : State K :=
  let pod := { pod with phase := phase }
  { s with
    pods := Function.update s.pods uid (some pod)
    events := s.emit .modified pod }

def removePod (s : State K) (uid : ℕ) (pod : Pod K) : State K :=
  { s with
    pods := Function.update s.pods uid none
    events := s.emit .deleted pod }

def reconnect (s : State K) : State K :=
  { s with
    watching := true
    events := (List.range s.nextJob).filterMap fun uid =>
      (s.pods uid).map fun pod => ⟨.added, parsePodToGPUJobInfo pod⟩ }

def handlePodEvent (o : Registry) (event : PodWatchEvent) : Registry :=
  match eventRelease event with
  | none => o
  | some r => o.releaseJobResources r

def listPods (s : State K) (now : ℤ) : State K :=
  { s with
    sweep := some ⟨now, (List.range s.nextJob).filterMap fun uid =>
      (s.pods uid).map parsePodToGPUJobInfo⟩ }

/-- One round of the loop; the deletion it ends with changes nothing yet. -/
def sweepPod (o : Registry) (now : ℤ) (info : GPUJobPodInfo) : Registry :=
  match sweepRelease now info with
  | none => o
  | some r => o.releaseJobResources r

def mine (s : State K) (providerID : String) (p : ProviderState)
    (call : MiningCall) : State K :=
  { s with
    providers := s.providers.setCapacity providerID p (call.run providerID p) }

def createAt (s : State K) (job : ℕ) (stage : CreateStage) :
    Option CreateThread :=
  (s.creates job).filter fun t => t.stage = stage

end State

open State

def step (s : State K) : Action → Option (State K)
  | .createJob user req found allocatable =>
      some (s.createJob user req found allocatable)
  | .allocate job => (s.createAt job .checked).map (s.allocate job)
  | .failTenant job =>
      (s.createAt job .allocated).map fun t =>
        s.setCreate job (some { t with stage := .failed })
  | .createPod job now accepted =>
      (s.createAt job .allocated).map (s.createPod job · now accepted)
  | .createService job accepted =>
      (s.createAt job .podCreated).map (s.createService job · accepted)
  | .rollBack job => (s.createAt job .failed).map (s.rollBack job)
  | .deleteJob user jobID serviceFound =>
      some (s.deleteJob user jobID serviceFound)
  | .deletePod request accepted =>
      ((s.deletes request).filter fun t => !t.deleted).map
        (s.deletePod request · accepted)
  | .release request =>
      ((s.deletes request).filter fun t => t.deleted).map (s.release request)
  | .setPhase uid phase => (s.pods uid).map (s.setPhase uid · phase)
  | .removePod uid => (s.pods uid).map (s.removePod uid)
  | .disconnect => if s.watching then some { s with watching := false } else none
  | .reconnect =>
      if s.watching = false ∧ s.events = [] then some s.reconnect else none
  | .deliver =>
      match s.events with
      | [] => none
      | event :: events =>
          some { s with
            providers := handlePodEvent s.providers event
            events := events }
  | .list now => if s.sweep.isNone then some (s.listPods now) else none
  | .sweepNext =>
      match s.sweep with
      | none => none
      | some ⟨_, []⟩ => some { s with sweep := none }
      | some ⟨now, info :: pods⟩ =>
          some { s with
            providers := sweepPod s.providers now info
            sweep := some ⟨now, pods⟩ }
  | .mining providerID call =>
      (s.providers providerID).bind fun p =>
        if call.Admissible p.capacity then some (s.mine providerID p call)
        else none

/-! ## One provider, and a request for two of its GPUs -/

def sampleState : State sampleQuantities where
  providers id :=
    if id = "p1" then some ⟨statusAvailable, sampleSpec, sampleCapacity⟩ else none
  pods _ := none
  nextJob := 0
  creates _ := none
  nextRequest := 0
  deletes _ := none
  watching := true
  events := []
  sweep := none

def sampleCreate : List Action :=
  [.createJob "alice" sampleRequest none none, .allocate 0, .createPod 0 0 true,
    .createService 0 true, .deliver]

/-- The pod fails; first the watch and then a sweep come across it. -/
def sampleFailure : List Action :=
  sampleCreate ++ [.setPhase 0 "Failed", .deliver, .list 0, .sweepNext]

theorem sampleFailure_runs : (trace step sampleState sampleFailure).isSome := by
  decide

end WorldlandBroker.ControlPlane
