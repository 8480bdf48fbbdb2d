import WorldlandBroker.Job.Pod

/-!
# From a request to a debit and a pod

A `CreateJob` request is read twice: the handler parses its text into the
amounts it debits, and the job manager into the quantities of the pod.
-/

namespace WorldlandBroker.Job

open Provider

structure CreateJobRequest where
  providerID : String
  gpuType : String
  gpuCount : ℤ
  cpuCores : String
  memoryGB : String
  storageGB : String
  duration : ℤ
  deriving DecidableEq

def sampleRequest : CreateJobRequest := ⟨"p1", "", 2, "8", "16Gi", "", 24⟩

/-! ## The handler -/

def requestedCPU (req : CreateJobRequest) : ℤ :=
  let cores := if req.cpuCores ≠ "" then sscanfD req.cpuCores else 0
  if cores = 0 then 4 else cores

def scannedMemoryGB (req : CreateJobRequest) : ℤ :=
  if req.memoryGB ≠ "" then
    sscanfD (trimSuffix (trimSuffix req.memoryGB "Gi") "G")
  else 0

def requestedMemoryGB (req : CreateJobRequest) : ℤ :=
  if scannedMemoryGB req = 0 then 16 else scannedMemoryGB req

def requestedMemoryMB (req : CreateJobRequest) : ℤ :=
  let memoryMB := wrapInt64 (scannedMemoryGB req * 1024)
  if memoryMB = 0 then 16 * 1024 else memoryMB

/-- What the cluster says about the node goes before the ledger. -/
def offeredGPUs (p : ProviderState) (allocatable : Option ℤ) : ℤ :=
  if p.spec.hostname ≠ "" then
    match allocatable with
    | some count => count
    | none => p.capacity.availableGPUCount
  else p.capacity.availableGPUCount

def checkProvider (p : ProviderState) (req : CreateJobRequest)
    (allocatable : Option ℤ) : Except String Unit :=
  if p.status ≠ statusApproved ∧ p.status ≠ statusJoined ∧
      p.status ≠ statusAvailable then
    .error "Provider not available"
  else if offeredGPUs p allocatable < req.gpuCount then
    .error "Insufficient GPU"
  else if p.capacity.getAvailableCPUCores < requestedCPU req then
    .error "Insufficient CPU"
  else if p.capacity.getAvailableMemoryMB.tdiv 1024 < requestedMemoryGB req then
    .error "Insufficient Memory"
  else .ok ()

def firstGPUName (spec : SystemSpec) : String :=
  match spec.gpus with
  | gpu :: _ => gpu.name
  | [] => ""

def requestAllocation (req : CreateJobRequest) (gpuModel : String) :
    ResourceAllocation where
  gpuType := gpuModel
  gpuCount := if req.gpuCount ≤ 0 then 1 else req.gpuCount
  cpuCores := requestedCPU req
  memoryMB := requestedMemoryMB req

theorem requestAllocation_gpuCount_pos (req : CreateJobRequest)
    (gpuModel : String) : 0 < (requestAllocation req gpuModel).gpuCount := by
  simp only [requestAllocation]
  split <;> omega

/-! ## The job manager -/

def withGi (text : String) : String :=
  if hasSuffix text "Gi" = false ∧ hasSuffix text "Mi" = false then text ++ "Gi"
  else text

def podCPUText (req : CreateJobRequest) : String :=
  if req.cpuCores = "" then "2" else req.cpuCores

def podMemoryText (req : CreateJobRequest) : String :=
  if req.memoryGB = "" then "8Gi" else withGi req.memoryGB

def podStorageText (req : CreateJobRequest) : String :=
  if req.storageGB = "" then "20Gi" else withGi req.storageGB

def podGPUText (req : CreateJobRequest) : String :=
  decimal (if req.gpuCount ≤ 0 then 1 else req.gpuCount)

/-- Nanoseconds; the annotation keeps whole seconds. -/
def expiresAt (now duration : ℤ) : ℤ :=
  (now + wrapInt64 (duration * 3600 * 10 ^ 9)) / 10 ^ 9 * 10 ^ 9

/-- `fmt.Sprintf("gpu-%s-%d", req.UserID, time.Now().Unix())` -/
def jobName (user : String) (now : ℤ) : String :=
  "gpu-" ++ user ++ "-" ++ decimal (now / 10 ^ 9)

/-- A quantity that does not parse panics, and there is no pod. -/
def buildGPUPod (K : QuantityAPI) (uid : ℕ) (user providerID gpuModel : String)
    (req : CreateJobRequest) (now : ℤ) : Option (Pod K) :=
  match K.parse (podCPUText req), K.parse (podMemoryText req),
      K.parse (podGPUText req), K.parse (podStorageText req) with
  | some cpu, some memory, some gpus, some _ =>
      some {
        uid := uid
        name := jobName user now
        tenant := tenantOf user
        providerID := providerID
        gpuModel := gpuModel
        expiresAt := expiresAt now req.duration
        phase := "Pending"
        cpu := cpu
        memory := memory
        gpus := gpus }
  | _, _, _, _ => none

theorem buildGPUPod_eq_some {K : QuantityAPI} {uid : ℕ}
    {user providerID gpuModel : String} {req : CreateJobRequest} {now : ℤ}
    {pod : Pod K}
    (h : buildGPUPod K uid user providerID gpuModel req now = some pod) :
    pod.uid = uid ∧ pod.providerID = providerID ∧ pod.gpuModel = gpuModel ∧
      K.parse (podCPUText req) = some pod.cpu ∧
      K.parse (podMemoryText req) = some pod.memory ∧
      K.parse (podGPUText req) = some pod.gpus := by
  unfold buildGPUPod at h
  split at h
  · rename_i hcpu hmemory hgpus hstorage
    cases h
    exact ⟨rfl, rfl, rfl, hcpu, hmemory, hgpus⟩
  · contradiction

/-! ## The pod of a request read back -/

def watchedCPU (K : QuantityAPI) (req : CreateJobRequest) : ℤ :=
  (K.parse (podCPUText req)).elim 0 (podCPUCores K)

def watchedMemory (K : QuantityAPI) (req : CreateJobRequest) : ℤ :=
  (K.parse (podMemoryText req)).elim 0 (podMemoryMB K)

def deletedCPU (K : QuantityAPI) (req : CreateJobRequest) : ℤ :=
  (K.parse (podCPUText req)).elim 0 fun cpu => decodeCPU (quantityText K cpu)

def deletedMemory (K : QuantityAPI) (req : CreateJobRequest) : ℤ :=
  (K.parse (podMemoryText req)).elim 0 fun memory =>
    decodeMemory (quantityText K memory)

theorem podGPUCount_eq {K : QuantityAPI} (hK : K.Lawful)
    {req : CreateJobRequest} {gpus : K.Quantity}
    (h : K.parse (podGPUText req) = some gpus) (gpuModel : String) :
    K.value gpus = (requestAllocation req gpuModel).gpuCount :=
  hK _ _ (requestAllocation_gpuCount_pos req gpuModel) h

end WorldlandBroker.Job
