import WorldlandBroker.Job.Quantity

/-!
# Rental pods

A rental pod as the control plane sees it, and the two ways it reads the
resources back from one: the watcher and the sweeper compute with the requested
quantities, `DeleteJob` parses the text they print as.
-/

namespace WorldlandBroker.Job

open Provider

/-- The cluster gives every pod object an identity of its own. -/
structure Pod (K : QuantityAPI) where
  uid : ℕ
  name : String
  tenant : String
  providerID : String
  gpuModel : String
  expiresAt : ℤ
  phase : String
  cpu : K.Quantity
  memory : K.Quantity
  gpus : K.Quantity

structure GPUJobPodInfo where
  uid : ℕ
  jobID : String
  tenant : String
  providerID : String
  status : String
  gpuCount : ℤ
  cpuCores : ℤ
  memoryMB : ℤ
  gpuModel : String
  expiresAt : ℤ
  deriving DecidableEq

variable {K : QuantityAPI}

def podGPUCount (K : QuantityAPI) (gpus : K.Quantity) : ℤ := K.value gpus

def podCPUCores (K : QuantityAPI) (cpu : K.Quantity) : ℤ :=
  if K.isZero cpu then 0 else K.value cpu

def podMemoryMB (K : QuantityAPI) (memory : K.Quantity) : ℤ :=
  if K.isZero memory then 0 else (K.value memory).tdiv (1024 * 1024)

def parsePodToGPUJobInfo (pod : Pod K) : GPUJobPodInfo where
  uid := pod.uid
  jobID := pod.name
  tenant := pod.tenant
  providerID := pod.providerID
  status := pod.phase
  gpuCount := podGPUCount K pod.gpus
  cpuCores := podCPUCores K pod.cpu
  memoryMB := podMemoryMB K pod.memory
  gpuModel := pod.gpuModel
  expiresAt := pod.expiresAt

/-! ## What `DeleteJob` reads back -/

structure GPUJobResponse where
  providerID : String
  gpuCount : ℤ
  cpuCores : String
  memoryGB : String

def quantityText (K : QuantityAPI) (q : K.Quantity) : String :=
  if K.isZero q then "" else K.print q

def getJobStatus (pod : Pod K) : GPUJobResponse where
  providerID := pod.providerID
  gpuCount := K.value pod.gpus
  cpuCores := quantityText K pod.cpu
  memoryGB := quantityText K pod.memory

/-- Millicores lose their suffix; from 1000 on the number is taken for them. -/
def decodeCPU (cpuCores : String) : ℤ :=
  if cpuCores ≠ "" then
    let cores := sscanfD (trimSuffix cpuCores "m")
    if 1000 ≤ cores then cores.tdiv 1000 else cores
  else 0

def decodeMemory (memoryGB : String) : ℤ :=
  if memoryGB ≠ "" then
    if hasSuffix memoryGB "Gi" then
      wrapInt64 (sscanfD (trimSuffix memoryGB "Gi") * 1024)
    else if hasSuffix memoryGB "Mi" then sscanfD (trimSuffix memoryGB "Mi")
    else wrapInt64 (sscanfD memoryGB * 1024)
  else 0

/-- What `DeleteJob` will release; it leaves the GPU type open. -/
def deletedAllocation (response : GPUJobResponse) : Option ResourceAllocation :=
  if response.providerID ≠ "" then
    some {
      gpuType := ""
      gpuCount := if response.gpuCount ≤ 0 then 1 else response.gpuCount
      cpuCores := decodeCPU response.cpuCores
      memoryMB := decodeMemory response.memoryGB }
  else none

theorem deletedAllocation_eq_some {response : GPUJobResponse}
    {a : ResourceAllocation} (h : deletedAllocation response = some a) :
    response.providerID ≠ "" ∧ a.gpuType = "" ∧
      a.gpuCount = (if response.gpuCount ≤ 0 then 1 else response.gpuCount) ∧
      a.cpuCores = decodeCPU response.cpuCores ∧
      a.memoryMB = decodeMemory response.memoryGB := by
  unfold deletedAllocation at h
  split at h
  · rename_i hid
    cases h
    exact ⟨hid, rfl, rfl, rfl, rfl⟩
  · contradiction

/-! ## Namespaces -/

def tenantOf (user : String) : String :=
  if user ≠ "" ∧ user ≠ "anonymous" then "tenant-" ++ user else "default"

end WorldlandBroker.Job
