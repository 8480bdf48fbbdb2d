import WorldlandBroker.ControlPlane.Step
import WorldlandBroker.Provider.Offer
import Mathlib.Algebra.Order.Ring.Rat

/-!
# Booting the control plane

`Orchestrator.Start` fills an empty registry from three sources: the rows of the
database, the mining pods and the rental pods of the cluster.  An error in one of
them is logged, and the boot goes on with the next.
-/

namespace WorldlandBroker.ControlPlane

open Foundation Provider Job

/-! ## Rows of the database -/

structure ProviderRow where
  providerID : String
  status : RegistrationStatus
  hostname : String
  cpuCores : ℤ
  totalMemoryMB : ℤ
  totalGPUs : ℤ
  gpuModel : String
  sharedGPUCount : ℤ
  sharedCPUCores : ℤ
  sharedMemoryMB : ℤ
  gpuPricePerHour : ℚ

/-- `Create` keeps the legacy fields and the first GPU, and none of the maps. -/
def createRow (providerID : String) (p : ProviderState) (gpuPricePerHour : ℚ) :
    ProviderRow where
  providerID := providerID
  status := p.status
  hostname := p.spec.hostname
  cpuCores := p.spec.cpuCores
  totalMemoryMB := p.spec.totalMemoryMB
  totalGPUs := p.spec.totalGPUs
  gpuModel := firstGPUName p.spec
  sharedGPUCount := p.capacity.gpuCount
  sharedCPUCores := p.capacity.cpuCores
  sharedMemoryMB := p.capacity.memoryMB
  gpuPricePerHour := gpuPricePerHour

def scanProvider (row : ProviderRow) : ProviderState where
  status := row.status
  spec := {
    hostname := row.hostname
    cpuCores := row.cpuCores
    totalMemoryMB := row.totalMemoryMB
    gpus := if row.gpuModel ≠ "" then [⟨row.gpuModel⟩] else []
    totalGPUs := row.totalGPUs }
  capacity := {
    gpuCount := row.sharedGPUCount
    cpuCores := row.sharedCPUCores
    memoryMB := row.sharedMemoryMB
    totalGPUs := none
    totalCPUCores := 0
    totalMemoryMB := 0
    miningGPUs := none
    miningCPUCores := 0
    miningMemoryMB := 0
    miningPodName := ""
    miningStatus := ""
    inUseGPUs := none
    inUseCPUCores := 0
    inUseMemoryMB := 0
    availableGPUs := none
    availableCPUCores := 0
    availableMemoryMB := 0 }

def searchLimit (limit : ℤ) : ℕ :=
  if limit ≤ 0 ∨ 100 < limit then 100 else limit.toNat

/-- What `ListAll` may return: the cheapest rows, a thousand at most by its call. -/
def ListsAll (rows answer : List ProviderRow) : Prop :=
  ∃ ordered : List ProviderRow, ordered.Perm rows ∧
    ordered.Pairwise (fun row row' => row.gpuPricePerHour ≤ row'.gpuPricePerHour) ∧
    answer = ordered.take (searchLimit 1000)

def loadRow (o : Registry) (row : ProviderRow) : Registry :=
  Function.update o row.providerID (some (scanProvider row))

def loadProvidersFromDB (o : Registry) (listed : Except String (List ProviderRow)) :
    Registry :=
  match listed with
  | .error _ => o
  | .ok rows => rows.foldl loadRow o

/-! ## Mining pods -/

structure MiningPod where
  gpus : ℤ
  phase : String

def getMiningPodStatus (pod : Option MiningPod) : String :=
  match pod with
  | none => "stopped"
  | some pod =>
      if pod.phase = "Running" then "running"
      else if pod.phase = "Pending" then "pending"
      else if pod.phase = "Failed" then "failed"
      else if pod.phase = "Succeeded" then "stopped"
      else "unknown"

/-- Only the pod's name and status come back; the second call may fail. -/
def recoverMiningStates (o : Registry)
    (found status : String → Except String (Option MiningPod)) : Registry :=
  fun providerID => (o providerID).map fun p =>
    match found providerID with
    | .error _ | .ok none => p
    | .ok (some _) =>
        { p with
          capacity := {
            p.capacity with
            miningPodName := "mining-" ++ providerID
            miningStatus :=
              match status providerID with
              | .error _ => ""
              | .ok pod => getMiningPodStatus pod } }

/-! ## Rental pods -/

def listGPUJobPods {K : QuantityAPI} (s : State K) : List GPUJobPodInfo :=
  (((List.range s.nextJob).filterMap s.pods).filter fun pod =>
    pod.phase ≠ "Succeeded" ∧ pod.phase ≠ "Failed").map parsePodToGPUJobInfo

/-- The entry of `providerAllocations`; pods without a provider have none. -/
def jobsOf (pods : List GPUJobPodInfo) (providerID : String) :
    List GPUJobPodInfo :=
  if providerID = "" then []
  else pods.filter fun info => info.providerID = providerID

/-- All of a provider's jobs are put under its first GPU type. -/
def recoverJobs (spec : SystemSpec) (c : ProviderCapacity)
    (jobs : List GPUJobPodInfo) : ProviderCapacity :=
  let totalGPU := (jobs.map GPUJobPodInfo.gpuCount).sum
  let totalCPU := (jobs.map GPUJobPodInfo.cpuCores).sum
  let totalMemoryMB := (jobs.map GPUJobPodInfo.memoryMB).sum
  let gpuType := resolveGPUType spec ""
  let totalForType :=
    if c.total gpuType = 0 then spec.totalGPUs else c.total gpuType
  let available := totalForType - totalGPU - c.mining gpuType
  { c with
    inUseGPUs := c.inUseGPUs.put gpuType totalGPU
    inUseCPUCores := totalCPU
    inUseMemoryMB := totalMemoryMB
    availableGPUs :=
      c.availableGPUs.put gpuType (if available < 0 then 0 else available)
    availableCPUCores :=
      if 0 < c.totalCPUCores then c.totalCPUCores - totalCPU - c.miningCPUCores
      else c.availableCPUCores
    availableMemoryMB :=
      if 0 < c.totalMemoryMB then
        c.totalMemoryMB - totalMemoryMB - c.miningMemoryMB
      else c.availableMemoryMB }

theorem recoverJobs_inUse (spec : SystemSpec) (c : ProviderCapacity)
    (jobs : List GPUJobPodInfo) (t : String) :
    (recoverJobs spec c jobs).inUse t =
      if t = resolveGPUType spec "" then (jobs.map GPUJobPodInfo.gpuCount).sum
      else c.inUse t := by
  simp only [recoverJobs, ProviderCapacity.inUse, NilMap.count_put]

def recoverJobAllocations (o : Registry)
    (listed : Except String (List GPUJobPodInfo)) : Registry :=
  match listed with
  | .error _ => o
  | .ok pods => fun providerID => (o providerID).map fun p =>
      match jobsOf pods providerID with
      | [] => p
      | jobs => { p with capacity := recoverJobs p.spec p.capacity jobs }

def boot (rows : Except String (List ProviderRow))
    (found status : String → Except String (Option MiningPod))
    (pods : Except String (List GPUJobPodInfo)) : Registry :=
  recoverJobAllocations
    (recoverMiningStates (loadProvidersFromDB (fun _ => none) rows) found status)
    pods

/-! ## What comes back -/

variable {rows : List ProviderRow} {row : ProviderRow} {id : String}

private theorem foldl_loadRow_of_forall_ne (o : Registry)
    (h : ∀ row ∈ rows, row.providerID ≠ id) : rows.foldl loadRow o id = o id := by
  induction rows generalizing o with
  | nil => rfl
  | cons first rest ih =>
      rw [List.foldl_cons, ih _ fun row hrow => h row (List.mem_cons_of_mem _ hrow)]
      exact Function.update_of_ne (h first List.mem_cons_self).symm _ _

private theorem foldl_loadRow_of_mem (o : Registry)
    (hids : (rows.map ProviderRow.providerID).Nodup) (hrow : row ∈ rows) :
    rows.foldl loadRow o row.providerID = some (scanProvider row) := by
  induction rows generalizing o with
  | nil => contradiction
  | cons first rest ih =>
      obtain ⟨hfirst, hrest⟩ := List.nodup_cons.mp hids
      rw [List.foldl_cons]
      rcases List.mem_cons.mp hrow with rfl | hrow
      · have hother : ∀ row' ∈ rest, row'.providerID ≠ row.providerID :=
          fun row' hrow' heq => hfirst (heq ▸ List.mem_map_of_mem hrow')
        rw [foldl_loadRow_of_forall_ne _ hother, loadRow, Function.update_self]
      · exact ih _ hrest hrow

theorem loadProvidersFromDB_of_forall_ne
    (h : ∀ row ∈ rows, row.providerID ≠ id) :
    loadProvidersFromDB (fun _ => none) (.ok rows) id = none :=
  foldl_loadRow_of_forall_ne _ h

theorem loadProvidersFromDB_of_mem
    (hids : (rows.map ProviderRow.providerID).Nodup) (hrow : row ∈ rows) :
    loadProvidersFromDB (fun _ => none) (.ok rows) row.providerID =
      some (scanProvider row) :=
  foldl_loadRow_of_mem _ hids hrow

end WorldlandBroker.ControlPlane
