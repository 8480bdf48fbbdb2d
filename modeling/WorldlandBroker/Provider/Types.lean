import WorldlandBroker.Foundation.CountMap

/-!
# The provider ledger's data

The hardware a provider reports and the resource ledger kept for it, with the
helpers that bridge the legacy single-type fields.  Go's `int` and `int64` are
integers without bound here: no modelled amount comes near their limits.
-/

namespace WorldlandBroker.Provider

open Foundation

structure GPUInfo where
  name : String
  deriving DecidableEq

structure SystemSpec where
  hostname : String
  cpuCores : ℤ
  totalMemoryMB : ℤ
  gpus : List GPUInfo
  totalGPUs : ℤ
  deriving DecidableEq

structure ProviderCapacity where
  gpuCount : ℤ
  cpuCores : ℤ
  memoryMB : ℤ
  totalGPUs : NilMap String
  totalCPUCores : ℤ
  totalMemoryMB : ℤ
  miningGPUs : NilMap String
  miningCPUCores : ℤ
  miningMemoryMB : ℤ
  miningPodName : String
  miningStatus : String
  inUseGPUs : NilMap String
  inUseCPUCores : ℤ
  inUseMemoryMB : ℤ
  availableGPUs : NilMap String
  availableCPUCores : ℤ
  availableMemoryMB : ℤ

abbrev RegistrationStatus := String

def statusApproved : RegistrationStatus := "approved"

def statusJoined : RegistrationStatus := "joined"

def statusAvailable : RegistrationStatus := "available"

structure ProviderState where
  status : RegistrationStatus
  spec : SystemSpec
  capacity : ProviderCapacity

structure ResourceAllocation where
  gpuType : String
  gpuCount : ℤ
  cpuCores : ℤ
  memoryMB : ℤ
  deriving DecidableEq

namespace ProviderCapacity

def totalGPUCount (c : ProviderCapacity) : ℤ := c.totalGPUs.total

def miningGPUCount (c : ProviderCapacity) : ℤ := c.miningGPUs.total

def inUseGPUCount (c : ProviderCapacity) : ℤ := c.inUseGPUs.total

def availableGPUCount (c : ProviderCapacity) : ℤ :=
  let total := c.availableGPUs.total
  if total = 0 ∧ 0 < c.gpuCount then c.gpuCount - c.inUseGPUCount else total

def getAvailableCPUCores (c : ProviderCapacity) : ℤ :=
  if 0 < c.availableCPUCores then c.availableCPUCores
  else if 0 < c.cpuCores then c.cpuCores - c.inUseCPUCores
  else 0

def getAvailableMemoryMB (c : ProviderCapacity) : ℤ :=
  if 0 < c.availableMemoryMB then c.availableMemoryMB
  else if 0 < c.memoryMB then c.memoryMB - c.inUseMemoryMB
  else 0

def total (c : ProviderCapacity) (gpuType : String) : ℤ :=
  c.totalGPUs.count gpuType

def available (c : ProviderCapacity) (gpuType : String) : ℤ :=
  c.availableGPUs.count gpuType

def inUse (c : ProviderCapacity) (gpuType : String) : ℤ :=
  c.inUseGPUs.count gpuType

def mining (c : ProviderCapacity) (gpuType : String) : ℤ :=
  c.miningGPUs.count gpuType

end ProviderCapacity

/-- The GPU type an empty request or release stands for. -/
def resolveGPUType (spec : SystemSpec) (gpuType : String) : String :=
  if gpuType = "" then
    match spec.gpus with
    | gpu :: _ => gpu.name
    | [] => "default"
  else gpuType

theorem resolveGPUType_idem (spec : SystemSpec) (gpuType : String) :
    resolveGPUType spec (resolveGPUType spec gpuType) =
      resolveGPUType spec gpuType := by
  by_cases hname : gpuType = ""
  · by_cases hresolved : resolveGPUType spec gpuType = ""
    · calc resolveGPUType spec (resolveGPUType spec gpuType)
        _ = resolveGPUType spec "" := by rw [hresolved]
        _ = resolveGPUType spec gpuType := by rw [hname]
    · rw [resolveGPUType, if_neg hresolved]
  · simp [resolveGPUType, hname]

def decimal (n : ℤ) : String := toString n

/-! ## A provider with eight GPUs of one type -/

def sampleSpec : SystemSpec := ⟨"node-1", 64, 262144, [⟨"RTX 4090"⟩], 8⟩

def sampleCapacity : ProviderCapacity where
  gpuCount := 8
  cpuCores := 64
  memoryMB := 262144
  totalGPUs := NilMap.put none "RTX 4090" 8
  totalCPUCores := 64
  totalMemoryMB := 262144
  miningGPUs := none
  miningCPUCores := 0
  miningMemoryMB := 0
  miningPodName := ""
  miningStatus := ""
  inUseGPUs := none
  inUseCPUCores := 0
  inUseMemoryMB := 0
  availableGPUs := NilMap.put none "RTX 4090" 8
  availableCPUCores := 64
  availableMemoryMB := 262144

end WorldlandBroker.Provider
