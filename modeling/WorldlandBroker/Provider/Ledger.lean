import WorldlandBroker.Provider.Types

/-!
# The resource ledger

`AllocateResources` and the release funnel, on the capacity of one provider.  An
allocation that fails halfway keeps what it has initialised lazily and rolls
back what it has debited.
-/

namespace WorldlandBroker.Provider

open Foundation

namespace ProviderCapacity

/-- Both pools are allocated; a fresh available pool is filled from legacy fields. -/
def initPools (spec : SystemSpec) (c : ProviderCapacity) (gpuType : String) :
    ProviderCapacity :=
  { c with
    availableGPUs :=
      match c.availableGPUs with
      | some pool => some pool
      | none =>
          if 0 < c.gpuCount then NilMap.put none gpuType c.gpuCount
          else if 0 < spec.totalGPUs then NilMap.put none gpuType spec.totalGPUs
          else some ∅
    inUseGPUs := c.inUseGPUs.alloc }

/-- `AvailableGPUs[gpuType] -= count; InUseGPUs[gpuType] += count` -/
def rentGPUs (c : ProviderCapacity) (gpuType : String) (count : ℤ) :
    ProviderCapacity :=
  { c with
    availableGPUs := c.availableGPUs.add gpuType (-count)
    inUseGPUs := c.inUseGPUs.add gpuType count }

def rentCPU (c : ProviderCapacity) (cores : ℤ) : ProviderCapacity :=
  { c with
    availableCPUCores := c.availableCPUCores - cores
    inUseCPUCores := c.inUseCPUCores + cores }

def rentMemory (c : ProviderCapacity) (megabytes : ℤ) : ProviderCapacity :=
  { c with
    availableMemoryMB := c.availableMemoryMB - megabytes
    inUseMemoryMB := c.inUseMemoryMB + megabytes }

def initTotal (total legacy reported : ℤ) : ℤ :=
  if total = 0 then
    if 0 < legacy then legacy else if 0 < reported then reported else total
  else total

def initAvailable (available total inUse mining : ℤ) : ℤ :=
  if available = 0 ∧ 0 < total then total - inUse - mining else available

def initCPU (spec : SystemSpec) (c : ProviderCapacity) : ProviderCapacity :=
  let total := initTotal c.totalCPUCores c.cpuCores spec.cpuCores
  { c with
    totalCPUCores := total
    availableCPUCores :=
      initAvailable c.availableCPUCores total c.inUseCPUCores c.miningCPUCores }

def initMemory (spec : SystemSpec) (c : ProviderCapacity) : ProviderCapacity :=
  let total := initTotal c.totalMemoryMB c.memoryMB spec.totalMemoryMB
  { c with
    totalMemoryMB := total
    availableMemoryMB :=
      initAvailable c.availableMemoryMB total c.inUseMemoryMB c.miningMemoryMB }

end ProviderCapacity

/-! ## Allocation -/

abbrev Outcome := Except String Unit

def allocateMemory (spec : SystemSpec) (c : ProviderCapacity) (gpuType : String)
    (a : ResourceAllocation) : Outcome × ProviderCapacity :=
  if 0 < a.memoryMB then
    let c := c.initMemory spec
    if c.availableMemoryMB < a.memoryMB then
      (.error s!"insufficient Memory: requested {decimal a.memoryMB} MB, available {decimal c.availableMemoryMB} MB",
        (c.rentGPUs gpuType (-a.gpuCount)).rentCPU (-a.cpuCores))
    else (.ok (), c.rentMemory a.memoryMB)
  else (.ok (), c)

def allocateCPU (spec : SystemSpec) (c : ProviderCapacity) (gpuType : String)
    (a : ResourceAllocation) : Outcome × ProviderCapacity :=
  if 0 < a.cpuCores then
    let c := c.initCPU spec
    if c.availableCPUCores < a.cpuCores then
      (.error s!"insufficient CPU: requested {decimal a.cpuCores}, available {decimal c.availableCPUCores}",
        c.rentGPUs gpuType (-a.gpuCount))
    else allocateMemory spec (c.rentCPU a.cpuCores) gpuType a
  else allocateMemory spec c gpuType a

def allocateResources (spec : SystemSpec) (c : ProviderCapacity)
    (a : ResourceAllocation) : Outcome × ProviderCapacity :=
  let gpuType := resolveGPUType spec a.gpuType
  let c := c.initPools spec gpuType
  if 0 < a.gpuCount then
    if c.available gpuType < a.gpuCount then
      (.error s!"insufficient GPU: requested {decimal a.gpuCount}, available {decimal (c.available gpuType)}", c)
    else allocateCPU spec (c.rentGPUs gpuType a.gpuCount) gpuType a
  else allocateCPU spec c gpuType a

/-! ## Release -/

/-- `x -= n; if x < 0 { x = 0 }` -/
def subtractClamped (x n : ℤ) : ℤ :=
  if x - n < 0 then 0 else x - n

def releaseJobResources (spec : SystemSpec) (c : ProviderCapacity)
    (gpuType : String) (gpuCount cpuCores memoryMB : ℤ) : ProviderCapacity :=
  let gpuType := resolveGPUType spec gpuType
  { c with
    availableGPUs := c.availableGPUs.add gpuType gpuCount
    inUseGPUs := c.inUseGPUs.map fun pool =>
      AList.insert gpuType (subtractClamped (CountMap.count pool gpuType) gpuCount)
        pool
    availableCPUCores := c.availableCPUCores + cpuCores
    inUseCPUCores := subtractClamped c.inUseCPUCores cpuCores
    availableMemoryMB := c.availableMemoryMB + memoryMB
    inUseMemoryMB := subtractClamped c.inUseMemoryMB memoryMB }

def releaseGPUType (gpuType : String) : String :=
  if gpuType = "" then "default" else gpuType

def releaseResources (spec : SystemSpec) (c : ProviderCapacity)
    (a : ResourceAllocation) : ProviderCapacity :=
  releaseJobResources spec c (releaseGPUType a.gpuType) a.gpuCount a.cpuCores
    a.memoryMB

end WorldlandBroker.Provider
