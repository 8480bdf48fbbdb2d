import WorldlandBroker.Registration.Handler

/-!
# What the SDK registers

The host builds the capacity it registers from the hardware it has scanned and
from its mining settings, and holds GPUs back for mining while it does so.  The
control plane stores that capacity and deploys mining with the same settings,
which takes GPUs for mining again.
-/

namespace WorldlandBroker.Sdk

open Foundation Provider Registration ProviderCapacity

structure Config where
  walletAddr : String
  enableMining : Bool
  miningGPUCount : ℤ
  miningCPUCores : ℤ
  miningMemoryMB : ℤ
  deriving DecidableEq

/--
`int(float64(n) * 0.8)`.  The nearest double to 0.8 is above it by less than a
rounding step, so the product truncates to four fifths for all sizes below 2^50.
-/
def eightTenths (n : ℤ) : ℤ := (4 * n).tdiv 5

def withoutMiningReserve (config : Config) (count : ℤ) : ℤ :=
  if config.enableMining ∧ 0 < count then
    let miningReserve :=
      if count < config.miningGPUCount then count else config.miningGPUCount
    count - miningReserve
  else count

def gpuTypes (spec : SystemSpec) : CountMap String :=
  CountMap.tally (spec.gpus.map GPUInfo.name)

def prepareCapacity (config : Config) (spec : SystemSpec) : ProviderCapacity where
  gpuCount := spec.totalGPUs
  cpuCores := eightTenths spec.cpuCores
  memoryMB := eightTenths spec.totalMemoryMB
  totalGPUs := some (gpuTypes spec)
  totalCPUCores := spec.cpuCores
  totalMemoryMB := spec.totalMemoryMB
  miningGPUs := none
  miningCPUCores := 0
  miningMemoryMB := 0
  miningPodName := ""
  miningStatus := ""
  inUseGPUs := none
  inUseCPUCores := 0
  inUseMemoryMB := 0
  availableGPUs := some ((gpuTypes spec).mapCounts (withoutMiningReserve config))
  availableCPUCores := eightTenths spec.cpuCores
  availableMemoryMB := eightTenths spec.totalMemoryMB

/-- A capacity as it is read back from its JSON; a zero that is left out reads as zero. -/
def overJSON (c : ProviderCapacity) : ProviderCapacity :=
  { c with
    totalGPUs := c.totalGPUs.omitEmpty
    miningGPUs := c.miningGPUs.omitEmpty
    inUseGPUs := c.inUseGPUs.omitEmpty
    availableGPUs := c.availableGPUs.omitEmpty }

def miningConfig (config : Config) : MiningConfig :=
  ⟨config.miningGPUCount, config.miningCPUCores, config.miningMemoryMB⟩

def registrationRequest (config : Config) (providerID : String) (spec : SystemSpec) :
    RegistrationRequest where
  providerID := providerID
  spec := spec
  capacity := overJSON (prepareCapacity config spec)
  miningConfig :=
    if config.enableMining ∧ config.walletAddr ≠ "" then some (miningConfig config) else none

/-! ## The registered pools -/

variable {config : Config} {spec : SystemSpec}

def gpusNamed (spec : SystemSpec) (gpuType : String) : ℤ :=
  ((spec.gpus.map GPUInfo.name).count gpuType : ℕ)

theorem gpusNamed_nonneg (spec : SystemSpec) (gpuType : String) :
    0 ≤ gpusNamed spec gpuType :=
  Int.natCast_nonneg _

theorem gpusNamed_pos {gpu : GPUInfo} (hgpu : gpu ∈ spec.gpus) :
    0 < gpusNamed spec gpu.name := by
  have hmem : gpu.name ∈ spec.gpus.map GPUInfo.name := List.mem_map_of_mem hgpu
  exact Int.natCast_pos.mpr (List.count_pos_iff.mpr hmem)

theorem gpusNamed_of_single {name : String} (h : ∀ gpu ∈ spec.gpus, gpu.name = name) :
    gpusNamed spec name = spec.gpus.length := by
  have hall : ∀ k ∈ spec.gpus.map GPUInfo.name, name = k := by
    intro k hk
    obtain ⟨gpu, hgpu, rfl⟩ := List.mem_map.mp hk
    exact (h gpu hgpu).symm
  have hcount := List.count_eq_length.mpr hall
  rw [List.length_map] at hcount
  rw [gpusNamed, hcount]

theorem withoutMiningReserve_zero (config : Config) : withoutMiningReserve config 0 = 0 := by
  simp [withoutMiningReserve]

theorem withoutMiningReserve_of_mining (hmining : config.enableMining = true)
    (hcount : 1 ≤ config.miningGPUCount) {n : ℤ} (hn : 0 ≤ n) :
    withoutMiningReserve config n = n - min config.miningGPUCount n := by
  unfold withoutMiningReserve
  by_cases hpos : 0 < n
  · rw [if_pos ⟨hmining, hpos⟩]
    simp only []
    split <;> omega
  · rw [if_neg fun h => hpos h.2]
    omega

/-- Both maps come over the wire as they are, or are empty and come as nil. -/
theorem registered_pools (config : Config) (spec : SystemSpec) (t : String) :
    (overJSON (prepareCapacity config spec)).total t = gpusNamed spec t ∧
      (overJSON (prepareCapacity config spec)).available t =
        withoutMiningReserve config (gpusNamed spec t) := by
  constructor
  · simp only [ProviderCapacity.total, overJSON, NilMap.count_omitEmpty]
    exact CountMap.count_tally _ t
  · simp only [ProviderCapacity.available, overJSON, NilMap.count_omitEmpty]
    have hmap := CountMap.count_mapCounts (withoutMiningReserve_zero config) (gpuTypes spec) t
    rw [gpuTypes, CountMap.count_tally] at hmap
    exact hmap

end WorldlandBroker.Sdk
