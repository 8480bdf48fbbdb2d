import WorldlandBroker.Provider.LedgerEffect

/-!
# The CPU and memory pools

CPU cores and memory are counted without a type.  Their available amount is
recomputed from the total whenever it is zero; while the pool adds up, that
recomputation changes nothing.
-/

namespace WorldlandBroker.Provider

open Foundation ProviderCapacity

structure Scalar where
  total : ℤ
  available : ℤ
  inUse : ℤ
  mining : ℤ

namespace Scalar

def rent (p : Scalar) (n : ℤ) : Scalar :=
  { p with available := p.available - n, inUse := p.inUse + n }

def giveBack (p : Scalar) (n : ℤ) : Scalar :=
  { p with
    available := p.available + n
    inUse := subtractClamped p.inUse n }

def init (p : Scalar) (legacy reported : ℤ) : Scalar :=
  let total := initTotal p.total legacy reported
  { p with
    total := total
    available := initAvailable p.available total p.inUse p.mining }

structure Consistent (p : Scalar) : Prop where
  total_pos : 0 < p.total
  equation : p.total = p.available + p.inUse + p.mining

theorem init_of_consistent {p : Scalar} (h : p.Consistent)
    (legacy reported : ℤ) : p.init legacy reported = p := by
  have htotal : initTotal p.total legacy reported = p.total := by
    have hpos := h.total_pos
    unfold initTotal
    rw [if_neg (by omega)]
  have havailable : initAvailable p.available p.total p.inUse p.mining =
      p.available := by
    have hequation := h.equation
    unfold initAvailable
    split <;> omega
  simp only [init, htotal, havailable]

theorem rent_neg_rent (p : Scalar) (n : ℤ) : (p.rent n).rent (-n) = p := by
  simp [rent]

theorem Consistent.rent {p : Scalar} (h : p.Consistent) (n : ℤ) :
    (p.rent n).Consistent := by
  refine ⟨h.total_pos, ?_⟩
  have hequation := h.equation
  simp only [Scalar.rent]
  omega

theorem Consistent.giveBack {p : Scalar} (h : p.Consistent) {n : ℤ}
    (hn : n ≤ p.inUse) : (p.giveBack n).Consistent := by
  refine ⟨h.total_pos, ?_⟩
  have hequation := h.equation
  simp only [Scalar.giveBack, subtractClamped_of_le hn]
  omega

end Scalar

def ProviderCapacity.cpuPool (c : ProviderCapacity) : Scalar :=
  ⟨c.totalCPUCores, c.availableCPUCores, c.inUseCPUCores, c.miningCPUCores⟩

def ProviderCapacity.memoryPool (c : ProviderCapacity) : Scalar :=
  ⟨c.totalMemoryMB, c.availableMemoryMB, c.inUseMemoryMB, c.miningMemoryMB⟩

variable {spec : SystemSpec} {c c' : ProviderCapacity} {a : ResourceAllocation}
  {gpuType : String}

private theorem initCPU_cpuPool (spec : SystemSpec) (c : ProviderCapacity) :
    (c.initCPU spec).cpuPool = c.cpuPool.init c.cpuCores spec.cpuCores := rfl

private theorem initMemory_memoryPool (spec : SystemSpec) (c : ProviderCapacity) :
    (c.initMemory spec).memoryPool =
      c.memoryPool.init c.memoryMB spec.totalMemoryMB := rfl

private theorem debitGPUs_scalars (c : ProviderCapacity) (gpuType : String) (n : ℤ) :
    (c.debitGPUs gpuType n).cpuPool = c.cpuPool ∧
      (c.debitGPUs gpuType n).memoryPool = c.memoryPool := by
  unfold debitGPUs
  split <;> exact ⟨rfl, rfl⟩

theorem debitCPU_memory (spec : SystemSpec) (c : ProviderCapacity) (n : ℤ) :
    (c.debitCPU spec n).memoryPool = c.memoryPool ∧
      (c.debitCPU spec n).memoryMB = c.memoryMB := by
  unfold debitCPU
  split <;> exact ⟨rfl, rfl⟩

theorem debitMemory_cpuPool (spec : SystemSpec) (c : ProviderCapacity) (n : ℤ) :
    (c.debitMemory spec n).cpuPool = c.cpuPool := by
  unfold debitMemory
  split <;> rfl

private theorem debitCPU_scalars (spec : SystemSpec) (hcpu : c.cpuPool.Consistent)
    {n : ℤ} (hn : 0 ≤ n) :
    (c.debitCPU spec n).cpuPool = c.cpuPool.rent n ∧
      (c.debitCPU spec n).memoryPool = c.memoryPool := by
  unfold debitCPU
  split
  · refine ⟨?_, rfl⟩
    change ((c.initCPU spec).cpuPool).rent n = _
    rw [initCPU_cpuPool, Scalar.init_of_consistent hcpu]
  · have hzero : n = 0 := by omega
    subst hzero
    exact ⟨by simp [Scalar.rent], rfl⟩

private theorem debitMemory_scalars (spec : SystemSpec)
    (hmemory : c.memoryPool.Consistent) {n : ℤ} (hn : 0 ≤ n) :
    (c.debitMemory spec n).memoryPool = c.memoryPool.rent n ∧
      (c.debitMemory spec n).cpuPool = c.cpuPool := by
  unfold debitMemory
  split
  · refine ⟨?_, rfl⟩
    change ((c.initMemory spec).memoryPool).rent n = _
    rw [initMemory_memoryPool, Scalar.init_of_consistent hmemory]
  · have hzero : n = 0 := by omega
    subst hzero
    exact ⟨by simp [Scalar.rent], rfl⟩

theorem debited_scalars (spec : SystemSpec) (c : ProviderCapacity)
    (gpuType : String) (n : ℤ) :
    ((c.initPools spec gpuType).debitGPUs gpuType n).cpuPool = c.cpuPool ∧
      ((c.initPools spec gpuType).debitGPUs gpuType n).memoryPool =
        c.memoryPool :=
  debitGPUs_scalars (c.initPools spec gpuType) gpuType n

theorem Allocation.failed_scalars {message : String}
    (h : Allocation spec c a gpuType (.error message, c'))
    (hcpu : c.cpuPool.Consistent) (hmemory : c.memoryPool.Consistent)
    (hcores : 0 ≤ a.cpuCores) :
    c'.cpuPool = c.cpuPool ∧ c'.memoryPool = c.memoryPool := by
  obtain ⟨hcpu', hmemory'⟩ := debited_scalars spec c gpuType a.gpuCount
  rw [← hcpu'] at hcpu
  rw [← hmemory'] at hmemory
  cases h with
  | shortOfGPUs => exact ⟨rfl, rfl⟩
  | shortOfCPU =>
      refine ⟨?_, hmemory'⟩
      change ((initCPU spec _).cpuPool) = _
      rw [initCPU_cpuPool, Scalar.init_of_consistent hcpu, hcpu']
  | shortOfMemory =>
      obtain ⟨hcpuDebit, hmemoryDebit⟩ :=
        debitCPU_scalars spec hcpu hcores
      constructor
      · change ((debitCPU spec _ a.cpuCores).cpuPool).rent (-a.cpuCores) = _
        rw [hcpuDebit, Scalar.rent_neg_rent, hcpu']
      · change ((initMemory spec _).memoryPool) = _
        rw [← hmemoryDebit] at hmemory
        rw [initMemory_memoryPool, Scalar.init_of_consistent hmemory,
          hmemoryDebit, hmemory']

theorem Allocation.granted_scalars
    (h : Allocation spec c a gpuType (.ok (), c'))
    (hcpu : c.cpuPool.Consistent) (hmemory : c.memoryPool.Consistent)
    (hcores : 0 ≤ a.cpuCores) (hmegabytes : 0 ≤ a.memoryMB) :
    c'.cpuPool = c.cpuPool.rent a.cpuCores ∧
      c'.memoryPool = c.memoryPool.rent a.memoryMB ∧
      (0 < a.cpuCores → a.cpuCores ≤ c.cpuPool.available) ∧
      (0 < a.memoryMB → a.memoryMB ≤ c.memoryPool.available) := by
  obtain ⟨hcpu', hmemory'⟩ := debited_scalars spec c gpuType a.gpuCount
  rw [← hcpu'] at hcpu
  rw [← hmemory'] at hmemory
  obtain ⟨hcpuDebit, hmemoryDebit⟩ := debitCPU_scalars spec hcpu hcores
  have hmemory'' := hmemory
  rw [← hmemoryDebit] at hmemory''
  obtain ⟨hmemoryRent, hcpuKept⟩ :=
    debitMemory_scalars spec hmemory'' hmegabytes
  cases h with
  | granted hgpus hcpuEnough hmemoryEnough =>
      refine ⟨?_, ?_, fun hasked => ?_, fun hasked => ?_⟩
      · rw [hcpuKept, hcpuDebit, hcpu']
      · rw [hmemoryRent, hmemoryDebit, hmemory']
      · have henough := hcpuEnough hasked
        change a.cpuCores ≤ (initCPU spec _).cpuPool.available at henough
        rwa [initCPU_cpuPool, Scalar.init_of_consistent hcpu, hcpu'] at henough
      · have henough := hmemoryEnough hasked
        change a.memoryMB ≤ (initMemory spec _).memoryPool.available at henough
        rwa [initMemory_memoryPool, Scalar.init_of_consistent hmemory'',
          hmemoryDebit, hmemory'] at henough

/-! ## The account of one pool -/

structure ScalarAccount (p₀ p : Scalar) (granted : ℤ) : Prop where
  consistent : p.Consistent
  total_eq : p.total = p₀.total
  mining_eq : p.mining = p₀.mining
  available_nonneg : 0 ≤ p.available
  inUse_nonneg : 0 ≤ p.inUse
  mining_nonneg : 0 ≤ p.mining
  inUse_eq : p.inUse = p₀.inUse + granted

variable {p₀ p : Scalar} {granted n : ℤ}

theorem ScalarAccount.rent (h : ScalarAccount p₀ p granted) (hn : 0 ≤ n)
    (henough : 0 < n → n ≤ p.available) :
    ScalarAccount p₀ (p.rent n) (granted + n) where
  consistent := h.consistent.rent n
  total_eq := h.total_eq
  mining_eq := h.mining_eq
  available_nonneg := by
    have hbefore := h.available_nonneg
    simp only [Scalar.rent]
    omega
  inUse_nonneg := by
    have hbefore := h.inUse_nonneg
    simp only [Scalar.rent]
    omega
  mining_nonneg := h.mining_nonneg
  inUse_eq := by
    have hbefore := h.inUse_eq
    simp only [Scalar.rent]
    omega

theorem ScalarAccount.giveBack (h : ScalarAccount p₀ p granted) (hn : 0 ≤ n)
    (hrest : n ≤ granted) (hbase : 0 ≤ p₀.inUse) :
    ScalarAccount p₀ (p.giveBack n) (granted - n) := by
  have hinUse := h.inUse_eq
  have havailable := h.available_nonneg
  have henough : n ≤ p.inUse := by omega
  refine ⟨h.consistent.giveBack henough, h.total_eq, h.mining_eq, ?_, ?_,
    h.mining_nonneg, ?_⟩
  · simp only [Scalar.giveBack]
    omega
  · simp only [Scalar.giveBack, subtractClamped_of_le henough]
    omega
  · simp only [Scalar.giveBack, subtractClamped_of_le henough]
    omega

end WorldlandBroker.Provider
