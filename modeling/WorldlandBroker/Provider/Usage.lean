import WorldlandBroker.Provider.Mining

/-!
# What is in use

The in-use side of a ledger, one number for each GPU type and one each for CPU
cores and memory.  An allocation raises it by what was asked, a release lowers
it by what is given back but not below zero, and mining leaves it alone.
-/

namespace WorldlandBroker.Provider

open Foundation ProviderCapacity

inductive Resource where
  | gpus (gpuType : String)
  | cpu
  | memory

def held (c : ProviderCapacity) : Resource → ℤ
  | .gpus gpuType => c.inUse gpuType
  | .cpu => c.inUseCPUCores
  | .memory => c.inUseMemoryMB

def share (spec : SystemSpec) (a : ResourceAllocation) : Resource → ℤ
  | .gpus gpuType =>
      if gpuType = resolveGPUType spec a.gpuType then a.gpuCount else 0
  | .cpu => a.cpuCores
  | .memory => a.memoryMB

structure ResourceAllocation.Nonneg (a : ResourceAllocation) : Prop where
  gpus : 0 ≤ a.gpuCount
  cpu : 0 ≤ a.cpuCores
  memory : 0 ≤ a.memoryMB

variable {spec : SystemSpec} {c : ProviderCapacity} {a : ResourceAllocation}

theorem share_nonneg (h : a.Nonneg) (spec : SystemSpec) (k : Resource) :
    0 ≤ share spec a k := by
  cases k with
  | gpus gpuType =>
      simp only [share]
      split
      · exact h.gpus
      · exact le_rfl
  | cpu => exact h.cpu
  | memory => exact h.memory

def taken (spec : SystemSpec) (a : ResourceAllocation) (outcome : Outcome)
    (k : Resource) : ℤ :=
  match outcome with
  | .ok _ => share spec a k
  | .error _ => 0

private theorem taken_gpus (spec : SystemSpec) (a : ResourceAllocation)
    (outcome : Outcome) (gpuType : String) :
    taken spec a outcome (.gpus gpuType) =
      moved (resolveGPUType spec a.gpuType) a outcome gpuType := by
  cases outcome <;> rfl

def inUseScalars (c : ProviderCapacity) : ℤ × ℤ :=
  (c.inUseCPUCores, c.inUseMemoryMB)

theorem debitGPUs_inUse_scalars (c : ProviderCapacity) (gpuType : String) (n : ℤ) :
    inUseScalars (c.debitGPUs gpuType n) = inUseScalars c := by
  unfold debitGPUs
  split <;> rfl

private theorem debitCPU_inUse_scalars (spec : SystemSpec) (c : ProviderCapacity) {n : ℤ}
    (hn : 0 ≤ n) : inUseScalars (c.debitCPU spec n) =
      ((inUseScalars c).1 + n, (inUseScalars c).2) := by
  unfold debitCPU
  split
  · rfl
  · have hzero : n = 0 := by omega
    rw [hzero, add_zero]

private theorem debitMemory_inUse_scalars (spec : SystemSpec) (c : ProviderCapacity)
    {n : ℤ} (hn : 0 ≤ n) : inUseScalars (c.debitMemory spec n) =
      ((inUseScalars c).1, (inUseScalars c).2 + n) := by
  unfold debitMemory
  split
  · rfl
  · have hzero : n = 0 := by omega
    rw [hzero, add_zero]

theorem Allocation.inUse_scalars {gpuType : String}
    {r : Outcome × ProviderCapacity} (h : Allocation spec c a gpuType r)
    (hnonneg : a.Nonneg) :
    inUseScalars r.2 = ((inUseScalars c).1 + taken spec a r.1 .cpu,
      (inUseScalars c).2 + taken spec a r.1 .memory) := by
  have hgpus := debitGPUs_inUse_scalars (c.initPools spec gpuType) gpuType
    a.gpuCount
  have hcpu := debitCPU_inUse_scalars spec
    ((c.initPools spec gpuType).debitGPUs gpuType a.gpuCount) hnonneg.cpu
  rw [hgpus] at hcpu
  cases h with
  | shortOfGPUs =>
      simp only [taken, add_zero]
      rfl
  | shortOfCPU =>
      simp only [taken, add_zero]
      exact hgpus
  | shortOfMemory =>
      simp only [taken, add_zero]
      have hrollback (c' : ProviderCapacity) : inUseScalars
          (((c'.initMemory spec).rentGPUs gpuType (-a.gpuCount)).rentCPU
            (-a.cpuCores)) =
          ((inUseScalars c').1 + -a.cpuCores, (inUseScalars c').2) := rfl
      rw [hrollback, hcpu, add_neg_cancel_right]
      rfl
  | granted =>
      rw [debitMemory_inUse_scalars spec _ hnonneg.memory, hcpu]
      rfl

theorem allocateResources_held (spec : SystemSpec) (c : ProviderCapacity)
    (hnonneg : a.Nonneg) (k : Resource) :
    held (allocateResources spec c a).2 k =
      held c k + taken spec a (allocateResources spec c a).1 k := by
  have hallocation := allocateResources_allocation spec c a
  have hscalars := hallocation.inUse_scalars hnonneg
  cases k with
  | gpus gpuType =>
      rw [taken_gpus]
      exact hallocation.inUse hnonneg.gpus gpuType
  | cpu => exact congrArg Prod.fst hscalars
  | memory => exact congrArg Prod.snd hscalars

/-! ## Releases and mining -/

private theorem subtractClamped_le {x y n : ℤ} (hy : 0 ≤ y) (h : x - n ≤ y) :
    subtractClamped x n ≤ y := by
  unfold subtractClamped
  split <;> omega

theorem releaseJobResources_held (spec : SystemSpec) (c : ProviderCapacity)
    (hnonneg : a.Nonneg) (k : Resource) {bound : ℤ} (hbound : 0 ≤ bound)
    (h : held c k - share spec a k ≤ bound) :
    held (releaseJobResources spec c a.gpuType a.gpuCount a.cpuCores
      a.memoryMB) k ≤ bound := by
  cases k with
  | gpus gpuType =>
      simp only [held, share] at h ⊢
      rw [release_inUse_of_nonneg spec c a.gpuType hnonneg.gpus]
      split
      · rename_i htype
        rw [if_pos htype] at h
        exact subtractClamped_le hbound h
      · rename_i htype
        rwa [if_neg htype, sub_zero] at h
  | cpu => exact subtractClamped_le hbound h
  | memory => exact subtractClamped_le hbound h

structure SameUsage (c c' : ProviderCapacity) : Prop where
  gpus : c'.inUseGPUs = c.inUseGPUs
  cpu : c'.inUseCPUCores = c.inUseCPUCores
  memory : c'.inUseMemoryMB = c.inUseMemoryMB

theorem SameUsage.held {c' : ProviderCapacity} (h : SameUsage c c')
    (k : Resource) : held c' k = held c k := by
  cases k with
  | gpus gpuType => simp only [Provider.held, ProviderCapacity.inUse, h.gpus]
  | cpu => exact h.cpu
  | memory => exact h.memory

theorem allocateMining_usage (c : ProviderCapacity) (gpuType : String) (n : ℤ) :
    SameUsage c (allocateMiningGPU c gpuType n).2 := by
  unfold allocateMiningGPU
  simp only []
  split <;> exact ⟨rfl, rfl, rfl⟩

theorem releaseMining_usage (c : ProviderCapacity) (gpuType : String) (n : ℤ) :
    SameUsage c (releaseMiningGPU c gpuType n).2 := by
  unfold releaseMiningGPU
  simp only []
  split
  · exact ⟨rfl, rfl, rfl⟩
  · split <;> exact ⟨rfl, rfl, rfl⟩

theorem deployMining_usage (providerID : String) (spec : SystemSpec)
    (c : ProviderCapacity) (config : MiningConfig) (first : Option String)
    (deployed : Outcome) :
    SameUsage c
      (deployMiningForProvider providerID spec c config first deployed).2 := by
  have hpools (gpuType : String) : SameUsage c
      (deployAvailable spec (deployPools spec c gpuType) gpuType).2 := by
    simp only [deployAvailable]
    split_ifs <;> exact ⟨rfl, rfl, rfl⟩
  have hbefore := hpools (deployGPUType spec first)
  unfold deployMiningForProvider
  simp only []
  split
  · exact hbefore
  · cases deployed with
    | error message => exact hbefore
    | ok => exact ⟨hbefore.gpus, hbefore.cpu, hbefore.memory⟩

theorem stopMining_usage (c : ProviderCapacity) (deleted : Outcome) :
    SameUsage c (stopMiningForProvider c deleted).2 := by
  cases deleted <;> exact ⟨rfl, rfl, rfl⟩

theorem syncMining_usage (c : ProviderCapacity)
    (reported : Except String String) :
    SameUsage c (syncMiningPodState c reported) := by
  unfold syncMiningPodState
  split
  · exact ⟨rfl, rfl, rfl⟩
  cases reported with
  | error message => exact ⟨rfl, rfl, rfl⟩
  | ok status =>
      simp only []
      split <;> exact ⟨rfl, rfl, rfl⟩

end WorldlandBroker.Provider
