import WorldlandBroker.Provider.Ledger

/-!
# What the ledger operations do to the pools

Inversion of `allocateResources` into its four outcomes, and from it the change
of each pool.  Proofs about the ledger use these lemmas and leave the functions
folded.
-/

namespace WorldlandBroker.Provider

open Foundation

variable {spec : SystemSpec} {c c' : ProviderCapacity} {a : ResourceAllocation}

namespace ProviderCapacity

/-- Filling a fresh available pool would not conjure GPUs. -/
def PoolReady (spec : SystemSpec) (c : ProviderCapacity) : Prop :=
  c.availableGPUs = none → c.gpuCount ≤ 0 ∧ spec.totalGPUs ≤ 0

theorem initPools_available (hready : c.PoolReady spec) (gpuType k : String) :
    (c.initPools spec gpuType).available k = c.available k := by
  cases hpool : c.availableGPUs with
  | some pool => simp [initPools, available, hpool]
  | none =>
      obtain ⟨hlegacy, hreported⟩ := hready hpool
      simp [initPools, available, hpool, not_lt.mpr hlegacy,
        not_lt.mpr hreported, NilMap.count]

@[simp] theorem initPools_inUse (gpuType k : String) :
    (c.initPools spec gpuType).inUse k = c.inUse k := rfl

theorem initPools_allocated (spec : SystemSpec) (c : ProviderCapacity)
    (gpuType : String) :
    (c.initPools spec gpuType).availableGPUs ≠ none ∧
      (c.initPools spec gpuType).inUseGPUs ≠ none := by
  refine ⟨?_, by simp [initPools, NilMap.alloc]⟩
  cases hpool : c.availableGPUs with
  | some pool => simp [initPools, hpool]
  | none =>
      simp only [initPools, hpool]
      split
      · simp [NilMap.put]
      · split <;> simp [NilMap.put]

theorem rentGPUs_available (gpuType k : String) (n : ℤ) :
    (c.rentGPUs gpuType n).available k =
      c.available k - if k = gpuType then n else 0 := by
  simp only [available, rentGPUs, NilMap.count_add]
  split <;> omega

theorem rentGPUs_inUse (gpuType k : String) (n : ℤ) :
    (c.rentGPUs gpuType n).inUse k =
      c.inUse k + if k = gpuType then n else 0 := by
  simp only [inUse, rentGPUs, NilMap.count_add]

def debitGPUs (c : ProviderCapacity) (gpuType : String) (n : ℤ) :
    ProviderCapacity :=
  if 0 < n then c.rentGPUs gpuType n else c

def debitCPU (spec : SystemSpec) (c : ProviderCapacity) (cores : ℤ) :
    ProviderCapacity :=
  if 0 < cores then (c.initCPU spec).rentCPU cores else c

def debitMemory (spec : SystemSpec) (c : ProviderCapacity) (megabytes : ℤ) :
    ProviderCapacity :=
  if 0 < megabytes then (c.initMemory spec).rentMemory megabytes else c

@[simp] theorem debitCPU_available (n : ℤ) (k : String) :
    (c.debitCPU spec n).available k = c.available k := by
  unfold debitCPU
  split <;> rfl

@[simp] theorem debitCPU_inUse (n : ℤ) (k : String) :
    (c.debitCPU spec n).inUse k = c.inUse k := by
  unfold debitCPU
  split <;> rfl

@[simp] theorem debitMemory_available (n : ℤ) (k : String) :
    (c.debitMemory spec n).available k = c.available k := by
  unfold debitMemory
  split <;> rfl

@[simp] theorem debitMemory_inUse (n : ℤ) (k : String) :
    (c.debitMemory spec n).inUse k = c.inUse k := by
  unfold debitMemory
  split <;> rfl

theorem debitGPUs_available (gpuType k : String) {n : ℤ} (hn : 0 ≤ n) :
    (c.debitGPUs gpuType n).available k =
      c.available k - if k = gpuType then n else 0 := by
  unfold debitGPUs
  split
  · exact rentGPUs_available gpuType k n
  · have hzero : n = 0 := by omega
    simp [hzero]

theorem debitGPUs_inUse (gpuType k : String) {n : ℤ} (hn : 0 ≤ n) :
    (c.debitGPUs gpuType n).inUse k =
      c.inUse k + if k = gpuType then n else 0 := by
  unfold debitGPUs
  split
  · exact rentGPUs_inUse gpuType k n
  · have hzero : n = 0 := by omega
    simp [hzero]

end ProviderCapacity

open ProviderCapacity

inductive Allocation (spec : SystemSpec) (c : ProviderCapacity)
    (a : ResourceAllocation) (gpuType : String) :
    Outcome × ProviderCapacity → Prop where
  | shortOfGPUs (message : String) (hasked : 0 < a.gpuCount)
      (hshort : (c.initPools spec gpuType).available gpuType < a.gpuCount) :
      Allocation spec c a gpuType (.error message, c.initPools spec gpuType)
  | shortOfCPU (message : String) (hasked : 0 < a.cpuCores) :
      Allocation spec c a gpuType (.error message,
        ((((c.initPools spec gpuType).debitGPUs gpuType a.gpuCount).initCPU
          spec).rentGPUs gpuType (-a.gpuCount)))
  | shortOfMemory (message : String) (hasked : 0 < a.memoryMB) :
      Allocation spec c a gpuType (.error message,
        (((((c.initPools spec gpuType).debitGPUs gpuType a.gpuCount).debitCPU
          spec a.cpuCores).initMemory spec).rentGPUs gpuType
            (-a.gpuCount)).rentCPU (-a.cpuCores))
  | granted
      (hgpus : 0 < a.gpuCount →
        a.gpuCount ≤ (c.initPools spec gpuType).available gpuType)
      (hcpu : 0 < a.cpuCores → a.cpuCores ≤
        (((c.initPools spec gpuType).debitGPUs gpuType a.gpuCount).initCPU
          spec).availableCPUCores)
      (hmemory : 0 < a.memoryMB → a.memoryMB ≤
        ((((c.initPools spec gpuType).debitGPUs gpuType a.gpuCount).debitCPU
          spec a.cpuCores).initMemory spec).availableMemoryMB) :
      Allocation spec c a gpuType (.ok (),
        ((((c.initPools spec gpuType).debitGPUs gpuType a.gpuCount).debitCPU
          spec a.cpuCores).debitMemory spec a.memoryMB))

private theorem allocateMemory_allocation (a : ResourceAllocation) (gpuType : String)
    (hgpus : 0 < a.gpuCount →
      a.gpuCount ≤ (c.initPools spec gpuType).available gpuType)
    (hcpu : 0 < a.cpuCores → a.cpuCores ≤
      (((c.initPools spec gpuType).debitGPUs gpuType a.gpuCount).initCPU
        spec).availableCPUCores) :
    Allocation spec c a gpuType (allocateMemory spec
      (((c.initPools spec gpuType).debitGPUs gpuType a.gpuCount).debitCPU spec
        a.cpuCores) gpuType a) := by
  have hgranted := Allocation.granted hgpus hcpu
  unfold allocateMemory
  by_cases hasked : 0 < a.memoryMB
  · rw [if_pos hasked]
    simp only []
    split
    · exact .shortOfMemory _ hasked
    · rename_i henough
      have hdone := hgranted fun _ => not_lt.mp henough
      rwa [debitMemory, if_pos hasked] at hdone
  · rw [if_neg hasked]
    have hdone := hgranted fun hpositive => absurd hpositive hasked
    rwa [debitMemory, if_neg hasked] at hdone

private theorem allocateCPU_allocation (spec : SystemSpec) (c : ProviderCapacity)
    (a : ResourceAllocation) (gpuType : String)
    (hgpus : 0 < a.gpuCount →
      a.gpuCount ≤ (c.initPools spec gpuType).available gpuType) :
    Allocation spec c a gpuType (allocateCPU spec
      ((c.initPools spec gpuType).debitGPUs gpuType a.gpuCount) gpuType a) := by
  unfold allocateCPU
  by_cases hasked : 0 < a.cpuCores
  · rw [if_pos hasked]
    simp only []
    split
    · exact .shortOfCPU _ hasked
    · rename_i henough
      have hmemory := allocateMemory_allocation a gpuType hgpus
        fun _ => not_lt.mp henough
      rwa [debitCPU, if_pos hasked] at hmemory
  · rw [if_neg hasked]
    have hmemory := allocateMemory_allocation a gpuType hgpus
      fun hpositive => absurd hpositive hasked
    rwa [debitCPU, if_neg hasked] at hmemory

theorem allocateResources_allocation (spec : SystemSpec) (c : ProviderCapacity)
    (a : ResourceAllocation) :
    Allocation spec c a (resolveGPUType spec a.gpuType)
      (allocateResources spec c a) := by
  unfold allocateResources
  simp only []
  by_cases hasked : 0 < a.gpuCount
  · rw [if_pos hasked]
    split
    · rename_i hshort
      exact .shortOfGPUs _ hasked hshort
    · rename_i henough
      have hcpu := allocateCPU_allocation spec c a _ fun _ => not_lt.mp henough
      rwa [debitGPUs, if_pos hasked] at hcpu
  · rw [if_neg hasked]
    have hcpu := allocateCPU_allocation spec c a (resolveGPUType spec a.gpuType)
      fun hpositive => absurd hpositive hasked
    rwa [debitGPUs, if_neg hasked] at hcpu

/-! ## The GPU pools -/

def moved (gpuType : String) (a : ResourceAllocation) (outcome : Outcome)
    (k : String) : ℤ :=
  match outcome with
  | .ok _ => if k = gpuType then a.gpuCount else 0
  | .error _ => 0

theorem Allocation.available {gpuType : String}
    {r : Outcome × ProviderCapacity} (h : Allocation spec c a gpuType r)
    (hready : c.PoolReady spec) (hcount : 0 ≤ a.gpuCount) (k : String) :
    r.2.available k = c.available k - moved gpuType a r.1 k := by
  have hinit := initPools_available hready gpuType k
  cases h with
  | shortOfGPUs => simp [moved, hinit]
  | shortOfCPU =>
      change (((c.initPools spec gpuType).debitGPUs gpuType a.gpuCount).rentGPUs
        gpuType (-a.gpuCount)).available k = _
      rw [rentGPUs_available, debitGPUs_available _ _ hcount, hinit]
      simp only [moved]
      split <;> omega
  | shortOfMemory =>
      change ((((c.initPools spec gpuType).debitGPUs gpuType
        a.gpuCount).debitCPU spec a.cpuCores).rentGPUs gpuType
          (-a.gpuCount)).available k = _
      rw [rentGPUs_available, debitCPU_available,
        debitGPUs_available _ _ hcount, hinit]
      simp only [moved]
      split <;> omega
  | granted =>
      simp [moved, debitGPUs_available _ _ hcount, hinit]

theorem Allocation.inUse {gpuType : String}
    {r : Outcome × ProviderCapacity} (h : Allocation spec c a gpuType r)
    (hcount : 0 ≤ a.gpuCount) (k : String) :
    r.2.inUse k = c.inUse k + moved gpuType a r.1 k := by
  cases h with
  | shortOfGPUs => simp [moved]
  | shortOfCPU =>
      change (((c.initPools spec gpuType).debitGPUs gpuType a.gpuCount).rentGPUs
        gpuType (-a.gpuCount)).inUse k = _
      rw [rentGPUs_inUse, debitGPUs_inUse _ _ hcount, initPools_inUse]
      simp only [moved]
      split <;> omega
  | shortOfMemory =>
      change ((((c.initPools spec gpuType).debitGPUs gpuType
        a.gpuCount).debitCPU spec a.cpuCores).rentGPUs gpuType
          (-a.gpuCount)).inUse k = _
      rw [rentGPUs_inUse, debitCPU_inUse, debitGPUs_inUse _ _ hcount,
        initPools_inUse]
      simp only [moved]
      split <;> omega
  | granted =>
      simp [moved, debitGPUs_inUse _ _ hcount]

theorem Allocation.moved_le {gpuType : String}
    {r : Outcome × ProviderCapacity} (h : Allocation spec c a gpuType r)
    (hready : c.PoolReady spec) (hcount : 0 ≤ a.gpuCount) (k : String) :
    moved gpuType a r.1 k = 0 ∨ moved gpuType a r.1 k ≤ c.available k := by
  cases h with
  | granted hgpus =>
      simp only [moved]
      split
      · rename_i hk
        subst hk
        by_cases hasked : 0 < a.gpuCount
        · have henough := hgpus hasked
          rw [initPools_available hready] at henough
          exact .inr henough
        · exact .inl (by omega)
      · exact .inl rfl
  | _ => exact .inl rfl

theorem Allocation.failed_gpus {gpuType message : String}
    (h : Allocation spec c a gpuType (.error message, c'))
    (hready : c.PoolReady spec) (hcount : 0 ≤ a.gpuCount) (k : String) :
    c'.available k = c.available k ∧ c'.inUse k = c.inUse k := by
  have havailable := h.available hready hcount k
  have hinUse := h.inUse hcount k
  simp only [moved, sub_zero, add_zero] at havailable hinUse
  exact ⟨havailable, hinUse⟩

theorem Allocation.granted_gpus {gpuType : String}
    (h : Allocation spec c a gpuType (.ok (), c'))
    (hready : c.PoolReady spec) (hcount : 0 ≤ a.gpuCount) (k : String) :
    c'.available k = c.available k - (if k = gpuType then a.gpuCount else 0) ∧
      c'.inUse k = c.inUse k + (if k = gpuType then a.gpuCount else 0) ∧
      (0 ≤ c.available k → 0 ≤ c'.available k) := by
  have havailable := h.available hready hcount k
  have hinUse := h.inUse hcount k
  have hmoved := h.moved_le hready hcount k
  simp only [moved] at havailable hinUse hmoved
  exact ⟨havailable, hinUse, by omega⟩

/-! ## What stays untouched -/

structure Keeps (c c' : ProviderCapacity) : Prop where
  mining : c'.miningGPUs = c.miningGPUs
  totals : c'.totalGPUs = c.totalGPUs
  available : c.availableGPUs ≠ none → c'.availableGPUs ≠ none
  inUse : c.inUseGPUs ≠ none → c'.inUseGPUs ≠ none

theorem Keeps.trans {c₁ c₂ c₃ : ProviderCapacity} (h₁ : Keeps c₁ c₂)
    (h₂ : Keeps c₂ c₃) : Keeps c₁ c₃ :=
  ⟨h₂.mining.trans h₁.mining, h₂.totals.trans h₁.totals,
    fun h => h₂.available (h₁.available h), fun h => h₂.inUse (h₁.inUse h)⟩

private theorem keeps_refl (c : ProviderCapacity) : Keeps c c :=
  ⟨rfl, rfl, id, id⟩

private theorem keeps_rentGPUs (c : ProviderCapacity) (gpuType : String) (n : ℤ) :
    Keeps c (c.rentGPUs gpuType n) :=
  ⟨rfl, rfl, fun _ => by simp [rentGPUs, NilMap.add],
    fun _ => by simp [rentGPUs, NilMap.add]⟩

theorem keeps_debitGPUs (c : ProviderCapacity) (gpuType : String) (n : ℤ) :
    Keeps c (c.debitGPUs gpuType n) := by
  unfold debitGPUs
  split
  · exact keeps_rentGPUs c gpuType n
  · exact keeps_refl c

private theorem keeps_initCPU (spec : SystemSpec) (c : ProviderCapacity) :
    Keeps c (c.initCPU spec) :=
  ⟨rfl, rfl, id, id⟩

private theorem keeps_initMemory (spec : SystemSpec) (c : ProviderCapacity) :
    Keeps c (c.initMemory spec) :=
  ⟨rfl, rfl, id, id⟩

private theorem keeps_rentCPU (c : ProviderCapacity) (n : ℤ) : Keeps c (c.rentCPU n) :=
  ⟨rfl, rfl, id, id⟩

theorem keeps_debitCPU (spec : SystemSpec) (c : ProviderCapacity) (n : ℤ) :
    Keeps c (c.debitCPU spec n) := by
  unfold debitCPU
  split <;> exact ⟨rfl, rfl, id, id⟩

private theorem keeps_debitMemory (spec : SystemSpec) (c : ProviderCapacity) (n : ℤ) :
    Keeps c (c.debitMemory spec n) := by
  unfold debitMemory
  split <;> exact ⟨rfl, rfl, id, id⟩

theorem Allocation.keeps {gpuType : String}
    {r : Outcome × ProviderCapacity} (h : Allocation spec c a gpuType r) :
    Keeps (c.initPools spec gpuType) r.2 := by
  have hgpus := keeps_debitGPUs (c.initPools spec gpuType) gpuType a.gpuCount
  cases h with
  | shortOfGPUs => exact keeps_refl _
  | shortOfCPU =>
      exact hgpus.trans ((keeps_initCPU spec _).trans (keeps_rentGPUs _ _ _))
  | shortOfMemory =>
      exact hgpus.trans ((keeps_debitCPU spec _ a.cpuCores).trans
        ((keeps_initMemory spec _).trans
          ((keeps_rentGPUs _ _ _).trans (keeps_rentCPU _ _))))
  | granted =>
      exact hgpus.trans ((keeps_debitCPU spec _ a.cpuCores).trans
        (keeps_debitMemory spec _ a.memoryMB))

theorem Allocation.frame {gpuType : String} {outcome : Outcome}
    (h : Allocation spec c a gpuType (outcome, c')) :
    (∀ k, c'.mining k = c.mining k) ∧ c'.totalGPUs = c.totalGPUs ∧
      c'.availableGPUs ≠ none ∧ c'.inUseGPUs ≠ none := by
  obtain ⟨havailable, hinUse⟩ := initPools_allocated spec c gpuType
  have hkept := h.keeps
  refine ⟨fun k => ?_, hkept.totals, hkept.available havailable,
    hkept.inUse hinUse⟩
  have hmining : c'.miningGPUs = c.miningGPUs := hkept.mining
  simp only [ProviderCapacity.mining, hmining]

/-! ## Release -/

theorem subtractClamped_of_le {x n : ℤ} (h : n ≤ x) :
    subtractClamped x n = x - n := by
  unfold subtractClamped
  split <;> omega

theorem subtractClamped_nonneg (x n : ℤ) : 0 ≤ subtractClamped x n := by
  unfold subtractClamped
  split <;> omega

theorem release_available (spec : SystemSpec) (c : ProviderCapacity)
    (gpuType : String) (gpuCount cpuCores memoryMB : ℤ) (k : String) :
    (releaseJobResources spec c gpuType gpuCount cpuCores memoryMB).available k =
      c.available k +
        if k = resolveGPUType spec gpuType then gpuCount else 0 := by
  simp only [ProviderCapacity.available, releaseJobResources, NilMap.count_add]

theorem release_inUse (spec : SystemSpec) {c : ProviderCapacity}
    (hpool : c.inUseGPUs ≠ none) (gpuType : String)
    (gpuCount cpuCores memoryMB : ℤ) (k : String) :
    (releaseJobResources spec c gpuType gpuCount cpuCores memoryMB).inUse k =
      if k = resolveGPUType spec gpuType then
        subtractClamped (c.inUse k) gpuCount
      else c.inUse k := by
  obtain ⟨pool, hpool⟩ := Option.ne_none_iff_exists'.mp hpool
  simp only [ProviderCapacity.inUse, releaseJobResources, hpool, NilMap.count,
    Option.map_some, Option.getD_some, CountMap.count_insert]
  split
  · rename_i hk
    rw [hk]
  · rfl

theorem release_inUse_of_nonneg (spec : SystemSpec) (c : ProviderCapacity)
    (gpuType : String) {gpuCount : ℤ} (hcount : 0 ≤ gpuCount)
    (cpuCores memoryMB : ℤ) (k : String) :
    (releaseJobResources spec c gpuType gpuCount cpuCores memoryMB).inUse k =
      if k = resolveGPUType spec gpuType then
        subtractClamped (c.inUse k) gpuCount
      else c.inUse k := by
  by_cases hpool : c.inUseGPUs = none
  · have hbefore : c.inUse k = 0 := by simp [ProviderCapacity.inUse, hpool]
    have hafter : (releaseJobResources spec c gpuType gpuCount cpuCores
        memoryMB).inUse k = 0 := by
      simp [ProviderCapacity.inUse, releaseJobResources, hpool]
    have hclamped : subtractClamped 0 gpuCount = 0 := by
      unfold subtractClamped
      split <;> omega
    rw [hafter, hbefore, hclamped, ite_self]
  · exact release_inUse spec hpool gpuType gpuCount cpuCores memoryMB k

theorem release_frame (spec : SystemSpec) (c : ProviderCapacity)
    (gpuType : String) (gpuCount cpuCores memoryMB : ℤ) :
    let c' := releaseJobResources spec c gpuType gpuCount cpuCores memoryMB
    c'.miningGPUs = c.miningGPUs ∧ c'.totalGPUs = c.totalGPUs ∧
      c'.availableGPUs ≠ none ∧ (c.inUseGPUs ≠ none → c'.inUseGPUs ≠ none) := by
  refine ⟨rfl, rfl, by simp [releaseJobResources, NilMap.add], fun hpool => ?_⟩
  simpa [releaseJobResources] using hpool

end WorldlandBroker.Provider
