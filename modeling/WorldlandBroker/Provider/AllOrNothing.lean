import WorldlandBroker.Provider.Requests

/-!
# What a refused allocation leaves behind

The debits are made only for amounts above zero, the rollback gives back the
amounts themselves.  A refused allocation leaves the pools as they were, up to
what it initialises, exactly when it rolls back nothing negative.
-/

namespace WorldlandBroker.Provider

open Foundation ProviderCapacity

/-- The pool has the amounts of `p₀`, or what a zero available amount is recomputed to. -/
structure Scalar.AsBefore (legacy reported : ℤ) (p₀ p : Scalar) : Prop where
  available : p.available = p₀.available ∨
    p₀.available = 0 ∧ p.available = (p₀.init legacy reported).available
  inUse : p.inUse = p₀.inUse
  mining : p.mining = p₀.mining

/--
The pools of `c` are those of `c₀`, except where `c₀` had no available pool or a
zero amount and `c` has what an allocation of this type initialises it to.
-/
structure AsBefore (spec : SystemSpec) (gpuType : String) (c₀ c : ProviderCapacity) :
    Prop where
  available : ∀ t, c.available t = c₀.available t ∨
    c₀.availableGPUs = none ∧ c.available t = (c₀.initPools spec gpuType).available t
  inUse : ∀ t, c.inUse t = c₀.inUse t
  mining : c.miningGPUs = c₀.miningGPUs
  cpu : c₀.cpuPool.AsBefore c₀.cpuCores spec.cpuCores c.cpuPool
  memory : c₀.memoryPool.AsBefore c₀.memoryMB spec.totalMemoryMB c.memoryPool

/-- Whatever the refusal rolls back, it has debited. -/
structure RollsBackDebits (spec : SystemSpec) (c : ProviderCapacity)
    (a : ResourceAllocation) : Prop where
  shortOfCPU : EnoughGPUs spec c a → ¬ EnoughCPU spec c a → 0 ≤ a.gpuCount
  shortOfMemory : EnoughGPUs spec c a → EnoughCPU spec c a → ¬ EnoughMemory spec c a →
    0 ≤ a.gpuCount ∧ 0 ≤ a.cpuCores

variable {spec : SystemSpec} {c c' : ProviderCapacity} {a : ResourceAllocation}
  {gpuType message : String}

/-! ## How an allocation is refused -/

inductive Refusal (spec : SystemSpec) (c : ProviderCapacity) (a : ResourceAllocation)
    (gpuType : String) : ProviderCapacity → Prop where
  | shortOfGPUs (hgpus : ¬ EnoughGPUs spec c a) :
      Refusal spec c a gpuType (c.initPools spec gpuType)
  | shortOfCPU (hgpus : EnoughGPUs spec c a) (hcpu : ¬ EnoughCPU spec c a) :
      Refusal spec c a gpuType
        ((((c.initPools spec gpuType).debitGPUs gpuType a.gpuCount).initCPU
          spec).rentGPUs gpuType (-a.gpuCount))
  | shortOfMemory (hgpus : EnoughGPUs spec c a) (hcpu : EnoughCPU spec c a)
      (hmemory : ¬ EnoughMemory spec c a) :
      Refusal spec c a gpuType
        ((((((c.initPools spec gpuType).debitGPUs gpuType a.gpuCount).debitCPU spec
          a.cpuCores).initMemory spec).rentGPUs gpuType (-a.gpuCount)).rentCPU
            (-a.cpuCores))

private theorem allocateMemory_refused (gpuType : String)
    (hpool : c'.memoryPool = c.memoryPool) (hlegacy : c'.memoryMB = c.memoryMB)
    (h : (allocateMemory spec c' gpuType a).1 = .error message) :
    ¬ EnoughMemory spec c a ∧ (allocateMemory spec c' gpuType a).2 =
      ((c'.initMemory spec).rentGPUs gpuType (-a.gpuCount)).rentCPU (-a.cpuCores) := by
  constructor
  · rw [← allocateMemory_eq_ok gpuType hpool hlegacy, h]
    simp
  · unfold allocateMemory at h ⊢
    split
    · rename_i hasked
      rw [if_pos hasked] at h
      simp only [] at h ⊢
      split
      · rfl
      · rename_i henough
        rw [if_neg henough] at h
        contradiction
    · rename_i hasked
      rw [if_neg hasked] at h
      contradiction

private theorem allocateCPU_refused (gpuType : String)
    (hpool : ∀ k : Pooled, k.pool c' = k.pool c)
    (hlegacy : ∀ k : Pooled, k.legacy c' = k.legacy c)
    (h : (allocateCPU spec c' gpuType a).1 = .error message) :
    (¬ EnoughCPU spec c a ∧ (allocateCPU spec c' gpuType a).2 =
        (c'.initCPU spec).rentGPUs gpuType (-a.gpuCount)) ∨
      (EnoughCPU spec c a ∧ ¬ EnoughMemory spec c a ∧
        (allocateCPU spec c' gpuType a).2 = (((c'.debitCPU spec a.cpuCores).initMemory
          spec).rentGPUs gpuType (-a.gpuCount)).rentCPU (-a.cpuCores)) := by
  have hcpuPool : c'.cpuPool = c.cpuPool := hpool .cpu
  have hcpuCores : c'.cpuCores = c.cpuCores := hlegacy .cpu
  unfold EnoughCPU
  rw [← hcpuPool, ← hcpuCores]
  unfold allocateCPU debitCPU at *
  by_cases hasked : 0 < a.cpuCores
  · rw [if_pos hasked] at h ⊢
    rw [if_pos hasked]
    simp only [] at h ⊢
    split
    · rename_i hshort
      exact .inl ⟨fun henough => absurd (henough hasked) (not_le.mpr hshort), rfl⟩
    · rename_i henough
      rw [if_neg henough] at h
      have hrented : ((c'.initCPU spec).rentCPU a.cpuCores).memoryPool = c.memoryPool :=
        hpool .memory
      obtain ⟨hmemory, hstate⟩ := allocateMemory_refused gpuType hrented
        (hlegacy .memory) h
      exact .inr ⟨fun _ => not_lt.mp henough, hmemory, hstate⟩
  · rw [if_neg hasked] at h ⊢
    rw [if_neg hasked]
    obtain ⟨hmemory, hstate⟩ := allocateMemory_refused gpuType (hpool .memory)
      (hlegacy .memory) h
    exact .inr ⟨fun hpositive => absurd hpositive hasked, hmemory, hstate⟩

theorem allocateResources_refused (h : (allocateResources spec c a).1 = .error message) :
    Refusal spec c a (resolveGPUType spec a.gpuType) (allocateResources spec c a).2 := by
  have hrest : ∀ c', (∀ k : Pooled, k.pool c' = k.pool c) →
      (∀ k : Pooled, k.legacy c' = k.legacy c) → EnoughGPUs spec c a →
      c' = (c.initPools spec (resolveGPUType spec a.gpuType)).debitGPUs
        (resolveGPUType spec a.gpuType) a.gpuCount →
      (allocateCPU spec c' (resolveGPUType spec a.gpuType) a).1 = .error message →
      Refusal spec c a (resolveGPUType spec a.gpuType)
        (allocateCPU spec c' (resolveGPUType spec a.gpuType) a).2 := by
    rintro c' hpool hlegacy hgpus rfl hrefused
    rcases allocateCPU_refused _ hpool hlegacy hrefused with
      ⟨hcpu, hstate⟩ | ⟨hcpu, hmemory, hstate⟩
    · rw [hstate]
      exact .shortOfCPU hgpus hcpu
    · rw [hstate]
      exact .shortOfMemory hgpus hcpu hmemory
  unfold allocateResources at h ⊢
  simp only [] at h ⊢
  by_cases hasked : 0 < a.gpuCount
  · rw [if_pos hasked] at h ⊢
    split
    · rename_i hshort
      exact .shortOfGPUs fun henough => absurd (henough hasked) (not_le.mpr hshort)
    · rename_i henough
      rw [if_neg henough] at h
      exact hrest _ (fun k => by cases k <;> rfl) (fun k => by cases k <;> rfl)
        (fun _ => not_lt.mp henough) (by rw [debitGPUs, if_pos hasked]) h
  · rw [if_neg hasked] at h ⊢
    exact hrest _ (fun k => by cases k <;> rfl) (fun k => by cases k <;> rfl)
      (fun hpositive => absurd hpositive hasked) (by rw [debitGPUs, if_neg hasked]) h

/-! ## What the rollback gives back -/

private theorem initPools_available_of_some (h : c.availableGPUs ≠ none) (gpuType k : String) :
    (c.initPools spec gpuType).available k = c.available k := by
  obtain ⟨pool, hpool⟩ := Option.ne_none_iff_exists'.mp h
  simp only [initPools, ProviderCapacity.available, hpool]

private theorem debitGPUs_returned_available (c : ProviderCapacity) (gpuType k : String) (n : ℤ) :
    ((c.debitGPUs gpuType n).rentGPUs gpuType (-n)).available k =
      c.available k + if k = gpuType then min n 0 else 0 := by
  rw [rentGPUs_available]
  by_cases hn : 0 ≤ n
  · rw [debitGPUs_available _ _ hn]
    split <;> omega
  · rw [debitGPUs, if_neg (by omega)]
    split <;> omega

private theorem debitGPUs_returned_inUse (c : ProviderCapacity) (gpuType k : String) (n : ℤ) :
    ((c.debitGPUs gpuType n).rentGPUs gpuType (-n)).inUse k =
      c.inUse k - if k = gpuType then min n 0 else 0 := by
  rw [rentGPUs_inUse]
  by_cases hn : 0 ≤ n
  · rw [debitGPUs_inUse _ _ hn]
    split <;> omega
  · rw [debitGPUs, if_neg (by omega)]
    split <;> omega

private theorem debitCPU_returned_inUse (spec : SystemSpec) (c : ProviderCapacity) (n : ℤ) :
    ((c.debitCPU spec n).rentCPU (-n)).inUseCPUCores = c.inUseCPUCores - min n 0 := by
  unfold debitCPU
  split
  · simp only [rentCPU, initCPU]
    omega
  · simp only [rentCPU]
    omega

/-- Recomputing touches an available amount only where it is zero. -/
theorem initAvailable_eq (available total inUse mining : ℤ) :
    initAvailable available total inUse mining = available ∨ available = 0 := by
  unfold initAvailable
  split
  · rename_i hunset
    exact .inr hunset.1
  · exact .inl rfl

theorem debitGPUs_pool (c : ProviderCapacity) (gpuType : String) (n : ℤ) (k : Pooled) :
    k.pool (c.debitGPUs gpuType n) = k.pool c ∧
      k.legacy (c.debitGPUs gpuType n) = k.legacy c := by
  unfold debitGPUs
  cases k <;> split <;> exact ⟨rfl, rfl⟩

/-! ## When the pools are as before -/

theorem Scalar.init_asBefore (p : Scalar) (legacy reported : ℤ) :
    p.AsBefore legacy reported (p.init legacy reported) where
  available := (initAvailable_eq p.available _ p.inUse p.mining).imp_right
    fun hunset => ⟨hunset, rfl⟩
  inUse := rfl
  mining := rfl

theorem Scalar.asBefore_self (p : Scalar) (legacy reported : ℤ) :
    p.AsBefore legacy reported p :=
  ⟨.inl rfl, rfl, rfl⟩

private theorem initCPU_asBefore (spec : SystemSpec) (hpool : c'.cpuPool = c.cpuPool)
    (hlegacy : c'.cpuCores = c.cpuCores) :
    c.cpuPool.AsBefore c.cpuCores spec.cpuCores (c'.initCPU spec).cpuPool := by
  rw [← hpool, ← hlegacy]
  exact c'.cpuPool.init_asBefore _ _

private theorem initMemory_asBefore (spec : SystemSpec) (hpool : c'.memoryPool = c.memoryPool)
    (hlegacy : c'.memoryMB = c.memoryMB) :
    c.memoryPool.AsBefore c.memoryMB spec.totalMemoryMB (c'.initMemory spec).memoryPool := by
  rw [← hpool, ← hlegacy]
  exact c'.memoryPool.init_asBefore _ _

private theorem debitCPU_returned_asBefore (spec : SystemSpec) (hpool : c'.cpuPool = c.cpuPool)
    (hlegacy : c'.cpuCores = c.cpuCores) {n : ℤ} (hn : 0 ≤ n) :
    c.cpuPool.AsBefore c.cpuCores spec.cpuCores
      ((c'.debitCPU spec n).cpuPool.rent (-n)) := by
  unfold debitCPU
  split
  · change c.cpuPool.AsBefore _ _ (((c'.initCPU spec).cpuPool.rent n).rent (-n))
    rw [Scalar.rent_neg_rent]
    exact initCPU_asBefore spec hpool hlegacy
  · have hzero : n = 0 := by omega
    rw [hzero, Scalar.rent_neg_zero, hpool]
    exact c.cpuPool.asBefore_self _ _

theorem AsBefore.refl (spec : SystemSpec) (gpuType : String) (c : ProviderCapacity) :
    AsBefore spec gpuType c c where
  available _ := .inl rfl
  inUse _ := rfl
  mining := rfl
  cpu := c.cpuPool.asBefore_self _ _
  memory := c.memoryPool.asBefore_self _ _

theorem initPools_asBefore (spec : SystemSpec) (gpuType : String) (c : ProviderCapacity) :
    AsBefore spec gpuType c (c.initPools spec gpuType) where
  available t := by
    by_cases hpool : c.availableGPUs = none
    · exact .inr ⟨hpool, rfl⟩
    · exact .inl (initPools_available_of_some hpool gpuType t)
  inUse t := initPools_inUse gpuType t
  mining := rfl
  cpu := c.cpuPool.asBefore_self _ _
  memory := c.memoryPool.asBefore_self _ _

theorem AsBefore.of_returned {gpuType : String} {n : ℤ} (hn : 0 ≤ n)
    (havailable : ∀ t, c'.available t =
      (((c.initPools spec gpuType).debitGPUs gpuType n).rentGPUs gpuType (-n)).available t)
    (hinUse : ∀ t, c'.inUse t =
      (((c.initPools spec gpuType).debitGPUs gpuType n).rentGPUs gpuType (-n)).inUse t)
    (hmining : c'.miningGPUs = c.miningGPUs)
    (hcpu : c.cpuPool.AsBefore c.cpuCores spec.cpuCores c'.cpuPool)
    (hmemory : c.memoryPool.AsBefore c.memoryMB spec.totalMemoryMB c'.memoryPool) :
    AsBefore spec gpuType c c' where
  available t := by
    have hreturned := havailable t
    rw [debitGPUs_returned_available, min_eq_right hn, ite_self, add_zero] at hreturned
    rw [hreturned]
    exact (initPools_asBefore spec gpuType c).available t
  inUse t := by
    rw [hinUse, debitGPUs_returned_inUse, min_eq_right hn, ite_self, sub_zero,
      initPools_inUse]
  mining := hmining
  cpu := hcpu
  memory := hmemory

theorem Refusal.miningGPUs (h : Refusal spec c a gpuType c') :
    c'.miningGPUs = c.miningGPUs := by
  cases h with
  | shortOfGPUs => rfl
  | shortOfCPU => exact (keeps_debitGPUs _ gpuType _).mining
  | shortOfMemory =>
      exact (keeps_debitCPU spec _ _).mining.trans (keeps_debitGPUs _ gpuType _).mining

theorem Refusal.asBefore (h : Refusal spec c a gpuType c')
    (hdebits : RollsBackDebits spec c a) : AsBefore spec gpuType c c' := by
  have hdebited (k : Pooled) :
      k.pool ((c.initPools spec gpuType).debitGPUs gpuType a.gpuCount) = k.pool c ∧
        k.legacy ((c.initPools spec gpuType).debitGPUs gpuType a.gpuCount) = k.legacy c := by
    have hkept := debitGPUs_pool (c.initPools spec gpuType) gpuType a.gpuCount k
    cases k <;> exact hkept
  have hmemoryPool := (hdebited .memory).1
  have hcpuPool := (hdebited .cpu).1
  have hcpuCores := (hdebited .cpu).2
  have hmining := h.miningGPUs
  cases h with
  | shortOfGPUs => exact initPools_asBefore spec gpuType c
  | shortOfCPU henough hshort =>
      apply AsBefore.of_returned (hdebits.shortOfCPU henough hshort)
      · intro t
        rfl
      · intro t
        rfl
      · exact hmining
      · exact initCPU_asBefore spec hcpuPool hcpuCores
      · change c.memoryPool.AsBefore _ _ (Pooled.pool
          ((c.initPools spec gpuType).debitGPUs gpuType a.gpuCount) .memory)
        rw [hmemoryPool]
        exact c.memoryPool.asBefore_self _ _
  | shortOfMemory henough hcpu hshort =>
      obtain ⟨hcount, hcores⟩ := hdebits.shortOfMemory henough hcpu hshort
      have hmemory := debitCPU_memory spec
        ((c.initPools spec gpuType).debitGPUs gpuType a.gpuCount) a.cpuCores
      apply AsBefore.of_returned hcount
      · intro t
        change ((((c.initPools spec gpuType).debitGPUs gpuType a.gpuCount).debitCPU spec
          a.cpuCores).rentGPUs gpuType (-a.gpuCount)).available t = _
        rw [rentGPUs_available, rentGPUs_available, debitCPU_available]
      · intro t
        change ((((c.initPools spec gpuType).debitGPUs gpuType a.gpuCount).debitCPU spec
          a.cpuCores).rentGPUs gpuType (-a.gpuCount)).inUse t = _
        rw [rentGPUs_inUse, rentGPUs_inUse, debitCPU_inUse]
      · exact hmining
      · exact debitCPU_returned_asBefore spec hcpuPool hcpuCores hcores
      · exact initMemory_asBefore spec (hmemory.1.trans hmemoryPool)
          (hmemory.2.trans (hdebited .memory).2)

/-- The amounts in use say whether anything negative was rolled back. -/
theorem Refusal.rollsBackDebits {t : String} (h : Refusal spec c a gpuType c')
    (hbefore : AsBefore spec t c c') : RollsBackDebits spec c a := by
  have hinUse := hbefore.inUse gpuType
  have hcpu := hbefore.cpu.inUse
  cases h with
  | shortOfGPUs hshort =>
      exact ⟨fun henough => absurd henough hshort, fun henough => absurd henough hshort⟩
  | shortOfCPU henough hshort =>
      change (((c.initPools spec gpuType).debitGPUs gpuType a.gpuCount).rentGPUs gpuType
        (-a.gpuCount)).inUse gpuType = _ at hinUse
      rw [debitGPUs_returned_inUse, if_pos rfl, initPools_inUse] at hinUse
      exact ⟨fun _ _ => by omega, fun _ hcpu => absurd hcpu hshort⟩
  | shortOfMemory henough hcores hshort =>
      change ((((c.initPools spec gpuType).debitGPUs gpuType a.gpuCount).debitCPU spec
        a.cpuCores).rentGPUs gpuType (-a.gpuCount)).inUse gpuType = _ at hinUse
      rw [rentGPUs_inUse, debitCPU_inUse, ← rentGPUs_inUse, debitGPUs_returned_inUse,
        if_pos rfl, initPools_inUse] at hinUse
      change ((((c.initPools spec gpuType).debitGPUs gpuType a.gpuCount).debitCPU spec
        a.cpuCores).rentCPU (-a.cpuCores)).inUseCPUCores = _ at hcpu
      rw [debitCPU_returned_inUse] at hcpu
      have hkept : ((c.initPools spec gpuType).debitGPUs gpuType
          a.gpuCount).inUseCPUCores = c.inUseCPUCores :=
        congrArg Scalar.inUse
          (debitGPUs_pool (c.initPools spec gpuType) gpuType a.gpuCount .cpu).1
      have hpool : c.cpuPool.inUse = c.inUseCPUCores := rfl
      rw [hkept, hpool] at hcpu
      exact ⟨fun _ hnone => absurd hcores hnone, fun _ _ _ => ⟨by omega, by omega⟩⟩

def AllOrNothing (spec : SystemSpec) (c : ProviderCapacity) (a : ResourceAllocation) :
    Prop :=
  (allocateResources spec c a).1 ≠ .ok () →
    AsBefore spec (resolveGPUType spec a.gpuType) c (allocateResources spec c a).2

/-- `AllocateResources` is all-or-nothing exactly where it rolls back nothing negative. -/
theorem allocateResources_all_or_nothing_iff (spec : SystemSpec) (c : ProviderCapacity)
    (a : ResourceAllocation) :
    AllOrNothing spec c a ↔ RollsBackDebits spec c a := by
  unfold AllOrNothing
  cases hresult : (allocateResources spec c a).1 with
  | ok =>
      obtain ⟨hgpus, hcpu, hmemory⟩ := allocateResources_eq_ok.mp hresult
      constructor
      · intro _
        exact ⟨fun _ hshort => absurd hcpu hshort, fun _ _ hshort => absurd hmemory hshort⟩
      · intro _ hrefused
        exact absurd rfl hrefused
  | error message =>
      have hrefusal := allocateResources_refused hresult
      constructor
      · intro hbefore
        exact hrefusal.rollsBackDebits (hbefore (by simp))
      · intro hdebits _
        exact hrefusal.asBefore hdebits

/-- Minus four cores and too much memory: the rollback gives back the minus four. -/
theorem negative_cores_rolled_back :
    ¬ ∀ (spec : SystemSpec) (c : ProviderCapacity) (a : ResourceAllocation),
      AllOrNothing spec c a := by
  intro hall
  have hrefused := hall sampleSpec sampleCapacity ⟨"RTX 4090", 1, -4, 300000⟩
    (by decide)
  have hinUse : (allocateResources sampleSpec sampleCapacity
      ⟨"RTX 4090", 1, -4, 300000⟩).2.inUseCPUCores = 0 := hrefused.cpu.inUse
  revert hinUse
  decide

end WorldlandBroker.Provider
