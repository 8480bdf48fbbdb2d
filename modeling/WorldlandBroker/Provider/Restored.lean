import WorldlandBroker.Provider.AllOrNothing

/-!
# A granted allocation given back

`ReleaseResources` after `AllocateResources`, with the same allocation.  The two
read an omitted GPU type differently, a debit is made only for an amount above
zero, and a release keeps the amounts in use from falling below zero.
-/

namespace WorldlandBroker.Provider

open Foundation ProviderCapacity

def releasedGPUType (spec : SystemSpec) (a : ResourceAllocation) : String :=
  resolveGPUType spec (releaseGPUType a.gpuType)

structure Restorable (spec : SystemSpec) (c : ProviderCapacity) (a : ResourceAllocation) :
    Prop where
  gpuType : a.gpuCount = 0 ∨ resolveGPUType spec a.gpuType = releasedGPUType spec a
  gpuCount : 0 ≤ a.gpuCount
  asked : ∀ k : Pooled, 0 ≤ k.asked a
  gpusInUse : 0 ≤ c.inUse (releasedGPUType spec a)
  inUse : ∀ k : Pooled, 0 ≤ (k.pool c).inUse

/-- The request debits only what it asks for above zero. -/
def Scalar.debit (p : Scalar) (legacy reported n : ℤ) : Scalar :=
  if 0 < n then (p.init legacy reported).rent n else p

variable {spec : SystemSpec} {c c' : ProviderCapacity} {a : ResourceAllocation}
  {gpuType : String}

/-! ## CPU and memory -/

theorem Scalar.debit_giveBack_inUse (p : Scalar) (legacy reported n : ℤ) :
    ((p.debit legacy reported n).giveBack n).inUse = p.inUse ↔ 0 ≤ n ∧ 0 ≤ p.inUse := by
  unfold Scalar.debit
  split
  · have hgiven : (((p.init legacy reported).rent n).giveBack n).inUse =
        subtractClamped (p.inUse + n) n := rfl
    rw [hgiven, subtractClamped, add_sub_cancel_right]
    split <;> omega
  · simp only [Scalar.giveBack, subtractClamped]
    split <;> omega

theorem Scalar.debit_giveBack_mining (p : Scalar) (legacy reported n : ℤ) :
    ((p.debit legacy reported n).giveBack n).mining = p.mining := by
  unfold Scalar.debit
  split <;> rfl

theorem Scalar.debit_giveBack_asBefore {p : Scalar} {n : ℤ} (hn : 0 ≤ n)
    (hinUse : 0 ≤ p.inUse) (legacy reported : ℤ) :
    p.AsBefore legacy reported ((p.debit legacy reported n).giveBack n) := by
  refine ⟨?_, (p.debit_giveBack_inUse legacy reported n).mpr ⟨hn, hinUse⟩,
    p.debit_giveBack_mining legacy reported n⟩
  unfold Scalar.debit
  split
  · have havailable : (((p.init legacy reported).rent n).giveBack n).available =
        (p.init legacy reported).available := by
      simp only [Scalar.giveBack, Scalar.rent, sub_add_cancel]
    rw [havailable]
    exact (p.init_asBefore legacy reported).available
  · have hzero : n = 0 := by omega
    simp [Scalar.giveBack, hzero]

private theorem debitCPU_cpuPool (spec : SystemSpec) (c : ProviderCapacity) (n : ℤ) :
    (c.debitCPU spec n).cpuPool = c.cpuPool.debit c.cpuCores spec.cpuCores n := by
  unfold debitCPU Scalar.debit
  split <;> rfl

private theorem debitMemory_memoryPool (spec : SystemSpec) (c : ProviderCapacity) (n : ℤ) :
    (c.debitMemory spec n).memoryPool =
      c.memoryPool.debit c.memoryMB spec.totalMemoryMB n := by
  unfold debitMemory Scalar.debit
  split <;> rfl

/-! ## What a granted request leaves -/

private theorem allocateResources_granted (h : (allocateResources spec c a).1 = .ok ()) :
    (allocateResources spec c a).2 =
      (((c.initPools spec (resolveGPUType spec a.gpuType)).debitGPUs
        (resolveGPUType spec a.gpuType) a.gpuCount).debitCPU spec a.cpuCores).debitMemory
          spec a.memoryMB := by
  have hallocation := allocateResources_allocation spec c a
  generalize allocateResources spec c a = r at h hallocation ⊢
  cases hallocation with
  | granted => rfl
  | _ => contradiction

private theorem allocateResources_granted_pool (h : (allocateResources spec c a).1 = .ok ())
    (k : Pooled) :
    k.pool (allocateResources spec c a).2 =
      (k.pool c).debit (k.legacy c) (k.reported spec) (k.asked a) := by
  rw [allocateResources_granted h]
  have hdebited := debitGPUs_pool (c.initPools spec (resolveGPUType spec a.gpuType))
    (resolveGPUType spec a.gpuType) a.gpuCount k
  generalize (c.initPools spec (resolveGPUType spec a.gpuType)).debitGPUs
    (resolveGPUType spec a.gpuType) a.gpuCount = debited at hdebited ⊢
  cases k with
  | cpu =>
      have hpool : debited.cpuPool = c.cpuPool := hdebited.1
      have hlegacy : debited.cpuCores = c.cpuCores := hdebited.2
      change ((debited.debitCPU spec a.cpuCores).debitMemory spec a.memoryMB).cpuPool = _
      rw [debitMemory_cpuPool, debitCPU_cpuPool, hpool, hlegacy]
      rfl
  | memory =>
      have hpool : debited.memoryPool = c.memoryPool := hdebited.1
      have hlegacy : debited.memoryMB = c.memoryMB := hdebited.2
      obtain ⟨hkept, hlegacyKept⟩ := debitCPU_memory spec debited a.cpuCores
      change ((debited.debitCPU spec a.cpuCores).debitMemory spec
        a.memoryMB).memoryPool = _
      rw [debitMemory_memoryPool, hkept, hlegacyKept, hpool, hlegacy]
      rfl

theorem allocateResources_granted_inUse (h : (allocateResources spec c a).1 = .ok ())
    (k : String) :
    (allocateResources spec c a).2.inUse k =
      c.inUse k + if k = resolveGPUType spec a.gpuType then max a.gpuCount 0 else 0 := by
  rw [allocateResources_granted h, debitMemory_inUse, debitCPU_inUse]
  unfold debitGPUs
  split
  · rw [rentGPUs_inUse, initPools_inUse, max_eq_left (by omega)]
  · rw [initPools_inUse, max_eq_right (by omega), ite_self, add_zero]

private theorem allocateResources_granted_available (h : (allocateResources spec c a).1 = .ok ())
    (k : String) :
    (allocateResources spec c a).2.available k =
      (c.initPools spec (resolveGPUType spec a.gpuType)).available k -
        if k = resolveGPUType spec a.gpuType then max a.gpuCount 0 else 0 := by
  rw [allocateResources_granted h, debitMemory_available, debitCPU_available]
  unfold debitGPUs
  split
  · rw [rentGPUs_available, max_eq_left (by omega)]
  · rw [max_eq_right (by omega), ite_self, sub_zero]

private theorem allocateResources_allocated (spec : SystemSpec) (c : ProviderCapacity)
    (a : ResourceAllocation) : (allocateResources spec c a).2.inUseGPUs ≠ none :=
  (allocateResources_allocation spec c a).keeps.inUse
    (initPools_allocated spec c (resolveGPUType spec a.gpuType)).2

/-! ## What the release makes of it -/

private theorem restored_inUse (spec : SystemSpec) (c : ProviderCapacity)
    (a : ResourceAllocation) (k : String) :
    (releaseResources spec (allocateResources spec c a).2 a).inUse k =
      if k = releasedGPUType spec a then
        subtractClamped ((allocateResources spec c a).2.inUse k) a.gpuCount
      else (allocateResources spec c a).2.inUse k :=
  release_inUse spec (allocateResources_allocated spec c a) _ _ _ _ k

/-- Restored GPUs in use tell that the release met the allocation's own pool. -/
theorem gpus_restored_iff (h : (allocateResources spec c a).1 = .ok ()) :
    (∀ k, (releaseResources spec (allocateResources spec c a).2 a).inUse k = c.inUse k) ↔
      (a.gpuCount = 0 ∨ resolveGPUType spec a.gpuType = releasedGPUType spec a) ∧
        0 ≤ a.gpuCount ∧ 0 ≤ c.inUse (releasedGPUType spec a) := by
  constructor
  · intro hrestored
    have hreleased := hrestored (releasedGPUType spec a)
    rw [restored_inUse, if_pos rfl, allocateResources_granted_inUse h] at hreleased
    have hallocated := hrestored (resolveGPUType spec a.gpuType)
    rw [restored_inUse, allocateResources_granted_inUse h, if_pos rfl] at hallocated
    unfold subtractClamped at hreleased hallocated
    by_cases hsame : resolveGPUType spec a.gpuType = releasedGPUType spec a
    · rw [hsame, if_pos rfl] at hreleased
      refine ⟨.inr hsame, ?_⟩
      split at hreleased <;> omega
    · rw [if_neg hsame] at hallocated
      rw [if_neg (Ne.symm hsame)] at hreleased
      split at hreleased <;> omega
  · rintro ⟨hsame, hcount, hinUse⟩ k
    rw [restored_inUse, allocateResources_granted_inUse h, max_eq_left hcount]
    split
    · rename_i hk
      rw [hk, subtractClamped]
      rcases hsame with hzero | hsame
      · rw [hzero, ite_self]
        split <;> omega
      · rw [hsame, if_pos rfl]
        split <;> omega
    · rename_i hk
      rcases hsame with hzero | hsame
      · rw [hzero, ite_self, add_zero]
      · rw [hsame, if_neg hk, add_zero]

private theorem gpus_restored_available (h : (allocateResources spec c a).1 = .ok ())
    (hsame : a.gpuCount = 0 ∨ resolveGPUType spec a.gpuType = releasedGPUType spec a)
    (hcount : 0 ≤ a.gpuCount) (k : String) :
    (releaseResources spec (allocateResources spec c a).2 a).available k =
      (c.initPools spec (resolveGPUType spec a.gpuType)).available k := by
  have hreleased : (releaseResources spec (allocateResources spec c a).2 a).available k =
      (allocateResources spec c a).2.available k +
        if k = releasedGPUType spec a then a.gpuCount else 0 :=
    release_available spec _ _ _ _ _ k
  rw [hreleased, allocateResources_granted_available h, max_eq_left hcount]
  rcases hsame with hzero | hsame
  · simp only [hzero, ite_self, sub_zero, add_zero]
  · rw [hsame]
    omega

/-! ## When a release restores -/

theorem Restorable.asBefore (hrestorable : Restorable spec c a)
    (h : (allocateResources spec c a).1 = .ok ()) :
    AsBefore spec (resolveGPUType spec a.gpuType) c
      (releaseResources spec (allocateResources spec c a).2 a) where
  available k := by
    rw [gpus_restored_available h hrestorable.gpuType hrestorable.gpuCount]
    exact (initPools_asBefore spec _ c).available k
  inUse := (gpus_restored_iff h).mpr
    ⟨hrestorable.gpuType, hrestorable.gpuCount, hrestorable.gpusInUse⟩
  mining := (allocateResources_allocation spec c a).keeps.mining
  cpu := by
    have hpool := releaseResources_pool spec (allocateResources spec c a).2 a .cpu
    rw [allocateResources_granted_pool h] at hpool
    change (releaseResources spec (allocateResources spec c a).2 a).cpuPool = _ at hpool
    rw [hpool]
    exact Scalar.debit_giveBack_asBefore (hrestorable.asked .cpu)
      (hrestorable.inUse .cpu) _ _
  memory := by
    have hpool := releaseResources_pool spec (allocateResources spec c a).2 a .memory
    rw [allocateResources_granted_pool h] at hpool
    change (releaseResources spec (allocateResources spec c a).2 a).memoryPool = _ at hpool
    rw [hpool]
    exact Scalar.debit_giveBack_asBefore (hrestorable.asked .memory)
      (hrestorable.inUse .memory) _ _

theorem Restorable.of_inUse (h : (allocateResources spec c a).1 = .ok ())
    (hgpus : ∀ k, (releaseResources spec (allocateResources spec c a).2 a).inUse k =
      c.inUse k)
    (hpools : ∀ k : Pooled, (k.pool (releaseResources spec
      (allocateResources spec c a).2 a)).inUse = (k.pool c).inUse) :
    Restorable spec c a := by
  obtain ⟨hsame, hcount, hinUse⟩ := (gpus_restored_iff h).mp hgpus
  have hpool (k : Pooled) : 0 ≤ k.asked a ∧ 0 ≤ (k.pool c).inUse := by
    have hrestored := hpools k
    rw [releaseResources_pool, allocateResources_granted_pool h] at hrestored
    exact (Scalar.debit_giveBack_inUse _ _ _ _).mp hrestored
  exact ⟨hsame, hcount, fun k => (hpool k).1, hinUse, fun k => (hpool k).2⟩

theorem AsBefore.pool_inUse (h : AsBefore spec gpuType c c') (k : Pooled) :
    (k.pool c').inUse = (k.pool c).inUse := by
  cases k with
  | cpu => exact h.cpu.inUse
  | memory => exact h.memory.inUse

theorem release_restores_iff (h : (allocateResources spec c a).1 = .ok ()) :
    AsBefore spec (resolveGPUType spec a.gpuType) c
        (releaseResources spec (allocateResources spec c a).2 a) ↔
      Restorable spec c a :=
  ⟨fun hbefore => .of_inUse h hbefore.inUse hbefore.pool_inUse,
    fun hrestorable => hrestorable.asBefore h⟩

end WorldlandBroker.Provider
