import WorldlandBroker.Provider.Deployment
import WorldlandBroker.Provider.Grants

/-!
# What the helpers report and what the allocator grants

`AvailableGPUCount`, `GetAvailableCPUCores` and `GetAvailableMemoryMB` beside
`AllocateResources`, at any ledger that the calls on it can reach.  While a pool
has something left the two go by the same number.  Once it is exhausted the
helpers fall back to the legacy field and the allocator to the total.
-/

namespace WorldlandBroker.Provider

open Foundation ProviderCapacity

/-! ## The calls on one ledger -/

inductive CapacityCall where
  | allocateResources (a : ResourceAllocation)
  | releaseResources (a : ResourceAllocation)
  | releaseJobResources (gpuType : String) (gpuCount cpuCores memoryMB : ℤ)
  | allocateMiningGPU (gpuType : String) (count : ℤ)
  | releaseMiningGPU (gpuType : String) (count : ℤ)
  | deployMiningForProvider (config : MiningConfig) (first : Option String)
      (deployed : Outcome)
  | stopMiningForProvider (deleted : Outcome)
  | syncMiningPodStates (reported : Except String String)

def capacityStep (providerID : String) (spec : SystemSpec) (c : ProviderCapacity) :
    CapacityCall → Option ProviderCapacity
  | .allocateResources a => some (allocateResources spec c a).2
  | .releaseResources a => some (releaseResources spec c a)
  | .releaseJobResources gpuType gpuCount cpuCores memoryMB =>
      some (releaseJobResources spec c gpuType gpuCount cpuCores memoryMB)
  | .allocateMiningGPU gpuType count => some (allocateMiningGPU c gpuType count).2
  | .releaseMiningGPU gpuType count => some (releaseMiningGPU c gpuType count).2
  | .deployMiningForProvider config first deployed =>
      some (deployMiningForProvider providerID spec c config first deployed).2
  | .stopMiningForProvider deleted => some (stopMiningForProvider c deleted).2
  | .syncMiningPodStates reported => some (syncMiningPodState c reported)

/-- No caller asks for fewer than no GPUs; CPU and memory may be any number. -/
def countedCall : Guard ProviderCapacity CapacityCall := fun _ _ call =>
  match call with
  | .allocateResources a | .releaseResources a => 0 ≤ a.gpuCount
  | .releaseJobResources _ gpuCount _ _ => 0 ≤ gpuCount
  | .allocateMiningGPU _ count | .releaseMiningGPU _ count => 1 ≤ count
  | .deployMiningForProvider config _ _ => 0 ≤ config.gpuCount
  | .stopMiningForProvider _ | .syncMiningPodStates _ => True

/-! ## What every call keeps -/

structure ScalarCounted (p : Scalar) : Prop where
  total : 0 < p.total
  inUse : 0 ≤ p.inUse

structure Counted (c : ProviderCapacity) : Prop extends Initialised c where
  scalar : ∀ k : Pooled, ScalarCounted (k.pool c)

variable {spec : SystemSpec} {c c' : ProviderCapacity} {p : Scalar}
  {a : ResourceAllocation} {gpuType : String}

theorem ScalarCounted.init (h : ScalarCounted p) (legacy reported : ℤ) :
    ScalarCounted (p.init legacy reported) := by
  have htotal : (p.init legacy reported).total = p.total := by
    have hpositive := h.total
    simp only [Scalar.init, initTotal]
    rw [if_neg (by omega)]
  exact ⟨htotal ▸ h.total, h.inUse⟩

theorem ScalarCounted.rent (h : ScalarCounted p) {n : ℤ} (hn : -p.inUse ≤ n) :
    ScalarCounted (p.rent n) := by
  refine ⟨h.total, ?_⟩
  simp only [Scalar.rent]
  omega

theorem ScalarCounted.giveBack (h : ScalarCounted p) (n : ℤ) :
    ScalarCounted (p.giveBack n) :=
  ⟨h.total, subtractClamped_nonneg p.inUse n⟩

theorem ScalarCounted.debitCPU (h : ScalarCounted c.cpuPool) (spec : SystemSpec) (n : ℤ) :
    ScalarCounted (c.debitCPU spec n).cpuPool ∧
      ScalarCounted ((c.debitCPU spec n).cpuPool.rent (-n)) := by
  have hinUse := h.inUse
  unfold ProviderCapacity.debitCPU
  split
  · have hpool := h.init c.cpuCores spec.cpuCores
    change ScalarCounted (((c.cpuPool.init c.cpuCores spec.cpuCores)).rent n) ∧
      ScalarCounted (((c.cpuPool.init c.cpuCores spec.cpuCores).rent n).rent (-n))
    rw [Scalar.rent_neg_rent]
    exact ⟨hpool.rent (by have := hpool.inUse; omega), hpool⟩
  · exact ⟨h, h.rent (by omega)⟩

theorem ScalarCounted.debitMemory (h : ScalarCounted c.memoryPool) (spec : SystemSpec)
    (n : ℤ) : ScalarCounted (c.debitMemory spec n).memoryPool := by
  unfold ProviderCapacity.debitMemory
  split
  · have hpool := h.init c.memoryMB spec.totalMemoryMB
    exact hpool.rent (by have := hpool.inUse; omega)
  · exact h

theorem Counted.allocate_scalar (h : Counted c) (spec : SystemSpec) (a : ResourceAllocation)
    (k : Pooled) :
    ScalarCounted (k.pool (allocateResources spec c a).2) := by
  obtain ⟨hcpuPool, hmemoryPool⟩ :=
    debited_scalars spec c (resolveGPUType spec a.gpuType) a.gpuCount
  have hcpu : ScalarCounted c.cpuPool := h.scalar .cpu
  have hmemory : ScalarCounted c.memoryPool := h.scalar .memory
  rw [← hcpuPool] at hcpu
  rw [← hmemoryPool] at hmemory
  have hdebited := hcpu.debitCPU spec a.cpuCores
  obtain ⟨hkept, -⟩ := debitCPU_memory spec
    ((c.initPools spec (resolveGPUType spec a.gpuType)).debitGPUs
      (resolveGPUType spec a.gpuType) a.gpuCount) a.cpuCores
  have hallocation := allocateResources_allocation spec c a
  generalize allocateResources spec c a = r at hallocation ⊢
  cases hallocation with
  | shortOfGPUs => exact h.scalar k
  | shortOfCPU =>
      cases k with
      | cpu => exact hcpu.init _ _
      | memory => exact hmemory
  | shortOfMemory =>
      rw [← hkept] at hmemory
      cases k with
      | cpu => exact hdebited.2
      | memory => exact hmemory.init _ _
  | granted =>
      rw [← hkept] at hmemory
      cases k with
      | cpu =>
          change ScalarCounted (cpuPool _)
          rw [debitMemory_cpuPool]
          exact hdebited.1
      | memory => exact hmemory.debitMemory spec a.memoryMB

theorem Counted.allocate (h : Counted c) (hcount : 0 ≤ a.gpuCount) :
    Counted (allocateResources spec c a).2 := by
  have hscalar := h.allocate_scalar spec a
  have hready : c.PoolReady spec := fun hnone => absurd hnone h.pool
  have hallocation := allocateResources_allocation spec c a
  rcases hresult : allocateResources spec c a with ⟨outcome, c'⟩
  rw [hresult] at hallocation hscalar
  obtain ⟨hmining, -, hpool, -⟩ := hallocation.frame
  have havailable := hallocation.available hready hcount
  have hinUse := hallocation.inUse hcount
  have henough := hallocation.moved_le hready hcount
  have hmoved (t : String) : 0 ≤ moved (resolveGPUType spec a.gpuType) a outcome t := by
    cases outcome with
    | error message => exact le_rfl
    | ok =>
        simp only [moved]
        split
        · exact hcount
        · exact le_rfl
  refine ⟨⟨hpool, fun t => ?_, fun t => ?_, fun t => ?_⟩, hscalar⟩
  · have hbefore := h.available t
    have hafter := havailable t
    rcases henough t with hzero | hle <;> simp only at * <;> omega
  · have hbefore := h.inUse t
    have hafter := hinUse t
    have hcounted := hmoved t
    simp only at hafter ⊢
    omega
  · exact hmining t ▸ h.mining t

theorem Counted.releaseJob (h : Counted c) {gpuCount : ℤ} (hcount : 0 ≤ gpuCount)
    (gpuType : String) (cpuCores memoryMB : ℤ) :
    Counted (releaseJobResources spec c gpuType gpuCount cpuCores memoryMB) := by
  obtain ⟨-, -, hpool, -⟩ := release_frame spec c gpuType gpuCount cpuCores memoryMB
  refine ⟨⟨hpool, fun t => ?_, fun t => ?_, h.mining⟩, fun k => ?_⟩
  · have hbefore := h.available t
    rw [release_available]
    split <;> omega
  · rw [release_inUse_of_nonneg spec c gpuType hcount]
    split
    · exact subtractClamped_nonneg _ _
    · exact h.inUse t
  · cases k with
    | cpu => exact (h.scalar .cpu).giveBack cpuCores
    | memory => exact (h.scalar .memory).giveBack memoryMB

theorem Counted.shift {e : String → ℤ} (h : Counted c) (hshift : MiningShift c c' e)
    (hscalar : ∀ k : Pooled, ScalarCounted (k.pool c')) : Counted c' := by
  have hnonneg := hshift.nonneg h.available h.mining
  refine ⟨⟨hshift.pool h.pool, fun t => (hnonneg t).1, fun t => ?_,
    fun t => (hnonneg t).2⟩, hscalar⟩
  rw [ProviderCapacity.inUse, hshift.inUse]
  exact h.inUse t

private theorem offeredCount_nonneg (h : Counted c) (gpuType : String) :
    0 ≤ offeredCount spec c gpuType := by
  have hrecorded : recordedCount spec c gpuType = c.available gpuType := if_pos h.pool
  unfold offeredCount
  rw [hrecorded]
  split
  · omega
  · exact h.available gpuType

private theorem offered_nonneg (h : Counted c) (gpuType t : String) :
    0 ≤ (deployAvailable spec (deployPools spec c gpuType) gpuType).2.available t := by
  by_cases ht : t = gpuType
  · subst ht
    rw [offered_self]
    exact offeredCount_nonneg h t
  · rw [offered_other spec c ht, if_pos h.pool]
    exact h.available t

private theorem offered_pool (h : Counted c) (gpuType : String) :
    (deployAvailable spec (deployPools spec c gpuType) gpuType).2.availableGPUs ≠ none := by
  rw [deployPools_of_pool spec h.pool]
  unfold deployAvailable
  simp only []
  split_ifs
  · simp [NilMap.put]
  · exact h.pool
  · simp [NilMap.put]
  · exact h.pool

theorem Counted.offered (h : Counted c) (spec : SystemSpec) (gpuType : String) :
    Initialised (deployAvailable spec (deployPools spec c gpuType) gpuType).2 := by
  have heffect := offered_effect spec c gpuType
  have hmining := (deployAvailable_deployPools_mining spec c gpuType).gpus
  refine ⟨offered_pool h gpuType, offered_nonneg h gpuType, fun t => ?_, fun t => ?_⟩
  · rw [ProviderCapacity.inUse, heffect.inUse]
    exact h.inUse t
  · rw [ProviderCapacity.mining, hmining]
    exact h.mining t

private theorem offered_le (spec : SystemSpec) (c : ProviderCapacity) (gpuType : String) :
    (deployAvailable spec c gpuType).1 = 0 ∨
      (deployAvailable spec c gpuType).1 =
        (deployAvailable spec c gpuType).2.available gpuType := by
  rw [deployAvailable_pool]
  unfold deployAvailable
  simp only [true_and]
  by_cases hname : gpuType = ""
  · split_ifs <;> simp_all
  · simp only [hname, ne_eq, not_false_eq_true, if_true]
    split_ifs <;> simp

theorem Counted.deploy {config : MiningConfig} (h : Counted c)
    (hcount : 0 ≤ config.gpuCount) (providerID : String) (first : Option String)
    (deployed : Outcome) :
    Counted (deployMiningForProvider providerID spec c config first deployed).2 := by
  have hoffered := h.offered spec (deployGPUType spec first)
  have hle := offered_le spec (deployPools spec c (deployGPUType spec first))
    (deployGPUType spec first)
  refine ⟨?_, fun k => ?_⟩
  · unfold deployMiningForProvider
    simp only []
    split
    · exact hoffered
    · rename_i henough
      cases deployed with
      | error message => exact hoffered
      | ok =>
          refine ⟨by simp [NilMap.add], fun t => ?_, hoffered.inUse, fun t => ?_⟩
          · have hbefore := hoffered.available t
            simp only [ProviderCapacity.available, NilMap.count_add] at hbefore hle ⊢
            split
            · rename_i ht
              rw [ht] at hbefore ⊢
              omega
            · omega
          · have hbefore := hoffered.mining t
            simp only [ProviderCapacity.mining, NilMap.count_put] at hbefore ⊢
            split
            · exact hcount
            · exact hbefore
  · have hpool := h.scalar k
    rw [deployMining_pool]
    split
    · exact ⟨hpool.total, hpool.inUse⟩
    · exact hpool

theorem Counted.kept_scalar (h : Counted c)
    (hpool : ∀ k : Pooled, k.pool c' = k.pool c ∨ k.pool c' = { k.pool c with mining := 0 })
    (k : Pooled) : ScalarCounted (k.pool c') := by
  have hscalar := h.scalar k
  rcases hpool k with hsame | hcleared
  · rw [hsame]
    exact hscalar
  · rw [hcleared]
    exact ⟨hscalar.total, hscalar.inUse⟩

theorem Counted.step {providerID : String} {past : List (Transition _ _)}
    {call : CapacityCall} (h : Counted c) (hcall : countedCall past c call)
    (hstep : capacityStep providerID spec c call = some c') : Counted c' := by
  cases call with
  | allocateResources a =>
      cases hstep
      exact h.allocate hcall
  | releaseResources a =>
      cases hstep
      exact h.releaseJob hcall _ _ _
  | releaseJobResources gpuType gpuCount cpuCores memoryMB =>
      cases hstep
      exact h.releaseJob hcall _ _ _
  | allocateMiningGPU gpuType count =>
      cases hstep
      obtain ⟨e, hshift⟩ := allocateMining_shift c gpuType hcall h.mining
      refine h.shift hshift (h.kept_scalar fun k => .inl ?_)
      unfold allocateMiningGPU
      simp only []
      split
      · rfl
      · cases k <;> rfl
  | releaseMiningGPU gpuType count =>
      cases hstep
      obtain ⟨e, hshift⟩ := releaseMining_shift c gpuType hcall h.available
      refine h.shift hshift (h.kept_scalar fun k => .inl ?_)
      unfold releaseMiningGPU
      simp only []
      split
      · rfl
      · split
        · cases k <;> rfl
        · cases k <;> rfl
  | deployMiningForProvider config first deployed =>
      cases hstep
      exact h.deploy hcall providerID first deployed
  | stopMiningForProvider deleted =>
      cases hstep
      obtain ⟨e, hshift⟩ := stopMining_shift c deleted
      exact h.shift hshift (h.kept_scalar (stopMining_pool c deleted))
  | syncMiningPodStates reported =>
      cases hstep
      obtain ⟨e, hshift⟩ := syncMining_shift c reported
      exact h.shift hshift (h.kept_scalar (syncMining_pool c reported))

/-! ## A request for one resource alone -/

def GrantsReportedGPUs (spec : SystemSpec) (c : ProviderCapacity) (gpuType : String) : Prop :=
  ∀ n t, 1 ≤ n → resolveGPUType spec t = gpuType →
    ((allocateResources spec c ⟨t, n, 0, 0⟩).1 = .ok () ↔ n ≤ c.availableGPUCount)

namespace Pooled

def getAvailable (c : ProviderCapacity) : Pooled → ℤ
  | .cpu => c.getAvailableCPUCores
  | .memory => c.getAvailableMemoryMB

def alone (gpuType : String) (n : ℤ) : Pooled → ResourceAllocation
  | .cpu => ⟨gpuType, 0, n, 0⟩
  | .memory => ⟨gpuType, 0, 0, n⟩

def GrantsReported (spec : SystemSpec) (c : ProviderCapacity) (k : Pooled) : Prop :=
  ∀ n t, 1 ≤ n →
    ((allocateResources spec c (k.alone t n)).1 = .ok () ↔ n ≤ k.getAvailable c)

theorem getAvailable_eq (c : ProviderCapacity) (k : Pooled) :
    k.getAvailable c =
      if 0 < (k.pool c).available then (k.pool c).available
      else if 0 < k.legacy c then k.legacy c - (k.pool c).inUse
      else 0 := by
  cases k <;> rfl

theorem alone_granted (spec : SystemSpec) (c : ProviderCapacity) (k : Pooled)
    (gpuType : String) {n : ℤ} (hn : 1 ≤ n) :
    (allocateResources spec c (k.alone gpuType n)).1 = .ok () ↔
      n ≤ ((k.pool c).init (k.legacy c) (k.reported spec)).available := by
  have hasked : 0 < n := by omega
  rw [allocateResources_eq_ok]
  cases k with
  | cpu => simp [alone, EnoughGPUs, EnoughCPU, EnoughMemory, hasked, pool, legacy, reported]
  | memory => simp [alone, EnoughGPUs, EnoughCPU, EnoughMemory, hasked, pool, legacy, reported]

/--
An exhausted pool has nothing left by the legacy amount nor by the total, or the
two leave the same.
-/
def Accounted (c : ProviderCapacity) (k : Pooled) : Prop :=
  (k.pool c).available ≤ 0 →
    (k.legacy c ≤ (k.pool c).inUse ∧
      ((k.pool c).available = 0 → (k.pool c).total ≤ (k.pool c).inUse + (k.pool c).mining)) ∨
    ((k.pool c).available = 0 ∧ (k.pool c).total = k.legacy c + (k.pool c).mining)

end Pooled

/--
What is available is of this type alone; and when nothing is, every GPU of the
legacy count is rented.
-/
structure GPUsAccounted (c : ProviderCapacity) (gpuType : String) : Prop where
  onlyType : ∀ t ≠ gpuType, c.available t = 0
  exhausted : c.available gpuType = 0 → c.gpuCount ≤ c.inUseGPUCount

/-- Two limits let the same positive numbers through. -/
theorem same_limit_iff (x y : ℤ) :
    (∀ n, 1 ≤ n → (n ≤ x ↔ n ≤ y)) ↔ x = y ∨ (x ≤ 0 ∧ y ≤ 0) := by
  constructor
  · intro hsame
    by_cases hx : 1 ≤ x
    · have hxy := (hsame x hx).mp le_rfl
      have hyx := (hsame y (hx.trans hxy)).mpr le_rfl
      exact .inl (le_antisymm hxy hyx)
    · have hy : ¬ 1 ≤ y := fun hy => hx (hy.trans ((hsame y hy).mpr le_rfl))
      exact .inr ⟨by omega, by omega⟩
  · intro hlimits n hn
    omega

theorem ScalarCounted.init_available (h : ScalarCounted p) (legacy reported : ℤ) :
    (p.init legacy reported).available =
      if p.available = 0 then p.total - p.inUse - p.mining else p.available := by
  have hpositive := h.total
  have htotal : initTotal p.total legacy reported = p.total := by
    unfold initTotal
    rw [if_neg (by omega)]
  simp only [Scalar.init, initAvailable, htotal, hpositive, and_true]

theorem Counted.grantsReported_iff (h : Counted c) (k : Pooled) :
    k.GrantsReported spec c ↔ k.Accounted c := by
  have hscalar := h.scalar k
  have hinUse := hscalar.inUse
  have hlimits : k.GrantsReported spec c ↔ ∀ n, 1 ≤ n →
      (n ≤ ((k.pool c).init (k.legacy c) (k.reported spec)).available ↔
        n ≤ k.getAvailable c) := by
    constructor
    · intro hagree n hn
      rw [← k.alone_granted spec c "" hn]
      exact hagree n "" hn
    · intro hagree n t hn
      rw [k.alone_granted spec c t hn]
      exact hagree n hn
  rw [hlimits, same_limit_iff, hscalar.init_available, k.getAvailable_eq, Pooled.Accounted]
  split_ifs <;> omega

theorem Counted.gpus_granted (h : Counted c) {t : String} {n : ℤ}
    (ht : resolveGPUType spec t = gpuType) (hn : 1 ≤ n) :
    (allocateResources spec c ⟨t, n, 0, 0⟩).1 = .ok () ↔ n ≤ c.available gpuType := by
  have hready : c.PoolReady spec := fun hnone => absurd hnone h.pool
  have hasked : 0 < n := by omega
  rw [allocateResources_eq_ok]
  simp [EnoughGPUs, EnoughCPU, EnoughMemory, hasked, ht, initPools_available hready]

theorem Counted.grantsReportedGPUs_iff (h : Counted c)
    (hname : resolveGPUType spec gpuType = gpuType) :
    GrantsReportedGPUs spec c gpuType ↔ GPUsAccounted c gpuType := by
  have hlimits : GrantsReportedGPUs spec c gpuType ↔ ∀ n, 1 ≤ n →
      (n ≤ c.available gpuType ↔ n ≤ c.availableGPUCount) := by
    constructor
    · intro hagree n hn
      rw [← h.gpus_granted hname hn]
      exact hagree n gpuType hn hname
    · intro hagree n t hn ht
      rw [h.gpus_granted ht hn]
      exact hagree n hn
  have hothers : c.availableGPUs.total = c.available gpuType ↔
      ∀ t ≠ gpuType, c.available t = 0 :=
    NilMap.total_eq_count_iff c.availableGPUs h.available gpuType
  have havailable := h.available gpuType
  have htotal : c.available gpuType ≤ c.availableGPUs.total :=
    NilMap.count_le_total c.availableGPUs h.available gpuType
  have hinUse : 0 ≤ c.inUseGPUCount := NilMap.total_nonneg c.inUseGPUs h.inUse
  rw [hlimits, same_limit_iff]
  simp only [availableGPUCount]
  constructor
  · intro hlimit
    refine ⟨hothers.mp ?_, fun hnone => ?_⟩
    · split_ifs at hlimit <;> omega
    · split_ifs at hlimit <;> omega
  · rintro ⟨honly, hexhausted⟩
    have hsame := hothers.mpr honly
    split_ifs <;> omega

/-! ## At every ledger the calls can reach -/

structure RegisteredAlone (spec : SystemSpec) (gpuType : String) (c : ProviderCapacity) :
    Prop extends Counted c where
  named : resolveGPUType spec "" = gpuType
  single : ∀ t ≠ gpuType, c.total t = 0 ∧ c.available t = 0

/-- The helpers report what a request would get unless the pool is exhausted. -/
theorem reported_is_granted_iff {providerID : String} {c₀ : ProviderCapacity}
    {past : List (Transition ProviderCapacity CapacityCall)}
    (hregistered : RegisteredAlone spec gpuType c₀)
    (hrun : Run (capacityStep providerID spec) countedCall c₀ past c) :
    (GrantsReportedGPUs spec c gpuType ↔ GPUsAccounted c gpuType) ∧
      ∀ k : Pooled, k.GrantsReported spec c ↔ k.Accounted c := by
  have hname : resolveGPUType spec gpuType = gpuType := by
    rw [← hregistered.named]
    exact resolveGPUType_idem spec ""
  have hcounted : Counted c :=
    hrun.always hregistered.toCounted fun _ _ _ _ h hcall hstep => h.step hcall hstep
  exact ⟨hcounted.grantsReportedGPUs_iff hname, fun k => hcounted.grantsReported_iff k⟩

private theorem sampleCapacity_registeredAlone :
    RegisteredAlone sampleSpec "RTX 4090" sampleCapacity where
  toInitialised := sampleCapacity_initialised
  scalar k := by cases k <;> exact ⟨by decide, by decide⟩
  named := rfl
  single t ht := by
    simp [ProviderCapacity.total, ProviderCapacity.available, sampleCapacity,
      NilMap.count_put, ht]

/-- Three of eight GPUs are rented with a quarter of the rest: five more are there. -/
theorem reported_is_granted_free :
    ∃ past c, Run (capacityStep "p1" sampleSpec) countedCall sampleCapacity past c ∧
      c.availableGPUCount = 5 ∧ GrantsReportedGPUs sampleSpec c "RTX 4090" ∧
      ∀ k : Pooled, k.GrantsReported sampleSpec c := by
  have hrun := (Run.nil : Run (capacityStep "p1" sampleSpec) countedCall sampleCapacity
    [] _).take (.allocateResources ⟨"RTX 4090", 3, 16, 65536⟩)
    (by decide : (0 : ℤ) ≤ 3) rfl
  obtain ⟨hgpus, hscalars⟩ := reported_is_granted_iff sampleCapacity_registeredAlone hrun
  refine ⟨_, _, hrun, by decide, hgpus.mpr ⟨fun t ht => ?_, fun hnone => ?_⟩, fun k =>
    (hscalars k).mpr fun hexhausted => ?_⟩
  · have hallocation := allocateResources_allocation sampleSpec sampleCapacity
      ⟨"RTX 4090", 3, 16, 65536⟩
    have hafter := hallocation.available (fun hnone => nomatch hnone) (by decide) t
    rw [hafter, (sampleCapacity_registeredAlone.single t ht).2]
    simp only [moved]
    split
    · change (0 : ℤ) - (if t = "RTX 4090" then 3 else 0) = 0
      rw [if_neg ht, sub_zero]
    · rfl
  · revert hnone
    decide
  · revert hexhausted
    cases k <;> decide

/-- All eight GPUs mine: eight are reported available and none is granted. -/
theorem mined_gpus_reported :
    ¬ ∀ (providerID : String) (spec : SystemSpec) (gpuType : String)
      (c₀ c : ProviderCapacity) (past : List (Transition ProviderCapacity CapacityCall)),
      RegisteredAlone spec gpuType c₀ →
      Run (capacityStep providerID spec) countedCall c₀ past c →
      GrantsReportedGPUs spec c gpuType ∧ ∀ k : Pooled, k.GrantsReported spec c := by
  intro hall
  have hrun := (Run.nil : Run (capacityStep "p1" sampleSpec) countedCall sampleCapacity
    [] _).take (.allocateMiningGPU "RTX 4090" 8) (by decide : (1 : ℤ) ≤ 8) rfl
  have hgpus := (hall "p1" sampleSpec "RTX 4090" _ _ _ sampleCapacity_registeredAlone hrun).1
  have hgranted := (hgpus 1 "RTX 4090" (by decide) rfl).mpr (by decide)
  revert hgranted
  decide

end WorldlandBroker.Provider
