import WorldlandBroker.Foundation.Run
import WorldlandBroker.Provider.Mining
import WorldlandBroker.Provider.Scalars
import Mathlib.Algebra.Order.BigOperators.Group.List
import Mathlib.Data.Fintype.Defs

/-!
# Requests for CPU and memory

What one allocation does to the CPU pool and to the memory pool, whatever state
they are in: it is refused before it gets there, it makes the pool recompute its
available amount and is refused, or it is granted from what is then available.
With it the calls that move these pools, one provider at a time.
-/

namespace WorldlandBroker.Provider

open Foundation ProviderCapacity

/-! ## How far a request gets -/

def EnoughGPUs (spec : SystemSpec) (c : ProviderCapacity) (a : ResourceAllocation) : Prop :=
  0 < a.gpuCount → a.gpuCount ≤
    (c.initPools spec (resolveGPUType spec a.gpuType)).available (resolveGPUType spec a.gpuType)

instance (spec : SystemSpec) (c : ProviderCapacity) (a : ResourceAllocation) :
    Decidable (EnoughGPUs spec c a) :=
  inferInstanceAs (Decidable (_ → _))

def EnoughCPU (spec : SystemSpec) (c : ProviderCapacity) (a : ResourceAllocation) : Prop :=
  0 < a.cpuCores → a.cpuCores ≤ (c.cpuPool.init c.cpuCores spec.cpuCores).available

instance (spec : SystemSpec) (c : ProviderCapacity) (a : ResourceAllocation) :
    Decidable (EnoughCPU spec c a) :=
  inferInstanceAs (Decidable (_ → _))

def EnoughMemory (spec : SystemSpec) (c : ProviderCapacity) (a : ResourceAllocation) : Prop :=
  0 < a.memoryMB → a.memoryMB ≤ (c.memoryPool.init c.memoryMB spec.totalMemoryMB).available

instance (spec : SystemSpec) (c : ProviderCapacity) (a : ResourceAllocation) :
    Decidable (EnoughMemory spec c a) :=
  inferInstanceAs (Decidable (_ → _))

/-- What asking a pool for `n` can come to, where `reached` says how far it got. -/
inductive Asked (legacy reported : ℤ) (reached : Prop) (p : Scalar) (n : ℤ) :
    Outcome → Scalar → Prop where
  | untouched (outcome : Outcome) (hnothing : outcome = .ok () → n = 0) :
      Asked legacy reported reached p n outcome p
  | recomputed (message : String) (hreached : reached) (hasked : 0 < n) :
      Asked legacy reported reached p n (.error message) (p.init legacy reported)
  | granted (hreached : reached) (hasked : 0 < n)
      (henough : n ≤ (p.init legacy reported).available) :
      Asked legacy reported reached p n (.ok ()) ((p.init legacy reported).rent n)

variable {spec : SystemSpec} {c : ProviderCapacity} {a : ResourceAllocation}

private theorem allocateMemory_cpuPool (spec : SystemSpec) (c : ProviderCapacity) (gpuType : String)
    (a : ResourceAllocation) :
    (allocateMemory spec c gpuType a).2.cpuPool =
      match (allocateMemory spec c gpuType a).1 with
      | .ok _ => c.cpuPool
      | .error _ => c.cpuPool.rent (-a.cpuCores) := by
  unfold allocateMemory
  split
  · simp only []
    split
    · rfl
    · rfl
  · rfl

private theorem allocateMemory_asked (spec : SystemSpec) (c : ProviderCapacity) (gpuType : String)
    (hmemory : 0 ≤ a.memoryMB) :
    Asked c.memoryMB spec.totalMemoryMB True c.memoryPool a.memoryMB
      (allocateMemory spec c gpuType a).1 (allocateMemory spec c gpuType a).2.memoryPool := by
  unfold allocateMemory
  split
  · rename_i hasked
    simp only []
    split
    · exact .recomputed _ trivial hasked
    · rename_i henough
      exact .granted trivial hasked (not_lt.mp henough)
  · exact .untouched _ fun _ => by omega

theorem Scalar.rent_neg_zero (p : Scalar) : p.rent (-0) = p := by
  simp [Scalar.rent]

private theorem allocateCPU_asked (spec : SystemSpec) (c : ProviderCapacity) (gpuType : String)
    (hcpu : 0 ≤ a.cpuCores) :
    Asked c.cpuCores spec.cpuCores True c.cpuPool a.cpuCores
      (allocateCPU spec c gpuType a).1 (allocateCPU spec c gpuType a).2.cpuPool := by
  unfold allocateCPU
  split
  · rename_i hasked
    simp only []
    split
    · exact .recomputed _ trivial hasked
    · rename_i henough
      have hpool := allocateMemory_cpuPool spec ((c.initCPU spec).rentCPU a.cpuCores) gpuType a
      rw [hpool]
      cases (allocateMemory spec ((c.initCPU spec).rentCPU a.cpuCores) gpuType a).1 with
      | ok => exact .granted trivial hasked (not_lt.mp henough)
      | error message =>
          change Asked _ _ _ _ _ _
            (((c.cpuPool.init c.cpuCores spec.cpuCores).rent a.cpuCores).rent (-a.cpuCores))
          rw [Scalar.rent_neg_rent]
          exact .recomputed _ trivial hasked
  · have hzero : a.cpuCores = 0 := by omega
    rw [allocateMemory_cpuPool spec c gpuType a, hzero, Scalar.rent_neg_zero]
    cases (allocateMemory spec c gpuType a).1 with
    | ok => exact .untouched _ fun _ => rfl
    | error message => exact .untouched _ fun _ => rfl

theorem Asked.reach {legacy reported n : ℤ} {reached reached' : Prop} {p p' : Scalar}
    {outcome : Outcome} (h : Asked legacy reported reached p n outcome p')
    (himp : reached → reached') : Asked legacy reported reached' p n outcome p' := by
  cases h with
  | untouched _ hnothing => exact .untouched _ hnothing
  | recomputed message hreached hasked => exact .recomputed message (himp hreached) hasked
  | granted hreached hasked henough => exact .granted (himp hreached) hasked henough

private theorem allocateCPU_memory_asked (spec : SystemSpec) (c : ProviderCapacity)
    (gpuType : String) (hmemory : 0 ≤ a.memoryMB) :
    Asked c.memoryMB spec.totalMemoryMB (EnoughCPU spec c a) c.memoryPool a.memoryMB
      (allocateCPU spec c gpuType a).1 (allocateCPU spec c gpuType a).2.memoryPool := by
  unfold allocateCPU
  split
  · simp only []
    split
    · exact .untouched _ fun hok => by contradiction
    · rename_i henough
      exact (allocateMemory_asked spec ((c.initCPU spec).rentCPU a.cpuCores) gpuType
        hmemory).reach fun _ _ => not_lt.mp henough
  · rename_i hnone
    exact (allocateMemory_asked spec c gpuType hmemory).reach fun _ hasked =>
      absurd hasked hnone

/-! ## The two pools as one family -/

inductive Pooled where
  | cpu
  | memory
  deriving DecidableEq

instance : Fintype Pooled where
  elems := {.cpu, .memory}
  complete k := by cases k <;> decide

namespace Pooled

def pool (c : ProviderCapacity) : Pooled → Scalar
  | .cpu => c.cpuPool
  | .memory => c.memoryPool

def legacy (c : ProviderCapacity) : Pooled → ℤ
  | .cpu => c.cpuCores
  | .memory => c.memoryMB

def reported (spec : SystemSpec) : Pooled → ℤ
  | .cpu => spec.cpuCores
  | .memory => spec.totalMemoryMB

def asked (a : ResourceAllocation) : Pooled → ℤ
  | .cpu => a.cpuCores
  | .memory => a.memoryMB

def mined (config : MiningConfig) : Pooled → ℤ
  | .cpu => config.cpuCores
  | .memory => config.memoryMB

def Reaches (spec : SystemSpec) (c : ProviderCapacity) (a : ResourceAllocation) :
    Pooled → Prop
  | .cpu => EnoughGPUs spec c a
  | .memory => EnoughGPUs spec c a ∧ EnoughCPU spec c a

instance (spec : SystemSpec) (c : ProviderCapacity) (a : ResourceAllocation) (k : Pooled) :
    Decidable (k.Reaches spec c a) :=
  match k with
  | .cpu => inferInstanceAs (Decidable (EnoughGPUs spec c a))
  | .memory => inferInstanceAs (Decidable (EnoughGPUs spec c a ∧ EnoughCPU spec c a))

end Pooled

open Pooled

def Served (spec : SystemSpec) (c : ProviderCapacity) (a : ResourceAllocation)
    (outcome : Outcome) (c' : ProviderCapacity) : Prop :=
  ∀ k : Pooled, Asked (k.legacy c) (k.reported spec) (k.Reaches spec c a) (k.pool c)
    (k.asked a) outcome (k.pool c')

private theorem allocateCPU_served {c' : ProviderCapacity} (gpuType : String)
    (hasked : ∀ k : Pooled, 0 ≤ k.asked a) (hgpus : EnoughGPUs spec c a)
    (hpool : ∀ k : Pooled, k.pool c' = k.pool c)
    (hlegacy : ∀ k : Pooled, k.legacy c' = k.legacy c) :
    Served spec c a (allocateCPU spec c' gpuType a).1 (allocateCPU spec c' gpuType a).2 := by
  have hcpuAsked := allocateCPU_asked spec c' gpuType (hasked .cpu)
  have hmemoryAsked := allocateCPU_memory_asked spec c' gpuType (hasked .memory)
  unfold EnoughCPU at hmemoryAsked
  have hcpuPool : c'.cpuPool = c.cpuPool := hpool .cpu
  have hcpuCores : c'.cpuCores = c.cpuCores := hlegacy .cpu
  have hmemoryPool : c'.memoryPool = c.memoryPool := hpool .memory
  have hmemoryMB : c'.memoryMB = c.memoryMB := hlegacy .memory
  rw [hcpuPool, hcpuCores] at hcpuAsked hmemoryAsked
  rw [hmemoryPool, hmemoryMB] at hmemoryAsked
  intro k
  cases k with
  | cpu => exact hcpuAsked.reach fun _ => hgpus
  | memory => exact hmemoryAsked.reach fun hreached => ⟨hgpus, hreached⟩

theorem allocateResources_served (spec : SystemSpec) (c : ProviderCapacity)
    (hasked : ∀ k : Pooled, 0 ≤ k.asked a) :
    Served spec c a (allocateResources spec c a).1 (allocateResources spec c a).2 := by
  unfold allocateResources
  simp only []
  by_cases hgpuCount : 0 < a.gpuCount
  · rw [if_pos hgpuCount]
    split
    · intro k
      cases k with
      | cpu => exact .untouched _ fun hok => by contradiction
      | memory => exact .untouched _ fun hok => by contradiction
    · rename_i henough
      have hgpus : EnoughGPUs spec c a := fun _ => not_lt.mp henough
      apply allocateCPU_served _ hasked hgpus
      · intro k
        cases k <;> rfl
      · intro k
        cases k <;> rfl
  · rw [if_neg hgpuCount]
    have hgpus : EnoughGPUs spec c a := fun hpositive => absurd hpositive hgpuCount
    apply allocateCPU_served _ hasked hgpus
    · intro k
      cases k <;> rfl
    · intro k
      cases k <;> rfl

theorem allocateMemory_eq_ok {c' : ProviderCapacity} (gpuType : String)
    (hpool : c'.memoryPool = c.memoryPool) (hlegacy : c'.memoryMB = c.memoryMB) :
    (allocateMemory spec c' gpuType a).1 = .ok () ↔ EnoughMemory spec c a := by
  unfold EnoughMemory
  rw [← hpool, ← hlegacy]
  unfold allocateMemory
  constructor
  · intro hok hasked
    rw [if_pos hasked] at hok
    simp only [] at hok
    split at hok
    · contradiction
    · rename_i henough
      exact not_lt.mp henough
  · intro henough
    split
    · rename_i hasked
      simp only []
      split
      · rename_i hshort
        exact absurd (henough hasked) (not_le.mpr hshort)
      · rfl
    · rfl

theorem allocateCPU_eq_ok {c' : ProviderCapacity} (gpuType : String)
    (hpool : ∀ k : Pooled, k.pool c' = k.pool c)
    (hlegacy : ∀ k : Pooled, k.legacy c' = k.legacy c) :
    (allocateCPU spec c' gpuType a).1 = .ok () ↔
      EnoughCPU spec c a ∧ EnoughMemory spec c a := by
  have hcpuPool : c'.cpuPool = c.cpuPool := hpool .cpu
  have hcpuCores : c'.cpuCores = c.cpuCores := hlegacy .cpu
  unfold EnoughCPU
  rw [← hcpuPool, ← hcpuCores]
  unfold allocateCPU
  by_cases hasked : 0 < a.cpuCores
  · rw [if_pos hasked]
    simp only []
    split
    · rename_i hshort
      constructor
      · intro hok
        contradiction
      · rintro ⟨henough, -⟩
        exact absurd (henough hasked) (not_le.mpr hshort)
    · rename_i henough
      have hrented : ((c'.initCPU spec).rentCPU a.cpuCores).memoryPool = c.memoryPool :=
        hpool .memory
      rw [allocateMemory_eq_ok gpuType hrented (hlegacy .memory)]
      exact ⟨fun hmemory => ⟨fun _ => not_lt.mp henough, hmemory⟩, And.right⟩
  · rw [if_neg hasked, allocateMemory_eq_ok gpuType (hpool .memory) (hlegacy .memory)]
    exact ⟨fun hmemory => ⟨fun hpositive => absurd hpositive hasked, hmemory⟩, And.right⟩

/-- A request is granted where all three pools have enough. -/
theorem allocateResources_eq_ok :
    (allocateResources spec c a).1 = .ok () ↔
      EnoughGPUs spec c a ∧ EnoughCPU spec c a ∧ EnoughMemory spec c a := by
  unfold allocateResources
  simp only []
  by_cases hasked : 0 < a.gpuCount
  · rw [if_pos hasked]
    split
    · rename_i hshort
      constructor
      · intro hok
        contradiction
      · rintro ⟨hgpus, -⟩
        exact absurd (hgpus hasked) (not_le.mpr hshort)
    · rename_i henough
      rw [allocateCPU_eq_ok (c := c)]
      · exact ⟨fun hrest => ⟨fun _ => not_lt.mp henough, hrest⟩, And.right⟩
      · intro k
        cases k <;> rfl
      · intro k
        cases k <;> rfl
  · rw [if_neg hasked, allocateCPU_eq_ok (c := c)]
    · exact ⟨fun hrest => ⟨fun hpositive => absurd hpositive hasked, hrest⟩, And.right⟩
    · intro k
      cases k <;> rfl
    · intro k
      cases k <;> rfl

theorem allocateResources_legacy (spec : SystemSpec) (c : ProviderCapacity)
    (a : ResourceAllocation) (k : Pooled) :
    k.legacy (allocateResources spec c a).2 = k.legacy c := by
  have hgpus (c : ProviderCapacity) (gpuType : String) (n : ℤ) :
      k.legacy (c.debitGPUs gpuType n) = k.legacy c := by
    unfold debitGPUs
    cases k <;> split <;> rfl
  have hcpu (c : ProviderCapacity) (n : ℤ) : k.legacy (c.debitCPU spec n) = k.legacy c := by
    unfold debitCPU
    cases k <;> split <;> rfl
  have hmemory (c : ProviderCapacity) (n : ℤ) :
      k.legacy (c.debitMemory spec n) = k.legacy c := by
    unfold debitMemory
    cases k <;> split <;> rfl
  have hpools : k.legacy (c.initPools spec (resolveGPUType spec a.gpuType)) = k.legacy c := by
    cases k <;> rfl
  have hdebited := (hgpus (c.initPools spec (resolveGPUType spec a.gpuType))
    (resolveGPUType spec a.gpuType) a.gpuCount).trans hpools
  have hallocation := allocateResources_allocation spec c a
  generalize allocateResources spec c a = r at hallocation ⊢
  cases hallocation with
  | shortOfGPUs => exact hpools
  | shortOfCPU => cases k <;> exact hdebited
  | shortOfMemory => cases k <;> exact (hcpu _ a.cpuCores).trans hdebited
  | granted => exact (hmemory _ a.memoryMB).trans ((hcpu _ a.cpuCores).trans hdebited)

/-! ## The calls that move the pools -/

structure Rentals where
  capacity : ProviderCapacity
  outstanding : List ResourceAllocation

inductive PoolCall where
  | allocateResources (a : ResourceAllocation)
  | releaseResources (a : ResourceAllocation)
  | deployMiningForProvider (config : MiningConfig) (first : Option String)
      (deployed : Outcome)
  | stopMiningForProvider (deleted : Outcome)
  | syncMiningPodStates (reported : Except String String)

def allocateRental (spec : SystemSpec) (s : Rentals) (a : ResourceAllocation) : Rentals :=
  match allocateResources spec s.capacity a with
  | (.ok _, c) => ⟨c, s.outstanding ++ [a]⟩
  | (.error _, c) => ⟨c, s.outstanding⟩

/-- A release matches an allocation that was granted and has not been released. -/
def poolStep (providerID : String) (spec : SystemSpec) (s : Rentals) :
    PoolCall → Option Rentals
  | .allocateResources a => some (allocateRental spec s a)
  | .releaseResources a =>
      if a ∈ s.outstanding then
        some ⟨releaseResources spec s.capacity a, s.outstanding.erase a⟩
      else none
  | .deployMiningForProvider config first deployed =>
      some { s with
        capacity :=
          (deployMiningForProvider providerID spec s.capacity config first deployed).2 }
  | .stopMiningForProvider deleted =>
      some { s with capacity := (stopMiningForProvider s.capacity deleted).2 }
  | .syncMiningPodStates reported =>
      some { s with capacity := syncMiningPodState s.capacity reported }

def Deploys (spec : SystemSpec) (c : ProviderCapacity) (config : MiningConfig)
    (first : Option String) (deployed : Outcome) : Prop :=
  let gpuType := deployGPUType spec first
  config.gpuCount ≤ (deployAvailable spec (deployPools spec c gpuType) gpuType).1 ∧
    deployed = .ok ()

instance (spec : SystemSpec) (c : ProviderCapacity) (config : MiningConfig)
    (first : Option String) (deployed : Outcome) :
    Decidable (Deploys spec c config first deployed) :=
  inferInstanceAs (Decidable (_ ∧ _))

theorem releaseResources_pool (spec : SystemSpec) (c : ProviderCapacity)
    (a : ResourceAllocation) (k : Pooled) :
    k.pool (releaseResources spec c a) = (k.pool c).giveBack (k.asked a) := by
  cases k <;> rfl

theorem deployMining_pool (providerID : String) (spec : SystemSpec) (c : ProviderCapacity)
    (config : MiningConfig) (first : Option String) (deployed : Outcome) (k : Pooled) :
    k.pool (deployMiningForProvider providerID spec c config first deployed).2 =
      if Deploys spec c config first deployed then
        { k.pool c with mining := k.mined config }
      else k.pool c := by
  have hkept (gpuType : String) :
      k.pool (deployAvailable spec (deployPools spec c gpuType) gpuType).2 = k.pool c := by
    simp only [deployAvailable]
    cases k <;> split_ifs <;> rfl
  have hpool := hkept (deployGPUType spec first)
  unfold deployMiningForProvider
  simp only []
  split
  · rename_i hshort
    have hrefused : ¬ Deploys spec c config first deployed :=
      fun h => absurd h.1 (not_le.mpr hshort)
    rw [if_neg hrefused]
    exact hpool
  · rename_i henough
    cases deployed with
    | error message =>
        have hfailed : ¬ Deploys spec c config first (.error message) := fun h => by cases h.2
        rw [if_neg hfailed]
        exact hpool
    | ok =>
        have hdeploys : Deploys spec c config first (.ok ()) := ⟨not_lt.mp henough, rfl⟩
        rw [if_pos hdeploys, ← hpool]
        cases k <;> rfl

theorem stopMining_pool (c : ProviderCapacity) (deleted : Outcome) (k : Pooled) :
    k.pool (stopMiningForProvider c deleted).2 = k.pool c ∨
      k.pool (stopMiningForProvider c deleted).2 = { k.pool c with mining := 0 } := by
  cases deleted with
  | error message => exact .inl rfl
  | ok => exact .inr (by cases k <;> rfl)

theorem syncMining_pool (c : ProviderCapacity) (reported : Except String String)
    (k : Pooled) :
    k.pool (syncMiningPodState c reported) = k.pool c ∨
      k.pool (syncMiningPodState c reported) = { k.pool c with mining := 0 } := by
  unfold syncMiningPodState
  split
  · exact .inl rfl
  · cases reported with
    | error message => exact .inl rfl
    | ok status =>
        simp only []
        split
        · exact .inr (by cases k <;> rfl)
        · exact .inl (by cases k <;> rfl)

/-! ## What is rented out -/

def rented (k : Pooled) (rentals : List ResourceAllocation) : ℤ := (rentals.map k.asked).sum

private theorem rented_append (k : Pooled) (rentals : List ResourceAllocation)
    (a : ResourceAllocation) : rented k (rentals ++ [a]) = rented k rentals + k.asked a := by
  simp [rented]

private theorem rented_erase {rentals : List ResourceAllocation} (ha : a ∈ rentals) (k : Pooled) :
    rented k (rentals.erase a) = rented k rentals - k.asked a := by
  have hsum := List.sum_map_erase k.asked ha
  simp only [rented]
  omega

private theorem asked_le_rented {rentals : List ResourceAllocation} {k : Pooled}
    (hasked : ∀ a ∈ rentals, 0 ≤ k.asked a) (ha : a ∈ rentals) :
    k.asked a ≤ rented k rentals := by
  have hrest : 0 ≤ rented k (rentals.erase a) := by
    apply List.sum_nonneg
    intro n hn
    obtain ⟨b, hb, rfl⟩ := List.mem_map.mp hn
    exact hasked b (List.mem_of_mem_erase hb)
  rw [rented_erase ha] at hrest
  omega

structure RentedOut (s : Rentals) (k : Pooled) : Prop where
  asked : ∀ a ∈ s.outstanding, 0 ≤ k.asked a
  inUse : (k.pool s.capacity).inUse = rented k s.outstanding

def handedOut (outcome : Outcome) (n : ℤ) : ℤ :=
  match outcome with
  | .ok _ => n
  | .error _ => 0

theorem Asked.inUse {legacy reported n : ℤ} {reached : Prop} {p p' : Scalar}
    {outcome : Outcome} (h : Asked legacy reported reached p n outcome p') :
    p'.inUse = p.inUse + handedOut outcome n := by
  cases h with
  | untouched _ hnothing =>
      cases outcome with
      | ok =>
          have hzero : n = 0 := hnothing rfl
          rw [handedOut, hzero, add_zero]
      | error message => exact (add_zero _).symm
  | recomputed => exact (add_zero _).symm
  | granted => rfl

variable {s : Rentals} {k : Pooled}

theorem RentedOut.allocate (h : RentedOut s k) (hasked : ∀ k : Pooled, 0 ≤ k.asked a) :
    RentedOut (allocateRental spec s a) k := by
  have hinUse := (allocateResources_served spec s.capacity hasked k).inUse
  unfold allocateRental
  rcases hresult : allocateResources spec s.capacity a with ⟨message | _, c'⟩
  · simp only [hresult, handedOut, add_zero] at hinUse
    exact ⟨h.asked, hinUse.trans h.inUse⟩
  · simp only [hresult, handedOut] at hinUse
    refine ⟨List.forall_mem_append.mpr ⟨h.asked, List.forall_mem_singleton.mpr (hasked k)⟩, ?_⟩
    rw [hinUse, h.inUse, rented_append]

theorem RentedOut.pool_released (h : RentedOut s k) (ha : a ∈ s.outstanding) :
    k.pool (releaseResources spec s.capacity a) = (k.pool s.capacity).rent (-k.asked a) := by
  have henough : k.asked a ≤ (k.pool s.capacity).inUse :=
    (asked_le_rented h.asked ha).trans_eq h.inUse.symm
  rw [releaseResources_pool]
  simp only [Scalar.giveBack, Scalar.rent, subtractClamped_of_le henough]
  congr 1
  ring

theorem RentedOut.release (h : RentedOut s k) (ha : a ∈ s.outstanding) :
    RentedOut ⟨releaseResources spec s.capacity a, s.outstanding.erase a⟩ k := by
  refine ⟨fun b hb => h.asked b (List.mem_of_mem_erase hb), ?_⟩
  rw [h.pool_released ha, rented_erase ha, ← h.inUse]
  rfl

end WorldlandBroker.Provider
