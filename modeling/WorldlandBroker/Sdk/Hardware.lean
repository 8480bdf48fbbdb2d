import WorldlandBroker.Provider.Grants
import WorldlandBroker.Provider.Requests
import WorldlandBroker.Sdk.Capacity

/-!
# GPUs granted and GPUs there are

The SDK registers its GPUs by type.  The older agent registers one count without
a type, and the first allocation files all of it under whatever type it names.
How much can be granted is settled by that one call, for as long as the provider
stays registered.
-/

namespace WorldlandBroker.Sdk

open Foundation Provider ProviderCapacity

/-! ## What the older agent registers -/

structure AgentFlags where
  gpuCount : ℤ
  cpuCores : ℤ
  memoryMB : ℤ

def agentCapacity (flags : AgentFlags) (spec : SystemSpec) : ProviderCapacity where
  gpuCount := if 0 < flags.gpuCount then flags.gpuCount else spec.totalGPUs
  cpuCores := if 0 < flags.cpuCores then flags.cpuCores else eightTenths spec.cpuCores
  memoryMB := if 0 < flags.memoryMB then flags.memoryMB else eightTenths spec.totalMemoryMB
  totalGPUs := none
  totalCPUCores := 0
  totalMemoryMB := 0
  miningGPUs := none
  miningCPUCores := 0
  miningMemoryMB := 0
  miningPodName := ""
  miningStatus := ""
  inUseGPUs := none
  inUseCPUCores := 0
  inUseMemoryMB := 0
  availableGPUs := none
  availableCPUCores := 0
  availableMemoryMB := 0

/-- The two ways to register: with the maps of the SDK, or with counts only. -/
inductive Registers (spec : SystemSpec) : ProviderCapacity → Prop where
  | sdk (config : Config) : Registers spec (overJSON (prepareCapacity config spec))
  | legacy {c : ProviderCapacity} (hunset : c.availableGPUs = none) : Registers spec c

private theorem agent_registers (flags : AgentFlags) (spec : SystemSpec) :
    Registers spec (agentCapacity flags spec) :=
  .legacy rfl

/-! ## What the provider has and what is granted -/

def hardware (spec : SystemSpec) (c : ProviderCapacity) (gpuType : String) : ℤ :=
  if c.availableGPUs = none then gpusNamed spec gpuType else c.total gpuType

def hardwareTotal (spec : SystemSpec) (c : ProviderCapacity) : ℤ :=
  if c.availableGPUs = none then spec.totalGPUs else c.totalGPUCount

/-- A request for a negative number of GPUs is granted, and no GPU with it. -/
def heldGPUs (gpuType : String) (grants : List Grant) : ℤ :=
  (grants.map fun g => if gpuType = g.gpuType then max g.gpuCount 0 else 0).sum

def heldTotal (grants : List Grant) : ℤ := (grants.map fun g => max g.gpuCount 0).sum

structure WithinHardware (spec : SystemSpec) (c : ProviderCapacity) (grants : List Grant) :
    Prop where
  each : ∀ t, heldGPUs t grants ≤ hardware spec c t
  total : heldTotal grants ≤ hardwareTotal spec c

/-- Allocations and the release of what they were granted; the first one names `first`. -/
def openedBy (first : String) : Guard Books LedgerCall := fun _ s call =>
  match call with
  | .allocate a => s.capacity.availableGPUs = none → a.gpuType = first
  | .release _ => True
  | _ => False

def legacyCount (spec : SystemSpec) (c : ProviderCapacity) : ℤ :=
  if 0 < c.gpuCount then c.gpuCount else if 0 < spec.totalGPUs then spec.totalGPUs else 0

structure OpensWithin (spec : SystemSpec) (c : ProviderCapacity) (first : String) :
    Prop where
  filled : c.availableGPUs = none →
    legacyCount spec c ≤ gpusNamed spec (resolveGPUType spec first) ∧
      legacyCount spec c ≤ spec.totalGPUs
  registered : c.availableGPUs ≠ none → ∀ t, c.available t ≤ c.total t

/-! ## One call -/

variable {spec : SystemSpec} {c : ProviderCapacity} {a : ResourceAllocation}

theorem initPools_fresh (hunset : c.availableGPUs = none) (gpuType k : String) :
    (c.initPools spec gpuType).available k =
      if k = gpuType then legacyCount spec c else 0 := by
  simp only [ProviderCapacity.available, initPools, hunset, legacyCount]
  by_cases hlegacy : 0 < c.gpuCount
  · rw [if_pos hlegacy, if_pos hlegacy, NilMap.count_put, NilMap.count_none]
  · rw [if_neg hlegacy, if_neg hlegacy]
    by_cases hreported : 0 < spec.totalGPUs
    · rw [if_pos hreported, if_pos hreported, NilMap.count_put, NilMap.count_none]
    · rw [if_neg hreported, if_neg hreported, ite_self]
      exact CountMap.count_empty k

theorem initPools_filled (hset : c.availableGPUs ≠ none) (gpuType k : String) :
    (c.initPools spec gpuType).available k = c.available k :=
  initPools_available (fun hunset => absurd hunset hset) gpuType k

private theorem debitGPUs_available_max (gpuType k : String) (n : ℤ) :
    (c.debitGPUs gpuType n).available k =
      c.available k - if k = gpuType then max n 0 else 0 := by
  unfold debitGPUs
  split
  · rename_i hn
    rw [rentGPUs_available, max_eq_left hn.le]
  · rename_i hn
    rw [max_eq_right (not_lt.mp hn), ite_self, sub_zero]

def handed (gpuType : String) (a : ResourceAllocation) (outcome : Outcome) (k : String) : ℤ :=
  match outcome with
  | .ok _ => if k = gpuType then max a.gpuCount 0 else 0
  | .error _ => 0

/-- Whatever is asked for, the pool loses at least what is handed out. -/
theorem available_add_handed {gpuType : String}
    {r : Outcome × ProviderCapacity} (h : Allocation spec c a gpuType r) (k : String) :
    r.2.available k + handed gpuType a r.1 k ≤ (c.initPools spec gpuType).available k := by
  cases h with
  | shortOfGPUs => simp [handed]
  | shortOfCPU =>
      change (((c.initPools spec gpuType).debitGPUs gpuType a.gpuCount).rentGPUs
        gpuType (-a.gpuCount)).available k + 0 ≤ _
      rw [rentGPUs_available, debitGPUs_available_max]
      split <;> omega
  | shortOfMemory =>
      change ((((c.initPools spec gpuType).debitGPUs gpuType
        a.gpuCount).debitCPU spec a.cpuCores).rentGPUs gpuType
          (-a.gpuCount)).available k + 0 ≤ _
      rw [rentGPUs_available, debitCPU_available, debitGPUs_available_max]
      split <;> omega
  | granted =>
      simp only [debitMemory_available, debitCPU_available, handed]
      rw [debitGPUs_available_max]
      omega

private theorem handed_le {gpuType : String} {r : Outcome × ProviderCapacity}
    (h : Allocation spec c a gpuType r) (k : String) :
    handed gpuType a r.1 k ≤ max ((c.initPools spec gpuType).available k) 0 := by
  cases h with
  | granted hgpus =>
      simp only [handed]
      split
      · rename_i hk
        subst hk
        by_cases hasked : 0 < a.gpuCount
        · have henough := hgpus hasked
          omega
        · omega
      · exact le_max_right _ _
  | _ => exact le_max_right _ _

private theorem heldGPUs_append (t : String) (grants : List Grant) (g : Grant) :
    heldGPUs t (grants ++ [g]) =
      heldGPUs t grants + if t = g.gpuType then max g.gpuCount 0 else 0 := by
  simp [heldGPUs]

private theorem heldGPUs_erase {g : Grant} {grants : List Grant} (hg : g ∈ grants) (t : String) :
    heldGPUs t (grants.erase g) =
      heldGPUs t grants - if t = g.gpuType then max g.gpuCount 0 else 0 := by
  have hsum := List.sum_map_erase
    (fun g : Grant => if t = g.gpuType then max g.gpuCount 0 else 0) hg
  simp only [heldGPUs]
  omega

theorem heldTotal_le_total {grants : List Grant} {pool : NilMap String}
    (h : ∀ t, heldGPUs t grants ≤ pool.count t) : heldTotal grants ≤ pool.total :=
  CountMap.sum_le_total (pool.getD ∅) Grant.gpuType (fun g => max g.gpuCount 0) grants h

/-! ## Runs -/

structure HeldOf (spec : SystemSpec) (pool : String → ℤ) (s : Books) : Prop where
  kept : ∀ t, s.capacity.available t + heldGPUs t s.outstanding ≤ pool t
  held : ∀ t, heldGPUs t s.outstanding ≤ max (pool t) 0
  resolved : ∀ g ∈ s.outstanding, resolveGPUType spec g.gpuType = g.gpuType

variable {pool : String → ℤ} {s s' : Books} {first : String}

theorem HeldOf.allocate (a : ResourceAllocation)
    (hkept : ∀ t, (s.capacity.initPools spec (resolveGPUType spec a.gpuType)).available t +
      heldGPUs t s.outstanding ≤ pool t)
    (hheld : ∀ t, heldGPUs t s.outstanding ≤ max (pool t) 0)
    (hresolved : ∀ g ∈ s.outstanding, resolveGPUType spec g.gpuType = g.gpuType) :
    HeldOf spec pool (allocateGrant spec s a) := by
  have hallocation := allocateResources_allocation spec s.capacity a
  have hleft := available_add_handed hallocation
  have hhanded := handed_le hallocation
  unfold allocateGrant
  rcases hresult : allocateResources spec s.capacity a with ⟨message | _, c'⟩
  · simp only [hresult, handed] at hleft
    refine ⟨fun t => ?_, hheld, hresolved⟩
    have hbefore := hkept t
    have hafter := hleft t
    change c'.available t + heldGPUs t s.outstanding ≤ pool t
    omega
  · simp only [hresult, handed] at hleft hhanded
    refine ⟨fun t => ?_, fun t => ?_, List.forall_mem_append.mpr ⟨hresolved,
      List.forall_mem_singleton.mpr (resolveGPUType_idem spec a.gpuType)⟩⟩
    · have hbefore := hkept t
      have hafter := hleft t
      simp only [heldGPUs_append, grantOf]
      omega
    · have hbefore := hkept t
      have hcovered := hheld t
      have hgranted := hhanded t
      simp only [heldGPUs_append, grantOf]
      omega

theorem HeldOf.release (h : HeldOf spec pool s) {g : Grant} (hg : g ∈ s.outstanding) :
    HeldOf spec pool (releaseGrant spec s g) := by
  refine ⟨fun t => ?_, fun t => ?_, fun g' hg' => h.resolved g' (List.mem_of_mem_erase hg')⟩
  · have hbefore := h.kept t
    have hreturned := release_available spec s.capacity g.gpuType g.gpuCount g.cpuCores
      g.memoryMB t
    rw [h.resolved g hg] at hreturned
    simp only [releaseGrant, heldGPUs_erase hg, hreturned]
    split <;> omega
  · have hbefore := h.held t
    simp only [releaseGrant, heldGPUs_erase hg]
    split <;> omega

def Opened (spec : SystemSpec) (c : ProviderCapacity) (first : String) (s : Books) : Prop :=
  s = ⟨c, []⟩ ∧ c.availableGPUs = none ∨
    s.capacity.availableGPUs ≠ none ∧
      HeldOf spec (c.initPools spec (resolveGPUType spec first)).available s

private theorem opened_start (spec : SystemSpec) (c : ProviderCapacity) (first : String) :
    Opened spec c first ⟨c, []⟩ := by
  by_cases hunset : c.availableGPUs = none
  · exact .inl ⟨rfl, hunset⟩
  · refine .inr ⟨hunset, fun t => ?_, fun t => ?_, by simp⟩
    · simp [heldGPUs, initPools_filled hunset]
    · simp [heldGPUs]

theorem Opened.step {past : List (Transition Books LedgerCall)} {call : LedgerCall}
    (h : Opened spec c first s) (hguard : openedBy first past s call)
    (hstep : ledgerStep spec s call = some s') : Opened spec c first s' := by
  cases call with
  | allocate a =>
      obtain rfl := Option.some.inj hstep
      have hallocation := allocateResources_allocation spec s.capacity a
      have hset : (allocateGrant spec s a).capacity.availableGPUs ≠ none := by
        unfold allocateGrant
        rcases hresult : allocateResources spec s.capacity a with ⟨message | _, c'⟩
        · exact (hresult ▸ hallocation).frame.2.2.1
        · exact (hresult ▸ hallocation).frame.2.2.1
      rcases h with ⟨rfl, hunset⟩ | ⟨hopen, hheld⟩
      · have hnamed : a.gpuType = first := hguard hunset
        refine .inr ⟨hset, HeldOf.allocate a (fun t => ?_) (fun t => ?_) (by simp)⟩
        · simp [heldGPUs, hnamed]
        · simp [heldGPUs]
      · refine .inr ⟨hset, HeldOf.allocate a (fun t => ?_) hheld.held hheld.resolved⟩
        rw [initPools_filled hopen]
        exact hheld.kept t
  | release g =>
      simp only [ledgerStep] at hstep
      split at hstep
      · rename_i hg
        obtain rfl := Option.some.inj hstep
        rcases h with ⟨rfl, -⟩ | ⟨-, hheld⟩
        · cases hg
        · exact .inr ⟨by simp [releaseGrant, releaseJobResources, NilMap.add],
            hheld.release hg⟩
      · contradiction
  | _ => exact hguard.elim

theorem opened_run {past : List (Transition Books LedgerCall)}
    (hrun : Run (ledgerStep spec) (openedBy first) ⟨c, []⟩ past s) :
    Opened spec c first s :=
  hrun.always (opened_start spec c first) fun _ _ _ _ h hguard hstep => h.step hguard hstep

private theorem total_registered (h : Registers spec c) (hset : c.availableGPUs ≠ none)
    (t : String) :
    0 ≤ c.total t := by
  cases h with
  | sdk config =>
      rw [(registered_pools config spec t).1]
      exact gpusNamed_nonneg spec t
  | legacy hunset => exact absurd hunset hset

private theorem legacyCount_nonneg (spec : SystemSpec) (c : ProviderCapacity) :
    0 ≤ legacyCount spec c := by
  unfold legacyCount
  split_ifs <;> omega

theorem Opened.held_le (h : Opened spec c first s) (t : String) :
    heldGPUs t s.outstanding ≤
      max ((c.initPools spec (resolveGPUType spec first)).available t) 0 := by
  rcases h with ⟨rfl, -⟩ | ⟨-, hheld⟩
  · exact le_max_right _ _
  · exact hheld.held t

theorem OpensWithin.within (h : OpensWithin spec c first) (hregisters : Registers spec c)
    (hopened : Opened spec c first s) : WithinHardware spec c s.outstanding := by
  have hheld := hopened.held_le
  by_cases hunset : c.availableGPUs = none
  · obtain ⟨hnamed, htotal⟩ := h.filled hunset
    have hfilled := legacyCount_nonneg spec c
    have hpool (t : String) : heldGPUs t s.outstanding ≤
        (NilMap.put none (resolveGPUType spec first) (legacyCount spec c)).count t := by
      have hbound := hheld t
      rw [initPools_fresh hunset] at hbound
      rw [NilMap.count_put, NilMap.count_none]
      split at hbound <;> simp_all
    constructor
    · intro t
      have hbound := hpool t
      have hthere := gpusNamed_nonneg spec t
      rw [NilMap.count_put, NilMap.count_none] at hbound
      rw [hardware, if_pos hunset]
      split at hbound
      · rename_i ht
        rw [ht] at hbound ⊢
        omega
      · omega
    · have hbound := heldTotal_le_total hpool
      rw [NilMap.total_put, NilMap.count_none] at hbound
      have hnone : NilMap.total (none : NilMap String) = 0 := rfl
      rw [hardwareTotal, if_pos hunset]
      omega
  · have hpool (t : String) : heldGPUs t s.outstanding ≤ c.total t := by
      have hbound := hheld t
      have hregistered := h.registered hunset t
      have hthere := total_registered hregisters hunset t
      rw [initPools_filled hunset] at hbound
      omega
    constructor
    · intro t
      rw [hardware, if_neg hunset]
      exact hpool t
    · rw [hardwareTotal, if_neg hunset]
      exact heldTotal_le_total hpool

/-! ## What can be drained -/

/-- A request for what the pool holds, and for nothing else, is granted. -/
theorem drained (spec : SystemSpec) (c : ProviderCapacity) (first asked : String) (n : ℤ)
    (hfirst : c.availableGPUs = none → asked = first)
    (henough : n ≤ (c.initPools spec (resolveGPUType spec asked)).available
      (resolveGPUType spec asked)) :
    ∃ past s, Run (ledgerStep spec) (openedBy first) ⟨c, []⟩ past s ∧
      s.outstanding = [⟨resolveGPUType spec asked, n, 0, 0⟩] := by
  have hok : (allocateResources spec c ⟨asked, n, 0, 0⟩).1 = .ok () :=
    allocateResources_eq_ok.mpr ⟨fun _ => henough, fun hnone => absurd hnone (by simp),
      fun hnone => absurd hnone (by simp)⟩
  have hrun := (Run.nil : Run (ledgerStep spec) (openedBy first) ⟨c, []⟩ [] _).take
    (.allocate ⟨asked, n, 0, 0⟩) hfirst rfl
  refine ⟨_, _, hrun, ?_⟩
  unfold allocateGrant
  rcases hresult : allocateResources spec c ⟨asked, n, 0, 0⟩ with ⟨message | _, c'⟩
  · rw [hresult] at hok
    cases hok
  · rfl

private theorem heldGPUs_single (t : String) {n : ℤ} (hn : 0 ≤ n) :
    heldGPUs t [⟨t, n, 0, 0⟩] = n ∧ heldTotal [⟨t, n, 0, 0⟩] = n := by
  simp [heldGPUs, heldTotal, hn]

private theorem filled_of_within (hunset : c.availableGPUs = none)
    (hwithin : ∀ past s, Run (ledgerStep spec) (openedBy first) ⟨c, []⟩ past s →
      WithinHardware spec c s.outstanding) :
    legacyCount spec c ≤ gpusNamed spec (resolveGPUType spec first) ∧
      legacyCount spec c ≤ spec.totalGPUs := by
  have hfilled := legacyCount_nonneg spec c
  obtain ⟨past, s, hrun, hgranted⟩ := drained spec c first first (legacyCount spec c)
    (fun _ => rfl) (by rw [initPools_fresh hunset, if_pos rfl])
  obtain ⟨heach, htotal⟩ := hwithin past s hrun
  obtain ⟨hheld, hheldTotal⟩ := heldGPUs_single (resolveGPUType spec first) hfilled
  have hnamed := heach (resolveGPUType spec first)
  rw [hgranted, hheld, hardware, if_pos hunset] at hnamed
  rw [hgranted, hheldTotal, hardwareTotal, if_pos hunset] at htotal
  exact ⟨hnamed, htotal⟩

theorem withoutMiningReserve_le_iff {config : Config} {n : ℤ} :
    withoutMiningReserve config n ≤ n ↔
      ¬ (config.enableMining = true ∧ 0 < n ∧ config.miningGPUCount < 0) := by
  unfold withoutMiningReserve
  split
  · rename_i hmining
    simp only [hmining.1, hmining.2, true_and, not_lt]
    split <;> omega
  · rename_i hmining
    simp only [le_refl, true_iff]
    intro hbelow
    exact hmining ⟨hbelow.1, hbelow.2.1⟩

private theorem registered_of_within {config : Config}
    (hset : (overJSON (prepareCapacity config spec)).availableGPUs ≠ none)
    (hwithin : ∀ past s, Run (ledgerStep spec) (openedBy first)
      ⟨overJSON (prepareCapacity config spec), []⟩ past s →
        WithinHardware spec (overJSON (prepareCapacity config spec)) s.outstanding)
    (t : String) :
    (overJSON (prepareCapacity config spec)).available t ≤
      (overJSON (prepareCapacity config spec)).total t := by
  have hpools := registered_pools config spec
  rw [(hpools t).1, (hpools t).2]
  rw [withoutMiningReserve_le_iff]
  rintro ⟨hmining, hpositive, hnegative⟩
  cases hgpus : spec.gpus with
  | nil => simp [gpusNamed, hgpus] at hpositive
  | cons gpu gpus =>
      have hnamed : resolveGPUType spec "" = gpu.name := by simp [resolveGPUType, hgpus]
      have hthere : 0 < gpusNamed spec gpu.name := gpusNamed_pos (by simp [hgpus])
      have hmore : ¬ withoutMiningReserve config (gpusNamed spec gpu.name) ≤
          gpusNamed spec gpu.name :=
        fun hle => withoutMiningReserve_le_iff.mp hle ⟨hmining, hthere, hnegative⟩
      obtain ⟨past, s, hrun, hgranted⟩ := drained spec (overJSON (prepareCapacity config spec))
        first "" (withoutMiningReserve config (gpusNamed spec gpu.name))
        (fun hunset => absurd hunset hset)
        (by rw [initPools_filled hset, hnamed, (hpools gpu.name).2])
      obtain ⟨hheld, -⟩ := heldGPUs_single gpu.name (hthere.le.trans (not_le.mp hmore).le)
      have heach := (hwithin past s hrun).each gpu.name
      rw [hgranted, hnamed, hheld, hardware, if_neg hset, (hpools gpu.name).1] at heach
      exact hmore heach

/--
Whatever a provider registers with, and whichever type the first allocation names:
no run grants GPUs that are not there exactly when the pool is opened within them.
-/
theorem grants_within_hardware_iff (hregisters : Registers spec c) (first : String) :
    (∀ past s, Run (ledgerStep spec) (openedBy first) ⟨c, []⟩ past s →
      WithinHardware spec c s.outstanding) ↔ OpensWithin spec c first := by
  constructor
  · intro hwithin
    refine ⟨fun hunset => filled_of_within hunset hwithin, fun hset => ?_⟩
    cases hregisters with
    | sdk config => exact registered_of_within hset hwithin
    | legacy hunset => exact absurd hunset hset
  · intro hopens past s hrun
    exact hopens.within hregisters (opened_run hrun)

/-! ## A host of the older agent -/

def hostSpec : SystemSpec :=
  ⟨"node-1", 64, 262144, List.replicate 8 ⟨"RTX 4090"⟩, 8⟩

def hostCapacity : ProviderCapacity := agentCapacity ⟨0, 0, 0⟩ hostSpec

/-- Opened under the type of its GPUs, the pool of the host holds what there is. -/
theorem grants_within_hardware_host :
    OpensWithin hostSpec hostCapacity "" ∧
      ∀ past s, Run (ledgerStep hostSpec) (openedBy "") ⟨hostCapacity, []⟩ past s →
        WithinHardware hostSpec hostCapacity s.outstanding := by
  have hopens : OpensWithin hostSpec hostCapacity "" :=
    ⟨fun _ => by decide, fun hset => absurd rfl hset⟩
  exact ⟨hopens, (grants_within_hardware_iff (agent_registers ⟨0, 0, 0⟩ hostSpec) "").mpr hopens⟩

/-- The host has no A100, and grants two of them to the first request. -/
theorem absent_type_granted :
    Registers hostSpec hostCapacity ∧
      ∃ past s, Run (ledgerStep hostSpec) (openedBy "A100") ⟨hostCapacity, []⟩ past s ∧
        ¬ WithinHardware hostSpec hostCapacity s.outstanding := by
  refine ⟨agent_registers ⟨0, 0, 0⟩ hostSpec, ?_⟩
  have hrun := (Run.nil : Run (ledgerStep hostSpec) (openedBy "A100")
    ⟨hostCapacity, []⟩ [] _).take (.allocate ⟨"A100", 2, 4, 16384⟩) (fun _ => rfl) rfl
  refine ⟨_, _, hrun, fun hwithin => ?_⟩
  have hheld := hwithin.each "A100"
  exact absurd hheld (by decide)

end WorldlandBroker.Sdk
