import WorldlandBroker.Provider.Mining

/-!
# The ledger equation

`Total = Available + InUse + Mining` for every GPU type, with no pool below zero.
Each operation keeps it under a condition on the pools it finds; the conditions
are what the code does not check for itself.
-/

namespace WorldlandBroker.Provider

open Foundation ProviderCapacity

structure Balanced (c : ProviderCapacity) : Prop where
  equation : ∀ t, c.total t = c.available t + c.inUse t + c.mining t
  available_nonneg : ∀ t, 0 ≤ c.available t
  inUse_nonneg : ∀ t, 0 ≤ c.inUse t
  mining_nonneg : ∀ t, 0 ≤ c.mining t

structure Registered (c : ProviderCapacity) : Prop where
  available : ∀ t, c.available t = c.total t
  inUse : ∀ t, c.inUse t = 0
  mining : ∀ t, c.mining t = 0
  total_nonneg : ∀ t, 0 ≤ c.total t

variable {spec : SystemSpec} {c c' : ProviderCapacity} {gpuType : String}

theorem Registered.balanced (h : Registered c) : Balanced c where
  equation t := by rw [h.available, h.inUse, h.mining, add_zero, add_zero]
  available_nonneg t := (h.total_nonneg t).trans_eq (h.available t).symm
  inUse_nonneg t := (h.inUse t).ge
  mining_nonneg t := (h.mining t).ge

theorem Balanced.inUse_add_mining_le (h : Balanced c) :
    c.inUseGPUCount + c.miningGPUCount ≤ c.totalGPUCount := by
  let keys (m : NilMap String) : Finset String := (m.getD ∅).keys.toFinset
  let types := keys c.totalGPUs ∪ (keys c.inUseGPUs ∪ keys c.miningGPUs)
  have hsum {m : NilMap String} (hkeys : keys m ⊆ types) :
      m.total = ∑ t ∈ types, m.count t :=
    CountMap.total_eq_sum_of_subset (m.getD ∅) hkeys
  have htotal := hsum Finset.subset_union_left
  have hinUse := hsum
    (Finset.subset_union_left.trans Finset.subset_union_right)
  have hmining := hsum
    (Finset.subset_union_right.trans Finset.subset_union_right)
  rw [totalGPUCount, inUseGPUCount, miningGPUCount, htotal, hinUse, hmining,
    ← Finset.sum_add_distrib]
  refine Finset.sum_le_sum fun t _ => ?_
  have hequation := h.equation t
  have hpool := h.available_nonneg t
  simp only [ProviderCapacity.total, ProviderCapacity.inUse,
    ProviderCapacity.mining] at hequation
  omega

theorem total_eq_of (h : c'.totalGPUs = c.totalGPUs) (t : String) :
    c'.total t = c.total t := by
  simp only [ProviderCapacity.total, h]

theorem Balanced.allocate {a : ResourceAllocation} (h : Balanced c)
    (hready : c.PoolReady spec) (hcount : 0 ≤ a.gpuCount) :
    Balanced (allocateResources spec c a).2 := by
  have hallocation := allocateResources_allocation spec c a
  rcases hresult : allocateResources spec c a with ⟨outcome, c'⟩
  rw [hresult] at hallocation
  obtain ⟨hmining, htotals, -, -⟩ := hallocation.frame
  have havailable := hallocation.available hready hcount
  have hinUse := hallocation.inUse hcount
  have henough := hallocation.moved_le hready hcount
  have hmoved : ∀ t,
      0 ≤ moved (resolveGPUType spec a.gpuType) a outcome t := fun t => by
    cases outcome with
    | error message => exact le_rfl
    | ok =>
        simp only [moved]
        split
        · exact hcount
        · exact le_rfl
  refine ⟨fun t => ?_, fun t => ?_, fun t => ?_, fun t => ?_⟩
  · have hequation := h.equation t
    rw [total_eq_of htotals, havailable, hinUse, hmining]
    omega
  · have hpool := h.available_nonneg t
    rw [havailable]
    rcases henough t with hzero | hle <;> omega
  · have hpool := h.inUse_nonneg t
    rw [hinUse]
    exact add_nonneg hpool (hmoved t)
  · rw [hmining]
    exact h.mining_nonneg t

theorem Balanced.release_iff {gpuCount : ℤ} (h : Balanced c)
    (hcount : 0 ≤ gpuCount) (cpuCores memoryMB : ℤ) :
    Balanced (releaseJobResources spec c gpuType gpuCount cpuCores memoryMB) ↔
      gpuCount ≤ c.inUse (resolveGPUType spec gpuType) := by
  have havailable := release_available spec c gpuType gpuCount cpuCores memoryMB
  have hinUse :=
    release_inUse_of_nonneg spec c gpuType hcount cpuCores memoryMB
  have htotal : ∀ t, (releaseJobResources spec c gpuType gpuCount cpuCores
      memoryMB).total t = c.total t := fun _ => rfl
  have hmining : ∀ t, (releaseJobResources spec c gpuType gpuCount cpuCores
      memoryMB).mining t = c.mining t := fun _ => rfl
  constructor
  · intro hafter
    have hequation := hafter.equation (resolveGPUType spec gpuType)
    have hbefore := h.equation (resolveGPUType spec gpuType)
    rw [htotal, hmining, havailable, hinUse, if_pos rfl, if_pos rfl] at hequation
    have hpool := h.inUse_nonneg (resolveGPUType spec gpuType)
    unfold subtractClamped at hequation
    split at hequation <;> omega
  · intro henough
    refine ⟨fun t => ?_, fun t => ?_, fun t => ?_, h.mining_nonneg⟩
    · have hequation := h.equation t
      rw [htotal, hmining, havailable, hinUse]
      split
      · rename_i ht
        subst ht
        rw [subtractClamped_of_le henough]
        omega
      · omega
    · have hpool := h.available_nonneg t
      rw [havailable]
      split <;> omega
    · rw [hinUse]
      split
      · exact subtractClamped_nonneg _ _
      · exact h.inUse_nonneg t

theorem Balanced.shift {e : String → ℤ} (h : Balanced c)
    (hshift : MiningShift c c' e) : Balanced c' := by
  have hnonneg := hshift.nonneg h.available_nonneg h.mining_nonneg
  have hinUse : ∀ t, c'.inUse t = c.inUse t := fun t => by
    simp only [ProviderCapacity.inUse, hshift.inUse]
  refine ⟨fun t => ?_, fun t => (hnonneg t).1, fun t => ?_,
    fun t => (hnonneg t).2⟩
  · have hequation := h.equation t
    rw [total_eq_of hshift.totals, hshift.available, hinUse, hshift.mining]
    omega
  · rw [hinUse]
    exact h.inUse_nonneg t

/-! ## Deploying mining -/

/--
What `DeployMiningForProvider` relies on: an initialised pool that is not taken for an
empty one and, where it deploys, no GPUs that mine yet and a request for none or more.
-/
structure DeploysSoundly (providerID : String) (spec : SystemSpec) (c : ProviderCapacity)
    (config : MiningConfig) (first : Option String) (deployed : Outcome) : Prop where
  pool : c.availableGPUs ≠ none
  offered : (if deployGPUType spec first ≠ "" then c.available (deployGPUType spec first)
    else 0) ≠ 0 ∨ spec.totalGPUs ≤ 0
  taken : (deployMiningForProvider providerID spec c config first deployed).1 = .ok () →
    c.mining (deployGPUType spec first) = 0 ∧ 0 ≤ config.gpuCount

theorem deployPools_of_pool (spec : SystemSpec) (hpool : c.availableGPUs ≠ none)
    (gpuType : String) : deployPools spec c gpuType = c := by
  obtain ⟨pool, hpool⟩ := Option.ne_none_iff_exists'.mp hpool
  simp only [deployPools, hpool]
  rw [← hpool]

theorem DeploysSoundly.shift {providerID : String} {config : MiningConfig}
    {first : Option String} {deployed : Outcome}
    (h : DeploysSoundly providerID spec c config first deployed)
    (havailable : ∀ t, 0 ≤ c.available t) :
    ∃ e, MiningShift c
      (deployMiningForProvider providerID spec c config first deployed).2 e := by
  have hoffered : deployAvailable spec c (deployGPUType spec first) =
      (if deployGPUType spec first ≠ "" then
        c.available (deployGPUType spec first) else 0, c) := by
    unfold deployAvailable
    simp only []
    rw [if_neg]
    rintro ⟨hzero, hpositive⟩
    rcases h.offered with hne | hle
    · exact hne hzero
    · omega
  have htaken := h.taken
  unfold deployMiningForProvider at htaken ⊢
  simp only [deployPools_of_pool spec h.pool, hoffered] at htaken ⊢
  by_cases hshort : (if deployGPUType spec first ≠ "" then
      c.available (deployGPUType spec first) else 0) < config.gpuCount
  · rw [if_pos hshort]
    exact ⟨_, miningShift_kept rfl rfl rfl rfl⟩
  rw [if_neg hshort] at htaken ⊢
  cases deployed with
  | error message => exact ⟨_, miningShift_kept rfl rfl rfl rfl⟩
  | ok =>
      obtain ⟨hunmined, hcount⟩ := htaken rfl
      have hpool := havailable (deployGPUType spec first)
      refine ⟨_, miningShift_one rfl (fun t => ?_) ?_ (by omega) rfl rfl⟩
      · simp only [ProviderCapacity.mining] at hunmined ⊢
        rw [NilMap.count_put]
        split
        · rename_i ht
          rw [ht, hunmined, zero_add]
        · exact (add_zero _).symm
      · split at hshort <;> omega

end WorldlandBroker.Provider
