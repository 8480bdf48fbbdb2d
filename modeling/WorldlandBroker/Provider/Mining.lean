import WorldlandBroker.Provider.LedgerEffect

/-!
# Mining, the filler workload

The operations that move GPUs between the available pool and mining.  What the
cluster answers (a pod deployed, deleted or reported) is an argument, and so is
the key a Go map iteration happens to yield first.
-/

namespace WorldlandBroker.Provider

open Foundation

structure MiningConfig where
  gpuCount : ℤ
  cpuCores : ℤ
  memoryMB : ℤ
  deriving DecidableEq

def allocateMiningGPU (c : ProviderCapacity) (gpuType : String) (count : ℤ) :
    Outcome × ProviderCapacity :=
  let available := c.available gpuType
  if available < count then
    (.error s!"insufficient available GPUs for mining: requested {decimal count}, available {decimal available}. Wait for rental jobs to complete", c)
  else
    (.ok (), { c with
      availableGPUs := c.availableGPUs.add gpuType (-count)
      miningGPUs := c.miningGPUs.add gpuType count })

/-- Writing to a mining map that was never allocated panics. -/
def releaseMiningGPU (c : ProviderCapacity) (gpuType : String) (count : ℤ) :
    Outcome × ProviderCapacity :=
  let miningGPUs := c.mining gpuType
  if miningGPUs < count then
    (.error s!"cannot release more GPUs than allocated for mining: mining {decimal miningGPUs}, requested {decimal count}", c)
  else
    match c.miningGPUs with
    | none =>
        (.error "assignment to entry in nil map",
          { c with availableGPUs := c.availableGPUs.alloc })
    | some _ =>
        (.ok (), { c with
          miningGPUs := c.miningGPUs.add gpuType (-count)
          availableGPUs := c.availableGPUs.add gpuType count })

/-- What `for t := range m` can yield first; nothing for an empty map. -/
def FirstKey (m : NilMap String) (first : Option String) : Prop :=
  match first with
  | none => (m.getD ∅).keys = []
  | some k => k ∈ (m.getD ∅).keys

def deployGPUType (spec : SystemSpec) (first : Option String) : String :=
  let gpuType := first.getD ""
  if gpuType = "" then
    match spec.gpus with
    | gpu :: _ => gpu.name
    | [] => gpuType
  else gpuType

def deployPools (spec : SystemSpec) (c : ProviderCapacity) (gpuType : String) :
    ProviderCapacity :=
  { c with
    availableGPUs :=
      match c.availableGPUs with
      | some pool => some pool
      | none =>
          match c.totalGPUs with
          | some totals => some totals
          | none =>
              if gpuType ≠ "" then NilMap.put none gpuType spec.totalGPUs
              else some ∅ }

/-- The number offered to mining; a zero is replaced by the reported total. -/
def deployAvailable (spec : SystemSpec) (c : ProviderCapacity)
    (gpuType : String) : ℤ × ProviderCapacity :=
  let available := if gpuType ≠ "" then c.available gpuType else 0
  if available = 0 ∧ 0 < spec.totalGPUs then
    (spec.totalGPUs,
      { c with availableGPUs := c.availableGPUs.put gpuType spec.totalGPUs })
  else (available, c)

def deployMiningForProvider (providerID : String) (spec : SystemSpec)
    (c : ProviderCapacity) (config : MiningConfig) (first : Option String)
    (deployed : Outcome) : Outcome × ProviderCapacity :=
  let gpuType := deployGPUType spec first
  let (available, c) := deployAvailable spec (deployPools spec c gpuType) gpuType
  if available < config.gpuCount then
    (.error s!"insufficient GPUs: requested {decimal config.gpuCount}, available {decimal available}", c)
  else
    match deployed with
    | .error message => (.error s!"failed to deploy mining pod: {message}", c)
    | .ok () =>
        (.ok (), { c with
          miningGPUs := c.miningGPUs.put gpuType config.gpuCount
          availableGPUs := c.availableGPUs.add gpuType (-config.gpuCount)
          miningCPUCores := config.cpuCores
          miningMemoryMB := config.memoryMB
          miningPodName := "mining-" ++ providerID
          miningStatus := "pending" })

def stopMiningForProvider (c : ProviderCapacity) (deleted : Outcome) :
    Outcome × ProviderCapacity :=
  match deleted with
  | .error message => (.error s!"failed to delete mining pod: {message}", c)
  | .ok () =>
      (.ok (), { c with
        availableGPUs := c.availableGPUs.addAll c.miningGPUs
        miningGPUs := none
        miningCPUCores := 0
        miningMemoryMB := 0
        miningPodName := ""
        miningStatus := "stopped" })

def syncMiningPodState (c : ProviderCapacity) (reported : Except String String) :
    ProviderCapacity :=
  if c.miningPodName = "" then c
  else
    match reported with
    | .error _ => c
    | .ok status =>
        let c := { c with miningStatus := status }
        if (status = "failed" ∨ status = "stopped") ∧ 0 < c.miningGPUCount then
          { c with
            availableGPUs := c.availableGPUs.addAll c.miningGPUs
            miningGPUs := none
            miningCPUCores := 0
            miningMemoryMB := 0 }
        else c

/-! ## The pools afterwards -/

variable {spec : SystemSpec} {c c' : ProviderCapacity} {gpuType : String}
  {count : ℤ}

structure MiningShift (c c' : ProviderCapacity) (e : String → ℤ) : Prop where
  available : ∀ t, c'.available t = c.available t - e t
  mining : ∀ t, c'.mining t = c.mining t + e t
  nonneg : (∀ t, 0 ≤ c.available t) → (∀ t, 0 ≤ c.mining t) →
    ∀ t, 0 ≤ c'.available t ∧ 0 ≤ c'.mining t
  inUse : c'.inUseGPUs = c.inUseGPUs
  totals : c'.totalGPUs = c.totalGPUs
  pool : c.availableGPUs ≠ none → c'.availableGPUs ≠ none

theorem miningShift_kept (havailable : c'.availableGPUs = c.availableGPUs)
    (hmining : c'.miningGPUs = c.miningGPUs)
    (hinUse : c'.inUseGPUs = c.inUseGPUs)
    (htotals : c'.totalGPUs = c.totalGPUs) :
    MiningShift c c' (fun _ => 0) where
  available t := by simp only [ProviderCapacity.available, havailable, sub_zero]
  mining t := by simp only [ProviderCapacity.mining, hmining, add_zero]
  nonneg hbefore hbefore' t := by
    simp only [ProviderCapacity.available, ProviderCapacity.mining, havailable,
      hmining]
    exact ⟨hbefore t, hbefore' t⟩
  inUse := hinUse
  totals := htotals
  pool hpool := havailable ▸ hpool

private theorem miningShift_returned
    (havailable : c'.availableGPUs = c.availableGPUs.addAll c.miningGPUs)
    (hmining : c'.miningGPUs = none) (hinUse : c'.inUseGPUs = c.inUseGPUs)
    (htotals : c'.totalGPUs = c.totalGPUs) :
    MiningShift c c' (fun t => -c.mining t) := by
  have hall : ∀ t, c'.available t = c.available t + c.mining t := fun t => by
    simp only [ProviderCapacity.available, havailable, NilMap.count_addAll,
      ProviderCapacity.mining]
  have hnone : ∀ t, c'.mining t = 0 := fun t => by
    simp only [ProviderCapacity.mining, hmining, NilMap.count_none]
  refine ⟨fun t => ?_, fun t => ?_, fun hbefore hbefore' t => ?_, hinUse, htotals,
    fun hpool => havailable ▸ NilMap.addAll_ne_none hpool _⟩
  · rw [hall t]
    ring
  · rw [hnone t]
    ring
  · rw [hall t, hnone t]
    exact ⟨add_nonneg (hbefore t) (hbefore' t), le_rfl⟩

theorem miningShift_one {n : ℤ}
    (havailable : c'.availableGPUs = c.availableGPUs.add gpuType (-n))
    (hmining : ∀ t, c'.mining t = c.mining t + if t = gpuType then n else 0)
    (henough : n ≤ c.available gpuType) (henough' : -n ≤ c.mining gpuType)
    (hinUse : c'.inUseGPUs = c.inUseGPUs)
    (htotals : c'.totalGPUs = c.totalGPUs) :
    MiningShift c c' (fun t => if t = gpuType then n else 0) := by
  have hshift : ∀ t, c'.available t =
      c.available t - if t = gpuType then n else 0 := fun t => by
    simp only [ProviderCapacity.available, havailable, NilMap.count_add]
    split <;> ring
  refine ⟨hshift, hmining, fun hbefore hbefore' t => ?_, hinUse, htotals,
    fun _ => by simp [havailable, NilMap.add]⟩
  have hpool := hbefore t
  have hpool' := hbefore' t
  rw [hshift t, hmining t]
  split
  · rename_i ht
    subst ht
    omega
  · omega

theorem allocateMining_shift (c : ProviderCapacity) (gpuType : String)
    (hcount : 1 ≤ count) (hmining : ∀ t, 0 ≤ c.mining t) :
    ∃ e, MiningShift c (allocateMiningGPU c gpuType count).2 e := by
  unfold allocateMiningGPU
  simp only []
  split
  · exact ⟨_, miningShift_kept rfl rfl rfl rfl⟩
  · rename_i henough
    have hpool := hmining gpuType
    exact ⟨_, miningShift_one rfl (fun t => NilMap.count_add _ _ _ _)
      (not_lt.mp henough) (by omega) rfl rfl⟩

theorem releaseMining_shift (c : ProviderCapacity) (gpuType : String)
    (hcount : 1 ≤ count) (havailable : ∀ t, 0 ≤ c.available t) :
    ∃ e, MiningShift c (releaseMiningGPU c gpuType count).2 e := by
  unfold releaseMiningGPU
  simp only []
  split
  · exact ⟨_, miningShift_kept rfl rfl rfl rfl⟩
  rename_i henough
  split
  · rename_i hnone
    have hzero : c.mining gpuType = 0 := by
      simp [ProviderCapacity.mining, hnone]
    omega
  · have hpool := havailable gpuType
    refine ⟨_, miningShift_one (by rw [neg_neg]) (fun t => ?_) (by omega)
      (by simpa using not_lt.mp henough) rfl rfl⟩
    exact NilMap.count_add _ _ _ _

theorem stopMining_shift (c : ProviderCapacity) (deleted : Outcome) :
    ∃ e, MiningShift c (stopMiningForProvider c deleted).2 e := by
  cases deleted with
  | error message => exact ⟨_, miningShift_kept rfl rfl rfl rfl⟩
  | ok => exact ⟨_, miningShift_returned rfl rfl rfl rfl⟩

theorem syncMining_shift (c : ProviderCapacity) (reported : Except String String) :
    ∃ e, MiningShift c (syncMiningPodState c reported) e := by
  unfold syncMiningPodState
  split
  · exact ⟨_, miningShift_kept rfl rfl rfl rfl⟩
  cases reported with
  | error message => exact ⟨_, miningShift_kept rfl rfl rfl rfl⟩
  | ok status =>
      simp only []
      split
      · exact ⟨_, miningShift_returned rfl rfl rfl rfl⟩
      · exact ⟨_, miningShift_kept rfl rfl rfl rfl⟩

/-! ## What mining is afterwards -/

structure SameMining (c c' : ProviderCapacity) : Prop where
  gpus : c'.miningGPUs = c.miningGPUs
  podName : c'.miningPodName = c.miningPodName

theorem allocateMining_cases (c : ProviderCapacity) (gpuType : String) (count : ℤ) :
    (∃ message, (allocateMiningGPU c gpuType count).1 = .error message ∧
        SameMining c (allocateMiningGPU c gpuType count).2) ∨
      ((allocateMiningGPU c gpuType count).1 = .ok () ∧
        (allocateMiningGPU c gpuType count).2.miningGPUs = c.miningGPUs.add gpuType count) := by
  unfold allocateMiningGPU
  simp only []
  split
  · exact .inl ⟨_, rfl, rfl, rfl⟩
  · exact .inr ⟨rfl, rfl⟩

theorem releaseMining_cases (c : ProviderCapacity) (gpuType : String) (count : ℤ) :
    (∃ message, (releaseMiningGPU c gpuType count).1 = .error message ∧
        SameMining c (releaseMiningGPU c gpuType count).2) ∨
      ((releaseMiningGPU c gpuType count).1 = .ok () ∧ count ≤ c.mining gpuType ∧
        (releaseMiningGPU c gpuType count).2.miningGPUs =
          c.miningGPUs.add gpuType (-count)) := by
  unfold releaseMiningGPU
  simp only []
  split
  · exact .inl ⟨_, rfl, rfl, rfl⟩
  · rename_i henough
    split
    · exact .inl ⟨_, rfl, rfl, rfl⟩
    · exact .inr ⟨rfl, not_lt.mp henough, rfl⟩

private theorem deployAvailable_mining (spec : SystemSpec) (c : ProviderCapacity)
    (gpuType : String) :
    SameMining c (deployAvailable spec c gpuType).2 := by
  simp only [deployAvailable]
  generalize (if gpuType ≠ "" then c.available gpuType else 0) = available
  by_cases hzero : available = 0 ∧ 0 < spec.totalGPUs
  · rw [if_pos hzero]
    exact ⟨rfl, rfl⟩
  · rw [if_neg hzero]
    exact ⟨rfl, rfl⟩

theorem deployAvailable_deployPools_mining (spec : SystemSpec) (c : ProviderCapacity)
    (gpuType : String) :
    SameMining c (deployAvailable spec (deployPools spec c gpuType) gpuType).2 := by
  have hsame := deployAvailable_mining spec (deployPools spec c gpuType) gpuType
  exact ⟨hsame.gpus, hsame.podName⟩

theorem deployMining_error {providerID message : String} {config : MiningConfig}
    {first : Option String} {deployed : Outcome}
    (h : (deployMiningForProvider providerID spec c config first deployed).1 =
      .error message) :
    SameMining c (deployMiningForProvider providerID spec c config first deployed).2 := by
  have hsame := deployAvailable_deployPools_mining spec c (deployGPUType spec first)
  unfold deployMiningForProvider at h ⊢
  simp only [] at h ⊢
  split
  · exact hsame
  · rename_i henough
    rw [if_neg henough] at h
    cases deployed with
    | error cause => exact hsame
    | ok => contradiction

theorem deployMining_failed (providerID : String) (spec : SystemSpec) (c : ProviderCapacity)
    (config : MiningConfig) (first : Option String) (message : String) :
    SameMining c
      (deployMiningForProvider providerID spec c config first (.error message)).2 := by
  have hsame := deployAvailable_deployPools_mining spec c (deployGPUType spec first)
  unfold deployMiningForProvider
  simp only []
  split
  · exact hsame
  · exact hsame

theorem deployMining_ok {providerID : String} {config : MiningConfig}
    {first : Option String} {deployed : Outcome}
    (h : (deployMiningForProvider providerID spec c config first deployed).1 = .ok ()) :
    deployed = .ok () ∧
      (deployMiningForProvider providerID spec c config first deployed).2.miningGPUs =
        c.miningGPUs.put (deployGPUType spec first) config.gpuCount := by
  have hsame := deployAvailable_deployPools_mining spec c (deployGPUType spec first)
  unfold deployMiningForProvider at h ⊢
  simp only [] at h ⊢
  split at h
  · contradiction
  · rename_i henough
    rw [if_neg henough]
    cases deployed with
    | error cause => contradiction
    | ok =>
        refine ⟨rfl, ?_⟩
        rw [← hsame.gpus]

theorem deployAvailable_pool (spec : SystemSpec) (c : ProviderCapacity) (gpuType t : String) :
    (deployAvailable spec c gpuType).2.available t =
      if t = gpuType ∧ (if gpuType ≠ "" then c.available gpuType else 0) = 0 ∧
        0 < spec.totalGPUs then spec.totalGPUs else c.available t := by
  simp only [deployAvailable]
  generalize (if gpuType ≠ "" then c.available gpuType else 0) = available
  by_cases hzero : available = 0 ∧ 0 < spec.totalGPUs
  · rw [if_pos hzero]
    simp only [ProviderCapacity.available, NilMap.count_put, hzero, and_true]
  · rw [if_neg hzero, if_neg fun h => hzero h.2]

theorem deployMining_granted {providerID : String} {config : MiningConfig}
    {first : Option String} {deployed : Outcome}
    (h : (deployMiningForProvider providerID spec c config first deployed).1 = .ok ()) :
    let gpuType := deployGPUType spec first
    let offer := deployAvailable spec (deployPools spec c gpuType) gpuType
    let c' := (deployMiningForProvider providerID spec c config first deployed).2
    config.gpuCount ≤ offer.1 ∧
      (∀ t, c'.available t =
        offer.2.available t - if t = gpuType then config.gpuCount else 0) ∧
      c'.inUseGPUs = c.inUseGPUs ∧ c'.totalGPUs = c.totalGPUs := by
  have hkept : ∀ gpuType,
      (deployAvailable spec (deployPools spec c gpuType) gpuType).2.inUseGPUs = c.inUseGPUs ∧
        (deployAvailable spec (deployPools spec c gpuType) gpuType).2.totalGPUs =
          c.totalGPUs := by
    intro gpuType
    simp only [deployAvailable]
    split_ifs <;> exact ⟨rfl, rfl⟩
  have hsame := hkept (deployGPUType spec first)
  unfold deployMiningForProvider at h ⊢
  simp only [] at h ⊢
  split at h
  · contradiction
  · rename_i henough
    rw [if_neg henough]
    cases deployed with
    | error cause => contradiction
    | ok =>
        refine ⟨not_lt.mp henough, ?_, hsame.1, hsame.2⟩
        intro t
        simp only [ProviderCapacity.available, NilMap.count_add]
        split
        · ring
        · ring

theorem syncMining_cases (c : ProviderCapacity) (reported : Except String String) :
    SameMining c (syncMiningPodState c reported) ∨
      (∃ status, reported = .ok status ∧ c.miningPodName ≠ "" ∧ 0 < c.miningGPUCount ∧
        (status = "failed" ∨ status = "stopped")) ∧
      (syncMiningPodState c reported).miningGPUs = none := by
  unfold syncMiningPodState
  split
  · exact .inl ⟨rfl, rfl⟩
  · rename_i hname
    cases reported with
    | error message => exact .inl ⟨rfl, rfl⟩
    | ok status =>
        simp only []
        split
        · rename_i hended
          exact .inr ⟨⟨status, rfl, hname, hended.2, hended.1⟩, rfl⟩
        · exact .inl ⟨rfl, rfl⟩

end WorldlandBroker.Provider
