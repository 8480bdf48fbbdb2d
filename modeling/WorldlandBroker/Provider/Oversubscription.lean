import WorldlandBroker.Provider.Requests

/-!
# Mining next to rentals

A deployment records CPU and memory as mining and leaves the available amount as
it is.  What is in use and what is mining stay within the total as long as each
deployment fits beside what is rented, and as long as no request is granted out
of an available amount that does not cover the request and mining both.
-/

namespace WorldlandBroker.Provider

open Foundation ProviderCapacity Pooled

variable {providerID : String} {spec : SystemSpec} {s s' : Rentals}

def Scalar.Covers (p : Scalar) (n : ℤ) : Prop :=
  p.available ≠ 0 → n ≤ p.available → n + p.mining ≤ p.available

instance (p : Scalar) (n : ℤ) : Decidable (p.Covers n) :=
  inferInstanceAs (Decidable (_ → _ → _))

/-- The checks that the calls leave out. -/
def Considerate (spec : SystemSpec) (s : Rentals) : PoolCall → Prop
  | .allocateResources a => ∀ k : Pooled, 0 ≤ k.asked a ∧
      (k.Reaches spec s.capacity a → 0 < k.asked a → (k.pool s.capacity).Covers (k.asked a))
  | .deployMiningForProvider config first deployed =>
      Deploys spec s.capacity config first deployed → ∀ k : Pooled, 0 ≤ k.mined config ∧
        (k.pool s.capacity).inUse + k.mined config ≤ (k.pool s.capacity).total
  | _ => True

instance (spec : SystemSpec) (s : Rentals) (call : PoolCall) :
    Decidable (Considerate spec s call) :=
  match call with
  | .allocateResources a => inferInstanceAs (Decidable (∀ k : Pooled, 0 ≤ k.asked a ∧
      (k.Reaches spec s.capacity a → 0 < k.asked a → (k.pool s.capacity).Covers (k.asked a))))
  | .deployMiningForProvider config first deployed => inferInstanceAs (Decidable
      (Deploys spec s.capacity config first deployed → ∀ k : Pooled, 0 ≤ k.mined config ∧
        (k.pool s.capacity).inUse + k.mined config ≤ (k.pool s.capacity).total))
  | .releaseResources _ => inferInstanceAs (Decidable True)
  | .stopMiningForProvider _ => inferInstanceAs (Decidable True)
  | .syncMiningPodStates _ => inferInstanceAs (Decidable True)

structure Scalar.Within (p : Scalar) : Prop where
  mining_nonneg : 0 ≤ p.mining
  oversubscribed : p.inUse + p.mining ≤ p.total
  available : p.available + p.inUse ≤ p.total

theorem Scalar.Within.init {p : Scalar} (h : p.Within) (legacy reported : ℤ) :
    (p.init legacy reported).Within := by
  have hmining := h.mining_nonneg
  have hfits := h.oversubscribed
  have havailable := h.available
  have htotal : p.total ≤ initTotal p.total legacy reported := by
    unfold initTotal
    split_ifs <;> omega
  refine ⟨hmining, ?_, ?_⟩
  · simp only [Scalar.init]
    omega
  · simp only [Scalar.init, initAvailable]
    split_ifs <;> omega

/-- Where the available amount is recomputed, mining has been taken out of it. -/
theorem Scalar.Covers.init {p : Scalar} {n : ℤ} (hcovers : p.Covers n) (h : p.Within)
    (hn : 0 < n) {legacy reported : ℤ} (henough : n ≤ (p.init legacy reported).available) :
    p.inUse + n + p.mining ≤ (p.init legacy reported).total := by
  have havailable := (h.init legacy reported).available
  have hinUse : (p.init legacy reported).inUse = p.inUse := rfl
  by_cases hrecomputed : p.available = 0 ∧ 0 < (p.init legacy reported).total
  · have hamount : (p.init legacy reported).available =
        (p.init legacy reported).total - p.inUse - p.mining := by
      simp only [Scalar.init] at hrecomputed ⊢
      exact if_pos hrecomputed
    omega
  · have hamount : (p.init legacy reported).available = p.available := by
      simp only [Scalar.init] at hrecomputed ⊢
      exact if_neg hrecomputed
    have hcovered := hcovers (by omega) (by omega)
    omega

theorem Scalar.Within.rent {p : Scalar} (h : p.Within) {n : ℤ}
    (henough : p.inUse + n + p.mining ≤ p.total) : (p.rent n).Within := by
  have havailable := h.available
  refine ⟨h.mining_nonneg, ?_, ?_⟩
  · simp only [Scalar.rent]
    omega
  · simp only [Scalar.rent]
    omega

theorem Scalar.Within.ask {p p' : Scalar} {legacy reported n : ℤ} {reached : Prop}
    {outcome : Outcome} (h : p.Within)
    (hasked : Asked legacy reported reached p n outcome p')
    (hcovers : reached → 0 < n → p.Covers n) : p'.Within := by
  cases hasked with
  | untouched => exact h
  | recomputed => exact h.init legacy reported
  | granted hreached hpositive henough =>
      have hcovered := hcovers hreached hpositive
      exact (h.init legacy reported).rent (hcovered.init h hpositive henough)

theorem Scalar.Within.mine {p : Scalar} (h : p.Within) {n : ℤ} (hn : 0 ≤ n)
    (hfits : p.inUse + n ≤ p.total) : Scalar.Within { p with mining := n } :=
  ⟨hn, hfits, h.available⟩

theorem Scalar.Within.clear {p : Scalar} (h : p.Within) :
    Scalar.Within { p with mining := 0 } := by
  have hmining := h.mining_nonneg
  have hfits := h.oversubscribed
  refine h.mine le_rfl ?_
  omega

/-! ## Runs -/

structure NotOversubscribed (s : Rentals) : Prop where
  within : ∀ k : Pooled, (k.pool s.capacity).Within
  rentedOut : ∀ k : Pooled, RentedOut s k

theorem RentedOut.of_mining {s : Rentals} {k : Pooled} (h : RentedOut s k)
    {c : ProviderCapacity} (hinUse : (k.pool c).inUse = (k.pool s.capacity).inUse) :
    RentedOut { s with capacity := c } k :=
  ⟨h.asked, hinUse.trans h.inUse⟩

theorem NotOversubscribed.allocate {a : ResourceAllocation} (h : NotOversubscribed s)
    (hconsiderate : Considerate spec s (.allocateResources a)) :
    NotOversubscribed (allocateRental spec s a) := by
  have hasked : ∀ k : Pooled, 0 ≤ k.asked a := fun k => (hconsiderate k).1
  refine ⟨?_, fun k => (h.rentedOut k).allocate hasked⟩
  intro k
  have hserved := allocateResources_served spec s.capacity hasked k
  have hwithin := (h.within k).ask hserved (hconsiderate k).2
  unfold allocateRental
  rcases hresult : allocateResources spec s.capacity a with ⟨message | _, c'⟩
  · rw [hresult] at hwithin
    exact hwithin
  · rw [hresult] at hwithin
    exact hwithin

theorem NotOversubscribed.release {a : ResourceAllocation} (h : NotOversubscribed s)
    (ha : a ∈ s.outstanding) :
    NotOversubscribed ⟨releaseResources spec s.capacity a, s.outstanding.erase a⟩ := by
  refine ⟨?_, fun k => (h.rentedOut k).release ha⟩
  intro k
  have hasked := (h.rentedOut k).asked a ha
  have hfits := (h.within k).oversubscribed
  rw [(h.rentedOut k).pool_released ha]
  apply (h.within k).rent
  omega

theorem NotOversubscribed.mining {c : ProviderCapacity} (h : NotOversubscribed s)
    (hkept : ∀ k : Pooled, k.pool c = k.pool s.capacity ∨
      k.pool c = { k.pool s.capacity with mining := 0 }) :
    NotOversubscribed { s with capacity := c } := by
  refine ⟨?_, ?_⟩
  · intro k
    rcases hkept k with hsame | hcleared
    · exact hsame.symm ▸ h.within k
    · exact hcleared.symm ▸ (h.within k).clear
  · intro k
    apply (h.rentedOut k).of_mining
    rcases hkept k with hsame | hcleared
    · rw [hsame]
    · rw [hcleared]

theorem NotOversubscribed.deploy {config : MiningConfig} {first : Option String}
    {deployed : Outcome} (h : NotOversubscribed s)
    (hconsiderate : Considerate spec s (.deployMiningForProvider config first deployed)) :
    NotOversubscribed { s with
      capacity :=
        (deployMiningForProvider providerID spec s.capacity config first deployed).2 } := by
  by_cases hdeploys : Deploys spec s.capacity config first deployed
  · refine ⟨?_, ?_⟩
    · intro k
      obtain ⟨hnonneg, hfits⟩ := hconsiderate hdeploys k
      rw [deployMining_pool, if_pos hdeploys]
      exact (h.within k).mine hnonneg hfits
    · intro k
      apply (h.rentedOut k).of_mining
      rw [deployMining_pool, if_pos hdeploys]
  · apply h.mining
    intro k
    rw [deployMining_pool, if_neg hdeploys]
    exact .inl rfl

theorem NotOversubscribed.step {call : PoolCall} (h : NotOversubscribed s)
    (hconsiderate : Considerate spec s call)
    (hstep : poolStep providerID spec s call = some s') : NotOversubscribed s' := by
  cases call with
  | allocateResources a =>
      obtain rfl := Option.some.inj hstep
      exact h.allocate hconsiderate
  | releaseResources a =>
      simp only [poolStep] at hstep
      split at hstep
      · rename_i ha
        obtain rfl := Option.some.inj hstep
        exact h.release ha
      · contradiction
  | deployMiningForProvider config first deployed =>
      obtain rfl := Option.some.inj hstep
      exact h.deploy hconsiderate
  | stopMiningForProvider deleted =>
      obtain rfl := Option.some.inj hstep
      exact h.mining (stopMining_pool s.capacity deleted)
  | syncMiningPodStates reported =>
      obtain rfl := Option.some.inj hstep
      exact h.mining (syncMining_pool s.capacity reported)

structure Unused (c : ProviderCapacity) : Prop where
  available : ∀ k : Pooled, (k.pool c).available = (k.pool c).total
  inUse : ∀ k : Pooled, (k.pool c).inUse = 0
  mining : ∀ k : Pooled, (k.pool c).mining = 0
  total_nonneg : ∀ k : Pooled, 0 ≤ (k.pool c).total

theorem Unused.notOversubscribed {c : ProviderCapacity} (h : Unused c) :
    NotOversubscribed ⟨c, []⟩ := by
  refine ⟨?_, ?_⟩
  · intro k
    refine ⟨(h.mining k).ge, ?_, ?_⟩
    · rw [h.inUse, h.mining]
      exact h.total_nonneg k
    · rw [h.available, h.inUse, add_zero]
  · intro k
    exact ⟨by simp, h.inUse k⟩

/--
In a run where every deployment fits beside what is in use, and every request
granted from what is available leaves enough of it for mining, CPU and memory are
never given out beyond the total.
-/
theorem never_oversubscribed {c₀ : ProviderCapacity}
    {past : List (Transition Rentals PoolCall)} (hunused : Unused c₀)
    (hrun : Run (poolStep providerID spec) (fun _ => Considerate spec) ⟨c₀, []⟩ past s) :
    s.capacity.inUseCPUCores + s.capacity.miningCPUCores ≤ s.capacity.totalCPUCores ∧
      s.capacity.inUseMemoryMB + s.capacity.miningMemoryMB ≤ s.capacity.totalMemoryMB := by
  have hkept : NotOversubscribed s := by
    apply hrun.always hunused.notOversubscribed
    intro past s call s' h hconsiderate hstep
    exact h.step hconsiderate hstep
  exact ⟨(hkept.within .cpu).oversubscribed, (hkept.within .memory).oversubscribed⟩

private theorem sampleCapacity_unused : Unused sampleCapacity := by
  refine ⟨?_, ?_, ?_, ?_⟩
  all_goals decide

def considerateCalls : List PoolCall :=
  [.deployMiningForProvider ⟨2, 4, 8192⟩ (some "RTX 4090") (.ok ()),
    .allocateResources ⟨"RTX 4090", 2, 60, 16384⟩, .syncMiningPodStates (.ok "running"),
    .releaseResources ⟨"RTX 4090", 2, 60, 16384⟩, .stopMiningForProvider (.ok ())]

private theorem considerateCalls_checked :
    ∃ run ∈ trace (poolStep "p1" sampleSpec) ⟨sampleCapacity, []⟩ considerateCalls,
      ∀ r ∈ run.1, Considerate sampleSpec r.pre r.act := by
  decide +kernel

/-- Mining takes 4 of 64 cores, and a rental the other 60. -/
theorem never_oversubscribed_sample :
    ∃ run ∈ trace (poolStep "p1" sampleSpec) ⟨sampleCapacity, []⟩ considerateCalls,
      run.2.capacity.inUseCPUCores + run.2.capacity.miningCPUCores ≤
        run.2.capacity.totalCPUCores := by
  obtain ⟨run, hrun, hsteps⟩ := considerateCalls_checked
  exact ⟨run, hrun,
    (never_oversubscribed sampleCapacity_unused ((Run.of_trace hrun).guarded hsteps)).1⟩

def greedyCalls : List PoolCall :=
  [.deployMiningForProvider ⟨2, 4, 8192⟩ (some "RTX 4090") (.ok ()),
    .allocateResources ⟨"RTX 4090", 2, 64, 16384⟩]

private theorem greedyCalls_checked :
    ∃ run ∈ trace (poolStep "p1" sampleSpec) ⟨sampleCapacity, []⟩ greedyCalls,
      run.2.capacity.totalCPUCores <
        run.2.capacity.inUseCPUCores + run.2.capacity.miningCPUCores := by
  decide +kernel

theorem mining_cores_rented :
    ¬ ∀ (providerID : String) (spec : SystemSpec) (c₀ : ProviderCapacity)
        (past : List (Transition Rentals PoolCall)) (s : Rentals), Unused c₀ →
      Run (poolStep providerID spec) anyStep ⟨c₀, []⟩ past s →
        s.capacity.inUseCPUCores + s.capacity.miningCPUCores ≤ s.capacity.totalCPUCores ∧
          s.capacity.inUseMemoryMB + s.capacity.miningMemoryMB ≤
            s.capacity.totalMemoryMB := by
  intro hclaim
  obtain ⟨run, hrun, hover⟩ := greedyCalls_checked
  have hfits := (hclaim _ _ _ _ _ sampleCapacity_unused (Run.of_trace hrun)).1
  omega

end WorldlandBroker.Provider
