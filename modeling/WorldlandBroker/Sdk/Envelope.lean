import WorldlandBroker.Provider.Requests
import WorldlandBroker.Sdk.Capacity

/-!
# The envelope a host shares

A host registers four fifths of its cores and memory for rental, beside its
physical totals.  Rentals stay within that share until a request arrives at a
pool that is down to zero: the pool is then filled up from the physical total.
-/

namespace WorldlandBroker.Sdk

open Foundation Provider ProviderCapacity Pooled

variable {config : Config} {spec : SystemSpec} {providerID : String} {s s' : Rentals}
  {k : Pooled}

def NothingUnshared (p : Scalar) : Prop :=
  p.available = 0 → p.total = p.inUse

instance (p : Scalar) : Decidable (NothingUnshared p) :=
  inferInstanceAs (Decidable (_ → _))

/-- Rentals only, none of which asks an empty pool that can be filled up. -/
def WithinShare (spec : SystemSpec) (s : Rentals) : PoolCall → Prop
  | .allocateResources a => ∀ k : Pooled, 0 ≤ k.asked a ∧
      (k.Reaches spec s.capacity a → 0 < k.asked a → NothingUnshared (k.pool s.capacity))
  | .releaseResources _ => True
  | _ => False

instance (spec : SystemSpec) (s : Rentals) (call : PoolCall) :
    Decidable (WithinShare spec s call) :=
  match call with
  | .allocateResources a => inferInstanceAs (Decidable (∀ k : Pooled, 0 ≤ k.asked a ∧
      (k.Reaches spec s.capacity a → 0 < k.asked a → NothingUnshared (k.pool s.capacity))))
  | .releaseResources _ => inferInstanceAs (Decidable True)
  | .deployMiningForProvider _ _ _ => inferInstanceAs (Decidable False)
  | .stopMiningForProvider _ => inferInstanceAs (Decidable False)
  | .syncMiningPodStates _ => inferInstanceAs (Decidable False)

/-! ## The share -/

private theorem eightTenths_nonneg {n : ℤ} (hn : 0 ≤ n) : 0 ≤ eightTenths n := by
  rw [eightTenths, Int.tdiv_eq_ediv_of_nonneg (by omega)]
  omega

private theorem eightTenths_le {n : ℤ} (hn : 0 ≤ n) : eightTenths n ≤ n := by
  rw [eightTenths, Int.tdiv_eq_ediv_of_nonneg (by omega)]
  omega

def shared (spec : SystemSpec) (k : Pooled) : ℤ := eightTenths (k.reported spec)

structure Enveloped (spec : SystemSpec) (k : Pooled) (p : Scalar) : Prop where
  total : p.total = k.reported spec
  mining : p.mining = 0
  available_nonneg : 0 ≤ p.available
  conserved : p.available + p.inUse = shared spec k

theorem Enveloped.init {p : Scalar} (h : Enveloped spec k p) (hspec : 0 ≤ k.reported spec)
    (hshared : NothingUnshared p) :
    p.init (shared spec k) (k.reported spec) = p := by
  have htotal : initTotal p.total (shared spec k) (k.reported spec) = p.total := by
    have hle : shared spec k ≤ k.reported spec := eightTenths_le hspec
    have hreported := h.total
    unfold initTotal
    split_ifs <;> omega
  have havailable : initAvailable p.available p.total p.inUse p.mining = p.available := by
    unfold initAvailable
    split
    · rename_i hempty
      have hinUse := hshared hempty.1
      have hmining := h.mining
      omega
    · rfl
  simp only [Scalar.init, htotal, havailable]

theorem Enveloped.rent {p : Scalar} (h : Enveloped spec k p) {n : ℤ}
    (henough : n ≤ p.available) : Enveloped spec k (p.rent n) := by
  have hconserved := h.conserved
  refine ⟨h.total, h.mining, ?_, ?_⟩
  · simp only [Scalar.rent]
    omega
  · simp only [Scalar.rent]
    omega

theorem Enveloped.ask {p p' : Scalar} {n : ℤ} {reached : Prop} {outcome : Outcome}
    (h : Enveloped spec k p) (hspec : 0 ≤ k.reported spec)
    (hasked : Asked (shared spec k) (k.reported spec) reached p n outcome p')
    (hshared : reached → 0 < n → NothingUnshared p) : Enveloped spec k p' := by
  cases hasked with
  | untouched => exact h
  | recomputed message hreached hpositive =>
      rw [h.init hspec (hshared hreached hpositive)]
      exact h
  | granted hreached hpositive henough =>
      have hsame := h.init hspec (hshared hreached hpositive)
      rw [hsame] at henough ⊢
      exact h.rent henough

/-! ## Runs -/

structure WithinEnvelope (spec : SystemSpec) (s : Rentals) : Prop where
  pools : ∀ k : Pooled, Enveloped spec k (k.pool s.capacity)
  legacy : ∀ k : Pooled, k.legacy s.capacity = shared spec k
  rentedOut : ∀ k : Pooled, RentedOut s k

theorem WithinEnvelope.allocate {a : ResourceAllocation} (h : WithinEnvelope spec s)
    (hspec : ∀ k : Pooled, 0 ≤ k.reported spec)
    (hwithin : WithinShare spec s (.allocateResources a)) :
    WithinEnvelope spec (allocateRental spec s a) := by
  have hasked : ∀ k : Pooled, 0 ≤ k.asked a := fun k => (hwithin k).1
  have hpools : ∀ k : Pooled,
      Enveloped spec k (k.pool (allocateResources spec s.capacity a).2) := by
    intro k
    have hserved := allocateResources_served spec s.capacity hasked k
    rw [h.legacy k] at hserved
    exact (h.pools k).ask (hspec k) hserved (hwithin k).2
  have hlegacy : ∀ k : Pooled, k.legacy (allocateResources spec s.capacity a).2 =
      k.legacy s.capacity := allocateResources_legacy spec s.capacity a
  have hrented : ∀ k : Pooled, RentedOut (allocateRental spec s a) k :=
    fun k => (h.rentedOut k).allocate hasked
  unfold allocateRental at hrented ⊢
  rcases hresult : allocateResources spec s.capacity a with ⟨message | _, c'⟩
  · rw [hresult] at hpools hlegacy hrented
    exact ⟨hpools, fun k => (hlegacy k).trans (h.legacy k), hrented⟩
  · rw [hresult] at hpools hlegacy hrented
    exact ⟨hpools, fun k => (hlegacy k).trans (h.legacy k), hrented⟩

theorem WithinEnvelope.release {a : ResourceAllocation} (h : WithinEnvelope spec s)
    (ha : a ∈ s.outstanding) :
    WithinEnvelope spec ⟨releaseResources spec s.capacity a, s.outstanding.erase a⟩ := by
  refine ⟨?_, ?_, fun k => (h.rentedOut k).release ha⟩
  · intro k
    have hasked := (h.rentedOut k).asked a ha
    have havailable := (h.pools k).available_nonneg
    rw [(h.rentedOut k).pool_released ha]
    apply (h.pools k).rent
    omega
  · intro k
    cases k with
    | cpu => exact h.legacy .cpu
    | memory => exact h.legacy .memory

theorem WithinEnvelope.step {call : PoolCall} (h : WithinEnvelope spec s)
    (hspec : ∀ k : Pooled, 0 ≤ k.reported spec) (hwithin : WithinShare spec s call)
    (hstep : poolStep providerID spec s call = some s') : WithinEnvelope spec s' := by
  cases call with
  | allocateResources a =>
      obtain rfl := Option.some.inj hstep
      exact h.allocate hspec hwithin
  | releaseResources a =>
      simp only [poolStep] at hstep
      split at hstep
      · rename_i ha
        obtain rfl := Option.some.inj hstep
        exact h.release ha
      · contradiction
  | _ => exact hwithin.elim

private theorem registered_withinEnvelope (config : Config)
    (hspec : ∀ k : Pooled, 0 ≤ k.reported spec) :
    WithinEnvelope spec ⟨overJSON (prepareCapacity config spec), []⟩ := by
  refine ⟨?_, ?_, ?_⟩
  · intro k
    have hshared : 0 ≤ shared spec k := eightTenths_nonneg (hspec k)
    cases k with
    | cpu => exact ⟨rfl, rfl, hshared, add_zero _⟩
    | memory => exact ⟨rfl, rfl, hshared, add_zero _⟩
  · intro k
    cases k <;> rfl
  · intro k
    refine ⟨by simp, ?_⟩
    cases k <;> rfl

/--
Where no request that gets to a pool finds it down to zero with physical capacity
left, rentals of a registered host stay within the shares it has registered.
-/
theorem rentals_within_envelope {past : List (Transition Rentals PoolCall)}
    (hcores : 0 ≤ spec.cpuCores) (hmemory : 0 ≤ spec.totalMemoryMB)
    (hrun : Run (poolStep providerID spec) (fun _ => WithinShare spec)
      ⟨overJSON (prepareCapacity config spec), []⟩ past s) :
    s.capacity.inUseCPUCores ≤ (prepareCapacity config spec).cpuCores ∧
      s.capacity.inUseMemoryMB ≤ (prepareCapacity config spec).memoryMB := by
  have hspec : ∀ k : Pooled, 0 ≤ k.reported spec := by
    intro k
    cases k with
    | cpu => exact hcores
    | memory => exact hmemory
  have hkept : WithinEnvelope spec s := by
    apply hrun.always (registered_withinEnvelope config hspec)
    intro past s call s' h hwithin hstep
    exact h.step hspec hwithin hstep
  have hbound : ∀ k : Pooled, (k.pool s.capacity).inUse ≤ shared spec k := by
    intro k
    have hconserved := (hkept.pools k).conserved
    have havailable := (hkept.pools k).available_nonneg
    omega
  exact ⟨hbound .cpu, hbound .memory⟩

/-! ## A host with ten cores, eight of them shared -/

def tenCores : SystemSpec := ⟨"node-1", 10, 65536, [⟨"RTX 4090"⟩, ⟨"RTX 4090"⟩], 2⟩

def noMining : Config := ⟨"0xa11ce", false, 0, 0, 0⟩

def sharedCalls : List PoolCall :=
  [.allocateResources ⟨"RTX 4090", 1, 6, 16384⟩, .allocateResources ⟨"RTX 4090", 1, 2, 16384⟩,
    .releaseResources ⟨"RTX 4090", 1, 6, 16384⟩, .allocateResources ⟨"RTX 4090", 1, 5, 8192⟩]

private theorem sharedCalls_checked :
    ∃ run ∈ trace (poolStep "p1" tenCores) ⟨overJSON (prepareCapacity noMining tenCores), []⟩
      sharedCalls, ∀ r ∈ run.1, WithinShare tenCores r.pre r.act := by
  decide +kernel

theorem rentals_within_envelope_sample :
    ∃ run ∈ trace (poolStep "p1" tenCores) ⟨overJSON (prepareCapacity noMining tenCores), []⟩
      sharedCalls, run.2.capacity.inUseCPUCores ≤ (prepareCapacity noMining tenCores).cpuCores := by
  obtain ⟨run, hrun, hsteps⟩ := sharedCalls_checked
  exact ⟨run, hrun, (rentals_within_envelope (by decide) (by decide)
    ((Run.of_trace hrun).guarded hsteps)).1⟩

def exhaustingCalls : List PoolCall :=
  [.allocateResources ⟨"RTX 4090", 1, 8, 16384⟩, .allocateResources ⟨"RTX 4090", 1, 2, 16384⟩]

private theorem exhaustingCalls_checked :
    ∃ run ∈ trace (poolStep "p1" tenCores) ⟨overJSON (prepareCapacity noMining tenCores), []⟩
      exhaustingCalls,
        (prepareCapacity noMining tenCores).cpuCores < run.2.capacity.inUseCPUCores := by
  decide +kernel

theorem unshared_cores_rented :
    ¬ ∀ (providerID : String) (config : Config) (spec : SystemSpec)
        (past : List (Transition Rentals PoolCall)) (s : Rentals),
      0 ≤ spec.cpuCores → 0 ≤ spec.totalMemoryMB →
      Run (poolStep providerID spec) anyStep ⟨overJSON (prepareCapacity config spec), []⟩
        past s →
      (∀ r ∈ past, (∃ a, r.act = .allocateResources a) ∨ ∃ a, r.act = .releaseResources a) →
        s.capacity.inUseCPUCores ≤ (prepareCapacity config spec).cpuCores ∧
          s.capacity.inUseMemoryMB ≤ (prepareCapacity config spec).memoryMB := by
  intro hclaim
  obtain ⟨run, hrun, hover⟩ := exhaustingCalls_checked
  have hrentals : ∀ r ∈ run.1, (∃ a, r.act = .allocateResources a) ∨
      ∃ a, r.act = .releaseResources a := by
    intro r hr
    have hact : r.act ∈ exhaustingCalls := trace_act_mem hrun hr
    simp only [exhaustingCalls, List.mem_cons, List.not_mem_nil, or_false] at hact
    rcases hact with hact | hact
    · exact .inl ⟨_, hact⟩
    · exact .inl ⟨_, hact⟩
  have hfits := (hclaim _ _ _ _ _ (by decide) (by decide) (Run.of_trace hrun) hrentals).1
  omega

end WorldlandBroker.Sdk
