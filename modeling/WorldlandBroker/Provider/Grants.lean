import WorldlandBroker.Foundation.Run
import WorldlandBroker.Provider.Mining
import WorldlandBroker.Provider.Scalars
import Mathlib.Algebra.Order.BigOperators.Group.List

/-!
# The ledger as a set of outstanding grants

Seen from outside, a ledger is the set of grants it has handed out and not yet
taken back.  `Represents` ties the pools of one provider to that set; every
operation on the ledger keeps it, so the pools depend on which grants are
outstanding and not on the order in which they came and went.
-/

namespace WorldlandBroker.Provider

open Foundation

/-- What a successful allocation took, under the type it was granted on. -/
structure Grant where
  gpuType : String
  gpuCount : ℤ
  cpuCores : ℤ
  memoryMB : ℤ
  deriving DecidableEq

def grantOf (spec : SystemSpec) (a : ResourceAllocation) : Grant :=
  ⟨resolveGPUType spec a.gpuType, a.gpuCount, a.cpuCores, a.memoryMB⟩

structure Books where
  capacity : ProviderCapacity
  outstanding : List Grant

inductive LedgerCall where
  | allocate (a : ResourceAllocation)
  | release (g : Grant)
  | allocateMining (gpuType : String) (count : ℤ)
  | releaseMining (gpuType : String) (count : ℤ)
  | stopMining (deleted : Outcome)
  | syncMining (reported : Except String String)

def allocateGrant (spec : SystemSpec) (s : Books) (a : ResourceAllocation) :
    Books :=
  match allocateResources spec s.capacity a with
  | (.ok _, c) => ⟨c, s.outstanding ++ [grantOf spec a]⟩
  | (.error _, c) => ⟨c, s.outstanding⟩

/--
The release names the type that was granted.  `ReleaseResources` of a request without
a type, which credits "default", is not among these calls.
-/
def releaseGrant (spec : SystemSpec) (s : Books) (g : Grant) : Books :=
  ⟨releaseJobResources spec s.capacity g.gpuType g.gpuCount g.cpuCores
    g.memoryMB, s.outstanding.erase g⟩

def ledgerStep (spec : SystemSpec) (s : Books) : LedgerCall → Option Books
  | .allocate a => some (allocateGrant spec s a)
  | .release g =>
      if g ∈ s.outstanding then some (releaseGrant spec s g) else none
  | .allocateMining gpuType count =>
      some { s with capacity := (allocateMiningGPU s.capacity gpuType count).2 }
  | .releaseMining gpuType count =>
      some { s with capacity := (releaseMiningGPU s.capacity gpuType count).2 }
  | .stopMining deleted =>
      some { s with capacity := (stopMiningForProvider s.capacity deleted).2 }
  | .syncMining reported =>
      some { s with capacity := syncMiningPodState s.capacity reported }

def gpuCalls : Guard Books LedgerCall := fun _ _ call =>
  match call with
  | .allocate a => 0 ≤ a.gpuCount
  | .allocateMining _ count | .releaseMining _ count => 1 ≤ count
  | _ => True

def rentalCalls : Guard Books LedgerCall := fun _ _ call =>
  match call with
  | .allocate a => 0 ≤ a.gpuCount ∧ 0 ≤ a.cpuCores ∧ 0 ≤ a.memoryMB
  | .release _ => True
  | _ => False

/-! ## Sums over outstanding grants -/

def grantedGPUs (gpuType : String) (grants : List Grant) : ℤ :=
  (grants.map fun g => if gpuType = g.gpuType then g.gpuCount else 0).sum

def grantedCPU (grants : List Grant) : ℤ := (grants.map Grant.cpuCores).sum

def grantedMemory (grants : List Grant) : ℤ := (grants.map Grant.memoryMB).sum

private theorem grantedGPUs_erase {g : Grant} {grants : List Grant} (hg : g ∈ grants)
    (gpuType : String) :
    grantedGPUs gpuType (grants.erase g) = grantedGPUs gpuType grants -
      if gpuType = g.gpuType then g.gpuCount else 0 := by
  have hsum := List.sum_map_erase
    (fun g : Grant => if gpuType = g.gpuType then g.gpuCount else 0) hg
  simp only [grantedGPUs]
  omega

private theorem grantedGPUs_nonneg {grants : List Grant}
    (hamounts : ∀ g ∈ grants, 0 ≤ g.gpuCount) (gpuType : String) :
    0 ≤ grantedGPUs gpuType grants := by
  refine List.sum_nonneg fun n hn => ?_
  obtain ⟨g, hg, rfl⟩ := List.mem_map.mp hn
  split
  · exact hamounts g hg
  · exact le_rfl

/-! ## The GPU pools represent the grants -/

variable {spec : SystemSpec} {c₀ : ProviderCapacity} {s : Books}

structure GPUAccount (c₀ : ProviderCapacity) (s : Books) : Prop where
  conserved : ∀ t, s.capacity.available t + s.capacity.inUse t +
    s.capacity.mining t = c₀.available t + c₀.inUse t + c₀.mining t
  available_nonneg : ∀ t, 0 ≤ s.capacity.available t
  inUse_nonneg : ∀ t, 0 ≤ s.capacity.inUse t
  mining_nonneg : ∀ t, 0 ≤ s.capacity.mining t
  inUse_eq : ∀ t, s.capacity.inUse t =
    c₀.inUse t + grantedGPUs t s.outstanding

structure GPURepresents (spec : SystemSpec) (c₀ : ProviderCapacity)
    (s : Books) : Prop extends GPUAccount c₀ s where
  pool : s.capacity.availableGPUs ≠ none
  inUsePool : s.outstanding ≠ [] → s.capacity.inUseGPUs ≠ none
  amounts : ∀ g ∈ s.outstanding, 0 ≤ g.gpuCount
  resolved : ∀ g ∈ s.outstanding, resolveGPUType spec g.gpuType = g.gpuType

structure Initialised (c : ProviderCapacity) : Prop where
  pool : c.availableGPUs ≠ none
  available : ∀ t, 0 ≤ c.available t
  inUse : ∀ t, 0 ≤ c.inUse t
  mining : ∀ t, 0 ≤ c.mining t

private theorem gpuRepresents_init (h : Initialised c₀) :
    GPURepresents spec c₀ ⟨c₀, []⟩ where
  conserved _ := rfl
  available_nonneg := h.available
  inUse_nonneg := h.inUse
  mining_nonneg := h.mining
  inUse_eq _ := by simp [grantedGPUs]
  pool := h.pool
  inUsePool hnil := absurd rfl hnil
  amounts := by simp
  resolved := by simp

/--
The account survives any shift of `d t` GPUs from available to in use that the
grants record, and of `e t` from available to mining.
-/
theorem GPUAccount.shift {s' : Books} (h : GPUAccount c₀ s) (d e : String → ℤ)
    (havailable : ∀ t, s'.capacity.available t =
      s.capacity.available t - d t - e t)
    (hinUse : ∀ t, s'.capacity.inUse t = s.capacity.inUse t + d t)
    (hmining : ∀ t, s'.capacity.mining t = s.capacity.mining t + e t)
    (hgranted : ∀ t, grantedGPUs t s'.outstanding =
      grantedGPUs t s.outstanding + d t)
    (havailable_nonneg : ∀ t, 0 ≤ s'.capacity.available t)
    (hinUse_nonneg : ∀ t, 0 ≤ s'.capacity.inUse t)
    (hmining_nonneg : ∀ t, 0 ≤ s'.capacity.mining t) : GPUAccount c₀ s' where
  conserved t := by
    rw [havailable, hinUse, hmining, ← h.conserved t]
    ring
  available_nonneg := havailable_nonneg
  inUse_nonneg := hinUse_nonneg
  mining_nonneg := hmining_nonneg
  inUse_eq t := by
    rw [hinUse, hgranted, h.inUse_eq t]
    ring

theorem GPURepresents.allocate (h : GPURepresents spec c₀ s)
    {a : ResourceAllocation} (hcount : 0 ≤ a.gpuCount) :
    GPURepresents spec c₀ (allocateGrant spec s a) := by
  have hready : s.capacity.PoolReady spec := fun hnone => absurd hnone h.pool
  have hallocation := allocateResources_allocation spec s.capacity a
  unfold allocateGrant
  rcases hresult : allocateResources spec s.capacity a with ⟨message | _, c⟩
  · rw [hresult] at hallocation
    obtain ⟨hmining, -, hpool, hinUsePool⟩ := hallocation.frame
    have hsame := hallocation.failed_gpus hready hcount
    refine ⟨h.shift (fun _ => 0) (fun _ => 0) ?_ ?_ ?_ ?_ ?_ ?_ ?_, hpool,
      fun _ => hinUsePool, h.amounts, h.resolved⟩
    · intro t
      simpa using (hsame t).1
    · intro t
      simpa using (hsame t).2
    · intro t
      simpa using hmining t
    · simp
    · intro t
      exact (hsame t).1 ▸ h.available_nonneg t
    · intro t
      exact (hsame t).2 ▸ h.inUse_nonneg t
    · intro t
      exact hmining t ▸ h.mining_nonneg t
  · rw [hresult] at hallocation
    obtain ⟨hmining, -, hpool, hinUsePool⟩ := hallocation.frame
    have hmoved := hallocation.granted_gpus hready hcount
    have hamounts : ∀ g ∈ s.outstanding ++ [grantOf spec a], 0 ≤ g.gpuCount :=
      List.forall_mem_append.mpr
        ⟨h.amounts, List.forall_mem_singleton.mpr hcount⟩
    have hresolved : ∀ g ∈ s.outstanding ++ [grantOf spec a],
        resolveGPUType spec g.gpuType = g.gpuType :=
      List.forall_mem_append.mpr ⟨h.resolved,
        List.forall_mem_singleton.mpr (resolveGPUType_idem spec a.gpuType)⟩
    refine ⟨h.shift (fun t => if t = resolveGPUType spec a.gpuType then
        a.gpuCount else 0) (fun _ => 0) ?_ ?_ ?_ ?_ ?_ ?_ ?_, hpool,
      fun _ => hinUsePool, hamounts, hresolved⟩
    · intro t
      simpa using (hmoved t).1
    · intro t
      exact (hmoved t).2.1
    · intro t
      simpa using hmining t
    · intro t
      simp [grantedGPUs, grantOf]
    · intro t
      exact (hmoved t).2.2 (h.available_nonneg t)
    · intro t
      have hafter := (hmoved t).2.1
      have hbefore := h.inUse_nonneg t
      change 0 ≤ c.inUse t
      split at hafter <;> omega
    · intro t
      exact hmining t ▸ h.mining_nonneg t

theorem GPURepresents.release (h : GPURepresents spec c₀ s) {g : Grant}
    (hbase : ∀ t, 0 ≤ c₀.inUse t) (hg : g ∈ s.outstanding) :
    GPURepresents spec c₀ (releaseGrant spec s g) := by
  have hinUsePool := h.inUsePool (List.ne_nil_of_mem hg)
  have hresolved := h.resolved g hg
  have hamount := h.amounts g hg
  have hamounts : ∀ g' ∈ s.outstanding.erase g, 0 ≤ g'.gpuCount :=
    fun g' hg' => h.amounts g' (List.mem_of_mem_erase hg')
  obtain ⟨hmining, -, hpool, hkept⟩ := release_frame spec s.capacity g.gpuType
    g.gpuCount g.cpuCores g.memoryMB
  -- a release never returns more than is in use, so the clamp is not taken
  have henough : g.gpuCount ≤ s.capacity.inUse g.gpuType := by
    have hrest := grantedGPUs_nonneg hamounts g.gpuType
    rw [grantedGPUs_erase hg, if_pos rfl] at hrest
    have hinUse := h.inUse_eq g.gpuType
    have hbase := hbase g.gpuType
    omega
  have hinUse : ∀ t, (releaseGrant spec s g).capacity.inUse t =
      s.capacity.inUse t + -(if t = g.gpuType then g.gpuCount else 0) := by
    intro t
    have hafter := release_inUse spec hinUsePool g.gpuType g.gpuCount g.cpuCores
      g.memoryMB t
    rw [hresolved] at hafter
    refine hafter.trans ?_
    split
    · rename_i ht
      rw [ht, subtractClamped_of_le henough]
      ring
    · ring
  have havailable : ∀ t, (releaseGrant spec s g).capacity.available t =
      s.capacity.available t - -(if t = g.gpuType then g.gpuCount else 0) := by
    intro t
    have hafter := release_available spec s.capacity g.gpuType g.gpuCount
      g.cpuCores g.memoryMB t
    rw [hresolved] at hafter
    exact hafter.trans (by ring)
  refine ⟨h.shift (fun t => -(if t = g.gpuType then g.gpuCount else 0))
    (fun _ => 0) ?_ hinUse ?_ ?_ ?_ ?_ ?_, hpool,
    fun _ => hkept hinUsePool, hamounts,
    fun g' hg' => h.resolved g' (List.mem_of_mem_erase hg')⟩
  · intro t
    rw [havailable t, sub_zero]
  · intro t
    exact (add_zero _).symm
  · intro t
    rw [releaseGrant, grantedGPUs_erase hg]
    ring
  · intro t
    have hbefore := h.available_nonneg t
    rw [havailable t]
    split <;> omega
  · intro t
    have hbefore := h.inUse_nonneg t
    rw [hinUse t]
    split
    · rename_i ht
      subst ht
      omega
    · omega
  · exact h.mining_nonneg

/-! ## Mining and the grants -/

theorem GPURepresents.mine (h : GPURepresents spec c₀ s) {c : ProviderCapacity}
    {e : String → ℤ} (hshift : MiningShift s.capacity c e) :
    GPURepresents spec c₀ { s with capacity := c } := by
  have hsame : ∀ t, c.inUse t = s.capacity.inUse t := fun t => by
    simp only [ProviderCapacity.inUse, hshift.inUse]
  have hnonneg := hshift.nonneg h.available_nonneg h.mining_nonneg
  refine ⟨h.shift (fun _ => 0) e ?_ ?_ hshift.mining ?_ (fun t => (hnonneg t).1) ?_
    (fun t => (hnonneg t).2), hshift.pool h.pool,
    fun hne => hshift.inUse ▸ h.inUsePool hne, h.amounts, h.resolved⟩
  · intro t
    rw [sub_zero]
    exact hshift.available t
  · intro t
    rw [hsame t, add_zero]
  · simp
  · intro t
    exact hsame t ▸ h.inUse_nonneg t

theorem GPURepresents.step {past : List (Transition Books LedgerCall)}
    {s' : Books} {call : LedgerCall} (hbase : ∀ t, 0 ≤ c₀.inUse t)
    (h : GPURepresents spec c₀ s) (hguard : gpuCalls past s call)
    (hstep : ledgerStep spec s call = some s') : GPURepresents spec c₀ s' := by
  cases call with
  | allocate a =>
      obtain rfl := Option.some.inj hstep
      exact h.allocate hguard
  | release g =>
      simp only [ledgerStep] at hstep
      split at hstep
      · obtain rfl := Option.some.inj hstep
        exact h.release hbase (by assumption)
      · contradiction
  | allocateMining gpuType count =>
      obtain rfl := Option.some.inj hstep
      obtain ⟨e, hshift⟩ :=
        allocateMining_shift s.capacity gpuType hguard h.mining_nonneg
      exact h.mine hshift
  | releaseMining gpuType count =>
      obtain rfl := Option.some.inj hstep
      obtain ⟨e, hshift⟩ :=
        releaseMining_shift s.capacity gpuType hguard h.available_nonneg
      exact h.mine hshift
  | stopMining deleted =>
      obtain rfl := Option.some.inj hstep
      obtain ⟨e, hshift⟩ := stopMining_shift s.capacity deleted
      exact h.mine hshift
  | syncMining reported =>
      obtain rfl := Option.some.inj hstep
      obtain ⟨e, hshift⟩ := syncMining_shift s.capacity reported
      exact h.mine hshift

/-! ## CPU and memory represent the grants -/

structure ScalarRepresents (c₀ : ProviderCapacity) (s : Books) : Prop where
  cpu : ScalarAccount c₀.cpuPool s.capacity.cpuPool
    (grantedCPU s.outstanding)
  memory : ScalarAccount c₀.memoryPool s.capacity.memoryPool
    (grantedMemory s.outstanding)
  amounts : ∀ g ∈ s.outstanding, 0 ≤ g.cpuCores ∧ 0 ≤ g.memoryMB

private theorem le_sum_of_mem {weight : Grant → ℤ} {grants : List Grant}
    (hweight : ∀ g ∈ grants, 0 ≤ weight g) {g : Grant} (hg : g ∈ grants) :
    weight g ≤ (grants.map weight).sum := by
  have hsum := List.sum_map_erase weight hg
  have hrest : 0 ≤ ((grants.erase g).map weight).sum := by
    refine List.sum_nonneg fun n hn => ?_
    obtain ⟨g', hg', rfl⟩ := List.mem_map.mp hn
    exact hweight g' (List.mem_of_mem_erase hg')
  omega

theorem ScalarRepresents.allocate (h : ScalarRepresents c₀ s)
    {a : ResourceAllocation} (hcores : 0 ≤ a.cpuCores)
    (hmegabytes : 0 ≤ a.memoryMB) :
    ScalarRepresents c₀ (allocateGrant spec s a) := by
  have hallocation := allocateResources_allocation spec s.capacity a
  unfold allocateGrant
  rcases hresult : allocateResources spec s.capacity a with ⟨message | _, c⟩
  · rw [hresult] at hallocation
    obtain ⟨hcpu, hmemory⟩ := hallocation.failed_scalars h.cpu.consistent
      h.memory.consistent hcores
    exact ⟨by simpa [hcpu] using h.cpu, by simpa [hmemory] using h.memory,
      h.amounts⟩
  · rw [hresult] at hallocation
    obtain ⟨hcpu, hmemory, hcpuEnough, hmemoryEnough⟩ :=
      hallocation.granted_scalars h.cpu.consistent h.memory.consistent hcores
        hmegabytes
    have hcpuRent := h.cpu.rent hcores hcpuEnough
    have hmemoryRent := h.memory.rent hmegabytes hmemoryEnough
    refine ⟨?_, ?_, List.forall_mem_append.mpr
      ⟨h.amounts, List.forall_mem_singleton.mpr ⟨hcores, hmegabytes⟩⟩⟩
    · simpa [hcpu, grantedCPU, grantOf] using hcpuRent
    · simpa [hmemory, grantedMemory, grantOf] using hmemoryRent

theorem ScalarRepresents.release (h : ScalarRepresents c₀ s) {g : Grant}
    (hcpu : 0 ≤ c₀.cpuPool.inUse) (hmemory : 0 ≤ c₀.memoryPool.inUse)
    (hg : g ∈ s.outstanding) : ScalarRepresents c₀ (releaseGrant spec s g) := by
  obtain ⟨hcores, hmegabytes⟩ := h.amounts g hg
  have hcpuBack := h.cpu.giveBack hcores
    (le_sum_of_mem (fun g' hg' => (h.amounts g' hg').1) hg) hcpu
  have hmemoryBack := h.memory.giveBack hmegabytes
    (le_sum_of_mem (fun g' hg' => (h.amounts g' hg').2) hg) hmemory
  have hcpuRest := List.sum_map_erase Grant.cpuCores hg
  have hmemoryRest := List.sum_map_erase Grant.memoryMB hg
  refine ⟨?_, ?_, fun g' hg' => h.amounts g' (List.mem_of_mem_erase hg')⟩
  · have hgranted : grantedCPU (s.outstanding.erase g) =
        grantedCPU s.outstanding - g.cpuCores := by
      simp only [grantedCPU]
      omega
    simp only [releaseGrant, hgranted]
    exact hcpuBack
  · have hgranted : grantedMemory (s.outstanding.erase g) =
        grantedMemory s.outstanding - g.memoryMB := by
      simp only [grantedMemory]
      omega
    simp only [releaseGrant, hgranted]
    exact hmemoryBack

theorem ScalarRepresents.step {past : List (Transition Books LedgerCall)}
    {s' : Books} {call : LedgerCall} (hcpu : 0 ≤ c₀.cpuPool.inUse)
    (hmemory : 0 ≤ c₀.memoryPool.inUse) (h : ScalarRepresents c₀ s)
    (hguard : rentalCalls past s call)
    (hstep : ledgerStep spec s call = some s') : ScalarRepresents c₀ s' := by
  cases call with
  | allocate a =>
      obtain rfl := Option.some.inj hstep
      exact h.allocate hguard.2.1 hguard.2.2
  | release g =>
      simp only [ledgerStep] at hstep
      split at hstep
      · obtain rfl := Option.some.inj hstep
        exact h.release hcpu hmemory (by assumption)
      · contradiction
  | _ => exact hguard.elim

/-! ## Whole runs -/

structure Scalar.Initialised (p : Scalar) : Prop extends p.Consistent where
  available_nonneg : 0 ≤ p.available
  inUse_nonneg : 0 ≤ p.inUse
  mining_nonneg : 0 ≤ p.mining

private theorem scalarAccount_init {p : Scalar} (h : p.Initialised) :
    ScalarAccount p p 0 :=
  ⟨h.toConsistent, rfl, rfl, h.available_nonneg, h.inUse_nonneg,
    h.mining_nonneg, (add_zero _).symm⟩

theorem gpuRepresents_run {past : List (Transition Books LedgerCall)}
    (hinit : Initialised c₀)
    (hrun : Run (ledgerStep spec) gpuCalls ⟨c₀, []⟩ past s) :
    GPURepresents spec c₀ s :=
  hrun.always (gpuRepresents_init hinit)
    fun _ _ _ _ h hguard hstep => h.step hinit.inUse hguard hstep

theorem scalarRepresents_run {past : List (Transition Books LedgerCall)}
    (hcpu : c₀.cpuPool.Initialised) (hmemory : c₀.memoryPool.Initialised)
    (hrun : Run (ledgerStep spec) rentalCalls ⟨c₀, []⟩ past s) :
    ScalarRepresents c₀ s :=
  hrun.always
    ⟨scalarAccount_init hcpu, scalarAccount_init hmemory, by simp⟩
    fun _ _ _ _ h hguard hstep =>
      h.step hcpu.inUse_nonneg hmemory.inUse_nonneg hguard hstep

private theorem grantedGPUs_perm {grants grants' : List Grant}
    (hperm : grants.Perm grants') (gpuType : String) :
    grantedGPUs gpuType grants = grantedGPUs gpuType grants' :=
  (hperm.map _).sum_eq

/--
The ledger of a provider refines the set of outstanding grants: for GPUs under
any interleaving of its operations, for CPU and memory under rental traffic.
Two interleavings that leave the same grants outstanding leave the same amount
in use.
-/
theorem ledger_refines_grants (spec : SystemSpec) {c₀ : ProviderCapacity}
    (hinit : Initialised c₀) :
    (∀ past s, Run (ledgerStep spec) gpuCalls ⟨c₀, []⟩ past s →
      GPUAccount c₀ s ∧
      ∀ past' s', Run (ledgerStep spec) gpuCalls ⟨c₀, []⟩ past' s' →
        s'.outstanding.Perm s.outstanding →
        ∀ t, s'.capacity.inUse t = s.capacity.inUse t ∧
          s'.capacity.available t + s'.capacity.mining t =
            s.capacity.available t + s.capacity.mining t) ∧
    (c₀.cpuPool.Initialised → c₀.memoryPool.Initialised →
      ∀ past s, Run (ledgerStep spec) rentalCalls ⟨c₀, []⟩ past s →
        ScalarAccount c₀.cpuPool s.capacity.cpuPool
          (grantedCPU s.outstanding) ∧
        ScalarAccount c₀.memoryPool s.capacity.memoryPool
          (grantedMemory s.outstanding)) := by
  refine ⟨fun past s hrun => ?_, fun hcpu hmemory past s hrun => ?_⟩
  · have haccount := (gpuRepresents_run hinit hrun).toGPUAccount
    refine ⟨haccount, fun past' s' hrun' hperm t => ?_⟩
    have haccount' := (gpuRepresents_run hinit hrun').toGPUAccount
    have hinUse : s'.capacity.inUse t = s.capacity.inUse t := by
      rw [haccount.inUse_eq t, haccount'.inUse_eq t, grantedGPUs_perm hperm t]
    have hconserved := haccount.conserved t
    have hconserved' := haccount'.conserved t
    exact ⟨hinUse, by omega⟩
  · have hrepresents := scalarRepresents_run hcpu hmemory hrun
    exact ⟨hrepresents.cpu, hrepresents.memory⟩

theorem sampleCapacity_initialised : Initialised sampleCapacity := by
  have hcount : ∀ t, 0 ≤ sampleCapacity.available t := by
    intro t
    refine le_of_le_of_eq ?_ (NilMap.count_put none "RTX 4090" t 8).symm
    split <;> simp
  exact ⟨by simp [sampleCapacity, NilMap.put], hcount, fun t => by rfl,
    fun t => by rfl⟩

/-- Two grants of three and two GPUs; the first is returned. -/
theorem ledger_refines_grants_sample :
    ∃ past s, Run (ledgerStep sampleSpec) gpuCalls ⟨sampleCapacity, []⟩ past s ∧
      s.outstanding = [⟨"RTX 4090", 2, 4, 8192⟩] ∧
      s.capacity.inUse "RTX 4090" = 2 ∧ GPUAccount sampleCapacity s := by
  have hfirst := (Run.nil : Run (ledgerStep sampleSpec) gpuCalls
    ⟨sampleCapacity, []⟩ [] _).take (.allocate ⟨"RTX 4090", 3, 4, 8192⟩)
    (by decide : (0 : ℤ) ≤ 3) rfl
  have hsecond := hfirst.take (.allocate ⟨"", 2, 4, 8192⟩)
    (by decide : (0 : ℤ) ≤ 2) rfl
  have hreturn := hsecond.take (.release ⟨"RTX 4090", 3, 4, 8192⟩) trivial rfl
  have haccount := (ledger_refines_grants sampleSpec
    sampleCapacity_initialised).1 _ _ hreturn
  exact ⟨_, _, hreturn, by decide, by decide, haccount.1⟩

end WorldlandBroker.Provider
