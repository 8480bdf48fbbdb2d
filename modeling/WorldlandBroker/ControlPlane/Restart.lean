import WorldlandBroker.ControlPlane.Boot
import WorldlandBroker.Provider.Balance

/-!
# Restarts

The boot rebuilds each ledger from the number of GPUs in its row and from the
rental pods.  What a mining pod holds comes back from nowhere, and neither does
the split into GPU types.
-/

namespace WorldlandBroker.ControlPlane

open Foundation Provider Job

variable {K : QuantityAPI} {s : State K} {id gpuType : String}
  {p : ProviderState} {minings : String → Option MiningPod}

/-! ## Before the crash -/

def MiningPod.Live (pod : MiningPod) : Prop :=
  pod.phase ≠ "Succeeded" ∧ pod.phase ≠ "Failed"

instance (pod : MiningPod) : Decidable pod.Live :=
  inferInstanceAs (Decidable (_ ∧ _))

def rentedGPUs (s : State K) (id : String) : ℤ :=
  ((jobsOf (listGPUJobPods s) id).map GPUJobPodInfo.gpuCount).sum

def rentedGPUsOf (s : State K) (id : String) (spec : SystemSpec)
    (gpuType : String) : ℤ :=
  ((jobsOf (listGPUJobPods s) id).map fun info =>
    if gpuType = resolveGPUType spec info.gpuModel then info.gpuCount else 0).sum

def miningPodGPUs (pod : Option MiningPod) : ℤ :=
  match pod with
  | none => 0
  | some pod => if pod.Live then pod.gpus else 0

/-- Its GPUs of one type; a pod does not say, but the ledger does. -/
def miningPodGPUsOf (pod : Option MiningPod) (c : ProviderCapacity)
    (gpuType : String) : ℤ :=
  match pod with
  | none => 0
  | some pod => if pod.Live then c.mining gpuType else 0

structure AccountsFor (s : State K) (minings : String → Option MiningPod)
    (id : String) (p : ProviderState) : Prop where
  balanced : Balanced p.capacity
  rented : ∀ t, rentedGPUsOf s id p.spec t ≤ p.capacity.inUse t
  mined : miningPodGPUs (minings id) ≤ p.capacity.miningGPUCount

/-- Each row is as it was created for its provider; only the status may differ. -/
structure Persisted (rows : List ProviderRow) (o : Registry) : Prop where
  ids : (rows.map ProviderRow.providerID).Nodup
  created : ∀ row ∈ rows, ∀ p, o row.providerID = some p →
    ∃ status, row =
      createRow row.providerID { p with status := status } row.gpuPricePerHour

theorem AccountsFor.pods_le (h : AccountsFor s minings id p) (t : String) :
    rentedGPUsOf s id p.spec t + miningPodGPUsOf (minings id) p.capacity t ≤
      p.capacity.total t := by
  have hequation := h.balanced.equation t
  have hrented := h.rented t
  have havailable := h.balanced.available_nonneg t
  have hmined : miningPodGPUsOf (minings id) p.capacity t ≤
      p.capacity.mining t := by
    have hnonneg := h.balanced.mining_nonneg t
    unfold miningPodGPUsOf
    split
    · exact hnonneg
    · split
      · exact le_rfl
      · exact hnonneg
  omega

theorem AccountsFor.allPods_le (h : AccountsFor s minings id p) :
    rentedGPUs s id + miningPodGPUs (minings id) ≤ p.capacity.totalGPUCount := by
  have hrented : rentedGPUs s id ≤ p.capacity.inUseGPUCount :=
    CountMap.sum_le_total (p.capacity.inUseGPUs.getD ∅)
      (fun info : GPUJobPodInfo => resolveGPUType p.spec info.gpuModel)
      GPUJobPodInfo.gpuCount _ h.rented
  have hle := h.balanced.inUse_add_mining_le
  have hmined := h.mined
  omega

/-! ## After the boot -/

def grantedGPUs (o : Registry) (id gpuType : String)
    (requests : List ResourceAllocation) : ℤ :=
  match o id with
  | none => 0
  | some p => served p.spec gpuType p.capacity requests

/-- Grants, rental pods and the mining pod stay within what was shared. -/
structure NeverDoubleBooks (o : Registry) (s : State K)
    (minings : String → Option MiningPod) (id : String) (p : ProviderState)
    (gpuType : String) : Prop where
  ofType : ∀ requests : List ResourceAllocation,
    (∀ a ∈ requests, 0 ≤ a.gpuCount) →
      grantedGPUs o id gpuType requests + (rentedGPUsOf s id p.spec gpuType +
        miningPodGPUsOf (minings id) p.capacity gpuType) ≤
          p.capacity.total gpuType
  ofProvider : ∀ requests : List ResourceAllocation,
    (∀ a ∈ requests, 0 ≤ a.gpuCount) →
      grantedGPUs o id gpuType requests +
        (rentedGPUs s id + miningPodGPUs (minings id)) ≤ p.capacity.totalGPUCount

def recordedGPUType (spec : SystemSpec) : String :=
  if firstGPUName spec = "" then "default" else firstGPUName spec

def recordedGPUs (p : ProviderState) : ℤ :=
  if 0 < p.capacity.gpuCount then p.capacity.gpuCount
  else if 0 < p.spec.totalGPUs then p.spec.totalGPUs
  else 0

/-- The boot loads no row, leaves no pool of the type, or one that is not too large. -/
def Restores (rows : List ProviderRow) (s : State K)
    (minings : String → Option MiningPod) (id : String) (p : ProviderState)
    (gpuType : String) : Prop :=
  (∀ row ∈ rows, row.providerID ≠ id) ∨
    if jobsOf (listGPUJobPods s) id = [] then
      recordedGPUs p + miningPodGPUsOf (minings id) p.capacity gpuType ≤
          p.capacity.total gpuType ∧
        recordedGPUs p + miningPodGPUs (minings id) ≤ p.capacity.totalGPUCount
    else
      gpuType ≠ recordedGPUType p.spec ∨ p.spec.totalGPUs ≤ rentedGPUs s id ∨
        p.spec.totalGPUs - rentedGPUs s id + (rentedGPUsOf s id p.spec gpuType +
            miningPodGPUsOf (minings id) p.capacity gpuType) ≤
              p.capacity.total gpuType ∧
          p.spec.totalGPUs + miningPodGPUs (minings id) ≤ p.capacity.totalGPUCount

variable {rows answer : List ProviderRow} {row : ProviderRow}
  {found status : String → Except String (Option MiningPod)}
  {pods : List GPUJobPodInfo}

private theorem boot_of_forall_ne (h : ∀ row ∈ rows, row.providerID ≠ id) :
    boot (.ok rows) found status (.ok pods) id = none := by
  simp only [boot, recoverJobAllocations, recoverMiningStates,
    loadProvidersFromDB_of_forall_ne h, Option.map_none]

structure Fresh (row : ProviderRow) (c : ProviderCapacity) : Prop where
  gpuCount : c.gpuCount = row.sharedGPUCount
  total : c.totalGPUs = none
  mining : c.miningGPUs = none
  available : c.availableGPUs = none

private theorem recoverMiningStates_of_mem
    (found status : String → Except String (Option MiningPod))
    (hids : (rows.map ProviderRow.providerID).Nodup) (hrow : row ∈ rows) :
    ∃ q, recoverMiningStates (loadProvidersFromDB (fun _ => none) (.ok rows))
        found status row.providerID = some q ∧
      q.spec = (scanProvider row).spec ∧ Fresh row q.capacity := by
  simp only [recoverMiningStates, loadProvidersFromDB_of_mem hids hrow,
    Option.map_some]
  split
  · exact ⟨_, rfl, rfl, rfl, rfl, rfl, rfl⟩
  · exact ⟨_, rfl, rfl, rfl, rfl, rfl, rfl⟩
  · exact ⟨_, rfl, rfl, rfl, rfl, rfl, rfl⟩

theorem Fresh.offer {spec : SystemSpec} {c : ProviderCapacity}
    (h : Fresh row c) (hspec : spec.totalGPUs = row.totalGPUs) :
    offer spec c gpuType =
      if 0 < row.sharedGPUCount then row.sharedGPUCount
      else if 0 < row.totalGPUs then row.totalGPUs
      else 0 := by
  simp only [Provider.offer, ProviderCapacity.available,
    ProviderCapacity.initPools, h.available, h.gpuCount, hspec]
  split
  · rename_i hlegacy
    rw [NilMap.count_put, if_pos rfl, max_eq_right hlegacy.le]
  · split
    · rename_i hreported
      rw [NilMap.count_put, if_pos rfl, max_eq_right hreported.le]
    · exact max_eq_left (NilMap.count_none gpuType).le

theorem Fresh.offer_recoverJobs {spec : SystemSpec} {c : ProviderCapacity}
    (h : Fresh row c) (hspec : spec.totalGPUs = row.totalGPUs)
    (jobs : List GPUJobPodInfo) :
    Provider.offer spec (recoverJobs spec c jobs) gpuType =
      if gpuType = resolveGPUType spec "" then
        max 0 (row.totalGPUs - (jobs.map GPUJobPodInfo.gpuCount).sum)
      else 0 := by
  have hallocated : (recoverJobs spec c jobs).availableGPUs ≠ none := by
    simp [recoverJobs, NilMap.put]
  rw [offer_of_allocated hallocated]
  simp only [recoverJobs, ProviderCapacity.available, ProviderCapacity.total,
    ProviderCapacity.mining, h.total, h.mining, h.available, NilMap.count_put,
    NilMap.count_none, hspec, if_true, sub_zero]
  split
  · split <;> omega
  · rfl

private theorem boot_of_mem (hids : (rows.map ProviderRow.providerID).Nodup)
    (hrow : row ∈ rows) (gpuType : String) :
    ∃ q, boot (.ok rows) found status (.ok pods) row.providerID = some q ∧
      offer q.spec q.capacity gpuType =
        if jobsOf pods row.providerID = [] then
          if 0 < row.sharedGPUCount then row.sharedGPUCount
          else if 0 < row.totalGPUs then row.totalGPUs
          else 0
        else if gpuType = resolveGPUType (scanProvider row).spec "" then
          max 0 (row.totalGPUs -
            ((jobsOf pods row.providerID).map GPUJobPodInfo.gpuCount).sum)
        else 0 := by
  obtain ⟨q, hq, hspec, hfresh⟩ := recoverMiningStates_of_mem
    found status hids hrow
  have htotal : q.spec.totalGPUs = row.totalGPUs := by
    rw [hspec]
    rfl
  simp only [boot, recoverJobAllocations, hq, Option.map_some]
  cases hjobs : jobsOf pods row.providerID with
  | nil => exact ⟨q, rfl, by rw [if_pos rfl, hfresh.offer htotal]⟩
  | cons job jobs =>
      refine ⟨_, rfl, ?_⟩
      rw [if_neg (List.cons_ne_nil job jobs),
        hfresh.offer_recoverJobs htotal, hspec]

private theorem resolveGPUType_createRow (providerID : String) (p : ProviderState)
    (price : ℚ) :
    resolveGPUType (scanProvider (createRow providerID p price)).spec "" =
      recordedGPUType p.spec := by
  simp only [scanProvider, createRow, recordedGPUType]
  by_cases hname : firstGPUName p.spec = "" <;> simp [resolveGPUType, hname]

theorem neverDoubleBooks_iff {o : Registry} {q : ProviderState}
    (hq : o id = some q) (htype : gpuType ≠ "") :
    NeverDoubleBooks o s minings id p gpuType ↔
      offer q.spec q.capacity gpuType + (rentedGPUsOf s id p.spec gpuType +
        miningPodGPUsOf (minings id) p.capacity gpuType) ≤
          p.capacity.total gpuType ∧
      offer q.spec q.capacity gpuType +
        (rentedGPUs s id + miningPodGPUs (minings id)) ≤
          p.capacity.totalGPUCount := by
  rw [← served_add_le_iff htype, ← served_add_le_iff htype]
  have hgranted (requests : List ResourceAllocation) :
      grantedGPUs o id gpuType requests =
        served q.spec gpuType q.capacity requests := by
    rw [grantedGPUs, hq]
  constructor
  · intro h
    exact ⟨fun requests hcount => hgranted requests ▸ h.ofType requests hcount,
      fun requests hcount => hgranted requests ▸ h.ofProvider requests hcount⟩
  · intro ⟨htype, hprovider⟩
    exact ⟨fun requests hcount => hgranted requests ▸ htype requests hcount,
      fun requests hcount => hgranted requests ▸ hprovider requests hcount⟩

private theorem rented_of_jobsOf_nil (h : jobsOf (listGPUJobPods s) id = [])
    (spec : SystemSpec) (gpuType : String) :
    rentedGPUs s id = 0 ∧ rentedGPUsOf s id spec gpuType = 0 := by
  simp [rentedGPUs, rentedGPUsOf, h]

theorem ListsAll.mem {row : ProviderRow} (h : ListsAll rows answer)
    (hrow : row ∈ answer) : row ∈ rows := by
  obtain ⟨ordered, hperm, -, rfl⟩ := h
  exact hperm.mem_iff.mp (List.mem_of_mem_take hrow)

theorem ListsAll.nodup (h : ListsAll rows answer)
    (hids : (rows.map ProviderRow.providerID).Nodup) :
    (answer.map ProviderRow.providerID).Nodup := by
  obtain ⟨ordered, hperm, -, rfl⟩ := h
  rw [List.map_take]
  exact ((hperm.map _).nodup_iff.mpr hids).sublist (List.take_sublist _ _)

/--
After a boot from the same rows and the same cluster, grants stay within what
was shared exactly when the condition on the row and the live pods holds.
-/
theorem restart_double_books_iff (hpersisted : Persisted rows s.providers)
    (hanswer : ListsAll rows answer) (hp : s.providers id = some p)
    (haccounts : AccountsFor s minings id p) (htype : gpuType ≠ "") :
    NeverDoubleBooks (boot (.ok answer) (fun id => .ok (minings id)) status
        (.ok (listGPUJobPods s))) s minings id p gpuType ↔
      Restores answer s minings id p gpuType := by
  have hpods := haccounts.pods_le gpuType
  have hallPods := haccounts.allPods_le
  by_cases hloaded : ∀ row ∈ answer, row.providerID ≠ id
  · refine iff_of_true ?_ (.inl hloaded)
    have hgranted (requests : List ResourceAllocation) :
        grantedGPUs (boot (.ok answer) (fun id => .ok (minings id)) status
          (.ok (listGPUJobPods s))) id gpuType requests = 0 := by
      rw [grantedGPUs, boot_of_forall_ne hloaded]
    refine ⟨fun requests _ => ?_, fun requests _ => ?_⟩ <;>
      rw [hgranted, zero_add] <;> assumption
  · obtain ⟨row, hrow, rfl⟩ : ∃ row ∈ answer, row.providerID = id := by
      simpa using hloaded
    obtain ⟨created, hcreated⟩ :=
      hpersisted.created row (hanswer.mem hrow) p hp
    obtain ⟨q, hq, hoffer⟩ := boot_of_mem
      (hanswer.nodup hpersisted.ids) hrow gpuType
    have hgpus : row.totalGPUs = p.spec.totalGPUs := by
      rw [hcreated]
      rfl
    have hshared : row.sharedGPUCount = p.capacity.gpuCount := by
      rw [hcreated]
      rfl
    have hrecorded : resolveGPUType (scanProvider row).spec "" =
        recordedGPUType p.spec := by
      rw [hcreated]
      exact resolveGPUType_createRow _ { p with status := created } _
    rw [neverDoubleBooks_iff hq htype, hoffer, hgpus, hshared, hrecorded,
      Restores, or_iff_right hloaded]
    by_cases hjobs : jobsOf (listGPUJobPods s) row.providerID = []
    · obtain ⟨hnone, hnoneOf⟩ := rented_of_jobsOf_nil hjobs p.spec gpuType
      rw [if_pos hjobs, if_pos hjobs, hnone, hnoneOf, zero_add, zero_add]
      rfl
    · have hrented : ((jobsOf (listGPUJobPods s) row.providerID).map
          GPUJobPodInfo.gpuCount).sum = rentedGPUs s row.providerID := rfl
      rw [if_neg hjobs, if_neg hjobs, hrented]
      by_cases hsame : gpuType = recordedGPUType p.spec
      · rw [if_pos hsame, or_iff_right (not_not_intro hsame)]
        rcases le_total p.spec.totalGPUs (rentedGPUs s row.providerID) with
          hfull | hfree
        · rw [max_eq_left (sub_nonpos.mpr hfull)]
          omega
        · rw [max_eq_right (sub_nonneg.mpr hfree)]
          omega
      · rw [if_neg hsame]
        exact iff_of_true (by omega) (.inl hsame)

/-! ## A provider with a rental pod and a mining pod -/

def sampleProvider (mining : ℤ) : ProviderState where
  status := statusAvailable
  spec := sampleSpec
  capacity := {
    sampleCapacity with
    miningGPUs := NilMap.put none "RTX 4090" mining
    inUseGPUs := NilMap.put none "RTX 4090" 2
    availableGPUs := NilMap.put none "RTX 4090" (6 - mining) }

def sampleRunning (mining : ℤ) : State sampleQuantities where
  providers id := if id = "p1" then some (sampleProvider mining) else none
  pods uid := if uid = 0 then buildGPUPod _ 0 "alice" "p1" "RTX 4090" sampleRequest 0
    else none
  nextJob := 1
  creates _ := none
  nextRequest := 0
  deletes _ := none
  watching := true
  events := []
  sweep := none

def sampleMining (gpus : ℤ) (id : String) : Option MiningPod :=
  if id = "p1" then some ⟨gpus, "Running"⟩ else none

def sampleRow (mining : ℤ) : ProviderRow :=
  createRow "p1" (sampleProvider mining) (1 / 2)

private theorem sampleRow_persisted (mining : ℤ) :
    Persisted [sampleRow mining] (sampleRunning mining).providers where
  ids := List.nodup_singleton _
  created row hrow p hp := by
    rw [List.mem_singleton.mp hrow] at hp ⊢
    cases hp
    exact ⟨statusAvailable, rfl⟩

private theorem sampleRow_listed (mining : ℤ) :
    ListsAll [sampleRow mining] [sampleRow mining] :=
  ⟨_, .refl _, List.pairwise_singleton _ _, rfl⟩

private theorem sampleProvider_balanced {mining : ℤ} (hlow : 0 ≤ mining)
    (hhigh : mining ≤ 6) : Balanced (sampleProvider mining).capacity := by
  have hcount (t : String) (n : ℤ) :
      (NilMap.put none "RTX 4090" n).count t = if t = "RTX 4090" then n else 0 := by
    rw [NilMap.count_put, NilMap.count_none]
  refine ⟨fun t => ?_, fun t => ?_, fun t => ?_, fun t => ?_⟩ <;>
    simp only [ProviderCapacity.total, ProviderCapacity.available,
      ProviderCapacity.inUse, ProviderCapacity.mining, sampleProvider,
      sampleCapacity, hcount] <;>
    split <;> omega

private theorem sampleRunning_rented (mining : ℤ) (t : String) :
    rentedGPUsOf (sampleRunning mining) "p1" sampleSpec t =
      if t = "RTX 4090" then 2 else 0 := by
  have hjobs : (jobsOf (listGPUJobPods (sampleRunning mining)) "p1").map
      (fun info => (info.gpuModel, info.gpuCount)) = [("RTX 4090", 2)] := rfl
  calc rentedGPUsOf (sampleRunning mining) "p1" sampleSpec t
    _ = (((jobsOf (listGPUJobPods (sampleRunning mining)) "p1").map
          fun info => (info.gpuModel, info.gpuCount)).map fun job =>
            if t = resolveGPUType sampleSpec job.1 then job.2 else 0).sum := by
        rw [List.map_map]
        rfl
    _ = if t = "RTX 4090" then 2 else 0 := by
        rw [hjobs]
        simp [resolveGPUType]

private theorem sampleProvider_accounted {mining : ℤ} (hlow : 0 ≤ mining)
    (hhigh : mining ≤ 6) :
    AccountsFor (sampleRunning mining) (sampleMining mining) "p1"
      (sampleProvider mining) where
  balanced := sampleProvider_balanced hlow hhigh
  rented t := by
    have hinUse : (sampleProvider mining).capacity.inUse t =
        if t = "RTX 4090" then 2 else 0 := NilMap.count_put none "RTX 4090" t 2
    rw [hinUse]
    exact (sampleRunning_rented mining t).le
  mined := by
    have hmined : (sampleProvider mining).capacity.miningGPUCount = mining :=
      add_zero mining
    rw [hmined]
    exact le_rfl

/-- Without mining GPUs, what is offered and what is rented add up to the total. -/
theorem restart_double_books_iff_rented :
    NeverDoubleBooks (boot (.ok [sampleRow 0]) (fun id => .ok (sampleMining 0 id))
        (fun id => .ok (sampleMining 0 id)) (.ok (listGPUJobPods (sampleRunning 0))))
      (sampleRunning 0) (sampleMining 0) "p1" (sampleProvider 0) "RTX 4090" :=
  (restart_double_books_iff (sampleRow_persisted 0) (sampleRow_listed 0) rfl
    (sampleProvider_accounted le_rfl (by decide)) (by decide)).mpr
      (.inr (by decide))

/-- Two GPUs of the mining pod are offered again, and all of the six are granted. -/
theorem restart_double_books_mining :
    Persisted [sampleRow 2] (sampleRunning 2).providers ∧
      ListsAll [sampleRow 2] [sampleRow 2] ∧
      AccountsFor (sampleRunning 2) (sampleMining 2) "p1" (sampleProvider 2) ∧
      (sampleProvider 2).capacity.totalGPUCount = 8 ∧
      rentedGPUs (sampleRunning 2) "p1" = 2 ∧
      miningPodGPUs (sampleMining 2 "p1") = 2 ∧
      grantedGPUs (boot (.ok [sampleRow 2]) (fun id => .ok (sampleMining 2 id))
        (fun id => .ok (sampleMining 2 id)) (.ok (listGPUJobPods (sampleRunning 2))))
          "p1" "RTX 4090" [⟨"RTX 4090", 6, 8, 16384⟩] = 6 ∧
      ¬ NeverDoubleBooks (boot (.ok [sampleRow 2])
          (fun id => .ok (sampleMining 2 id)) (fun id => .ok (sampleMining 2 id))
          (.ok (listGPUJobPods (sampleRunning 2))))
        (sampleRunning 2) (sampleMining 2) "p1" (sampleProvider 2) "RTX 4090" := by
  refine ⟨sampleRow_persisted 2, sampleRow_listed 2,
    sampleProvider_accounted (by decide) (by decide), by decide, by decide,
    by decide, by decide, fun hsafe => ?_⟩
  have hover := hsafe.ofProvider [⟨"RTX 4090", 6, 8, 16384⟩] (by simp)
  revert hover
  decide

end WorldlandBroker.ControlPlane
