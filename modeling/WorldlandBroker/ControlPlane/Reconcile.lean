import WorldlandBroker.ControlPlane.Boot

/-!
# Reconciling a ledger with its pods

`RecoverJobAllocations` on any registry and any list of pods.  It sums the pods
of each provider over all GPU types and writes the sum under the first one, and
it rewrites nothing for a provider that has no pods.
-/

namespace WorldlandBroker.ControlPlane

open Foundation Provider Job

def podsOf (pods : List GPUJobPodInfo) (providerID : String) : List GPUJobPodInfo :=
  pods.filter fun info => info.providerID = providerID

def podGPUs (jobs : List GPUJobPodInfo) (gpuType : String) : ℤ :=
  (jobs.map fun info => if info.gpuModel = gpuType then info.gpuCount else 0).sum

def otherGPUs (jobs : List GPUJobPodInfo) (gpuType : String) : ℤ :=
  (jobs.map fun info => if info.gpuModel = gpuType then 0 else info.gpuCount).sum

structure Reconciled (jobs : List GPUJobPodInfo) (c : ProviderCapacity) : Prop where
  gpus : ∀ t, c.inUse t = podGPUs jobs t
  cpu : c.inUseCPUCores = (jobs.map GPUJobPodInfo.cpuCores).sum
  memory : c.inUseMemoryMB = (jobs.map GPUJobPodInfo.memoryMB).sum

/-! ## When the recovery gets there -/

structure NothingInUse (c : ProviderCapacity) : Prop where
  gpus : ∀ t, c.inUse t = 0
  cpu : c.inUseCPUCores = 0
  memory : c.inUseMemoryMB = 0

/-- The pods hold GPUs of one model alone; the cache is right about every other. -/
structure OneModel (jobs : List GPUJobPodInfo) (gpuType : String) (c : ProviderCapacity) :
    Prop where
  others : otherGPUs jobs gpuType = 0
  cached : ∀ t ≠ gpuType, c.inUse t = podGPUs jobs t

structure Recoverable (pods : List GPUJobPodInfo) (id : String) (p : ProviderState) :
    Prop where
  idle : podsOf pods id = [] → NothingInUse p.capacity
  unnamed : id = "" → Reconciled (podsOf pods id) p.capacity
  busy : id ≠ "" → podsOf pods id ≠ [] →
    OneModel (podsOf pods id) (resolveGPUType p.spec "") p.capacity

variable {jobs pods : List GPUJobPodInfo} {c : ProviderCapacity} {p : ProviderState}
  {id gpuType : String}

private theorem podGPUs_add_otherGPUs (jobs : List GPUJobPodInfo) (gpuType : String) :
    podGPUs jobs gpuType + otherGPUs jobs gpuType =
      (jobs.map GPUJobPodInfo.gpuCount).sum := by
  induction jobs with
  | nil => rfl
  | cons info jobs ih =>
      simp only [podGPUs, otherGPUs, List.map_cons, List.sum_cons] at ih ⊢
      by_cases hmodel : info.gpuModel = gpuType
      · rw [if_pos hmodel, if_pos hmodel]
        omega
      · rw [if_neg hmodel, if_neg hmodel]
        omega

theorem reconciled_nil_iff : Reconciled [] c ↔ NothingInUse c :=
  ⟨fun h => ⟨h.gpus, h.cpu, h.memory⟩, fun h => ⟨h.gpus, h.cpu, h.memory⟩⟩

private theorem jobsOf_of_ne (hid : id ≠ "") (pods : List GPUJobPodInfo) :
    jobsOf pods id = podsOf pods id := if_neg hid

theorem recoverJobs_reconciled_iff (spec : SystemSpec) (c : ProviderCapacity)
    (jobs : List GPUJobPodInfo) :
    Reconciled jobs (recoverJobs spec c jobs) ↔
      OneModel jobs (resolveGPUType spec "") c := by
  have hsplit := podGPUs_add_otherGPUs jobs (resolveGPUType spec "")
  constructor
  · intro h
    refine ⟨?_, fun t ht => ?_⟩
    · have hfirst := h.gpus (resolveGPUType spec "")
      rw [recoverJobs_inUse, if_pos rfl] at hfirst
      omega
    · have hother := h.gpus t
      rwa [recoverJobs_inUse, if_neg ht] at hother
  · intro h
    refine ⟨fun t => ?_, rfl, rfl⟩
    have hothers := h.others
    rw [recoverJobs_inUse]
    split
    · rename_i ht
      subst ht
      omega
    · rename_i ht
      exact h.cached t ht

private theorem recoverJobAllocations_of_known {o : Registry} (hp : o id = some p)
    (pods : List GPUJobPodInfo) :
    recoverJobAllocations o (.ok pods) id =
      some (if id = "" ∨ podsOf pods id = [] then p
        else { p with capacity := recoverJobs p.spec p.capacity (podsOf pods id) }) := by
  simp only [recoverJobAllocations, hp, Option.map_some]
  by_cases hid : id = ""
  · rw [if_pos (.inl hid), jobsOf, if_pos hid]
  · rw [jobsOf_of_ne hid]
    cases hpods : podsOf pods id with
    | nil => rw [if_pos (.inr rfl)]
    | cons info rest => rw [if_neg (by simp [hid])]

private theorem reconciled_iff_recoverable :
    Reconciled (podsOf pods id) (if id = "" ∨ podsOf pods id = [] then p
        else { p with
          capacity := recoverJobs p.spec p.capacity (podsOf pods id) }).capacity ↔
      Recoverable pods id p := by
  by_cases hkept : id = "" ∨ podsOf pods id = []
  · rw [if_pos hkept]
    constructor
    · intro h
      refine ⟨fun hnil => ?_, fun _ => h, fun hid hpods => ?_⟩
      · rw [hnil] at h
        exact reconciled_nil_iff.mp h
      · exact absurd hkept (not_or.mpr ⟨hid, hpods⟩)
    · intro h
      rcases hkept with hid | hnil
      · exact h.unnamed hid
      · rw [hnil]
        exact reconciled_nil_iff.mpr (h.idle hnil)
  · obtain ⟨hid, hpods⟩ := not_or.mp hkept
    rw [if_neg hkept, recoverJobs_reconciled_iff]
    exact ⟨fun h => ⟨fun hnil => absurd hnil hpods, fun hempty => absurd hempty hid,
      fun _ _ => h⟩, fun h => h.busy hid hpods⟩

/--
The recovery leaves every known provider with what its pods hold exactly when
the cache and the pods of each one meet the condition.
-/
theorem recoverJobAllocations_reconciles_iff (o : Registry) (pods : List GPUJobPodInfo) :
    (∀ id q, recoverJobAllocations o (.ok pods) id = some q →
      Reconciled (podsOf pods id) q.capacity) ↔
        ∀ id p, o id = some p → Recoverable pods id p := by
  constructor
  · intro hall id p hp
    have hrecovered := recoverJobAllocations_of_known hp pods
    exact reconciled_iff_recoverable.mp (hall id _ hrecovered)
  · intro hall id q hq
    cases hp : o id with
    | none =>
        simp only [recoverJobAllocations, hp, Option.map_none] at hq
        contradiction
    | some p =>
        rw [recoverJobAllocations_of_known hp pods] at hq
        cases hq
        exact reconciled_iff_recoverable.mpr (hall id p hp)

/-! ## Pods with no negative counts -/

private theorem otherGPUs_nonneg (hcounts : ∀ info ∈ jobs, 0 ≤ info.gpuCount) (gpuType : String) :
    0 ≤ otherGPUs jobs gpuType := by
  apply List.sum_nonneg
  intro n hn
  obtain ⟨info, hinfo, rfl⟩ := List.mem_map.mp hn
  split
  · exact le_rfl
  · exact hcounts info hinfo

theorem otherGPUs_eq_zero_iff (hcounts : ∀ info ∈ jobs, 0 ≤ info.gpuCount) :
    otherGPUs jobs gpuType = 0 ↔
      ∀ info ∈ jobs, info.gpuModel ≠ gpuType → info.gpuCount = 0 := by
  induction jobs with
  | nil => simp [otherGPUs]
  | cons info jobs ih =>
      have hfirst := hcounts info List.mem_cons_self
      have hrest : ∀ info ∈ jobs, 0 ≤ info.gpuCount := fun info hinfo =>
        hcounts info (List.mem_cons_of_mem _ hinfo)
      have hnonneg := otherGPUs_nonneg hrest gpuType
      have hcons : otherGPUs (info :: jobs) gpuType =
          (if info.gpuModel = gpuType then 0 else info.gpuCount) + otherGPUs jobs gpuType := rfl
      rw [List.forall_mem_cons, ← ih hrest, hcons]
      split
      · rename_i hmodel
        simp [hmodel]
      · rename_i hmodel
        simp only [ne_eq, hmodel, not_false_eq_true, true_implies]
        omega

private theorem podGPUs_eq_zero {t : String}
    (h : ∀ info ∈ jobs, info.gpuModel ≠ gpuType → info.gpuCount = 0) (ht : t ≠ gpuType) :
    podGPUs jobs t = 0 := by
  apply List.sum_eq_zero
  intro n hn
  obtain ⟨info, hinfo, rfl⟩ := List.mem_map.mp hn
  split
  · rename_i hmodel
    exact h info hinfo (hmodel ▸ ht)
  · rfl

theorem oneModel_iff (hcounts : ∀ info ∈ jobs, 0 ≤ info.gpuCount) :
    OneModel jobs gpuType c ↔
      (∀ info ∈ jobs, info.gpuModel ≠ gpuType → info.gpuCount = 0) ∧
        ∀ t ≠ gpuType, c.inUse t = 0 := by
  constructor
  · intro h
    have hothers := (otherGPUs_eq_zero_iff hcounts).mp h.others
    exact ⟨hothers, fun t ht => (h.cached t ht).trans (podGPUs_eq_zero hothers ht)⟩
  · rintro ⟨hothers, hcached⟩
    exact ⟨(otherGPUs_eq_zero_iff hcounts).mpr hothers, fun t ht =>
      (hcached t ht).trans (podGPUs_eq_zero hothers ht).symm⟩

/-! ## A cache that is not rewritten -/

def cachedRegistry : Registry := fun id =>
  if id = "p1" then
    some ⟨statusAvailable, sampleSpec, { sampleCapacity with
      inUseGPUs := NilMap.put none "RTX 4090" 2 }⟩
  else none

/-- No pod is left in the cluster, and two GPUs stay in use. -/
theorem emptied_cluster_not_reconciled :
    ¬ ∀ (o : Registry) (pods : List GPUJobPodInfo) (id : String) (q : ProviderState),
      recoverJobAllocations o (.ok pods) id = some q →
        Reconciled (podsOf pods id) q.capacity := by
  intro hall
  have hreconciled := hall cachedRegistry [] "p1" _ rfl
  have hgpus := hreconciled.gpus "RTX 4090"
  revert hgpus
  decide

end WorldlandBroker.ControlPlane
