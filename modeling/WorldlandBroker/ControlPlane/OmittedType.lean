import WorldlandBroker.ControlPlane.Boot
import WorldlandBroker.Provider.Restored

/-!
# An omitted GPU type

Every entry point to a provider's GPU pools has a rule of its own for a request
that names no GPU type.  The first type the hardware reports stands for it where
resources are allocated, released for a pod or recovered, and "default" where
they are released explicitly or taken for mining.
-/

namespace WorldlandBroker.ControlPlane

open Foundation Provider Job ProviderCapacity

/-- Without a type every entry point does what it does with the type `k`. -/
structure OmittedMeans (spec : SystemSpec) (c : ProviderCapacity) (k : String) : Prop where
  named : k ≠ ""
  allocateResources : ∀ a : ResourceAllocation, a.gpuType = "" →
    allocateResources spec c a = allocateResources spec c { a with gpuType := k }
  releaseResources : ∀ a : ResourceAllocation, a.gpuType = "" →
    releaseResources spec c a = releaseResources spec c { a with gpuType := k }
  releaseJobResources : ∀ gpuCount cpuCores memoryMB,
    releaseJobResources spec c "" gpuCount cpuCores memoryMB =
      releaseJobResources spec c k gpuCount cpuCores memoryMB
  allocateMiningGPU : ∀ gpuCount, 1 ≤ gpuCount →
    allocateMiningGPU c (miningGPUType "") gpuCount =
      allocateMiningGPU c (miningGPUType k) gpuCount
  releaseMiningGPU : ∀ gpuCount, 1 ≤ gpuCount →
    releaseMiningGPU c (miningGPUType "") gpuCount =
      releaseMiningGPU c (miningGPUType k) gpuCount
  recoverJobAllocations : ∀ jobs,
    (recoverJobs spec c jobs).inUse k = (jobs.map GPUJobPodInfo.gpuCount).sum ∧
      ∀ t, t ≠ k → (recoverJobs spec c jobs).inUse t = c.inUse t ∧
        (recoverJobs spec c jobs).available t = c.available t

def OmittedRestores (spec : SystemSpec) (c : ProviderCapacity) : Prop :=
  ∀ a : ResourceAllocation, a.gpuType = "" → 0 ≤ a.gpuCount →
    (∀ k : Pooled, 0 ≤ k.asked a) → (allocateResources spec c a).1 = .ok () →
      AsBefore spec (resolveGPUType spec a.gpuType) c
        (releaseResources spec (allocateResources spec c a).2 a)

def MinesOnlyType (spec : SystemSpec) (c : ProviderCapacity) : Prop :=
  ∀ gpu, spec.gpus = [gpu] → ∀ gpuCount, 1 ≤ gpuCount →
    allocateMiningGPU c (miningGPUType "") gpuCount =
        allocateMiningGPU c (miningGPUType gpu.name) gpuCount ∧
      releaseMiningGPU c (miningGPUType "") gpuCount =
        releaseMiningGPU c (miningGPUType gpu.name) gpuCount

structure OmittedAgrees (spec : SystemSpec) (c : ProviderCapacity) : Prop where
  means : ∃ k, OmittedMeans spec c k
  restores : OmittedRestores spec c
  mines : MinesOnlyType spec c

def FirstIsDefault (spec : SystemSpec) : Prop :=
  ∀ gpu ∈ spec.gpus.head?, gpu.name = "default"

structure NothingNegative (c : ProviderCapacity) : Prop where
  gpus : 0 ≤ c.inUse "default"
  pools : ∀ k : Pooled, 0 ≤ (k.pool c).inUse

variable {spec : SystemSpec} {c : ProviderCapacity} {k : String}

theorem firstIsDefault_iff : FirstIsDefault spec ↔ resolveGPUType spec "" = "default" := by
  unfold FirstIsDefault resolveGPUType
  cases spec.gpus with
  | nil => simp
  | cons gpu gpus => simp

private theorem releasedGPUType_omitted (spec : SystemSpec) {a : ResourceAllocation}
    (h : a.gpuType = "") : releasedGPUType spec a = "default" := by
  rw [releasedGPUType, h]
  rfl

private theorem allocateResources_resolved {a : ResourceAllocation} {t : String}
    (h : resolveGPUType spec a.gpuType = resolveGPUType spec t) :
    allocateResources spec c a = allocateResources spec c { a with gpuType := t } := by
  unfold Provider.allocateResources
  rw [h]
  rfl

/-! ## Where the names agree -/

private theorem omittedMeans_default (h : resolveGPUType spec "" = "default") :
    OmittedMeans spec c "default" where
  named := by decide
  allocateResources a ha := by
    apply allocateResources_resolved
    rw [ha, h]
    rfl
  releaseResources a ha := by
    simp only [Provider.releaseResources, ha]
    rfl
  releaseJobResources gpuCount cpuCores memoryMB := by
    have hnamed : resolveGPUType spec "default" = "default" := rfl
    simp only [Provider.releaseJobResources, h, hnamed]
  allocateMiningGPU _ _ := rfl
  releaseMiningGPU _ _ := rfl
  recoverJobAllocations jobs := by
    constructor
    · rw [recoverJobs_inUse, if_pos h.symm]
    · intro t ht
      rw [recoverJobs_inUse, h, if_neg ht]
      refine ⟨rfl, ?_⟩
      simp only [recoverJobs, ProviderCapacity.available, NilMap.count_put, h, if_neg ht]

private theorem minesOnlyType_default (h : FirstIsDefault spec) : MinesOnlyType spec c := by
  intro gpu hgpus gpuCount _
  have hname : gpu.name = "default" := h gpu (by simp [hgpus])
  rw [hname]
  exact ⟨rfl, rfl⟩

private theorem omittedRestores_default (h : resolveGPUType spec "" = "default")
    (hnonneg : NothingNegative c) : OmittedRestores spec c := by
  intro a ha hcount hasked hgranted
  have hreleased := releasedGPUType_omitted spec ha
  apply (release_restores_iff hgranted).mpr
  refine ⟨.inr ?_, hcount, hasked, ?_, hnonneg.pools⟩
  · rw [ha, h, hreleased]
  · rw [hreleased]
    exact hnonneg.gpus

/-! ## Where they do not -/

theorem released_to_iff (spec : SystemSpec) (c : ProviderCapacity) (gpuType t : String) :
    (releaseJobResources spec c gpuType 1 0 0).available t = c.available t + 1 ↔
      t = resolveGPUType spec gpuType := by
  rw [release_available]
  split
  · rename_i ht
    exact iff_of_true rfl ht
  · rename_i ht
    exact iff_of_false (by omega) ht

/-- Releasing one GPU tells which pool a release means. -/
theorem OmittedMeans.firstIsDefault (h : OmittedMeans spec c k) :
    resolveGPUType spec "" = "default" := by
  have hnamed : k = resolveGPUType spec k := by simp [resolveGPUType, h.named]
  have hgiven := (released_to_iff spec c k k).mpr hnamed
  have hpod : k = resolveGPUType spec "" := by
    rw [← released_to_iff spec c, h.releaseJobResources]
    exact hgiven
  have hexplicit : k = "default" := by
    have hreleased := h.releaseResources ⟨"", 1, 0, 0⟩ rfl
    simp only [Provider.releaseResources, releaseGPUType, if_true, if_neg h.named] at hreleased
    have hdefault := (released_to_iff spec c "default" k).mp (by rw [hreleased, hgiven])
    exact hdefault
  rw [← hpod, hexplicit]

theorem OmittedRestores.nothingNegative (h : OmittedRestores spec c) :
    NothingNegative c := by
  have hgranted : (allocateResources spec c ⟨"", 0, 0, 0⟩).1 = .ok () :=
    allocateResources_eq_ok.mpr
      ⟨fun hasked => by contradiction, fun hasked => by contradiction,
        fun hasked => by contradiction⟩
  have hrestorable := (release_restores_iff hgranted).mp
    (h _ rfl le_rfl (fun k => by cases k <;> exact le_rfl) hgranted)
  have hgpus := hrestorable.gpusInUse
  rw [releasedGPUType_omitted spec rfl] at hgpus
  exact ⟨hgpus, hrestorable.inUse⟩

theorem omitted_type_agrees_iff (spec : SystemSpec) (c : ProviderCapacity) :
    OmittedAgrees spec c ↔ FirstIsDefault spec ∧ NothingNegative c := by
  rw [firstIsDefault_iff]
  constructor
  · rintro ⟨⟨k, hmeans⟩, hrestores, -⟩
    exact ⟨hmeans.firstIsDefault, hrestores.nothingNegative⟩
  · rintro ⟨hfirst, hnonneg⟩
    exact ⟨⟨"default", omittedMeans_default hfirst⟩,
      omittedRestores_default hfirst hnonneg,
      minesOnlyType_default (firstIsDefault_iff.mpr hfirst)⟩

/-- One of eight GPUs is allocated and released, and stays in use. -/
theorem omitted_type_splits_pools :
    ¬ ∀ (spec : SystemSpec) (c : ProviderCapacity), spec.gpus ≠ [] → OmittedAgrees spec c := by
  intro hall
  have hagrees := hall sampleSpec sampleCapacity (by decide)
  have hrestored := hagrees.restores ⟨"", 1, 0, 0⟩ rfl (by decide)
    (fun k => by cases k <;> decide) (by decide)
  have hinUse := hrestored.inUse "RTX 4090"
  revert hinUse
  decide

end WorldlandBroker.ControlPlane
