import WorldlandBroker.Provider.LedgerEffect

/-!
# What a ledger still offers

The GPUs of one type that requests can get out of `AllocateResources`, however
they split them up and whatever else they ask for.  A pool that was never
allocated is filled by the first request, in the type of that request.
-/

namespace WorldlandBroker.Provider

open Foundation ProviderCapacity

variable {spec : SystemSpec} {c : ProviderCapacity} {gpuType : String}

/-- The GPUs of a type that requests are granted, one after the other. -/
def served (spec : SystemSpec) (gpuType : String) :
    ProviderCapacity → List ResourceAllocation → ℤ
  | _, [] => 0
  | c, a :: rest =>
      let r := allocateResources spec c a
      moved (resolveGPUType spec a.gpuType) a r.1 gpuType +
        served spec gpuType r.2 rest

def offer (spec : SystemSpec) (c : ProviderCapacity) (gpuType : String) : ℤ :=
  max 0 ((c.initPools spec gpuType).available gpuType)

private theorem initPools_idem (spec : SystemSpec) (c : ProviderCapacity)
    (gpuType : String) :
    (c.initPools spec gpuType).initPools spec gpuType =
      c.initPools spec gpuType := by
  obtain ⟨pool, hpool⟩ := Option.ne_none_iff_exists'.mp
    (initPools_allocated spec c gpuType).1
  have hkept : ((c.initPools spec gpuType).initPools spec gpuType).availableGPUs =
      (c.initPools spec gpuType).availableGPUs := by
    rw [initPools, hpool]
  simp only [initPools] at hkept ⊢
  rw [hkept]
  rfl

private theorem initPools_available_le (spec : SystemSpec) (c : ProviderCapacity)
    (other gpuType : String) :
    (c.initPools spec other).available gpuType ≤ offer spec c gpuType := by
  by_cases hother : other = gpuType
  · subst hother
    exact le_max_right _ _
  · cases hpool : c.availableGPUs with
    | some pool =>
        refine le_max_of_le_right (le_of_eq ?_)
        simp only [available, initPools, hpool]
    | none =>
        refine le_max_of_le_left (le_of_eq ?_)
        have hne : gpuType ≠ other := Ne.symm hother
        simp only [available, initPools, hpool]
        split
        · rw [NilMap.count_put, if_neg hne, NilMap.count_none]
        · split
          · rw [NilMap.count_put, if_neg hne, NilMap.count_none]
          · exact NilMap.count_none gpuType

theorem offer_of_allocated (hpool : c.availableGPUs ≠ none) (gpuType : String) :
    offer spec c gpuType = max 0 (c.available gpuType) := by
  rw [offer, initPools_available fun hnone => absurd hnone hpool]

private theorem allocateResources_initPools (spec : SystemSpec) (c : ProviderCapacity)
    (a : ResourceAllocation) :
    allocateResources spec (c.initPools spec (resolveGPUType spec a.gpuType)) a =
      allocateResources spec c a := by
  unfold allocateResources
  simp only [initPools_idem]

private theorem moved_add_offer_le (spec : SystemSpec) (c : ProviderCapacity)
    (gpuType : String) {a : ResourceAllocation} (hcount : 0 ≤ a.gpuCount) :
    moved (resolveGPUType spec a.gpuType) a (allocateResources spec c a).1
        gpuType + offer spec (allocateResources spec c a).2 gpuType ≤
      offer spec c gpuType := by
  have hle := initPools_available_le spec c (resolveGPUType spec a.gpuType) gpuType
  have hallocated :=
    (initPools_allocated spec c (resolveGPUType spec a.gpuType)).1
  rw [← allocateResources_initPools]
  generalize c.initPools spec (resolveGPUType spec a.gpuType) = c₁ at hle hallocated ⊢
  have hready : c₁.PoolReady spec := fun hnone => absurd hnone hallocated
  have hallocation := allocateResources_allocation spec c₁ a
  rcases hresult : allocateResources spec c₁ a with ⟨outcome, c'⟩
  rw [hresult] at hallocation
  have havailable := hallocation.available hready hcount gpuType
  have hmoved := hallocation.moved_le hready hcount gpuType
  rw [offer_of_allocated hallocation.frame.2.2.1, havailable]
  have hnonneg : 0 ≤ offer spec c gpuType := le_max_left _ _
  omega

private theorem served_le (spec : SystemSpec) (c : ProviderCapacity) (gpuType : String)
    {requests : List ResourceAllocation}
    (hcount : ∀ a ∈ requests, 0 ≤ a.gpuCount) :
    served spec gpuType c requests ≤ offer spec c gpuType := by
  induction requests generalizing c with
  | nil => exact le_max_left _ _
  | cons a rest ih =>
      have hfirst := moved_add_offer_le spec c gpuType (hcount a List.mem_cons_self)
      have hrest := ih (allocateResources spec c a).2
        fun b hb => hcount b (List.mem_cons_of_mem a hb)
      simp only [served]
      omega

private theorem served_offer (spec : SystemSpec) (c : ProviderCapacity)
    (htype : gpuType ≠ "") :
    ∃ requests : List ResourceAllocation, (∀ a ∈ requests, 0 ≤ a.gpuCount) ∧
      served spec gpuType c requests = offer spec c gpuType := by
  by_cases hoffer : 0 < (c.initPools spec gpuType).available gpuType
  · refine ⟨[⟨gpuType, (c.initPools spec gpuType).available gpuType, 0, 0⟩],
      fun a ha => ?_, ?_⟩
    · rw [List.mem_singleton.mp ha]
      exact hoffer.le
    · simp [served, allocateResources, allocateCPU, allocateMemory,
        resolveGPUType, htype, hoffer, moved, offer, hoffer.le]
  · refine ⟨[], by simp, ?_⟩
    rw [served, offer, max_eq_left (not_lt.mp hoffer)]

/-- Whatever is requested, `held` GPUs in other hands leave room for it. -/
theorem served_add_le_iff (htype : gpuType ≠ "") {held shared : ℤ} :
    (∀ requests : List ResourceAllocation, (∀ a ∈ requests, 0 ≤ a.gpuCount) →
        served spec gpuType c requests + held ≤ shared) ↔
      offer spec c gpuType + held ≤ shared := by
  constructor
  · intro hserved
    obtain ⟨requests, hcount, hall⟩ := served_offer spec c htype
    rw [← hall]
    exact hserved requests hcount
  · intro hoffer requests hcount
    have hle := served_le spec c gpuType hcount
    omega

end WorldlandBroker.Provider
