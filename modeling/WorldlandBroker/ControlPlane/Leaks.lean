import WorldlandBroker.ControlPlane.Accounting
import WorldlandBroker.ControlPlane.AtMostOnce

/-!
# No leak

Once nothing is in flight an outstanding job is left with its pod only, so what
a provider has in use is bounded by what its pods ask for.  No full sweep is
needed for this, and none helps where a pod has disappeared unseen: there is
nothing left for it to list.
-/

namespace WorldlandBroker.ControlPlane

open Foundation Provider Job State

variable {K : QuantityAPI} {s s₀ : State K}
  {past : List (Transition (State K) Action)} {x : Admission} {id : String}

/-! ## What the existing pods ask for -/

/-- What a pod counts for at provider `id`; without a label it is nobody's. -/
def ofPod (id : String) (f : GPUJobPodInfo → ℤ) : Option (Pod K) → ℤ
  | none => 0
  | some pod =>
      if pod.providerID ≠ "" ∧ pod.providerID = id then
        f (parsePodToGPUJobInfo pod)
      else 0

def sumPods (s : State K) (id : String) (f : GPUJobPodInfo → ℤ) : ℤ :=
  ∑ uid ∈ Finset.range s.nextJob, ofPod id f (s.pods uid)

/-- The watch is up, and no request, event or sweep is in flight. -/
structure Quiescent (s : State K) : Prop where
  creates : ∀ job, s.creates job = none
  deletes : ∀ request, s.deletes request = none
  events : s.events = []
  sweep : s.sweep = none
  watching : s.watching = true

structure CoveredByPods (s : State K) (id : String) (p : ProviderState) :
    Prop where
  gpusOf : ∀ gpuType, p.capacity.inUse gpuType ≤ sumPods s id fun info =>
    if gpuType = resolveGPUType p.spec info.gpuModel then info.gpuCount else 0
  gpus : p.capacity.inUseGPUCount ≤ sumPods s id GPUJobPodInfo.gpuCount
  cpu : p.capacity.inUseCPUCores ≤ sumPods s id GPUJobPodInfo.cpuCores
  memory : p.capacity.inUseMemoryMB ≤ sumPods s id GPUJobPodInfo.memoryMB

theorem Quiescent.located (h : Quiescent s) (hlocated : Located s x) :
    ∃ pod, s.pods x.job = some pod ∧ Covers (parsePodToGPUJobInfo pod) x := by
  cases hlocated with
  | starting t ht => simp [h.creates] at ht
  | pod pod hpod hcovers => exact ⟨pod, hpod, hcovers⟩
  | event event hevent => simp [h.events] at hevent
  | pending hpending =>
      rcases hpending with ⟨t, ht, -⟩ | ⟨request, t, r, ht, -⟩
      · simp [h.creates] at ht
      · simp [h.deletes] at ht

def podShare (spec : SystemSpec) (k : Resource) (info : GPUJobPodInfo) : ℤ :=
  share spec (podRelease info).amount k

theorem Sized.ofPod_nonneg (h : Sized s id) (uid : ℕ) (f : GPUJobPodInfo → ℤ)
    (hf : ∀ info, (podRelease info).amount.Nonneg → 0 ≤ f info) :
    0 ≤ ofPod id f (s.pods uid) := by
  cases hpod : s.pods uid with
  | none => exact le_rfl
  | some pod =>
      simp only [ofPod]
      split
      · rename_i hid
        exact hf _ (h.mentioned _ (.pod uid pod hpod) hid.1 hid.2)
      · exact le_rfl

theorem Accounted.worth_le (h : Accounted id past s) (hquiescent : Quiescent s)
    {p : ProviderState} (hp : s.providers id = some p) (k : Resource) (uid : ℕ) :
    worth id p.spec k (outstanding past uid) ≤
      ofPod id (podShare p.spec k) (s.pods uid) := by
  have hnonneg := h.sized.ofPod_nonneg uid (podShare p.spec k)
    fun _ hinfo => share_nonneg hinfo p.spec k
  cases hx : outstanding past uid with
  | none => exact hnonneg
  | some x =>
      obtain ⟨rfl, hknown⟩ := h.known uid x hx
      simp only [worth]
      split
      · rename_i hid
        subst hid
        have hbacked := h.backed x.job x hx rfl
        obtain ⟨pod, hpod, hcovers⟩ := hquiescent.located hbacked.located
        obtain ⟨q, hq, hcloses⟩ := closes_iff.mp (hcovers.closes hknown.registered)
        cases hp.symm.trans hq
        have hprovider : pod.providerID = x.providerID := hcovers.provider
        have hlabel : pod.providerID ≠ "" ∧ pod.providerID = x.providerID :=
          ⟨hprovider ▸ hbacked.named, hprovider⟩
        rw [hpod, ofPod, if_pos hlabel]
        exact hcloses.share_le k
      · exact hnonneg

theorem Accounted.held_le (h : Accounted id past s) (hquiescent : Quiescent s)
    {p : ProviderState} (hp : s.providers id = some p) (k : Resource) :
    Provider.held p.capacity k ≤ sumPods s id (podShare p.spec k) :=
  (h.held p hp k).trans
    (Finset.sum_le_sum fun uid _ => h.worth_le hquiescent hp k uid)

def podGPUType (spec : SystemSpec) : Option (Pod K) → String
  | none => ""
  | some pod => resolveGPUType spec pod.gpuModel

private theorem ofPod_gpus (id : String) (spec : SystemSpec) (gpuType : String)
    (pod : Option (Pod K)) :
    ofPod id (podShare spec (.gpus gpuType)) pod =
      if gpuType = podGPUType spec pod then ofPod id GPUJobPodInfo.gpuCount pod
      else 0 := by
  cases pod with
  | none => simp [ofPod]
  | some pod =>
      simp only [ofPod]
      split
      · rfl
      · simp

theorem Accounted.coveredByPods (h : Accounted id past s)
    (hquiescent : Quiescent s) {p : ProviderState}
    (hp : s.providers id = some p) : CoveredByPods s id p where
  gpusOf gpuType := h.held_le hquiescent hp (.gpus gpuType)
  gpus := by
    refine CountMap.total_le_sum (p.capacity.inUseGPUs.getD ∅) _
      (fun uid => podGPUType p.spec (s.pods uid)) (fun uid _ => ?_) fun gpuType => ?_
    · exact h.sized.ofPod_nonneg uid _ fun _ hinfo => hinfo.gpus
    · refine (h.held_le hquiescent hp (.gpus gpuType)).trans_eq ?_
      exact Finset.sum_congr rfl fun uid _ => ofPod_gpus id p.spec gpuType _
  cpu := h.held_le hquiescent hp .cpu
  memory := h.held_le hquiescent hp .memory

/--
In every run whose steps meet the condition for a provider, once nothing is in
flight its ledger holds no more than its existing pods ask for.
-/
theorem inUse_covered_by_pods (hK : K.Lawful) (h₀ : Idle s₀)
    (hunused : Unused s₀ id) (hrun : Run step (coveredActions id) s₀ past s)
    (hquiescent : Quiescent s) {p : ProviderState}
    (hp : s.providers id = some p) : CoveredByPods s id p :=
  (accounted hK h₀ hunused hrun).coveredByPods hquiescent hp

private theorem sampleState_idle : Idle sampleState :=
  ⟨fun _ => rfl, fun _ => rfl, fun _ => rfl, rfl, rfl⟩

private theorem sampleState_unused : Unused sampleState "p1" := by
  intro p hp k
  simp only [sampleState] at hp
  split at hp
  · cases hp
    cases k with
    | gpus gpuType => exact (NilMap.count_none gpuType).le
    | cpu | memory => exact le_rfl
  · contradiction

private theorem sampleRequest_fits : Fits sampleQuantities
    ⟨"alice", sampleRequest, some "p1", "RTX 4090", .checked⟩ where
  provider := by decide
  amounts := ⟨by decide, by decide, by decide⟩
  quantities := by
    refine ⟨⟨8000, false⟩, ⟨16 * 1024 ^ 3 * 1000, true⟩, ⟨2000, false⟩,
      ⟨20 * 1024 ^ 3 * 1000, true⟩, rfl, rfl, rfl, rfl, ?_, ?_, ?_, ?_⟩
    all_goals decide

/-- A failed pod is returned by the sweep, and then removed in a second gap. -/
theorem inUse_covered_by_pods_swept : ∃ past s p,
    Run step (coveredActions "p1") sampleState past s ∧ past.length = 15 ∧
      s.providers "p1" = some p ∧ CoveredByPods s "p1" p := by
  have hstart : Run step (coveredActions "p1") sampleState [] sampleState := .nil
  have hcreated := hstart.take (.createJob "alice" sampleRequest none none)
    ⟨by simp, by simp, by simp⟩ rfl
  have hallocated := hcreated.take (.allocate 0)
    ⟨by
      intro job t x hjob ht _ _
      cases hjob
      cases ht
      exact ⟨sampleRequest_fits.amounts, fun _ => sampleRequest_fits⟩,
      by simp, by simp⟩ rfl
  have hpod := hallocated.take (.createPod 0 0 true)
    ⟨by simp, by simp, by simp⟩ rfl
  have hservice := hpod.take (.createService 0 true)
    ⟨by simp, by simp, by simp⟩ rfl
  have hadded := hservice.take .deliver ⟨by simp, by simp, by simp⟩ rfl
  have hdown := hadded.take .disconnect ⟨by simp, by simp, by simp⟩ rfl
  have hfailed := hdown.take (.setPhase 0 "Failed")
    ⟨by simp, by simp, by simp⟩ rfl
  have hup := hfailed.take .reconnect ⟨by simp, by simp, by simp⟩ rfl
  have hseen := hup.take .deliver ⟨by simp, by simp, by simp⟩ rfl
  have hlisted := hseen.take (.list 0) ⟨by simp, by simp, by simp⟩ rfl
  have hswept := hlisted.take .sweepNext ⟨by simp, by simp, by simp⟩ rfl
  have hdone := hswept.take .sweepNext ⟨by simp, by simp, by simp⟩ rfl
  have hagain := hdone.take .disconnect ⟨by simp, by simp, by simp⟩ rfl
  have hremoved := hagain.take (.removePod 0)
    ⟨by simp, by simp, by
      intro uid x huid _ hx _
      cases huid
      contradiction⟩ rfl
  have hback := hremoved.take .reconnect ⟨by simp, by simp, by simp⟩ rfl
  refine ⟨_, _, _, hback, rfl, rfl, inUse_covered_by_pods sampleQuantities_lawful
    sampleState_idle sampleState_unused hback
    ⟨fun job => ?_, fun _ => rfl, rfl, rfl, rfl⟩ rfl⟩
  cases job <;> rfl

def sampleGap : List Action :=
  sampleCreate ++ [.disconnect, .removePod 0, .reconnect, .list 0, .sweepNext]

private theorem sampleGap_runs : (trace step sampleState sampleGap).isSome := by
  decide

/-- Nobody returns the two GPUs of a pod that disappeared in the gap. -/
theorem vanished_pod_holds_gpus : ∃ past s p,
    Run step anyStep sampleState past s ∧ Quiescent s ∧
      (∀ uid, s.pods uid = none) ∧ s.providers "p1" = some p ∧
      p.capacity.inUseGPUCount = 2 ∧ p.capacity.inUseCPUCores = 8 ∧
      ¬ CoveredByPods s "p1" p := by
  refine ⟨_, _, _, Run.of_isSome sampleGap_runs, ⟨fun job => ?_, fun _ => rfl,
    by decide, rfl, rfl⟩, fun uid => ?_, rfl, by decide, by decide,
    fun hcovered => ?_⟩
  · cases job <;> rfl
  · cases uid <;> rfl
  · exact absurd hcovered.gpus (by decide)

end WorldlandBroker.ControlPlane
