import WorldlandBroker.ControlPlane.Step
import WorldlandBroker.Sdk.MiningStatus

/-!
# Scaling the mining GPUs

The SDK's monitor loop: each tick refreshes the controller from the control
plane's answer and then asks for the difference between what it has read and its
target.  Rentals and the status sweep go on between the two halves of a tick;
nobody else asks for mining GPUs.
-/

namespace WorldlandBroker.Sdk

open Foundation Provider ControlPlane

structure MiningController where
  currentGPUs : ℤ
  targetGPUs : ℤ
  miningStatus : String
  autoScaleEnabled : Bool
  minGPUs : ℤ
  maxGPUs : ℤ

structure Scaling where
  controller : MiningController
  provider : ProviderState
  adjusting : Bool

structure Exchanged where
  delivered : Bool
  answered : Bool
  deriving DecidableEq

inductive ScaleAction where
  /-- The pod's status as the cluster gives it; `none` where the request fails. -/
  | refreshStatus (podStatus : Option String)
  | autoAdjust (exchanged : Exchanged)
  | setTargetGPUs (count : ℤ)
  | allocateResources (a : ResourceAllocation)
  | releaseResources (a : ResourceAllocation)
  | syncMiningPodStates (reported : Except String String)

/-! ## The controller -/

def MiningController.refreshStatus (mc : MiningController) (body : Json) :
    Except String MiningController := do
  let status ← decodeMiningStatus body
  return { mc with
    currentGPUs := status.resources.gpuCount
    miningStatus := status.miningStatus }

def MiningController.setTargetGPUs (mc : MiningController) (count : ℤ) : MiningController :=
  let count := if count < mc.minGPUs then mc.minGPUs else count
  let count := if mc.maxGPUs < count then mc.maxGPUs else count
  { mc with targetGPUs := count }

def MiningController.allocated (mc : MiningController) (count : ℤ) : MiningController :=
  { mc with currentGPUs := mc.currentGPUs + count }

def MiningController.released (mc : MiningController) (count : ℤ) : MiningController :=
  { mc with
    currentGPUs := if mc.currentGPUs - count < 0 then 0 else mc.currentGPUs - count }

/-- What a request leaves of both sides; the SDK names no GPU type. -/
def exchange (mc : MiningController) (p : ProviderState) (exchanged : Exchanged)
    (result : Outcome × ProviderCapacity) (granted : MiningController) : Scaling where
  controller :=
    match result.1 with
    | .error _ => mc
    | .ok () => if exchanged.delivered ∧ exchanged.answered then granted else mc
  provider := if exchanged.delivered then { p with capacity := result.2 } else p
  adjusting := false

def autoAdjust (mc : MiningController) (p : ProviderState) (exchanged : Exchanged) : Scaling :=
  if mc.miningStatus ≠ "running" then ⟨mc, p, false⟩
  else if mc.currentGPUs < mc.targetGPUs then
    let diff := mc.targetGPUs - mc.currentGPUs
    exchange mc p exchanged (allocateMiningGPU p.capacity (miningGPUType "") diff)
      (mc.allocated diff)
  else if mc.targetGPUs < mc.currentGPUs then
    let diff := mc.currentGPUs - mc.targetGPUs
    exchange mc p exchanged (releaseMiningGPU p.capacity (miningGPUType "") diff)
      (mc.released diff)
  else ⟨mc, p, false⟩

def scaleStep (providerID : String) (s : Scaling) : ScaleAction → Option Scaling
  | .refreshStatus podStatus =>
      if s.adjusting then none
      else
        match podStatus with
        | none => some s
        | some podStatus =>
            let body := getMiningStatus providerID podStatus s.provider.capacity
            match s.controller.refreshStatus body with
            | .error _ => some s
            | .ok mc => some { s with controller := mc, adjusting := mc.autoScaleEnabled }
  | .autoAdjust exchanged =>
      if s.adjusting then some (autoAdjust s.controller s.provider exchanged) else none
  | .setTargetGPUs count => some { s with controller := s.controller.setTargetGPUs count }
  | .allocateResources a =>
      some { s with provider := { s.provider with
        capacity := (Provider.allocateResources s.provider.spec s.provider.capacity a).2 } }
  | .releaseResources a =>
      some { s with provider := { s.provider with
        capacity := Provider.releaseResources s.provider.spec s.provider.capacity a } }
  | .syncMiningPodStates reported =>
      some { s with provider := { s.provider with
        capacity := syncMiningPodState s.provider.capacity reported } }

/-! ## Tracking -/

def Scaling.mined (s : Scaling) : ℤ := s.provider.capacity.miningGPUCount

variable {providerID : String} {s₀ s s' : Scaling} {past : List (Transition Scaling ScaleAction)}

def ReadsCount (past : List (Transition Scaling ScaleAction)) : Prop :=
  ∀ r ∈ past, r.act = .refreshStatus (some "running") →
    r.post.controller.currentGPUs = r.pre.mined

def NeverBeyond (past : List (Transition Scaling ScaleAction)) : Prop :=
  ∀ r ∈ past, ∀ exchanged, r.act = .autoAdjust exchanged →
    min r.pre.mined r.pre.controller.targetGPUs ≤ r.post.mined ∧
      r.post.mined ≤ max r.pre.mined r.pre.controller.targetGPUs

def NothingMined (past : List (Transition Scaling ScaleAction)) : Prop :=
  ∀ r ∈ past, r.act = .refreshStatus (some "running") → r.pre.mined = 0

/--
The whole target is asked for once more, and the pool "default" has it.  A target
below zero is asked back in the same way.
-/
def Overshoots (s : Scaling) (exchanged : Exchanged) : Prop :=
  exchanged.delivered = true ∧ s.controller.miningStatus = "running" ∧
    (0 < s.mined ∧ 0 < s.controller.targetGPUs ∧
        s.controller.targetGPUs ≤ s.provider.capacity.available "default" ∨
      s.mined < 0 ∧ s.controller.targetGPUs < 0 ∧
        -s.controller.targetGPUs ≤ s.provider.capacity.mining "default")

theorem refreshStatus_eq_ok (mc : MiningController) (podStatus : String)
    (c : ProviderCapacity) :
    mc.refreshStatus (getMiningStatus providerID podStatus c) =
      .ok { mc with currentGPUs := 0, miningStatus := podStatus } := by
  rw [MiningController.refreshStatus, decodeMiningStatus_getMiningStatus]
  rfl

/-! ## One adjustment -/

private theorem allocateMining_count (c : ProviderCapacity) (gpuType : String) (n : ℤ) :
    (allocateMiningGPU c gpuType n).2.miningGPUCount =
      if n ≤ c.available gpuType then c.miningGPUCount + n else c.miningGPUCount := by
  unfold allocateMiningGPU
  simp only []
  split
  · rename_i hshort
    rw [if_neg (not_le.mpr hshort)]
  · rename_i henough
    rw [if_pos (not_lt.mp henough)]
    exact NilMap.total_add c.miningGPUs gpuType n

/-- A map that was never allocated has none of the GPUs that are given back. -/
theorem releaseMining_count (c : ProviderCapacity) (gpuType : String) {n : ℤ} (hn : 0 < n) :
    (releaseMiningGPU c gpuType n).2.miningGPUCount =
      if n ≤ c.mining gpuType then c.miningGPUCount - n else c.miningGPUCount := by
  unfold releaseMiningGPU
  simp only []
  split
  · rename_i hshort
    rw [if_neg (not_le.mpr hshort)]
  · rename_i henough
    rw [if_pos (not_lt.mp henough)]
    split
    · rename_i hnone
      have hzero : c.mining gpuType = 0 := by
        rw [ProviderCapacity.mining, hnone, NilMap.count_none]
      omega
    · exact NilMap.total_add c.miningGPUs gpuType (-n)

def Granted (s : Scaling) (exchanged : Exchanged) : Prop :=
  exchanged.delivered = true ∧ s.controller.miningStatus = "running" ∧
    (0 < s.controller.targetGPUs ∧
        s.controller.targetGPUs ≤ s.provider.capacity.available "default" ∨
      s.controller.targetGPUs < 0 ∧
        -s.controller.targetGPUs ≤ s.provider.capacity.mining "default")

private theorem exchange_mined (mc : MiningController) (p : ProviderState) (exchanged : Exchanged)
    (result : Outcome × ProviderCapacity) (granted : MiningController) :
    (exchange mc p exchanged result granted).mined =
      if exchanged.delivered = true then result.2.miningGPUCount
      else p.capacity.miningGPUCount := by
  simp only [Scaling.mined, exchange]
  split <;> rfl

private theorem miningGPUType_empty : miningGPUType "" = "default" := if_pos rfl

private theorem autoAdjust_granted {exchanged : Exchanged} (hread : s.controller.currentGPUs = 0)
    (hgranted : Granted s exchanged) :
    (autoAdjust s.controller s.provider exchanged).mined =
      s.mined + s.controller.targetGPUs := by
  obtain ⟨hdelivered, hrunning, htarget⟩ := hgranted
  unfold autoAdjust
  rw [hread, if_neg (not_not.mpr hrunning), miningGPUType_empty]
  rcases htarget with ⟨hpos, henough⟩ | ⟨hneg, henough⟩
  · rw [if_pos hpos, exchange_mined, if_pos hdelivered, allocateMining_count,
      if_pos (by omega), sub_zero]
    rfl
  · rw [if_neg (by omega), if_pos hneg, exchange_mined, if_pos hdelivered,
      releaseMining_count _ _ (by omega), if_pos (by omega)]
    simp only [Scaling.mined]
    omega

private theorem autoAdjust_refused {exchanged : Exchanged} (hread : s.controller.currentGPUs = 0)
    (hrefused : ¬ Granted s exchanged) :
    (autoAdjust s.controller s.provider exchanged).mined = s.mined := by
  unfold autoAdjust
  rw [hread, miningGPUType_empty]
  by_cases hrunning : s.controller.miningStatus = "running"
  · rw [if_neg (not_not.mpr hrunning)]
    rcases lt_trichotomy s.controller.targetGPUs 0 with hneg | hzero | hpos
    · rw [if_neg (by omega), if_pos hneg, exchange_mined,
        releaseMining_count _ _ (by omega)]
      split
      · rename_i hdelivered
        rw [if_neg]
        · rfl
        · intro henough
          exact hrefused ⟨hdelivered, hrunning, .inr ⟨hneg, by omega⟩⟩
      · rfl
    · rw [hzero, if_neg (by omega), if_neg (by omega)]
      rfl
    · rw [if_pos hpos, exchange_mined, allocateMining_count]
      split
      · rename_i hdelivered
        rw [if_neg]
        · rfl
        · intro henough
          exact hrefused ⟨hdelivered, hrunning, .inl ⟨hpos, by omega⟩⟩
      · rfl
  · rw [if_pos hrunning]
    rfl

theorem overshoots_iff {exchanged : Exchanged} :
    Overshoots s exchanged ↔ Granted s exchanged ∧
      (0 < s.mined ∧ 0 < s.controller.targetGPUs ∨
        s.mined < 0 ∧ s.controller.targetGPUs < 0) := by
  unfold Overshoots Granted
  constructor
  · rintro ⟨hdelivered, hrunning, ⟨hmined, htarget, henough⟩ | ⟨hmined, htarget, henough⟩⟩
    · exact ⟨⟨hdelivered, hrunning, .inl ⟨htarget, henough⟩⟩, .inl ⟨hmined, htarget⟩⟩
    · exact ⟨⟨hdelivered, hrunning, .inr ⟨htarget, henough⟩⟩, .inr ⟨hmined, htarget⟩⟩
  · rintro ⟨⟨hdelivered, hrunning, hgranted⟩, hsame⟩
    refine ⟨hdelivered, hrunning, ?_⟩
    rcases hgranted with ⟨htarget, henough⟩ | ⟨htarget, henough⟩
    · exact .inl ⟨by omega, htarget, henough⟩
    · exact .inr ⟨by omega, htarget, henough⟩

/-- An adjustment goes beyond the target exactly where it overshoots. -/
theorem autoAdjust_within_iff {exchanged : Exchanged}
    (hread : s.controller.currentGPUs = 0) :
    (min s.mined s.controller.targetGPUs ≤
          (autoAdjust s.controller s.provider exchanged).mined ∧
        (autoAdjust s.controller s.provider exchanged).mined ≤
          max s.mined s.controller.targetGPUs) ↔
      ¬ Overshoots s exchanged := by
  rw [overshoots_iff]
  by_cases hgranted : Granted s exchanged
  · rw [autoAdjust_granted hread hgranted]
    constructor
    · rintro ⟨hlow, hhigh⟩ ⟨-, hsame⟩
      omega
    · intro hnot
      have hsame : ¬ (0 < s.mined ∧ 0 < s.controller.targetGPUs ∨
          s.mined < 0 ∧ s.controller.targetGPUs < 0) := fun h => hnot ⟨hgranted, h⟩
      omega
  · rw [autoAdjust_refused hread hgranted]
    constructor
    · rintro - ⟨h, -⟩
      exact hgranted h
    · intro _
      exact ⟨min_le_left _ _, le_max_left _ _⟩

/-! ## Runs -/

def HasRead (s : Scaling) : Prop := s.adjusting = true → s.controller.currentGPUs = 0

private theorem scaleStep_refreshStatus {podStatus : String}
    (hs : scaleStep providerID s (.refreshStatus (some podStatus)) = some s') :
    s'.controller.currentGPUs = 0 := by
  simp only [scaleStep, refreshStatus_eq_ok] at hs
  split at hs
  · contradiction
  · cases hs
    rfl

private theorem scaleStep_autoAdjust {exchanged : Exchanged}
    (hs : scaleStep providerID s (.autoAdjust exchanged) = some s') :
    s.adjusting = true ∧ s' = autoAdjust s.controller s.provider exchanged := by
  simp only [scaleStep] at hs
  split at hs
  · rename_i hadjusting
    cases hs
    exact ⟨hadjusting, rfl⟩
  · contradiction

private theorem autoAdjust_adjusting (mc : MiningController) (p : ProviderState)
    (exchanged : Exchanged) : (autoAdjust mc p exchanged).adjusting = false := by
  unfold autoAdjust
  split
  · rfl
  · split
    · rfl
    · split <;> rfl

theorem HasRead.step {a : ScaleAction} (h : HasRead s)
    (hs : scaleStep providerID s a = some s') : HasRead s' := by
  cases a with
  | refreshStatus podStatus =>
      cases podStatus with
      | none =>
          simp only [scaleStep] at hs
          split at hs
          · contradiction
          · cases hs
            exact h
      | some podStatus => exact fun _ => scaleStep_refreshStatus hs
  | autoAdjust exchanged =>
      obtain ⟨-, rfl⟩ := scaleStep_autoAdjust hs
      intro hadjusting
      rw [autoAdjust_adjusting] at hadjusting
      contradiction
  | setTargetGPUs count =>
      cases hs
      exact h
  | allocateResources a =>
      cases hs
      exact h
  | releaseResources a =>
      cases hs
      exact h
  | syncMiningPodStates reported =>
      cases hs
      exact h

theorem hasRead_run (hrun : Run (scaleStep providerID) anyStep s₀ past s)
    (hstart : s₀.adjusting = false) : ∀ r ∈ past, HasRead r.pre := by
  intro r hr
  obtain ⟨before, after, hsplit⟩ := List.append_of_mem hr
  apply (hrun.of_split hsplit).1.always
  · intro hadjusting
    rw [hstart] at hadjusting
    contradiction
  · intro _ _ _ _ hpre _ hs
    exact hpre.step hs

/--
The controller reads the ledger's count exactly where nothing is mined, and stays
within its target exactly where no adjustment overshoots.
-/
theorem autoscaler_tracks_iff (hrun : Run (scaleStep providerID) anyStep s₀ past s)
    (hstart : s₀.adjusting = false) :
    (ReadsCount past ↔ NothingMined past) ∧
      (NeverBeyond past ↔ ∀ r ∈ past, ∀ exchanged, r.act = .autoAdjust exchanged →
        ¬ Overshoots r.pre exchanged) := by
  constructor
  · have hzero : ∀ r ∈ past, r.act = .refreshStatus (some "running") →
        r.post.controller.currentGPUs = 0 := by
      intro r hr hact
      have hs := hrun.step_of_mem hr
      rw [hact] at hs
      exact scaleStep_refreshStatus hs
    constructor
    · intro hreads r hr hact
      rw [← hreads r hr hact, hzero r hr hact]
    · intro hnothing r hr hact
      rw [hnothing r hr hact, hzero r hr hact]
  · have hwithin : ∀ r ∈ past, ∀ exchanged, r.act = .autoAdjust exchanged →
        ((min r.pre.mined r.pre.controller.targetGPUs ≤ r.post.mined ∧
            r.post.mined ≤ max r.pre.mined r.pre.controller.targetGPUs) ↔
          ¬ Overshoots r.pre exchanged) := by
      intro r hr exchanged hact
      have hs := hrun.step_of_mem hr
      rw [hact] at hs
      obtain ⟨hadjusting, hpost⟩ := scaleStep_autoAdjust hs
      rw [hpost]
      exact autoAdjust_within_iff (hasRead_run hrun hstart r hr hadjusting)
    constructor
    · intro hbeyond r hr exchanged hact
      exact (hwithin r hr exchanged hact).mp (hbeyond r hr exchanged hact)
    · intro hnone r hr exchanged hact
      exact (hwithin r hr exchanged hact).mpr (hnone r hr exchanged hact)

/-! ## A target of two GPUs -/

def scalingSample (mined : NilMap String) : Scaling where
  controller := ⟨0, 2, "", true, 1, 8⟩
  provider := {
    status := statusAvailable
    spec := sampleSpec
    capacity := {
      sampleCapacity with
      availableGPUs := NilMap.put none "default" 3
      miningGPUs := mined
      miningPodName := "mining-p1" } }
  adjusting := false

def tickActions : List ScaleAction :=
  [.refreshStatus (some "running"), .autoAdjust ⟨true, true⟩]

private theorem idleTick_checked :
    ∃ run ∈ trace (scaleStep "p1") (scalingSample none) tickActions,
      (∀ r ∈ run.1, r.pre.mined = 0) ∧ run.2.mined = 2 := by
  decide +kernel

theorem autoscaler_tracks_sample :
    ∃ run ∈ trace (scaleStep "p1") (scalingSample none) tickActions,
      ReadsCount run.1 ∧ NeverBeyond run.1 := by
  obtain ⟨run, hrun, hzero, -⟩ := idleTick_checked
  obtain ⟨hreads, hbeyond⟩ := autoscaler_tracks_iff (Run.of_trace hrun) rfl
  refine ⟨run, hrun, hreads.mpr ?_, hbeyond.mpr ?_⟩
  · intro r hr _
    exact hzero r hr
  · rintro r hr exchanged _ ⟨-, -, hover⟩
    have hmined := hzero r hr
    omega

private theorem miningTick_checked :
    ∃ run ∈ trace (scaleStep "p1") (scalingSample (NilMap.put none "default" 1)) tickActions,
      ∃ r ∈ run.1[1]?, r.pre.mined = 1 ∧ r.pre.controller.targetGPUs = 2 ∧
        r.post.mined = 3 := by
  decide +kernel

theorem autoscaler_overshoots :
    ¬ ∀ (providerID : String) (s₀ s : Scaling) (past : List (Transition Scaling ScaleAction)),
      Run (scaleStep providerID) anyStep s₀ past s → s₀.adjusting = false →
        ReadsCount past ∧ NeverBeyond past := by
  intro hclaim
  obtain ⟨run, hrun, r, hr, hpre, htarget, hpost⟩ := miningTick_checked
  obtain ⟨-, hbeyond⟩ := hclaim _ _ _ _ (Run.of_trace hrun) rfl
  have hact : r.act = .autoAdjust ⟨true, true⟩ :=
    (Option.some.inj (trace_act_getElem? hrun hr)).symm
  have hwithin := (hbeyond r (List.mem_of_getElem? hr) _ hact).2
  omega

end WorldlandBroker.Sdk
