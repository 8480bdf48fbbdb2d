import WorldlandBroker.ControlPlane.Step
import WorldlandBroker.Job.Fence

/-!
# Mining pods and their updates

The ledger operations of mining run under the registry's lock; a change of the
GPU count starts an update that deletes and recreates the provider's pod later,
outside the lock.  Every request, every cluster call of an update and every
provider's part of a tick is one action.  A deletion the cluster accepts leaves
the pod object in place until `removePod`, which may also come unasked.  The pod of
a deployment can be created and the answer lost, as the request may have ended.
-/

namespace WorldlandBroker.Mining

open Foundation Provider
open ControlPlane (Registry)
open Job (Reply)

inductive PodPhase where
  | pending
  | running
  | succeeded
  | failed
  | unknown
  deriving DecidableEq

structure MiningPod where
  gpuCount : ℤ
  phase : PodPhase

/-- The GPU request of the pod; a count that is not positive is left out of it. -/
def buildMiningPod (config : MiningConfig) : MiningPod where
  gpuCount := if 0 < config.gpuCount then config.gpuCount else 0
  phase := .pending

def getMiningPodStatus : Option MiningPod → String
  | none => "stopped"
  | some pod =>
      match pod.phase with
      | .running => "running"
      | .pending => "pending"
      | .failed => "failed"
      | .succeeded => "stopped"
      | .unknown => "unknown"

inductive UpdateStage where
  | started
  | deleted
  | finished
  deriving DecidableEq

/-- One `UpdateMiningPodGPU` in its own goroutine. -/
structure MiningUpdate where
  providerID : String
  config : MiningConfig
  stage : UpdateStage

structure State where
  providers : Registry
  pods : String → Option MiningPod
  updates : List MiningUpdate

inductive Action where
  | deploy (providerID : String) (config : MiningConfig) (first : Option String)
      (reply : Reply)
  | allocate (providerID gpuType : String) (count : ℤ)
  | release (providerID gpuType : String) (count : ℤ)
  | deletePod (u : ℕ) (answered : Bool)
  | createPod (u : ℕ) (answered : Bool)
  | tick (providerID : String) (answered : Bool)
  | setPhase (providerID : String) (phase : PodPhase)
  | removePod (providerID : String)
  deriving DecidableEq

/-- A pod that exists already counts as success and stays as it is. -/
def deployMiningPod (pod : Option MiningPod) (config : MiningConfig) (reply : Reply) :
    Outcome × Option MiningPod :=
  match reply with
  | .done => (.ok (), some (pod.getD (buildMiningPod config)))
  | .failed => (.error "failed to create mining pod", pod)
  | .lost => (.error "failed to create mining pod", some (pod.getD (buildMiningPod config)))

/-- The create call of an update; it fails where the pod still exists. -/
def createUpdatedPod (pod : Option MiningPod) (config : MiningConfig) (answered : Bool) :
    Option MiningPod :=
  match pod with
  | some pod => some pod
  | none => if answered then some (buildMiningPod config) else none

def startUpdate (s : State) (providerID : String) (p : ProviderState)
    (result : Outcome × ProviderCapacity) : State :=
  { s with
    providers := s.providers.setCapacity providerID p result.2
    updates :=
      match result.1 with
      | .error _ => s.updates
      | .ok () => s.updates ++
          [⟨providerID, ⟨result.2.miningGPUCount, result.2.miningCPUCores,
            result.2.miningMemoryMB⟩, .started⟩] }

def step (s : State) : Action → Option State
  | .deploy providerID config first reply =>
      match s.providers providerID with
      | none => none
      | some p =>
          let deploy := deployMiningForProvider providerID p.spec p.capacity config first
          -- the cluster is only called once the GPUs are known to suffice
          match deploy (.ok ()) with
          | (.error _, capacity) =>
              some { s with providers := s.providers.setCapacity providerID p capacity }
          | (.ok _, _) =>
              let created := deployMiningPod (s.pods providerID) config reply
              some { s with
                providers := s.providers.setCapacity providerID p (deploy created.1).2
                pods := Function.update s.pods providerID created.2 }
  -- the handlers refuse a count below one
  | .allocate providerID gpuType count =>
      match s.providers providerID with
      | none => none
      | some p =>
          if count < 1 then none
          else some (startUpdate s providerID p (allocateMiningGPU p.capacity gpuType count))
  | .release providerID gpuType count =>
      match s.providers providerID with
      | none => none
      | some p =>
          if count < 1 then none
          else some (startUpdate s providerID p (releaseMiningGPU p.capacity gpuType count))
  | .deletePod u answered =>
      match s.updates[u]? with
      | none => none
      | some update =>
          if update.stage = .started then
            some { s with
              updates := s.updates.set u { update with
                stage := if answered then .deleted else .finished } }
          else none
  | .createPod u answered =>
      match s.updates[u]? with
      | none => none
      | some update =>
          if update.stage = .deleted then
            some { s with
              updates := s.updates.set u { update with stage := .finished }
              pods := Function.update s.pods update.providerID
                (createUpdatedPod (s.pods update.providerID) update.config answered) }
          else none
  | .tick providerID answered =>
      match s.providers providerID with
      | none => none
      | some p =>
          let reported :=
            if answered then .ok (getMiningPodStatus (s.pods providerID))
            else .error "failed to get mining pod"
          some { s with
            providers := s.providers.setCapacity providerID p
              (syncMiningPodState p.capacity reported) }
  | .setPhase providerID phase =>
      some { s with
        pods := Function.update s.pods providerID
          ((s.pods providerID).map fun pod => { pod with phase := phase }) }
  | .removePod providerID =>
      some { s with pods := Function.update s.pods providerID none }

def Action.provider (s : State) : Action → Option String
  | .deploy id _ _ _ | .allocate id _ _ | .release id _ _ | .tick id _
  | .setPhase id _ | .removePod id => some id
  | .deletePod u _ | .createPod u _ => s.updates[u]?.map MiningUpdate.providerID

/-! ## What a step does -/

inductive Effect (s : State) : Action → State → Prop where
  | deployed {providerID : String} {config : MiningConfig} {first : Option String}
      {reply : Reply} {p : ProviderState} (hp : s.providers providerID = some p)
      (hok : (deployMiningForProvider providerID p.spec p.capacity config first
        (.ok ())).1 = .ok ()) :
      Effect s (.deploy providerID config first reply)
        ⟨s.providers.setCapacity providerID p
            (deployMiningForProvider providerID p.spec p.capacity config first
              (deployMiningPod (s.pods providerID) config reply).1).2,
          Function.update s.pods providerID
            (deployMiningPod (s.pods providerID) config reply).2,
          s.updates⟩
  | refused {providerID : String} {config : MiningConfig} {first : Option String}
      {reply : Reply} {p : ProviderState} {message : String}
      (hp : s.providers providerID = some p)
      (herror : (deployMiningForProvider providerID p.spec p.capacity config first
        (.ok ())).1 = .error message) :
      Effect s (.deploy providerID config first reply)
        ⟨s.providers.setCapacity providerID p
            (deployMiningForProvider providerID p.spec p.capacity config first (.ok ())).2,
          s.pods, s.updates⟩
  | allocated {providerID gpuType : String} {count : ℤ} {p : ProviderState}
      (hp : s.providers providerID = some p) (hcount : 1 ≤ count) :
      Effect s (.allocate providerID gpuType count)
        (startUpdate s providerID p (allocateMiningGPU p.capacity gpuType count))
  | released {providerID gpuType : String} {count : ℤ} {p : ProviderState}
      (hp : s.providers providerID = some p) (hcount : 1 ≤ count) :
      Effect s (.release providerID gpuType count)
        (startUpdate s providerID p (releaseMiningGPU p.capacity gpuType count))
  | podDeleted {u : ℕ} {answered : Bool} {update : MiningUpdate}
      (hslot : s.updates[u]? = some update) (hstage : update.stage = .started) :
      Effect s (.deletePod u answered)
        ⟨s.providers, s.pods, s.updates.set u { update with
          stage := if answered then .deleted else .finished }⟩
  | podCreated {u : ℕ} {answered : Bool} {update : MiningUpdate}
      (hslot : s.updates[u]? = some update) (hstage : update.stage = .deleted) :
      Effect s (.createPod u answered)
        ⟨s.providers,
          Function.update s.pods update.providerID
            (createUpdatedPod (s.pods update.providerID) update.config answered),
          s.updates.set u { update with stage := .finished }⟩
  | ticked {providerID : String} {answered : Bool} {p : ProviderState}
      (hp : s.providers providerID = some p) :
      Effect s (.tick providerID answered)
        ⟨s.providers.setCapacity providerID p (syncMiningPodState p.capacity
            (if answered then .ok (getMiningPodStatus (s.pods providerID))
              else .error "failed to get mining pod")),
          s.pods, s.updates⟩
  | phaseSet {providerID : String} {phase : PodPhase} :
      Effect s (.setPhase providerID phase)
        ⟨s.providers, Function.update s.pods providerID
          ((s.pods providerID).map fun pod => { pod with phase := phase }), s.updates⟩
  | podRemoved {providerID : String} :
      Effect s (.removePod providerID)
        ⟨s.providers, Function.update s.pods providerID none, s.updates⟩

theorem step_effect {s s' : State} {a : Action} (h : step s a = some s') :
    Effect s a s' := by
  cases a with
  | deploy providerID config first reply =>
      simp only [step] at h
      split at h
      · contradiction
      · rename_i p hp
        split at h
        · rename_i message capacity hrefused
          cases h
          have heffect : Effect s (.deploy providerID config first reply) _ :=
            .refused hp (congrArg Prod.fst hrefused)
          rwa [hrefused] at heffect
        · rename_i capacity hdone
          cases h
          exact .deployed hp (congrArg Prod.fst hdone)
  | allocate providerID gpuType count =>
      simp only [step] at h
      split at h
      · contradiction
      · rename_i p hp
        split at h
        · contradiction
        · rename_i hcount
          cases h
          exact .allocated hp (not_lt.mp hcount)
  | release providerID gpuType count =>
      simp only [step] at h
      split at h
      · contradiction
      · rename_i p hp
        split at h
        · contradiction
        · rename_i hcount
          cases h
          exact .released hp (not_lt.mp hcount)
  | deletePod u answered =>
      simp only [step] at h
      split at h
      · contradiction
      · rename_i update hslot
        split at h
        · rename_i hstage
          cases h
          exact .podDeleted hslot hstage
        · contradiction
  | createPod u answered =>
      simp only [step] at h
      split at h
      · contradiction
      · rename_i update hslot
        split at h
        · rename_i hstage
          cases h
          exact .podCreated hslot hstage
        · contradiction
  | tick providerID answered =>
      simp only [step] at h
      split at h
      · contradiction
      · rename_i p hp
        cases h
        exact .ticked hp
  | setPhase providerID phase =>
      cases h
      exact .phaseSet
  | removePod providerID =>
      cases h
      exact .podRemoved

end WorldlandBroker.Mining
