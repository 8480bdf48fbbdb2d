import WorldlandBroker.Provider.Mining
import WorldlandBroker.Foundation.Slots

/-!
# Registration and liveness

The workers that write a provider's record: the registration worker, which reads
the status of the record, asks `kubeadm` for a join token and only then writes;
the heartbeat monitor with its sweep; and `OnNodeJoined`.  A mining deployment
that a request starts runs later, in a goroutine of its own.  Times are
nanoseconds since Go's zero time.
-/

namespace WorldlandBroker.Registration

open Foundation Provider

/-! ## Messages -/

structure RegistrationRequest where
  providerID : String
  spec : SystemSpec
  capacity : ProviderCapacity
  miningConfig : Option MiningConfig

structure RegistrationResponse where
  success : Bool
  status : RegistrationStatus
  message : String
  joinToken : String
  joinCommand : String
  masterIP : String
  masterPort : ℤ
  caHash : String
  nodeName : String
  deriving DecidableEq

structure HeartbeatMessage where
  providerID : String
  nodeName : String
  status : RegistrationStatus

/-! ## Records and workers -/

def statusOffline : RegistrationStatus := "offline"

structure RegisteredProvider extends ProviderState where
  nodeName : String
  lastHeartbeat : ℤ

structure Orchestrator where
  masterIP : String
  masterPort : ℤ
  miningManager : Bool

structure Handling where
  req : RegistrationRequest
  joined : Option String

structure Deployment where
  providerID : String
  config : MiningConfig
  finished : Bool

structure State where
  providers : String → Option RegisteredProvider
  handling : Option Handling
  deployments : List Deployment

inductive LedgerOp where
  | allocateResources (a : ResourceAllocation)
  | releaseJobResources (gpuType : String) (gpuCount cpuCores memoryMB : ℤ)
  | allocateMiningGPU (gpuType : String) (count : ℤ)
  | releaseMiningGPU (gpuType : String) (count : ℤ)
  | deployMiningForProvider (config : MiningConfig) (first : Option String)
      (deployed : Outcome)
  | stopMiningForProvider (deleted : Outcome)
  | syncMiningPodState (reported : Except String String)

inductive Action where
  | receive (req : RegistrationRequest)
  | finish (kubeadm : Option (List String)) (now : ℤ)
  | deploy (d : ℕ) (first : Option String) (deployed : Outcome)
  | handleHeartbeat (hb : HeartbeatMessage) (now : ℤ)
  | checkStaleProviders (now : ℤ)
  | onNodeJoined (nodeName providerID : String)
  | ledger (providerID : String) (op : LedgerOp)

/-! ## Join tokens -/

/-- The word after the last occurrence of the flag. -/
def flagValue (flag : String) (parts : List String) : String :=
  (parts.zip parts.tail).foldl (fun value pair => if pair.1 = flag then pair.2 else value) ""

/-- On the words that `kubeadm token create` has printed; `none` where it failed. -/
def generateJoinToken (kubeadm : Option (List String)) : Option (String × String) :=
  match kubeadm with
  | none => none
  | some parts =>
      let token := flagValue "--token" parts
      let caHash := flagValue "--discovery-token-ca-cert-hash" parts
      if token = "" ∨ caHash = "" then none else some (token, caHash)

/-! ## Handlers -/

def joinedNode (p : Option RegisteredProvider) : Option String :=
  match p with
  | none => none
  | some p => if p.status = statusJoined then some p.nodeName else none

def handleRegistration (o : Orchestrator) (h : Handling)
    (kubeadm : Option (List String)) (now : ℤ) :
    RegistrationResponse × Option RegisteredProvider :=
  match h.joined with
  | some nodeName =>
      (⟨true, statusJoined, "Provider already registered and joined", "", "", "", 0, "",
        nodeName⟩, none)
  | none =>
      match generateJoinToken kubeadm with
      | none =>
          (⟨true, statusApproved,
            "Registration approved (join token unavailable - node may already be in cluster)",
            "", "", "", 0, "", ""⟩,
            some ⟨⟨statusApproved, h.req.spec, h.req.capacity⟩, "", now⟩)
      | some (token, caHash) =>
          (⟨true, statusApproved, "Registration approved. Please execute the join command.",
            token,
            s!"kubeadm join {o.masterIP}:{decimal o.masterPort} --token {token} --discovery-token-ca-cert-hash {caHash}",
            o.masterIP, o.masterPort, caHash, ""⟩,
            -- the heartbeat of this record is left at the zero time
            some ⟨⟨statusApproved, h.req.spec, h.req.capacity⟩, "", 0⟩)

def startedMining (o : Orchestrator) (req : RegistrationRequest)
    (response : RegistrationResponse) : Option MiningConfig :=
  match req.miningConfig with
  | none => none
  | some config => if response.success ∧ o.miningManager then some config else none

def staleProviderThreshold : ℤ := 120000000000

def markStale (now : ℤ) (p : RegisteredProvider) : RegisteredProvider :=
  if p.status = statusJoined ∧ p.lastHeartbeat < now - staleProviderThreshold then
    { p with status := statusOffline }
  else p

def LedgerOp.run (providerID : String) (spec : SystemSpec) (c : ProviderCapacity) :
    LedgerOp → ProviderCapacity
  | .allocateResources a => (Provider.allocateResources spec c a).2
  | .releaseJobResources gpuType gpuCount cpuCores memoryMB =>
      Provider.releaseJobResources spec c gpuType gpuCount cpuCores memoryMB
  | .allocateMiningGPU gpuType count => (Provider.allocateMiningGPU c gpuType count).2
  | .releaseMiningGPU gpuType count => (Provider.releaseMiningGPU c gpuType count).2
  | .deployMiningForProvider config first deployed =>
      (Provider.deployMiningForProvider providerID spec c config first deployed).2
  | .stopMiningForProvider deleted => (Provider.stopMiningForProvider c deleted).2
  | .syncMiningPodState reported => Provider.syncMiningPodState c reported

def runLedger (providers : String → Option RegisteredProvider) (providerID : String)
    (op : LedgerOp) : String → Option RegisteredProvider :=
  Function.update providers providerID
    ((providers providerID).map fun p =>
      { p with capacity := op.run providerID p.spec p.capacity })

def step (o : Orchestrator) (s : State) : Action → Option State
  | .receive req =>
      match s.handling with
      | some _ => none
      | none => some { s with handling := some ⟨req, joinedNode (s.providers req.providerID)⟩ }
  | .finish kubeadm now =>
      match s.handling with
      | none => none
      | some h =>
          let handled := handleRegistration o h kubeadm now
          some {
            providers :=
              match handled.2 with
              | none => s.providers
              | some p => Function.update s.providers h.req.providerID (some p)
            handling := none
            deployments :=
              match startedMining o h.req handled.1 with
              | none => s.deployments
              | some config => s.deployments ++ [⟨h.req.providerID, config, false⟩] }
  | .deploy d first deployed =>
      match s.deployments[d]? with
      | none => none
      | some deployment =>
          if deployment.finished then none
          else some { s with
            providers := runLedger s.providers deployment.providerID
              (.deployMiningForProvider deployment.config first deployed)
            deployments := s.deployments.set d { deployment with finished := true } }
  | .handleHeartbeat hb now =>
      some { s with
        providers := Function.update s.providers hb.providerID
          ((s.providers hb.providerID).map fun p =>
            { p with status := hb.status, nodeName := hb.nodeName, lastHeartbeat := now }) }
  | .checkStaleProviders now =>
      some { s with providers := fun id => (s.providers id).map (markStale now) }
  | .onNodeJoined nodeName providerID =>
      some { s with
        providers := Function.update s.providers providerID
          ((s.providers providerID).map fun p =>
            { p with status := statusJoined, nodeName := nodeName }) }
  | .ledger providerID op =>
      some { s with providers := runLedger s.providers providerID op }

end WorldlandBroker.Registration
