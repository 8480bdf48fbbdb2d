import WorldlandBroker.Provider.Mining

/-!
# The mining status on the wire

The control plane answers a status request with a map of values; the SDK decodes
the body into a structure of its own, in which a member that the body does not
have stays at its zero value.  The metrics, which nothing reads, are left out.
-/

namespace WorldlandBroker.Sdk

open Foundation Provider

inductive Json where
  | null
  | str (s : String)
  | num (n : ℤ)
  | obj (members : List (String × Json))

/-! ## The control plane's answer -/

def countsJson (m : NilMap String) : Json :=
  match m with
  | none => .null
  | some m => .obj (m.entries.map fun e => (e.1, .num e.2))

def miningStatusMembers (providerID podStatus : String) (c : ProviderCapacity) :
    List (String × Json) :=
  [ ("provider_id", .str providerID),
    ("mining_status", .str podStatus),
    ("mining_pod_name", .str c.miningPodName),
    ("mining_gpus", countsJson c.miningGPUs),
    ("mining_gpu_count", .num c.miningGPUCount),
    ("mining_cpu_cores", .num c.miningCPUCores),
    ("mining_memory_mb", .num c.miningMemoryMB),
    ("available_gpus", countsJson c.availableGPUs),
    ("available_gpu_count", .num c.availableGPUCount) ]

/-- `podStatus` is what the cluster has answered about the pod. -/
def getMiningStatus (providerID podStatus : String) (c : ProviderCapacity) : Json :=
  .obj (miningStatusMembers providerID podStatus c)

/-! ## The SDK's view of it -/

structure MiningResourcesStatus where
  gpuCount : ℤ
  cpuCores : ℤ
  memoryMB : ℤ
  deriving DecidableEq

structure MiningStatusResponse where
  providerID : String
  miningStatus : String
  miningPodName : String
  resources : MiningResourcesStatus
  walletAddress : String
  uptimeSeconds : ℤ
  deriving DecidableEq

def sameKey (key key' : String) : Bool :=
  key.toList.map Char.toLower == key'.toList.map Char.toLower

def member (members : List (String × Json)) (key : String) : Option Json :=
  (members.reverse.find? fun m => sameKey m.1 key).map Prod.snd

def decodeString : Option Json → Except String String
  | none | some .null => .ok ""
  | some (.str s) => .ok s
  | some (.num _) => .error "json: cannot unmarshal number into Go value of type string"
  | some (.obj _) => .error "json: cannot unmarshal object into Go value of type string"

def decodeInt : Option Json → Except String ℤ
  | none | some .null => .ok 0
  | some (.num n) => .ok n
  | some (.str _) => .error "json: cannot unmarshal string into Go value of type int"
  | some (.obj _) => .error "json: cannot unmarshal object into Go value of type int"

def decodeMembers : Option Json → Except String (List (String × Json))
  | none | some .null => .ok []
  | some (.obj members) => .ok members
  | some (.str _) => .error "json: cannot unmarshal string into Go value"
  | some (.num _) => .error "json: cannot unmarshal number into Go value"

def decodeResources (value : Option Json) : Except String MiningResourcesStatus := do
  let members ← decodeMembers value
  let gpuCount ← decodeInt (member members "gpu_count")
  let cpuCores ← decodeInt (member members "cpu_cores")
  let memoryMB ← decodeInt (member members "memory_mb")
  return ⟨gpuCount, cpuCores, memoryMB⟩

def decodeMiningStatus (body : Json) : Except String MiningStatusResponse := do
  let members ← decodeMembers (some body)
  let providerID ← decodeString (member members "provider_id")
  let miningStatus ← decodeString (member members "mining_status")
  let miningPodName ← decodeString (member members "mining_pod_name")
  let resources ← decodeResources (member members "resources")
  let walletAddress ← decodeString (member members "wallet_address")
  let uptimeSeconds ← decodeInt (member members "uptime_seconds")
  return ⟨providerID, miningStatus, miningPodName, resources, walletAddress, uptimeSeconds⟩

/-! ## What comes through -/

/-- Names and the pod's status come through; the resources are never found. -/
theorem decodeMiningStatus_getMiningStatus (providerID podStatus : String)
    (c : ProviderCapacity) :
    decodeMiningStatus (getMiningStatus providerID podStatus c) =
      .ok ⟨providerID, podStatus, c.miningPodName, ⟨0, 0, 0⟩, "", 0⟩ := by
  have hprovider : member (miningStatusMembers providerID podStatus c) "provider_id" =
      some (.str providerID) := by
    simp [member, miningStatusMembers, sameKey]
  have hstatus : member (miningStatusMembers providerID podStatus c) "mining_status" =
      some (.str podStatus) := by
    simp [member, miningStatusMembers, sameKey]
  have hpod : member (miningStatusMembers providerID podStatus c) "mining_pod_name" =
      some (.str c.miningPodName) := by
    simp [member, miningStatusMembers, sameKey]
  have habsent : ∀ key ∈ ["resources", "wallet_address", "uptime_seconds"],
      member (miningStatusMembers providerID podStatus c) key = none := by
    simp [member, miningStatusMembers, sameKey]
  have hresources := habsent "resources" (by simp)
  have hwallet := habsent "wallet_address" (by simp)
  have huptime := habsent "uptime_seconds" (by simp)
  simp only [decodeMiningStatus, getMiningStatus, decodeMembers, bind, Except.bind, hprovider,
    hstatus, hpod, hresources, hwallet, huptime, decodeString, decodeInt]
  rfl

end WorldlandBroker.Sdk
