import WorldlandBroker.Foundation.Run
import WorldlandBroker.Job.Canonical
import WorldlandBroker.Job.Fence
import WorldlandBroker.Provider.Mining

/-!
# The pod that a resize recreates

Mining is deployed from a whole configuration, of which the ledger keeps the CPU
and memory share.  A change of the GPU count recreates the pod, and the new pod
is built from what the ledger has kept and the builder's defaults.
-/

namespace WorldlandBroker.Mining.Resize

open Foundation Provider Job

structure FullConfig extends MiningConfig where
  image : String
  extraArgs : List String
  publicIP : String
  deriving DecidableEq

/-! ## The pod -/

structure ResourceList (K : QuantityAPI) where
  cpu : K.Quantity
  memory : K.Quantity
  gpus : Option K.Quantity

structure ContainerPort where
  name : String
  containerPort : ℤ
  protocol : String
  deriving DecidableEq

structure Toleration where
  key : String
  operator : String
  effect : String
  deriving DecidableEq

structure PodSpec (K : QuantityAPI) where
  name : String
  podNamespace : String
  labels : List (String × String)
  restartPolicy : String
  hostNetwork : Bool
  containerName : String
  image : String
  limits : ResourceList K
  requests : ResourceList K
  args : List String
  ports : List ContainerPort
  mountPath : String
  hostPath : String
  tolerations : List Toleration
  nodeSelector : List (String × String)

def miningNamespace : String := "worldland-mining"

def defaultImage : String := "mingeyom/worldland-mio:latest"

def resolveImage (image : String) : String := if image = "" then defaultImage else image

def baseArgs : List String :=
  ["--mio", "--datadir", "/worldland/data", "--syncmode", "full", "--http",
    "--http.addr", "0.0.0.0", "--http.api", "eth,net,web3,personal,admin,miner",
    "--http.corsdomain", "*"]

def natArgs (publicIP : String) : List String :=
  if publicIP ≠ "" then ["--nat", s!"extip:{publicIP}"] else []

def nodeArgs (config : FullConfig) : List String :=
  baseArgs ++ natArgs config.publicIP ++ config.extraArgs

def nodeSelector (nodeName : String) : List (String × String) :=
  if nodeName ≠ "" then [("kubernetes.io/hostname", nodeName)] else []

def mebibyteText (n : ℤ) : String := decimal n ++ "Mi"

variable {K : QuantityAPI}

/-- The quantities of `MustParse`; none where it panics. -/
def resourceList (K : QuantityAPI) (cpuCores memoryMB gpuCount : ℤ) :
    Option (ResourceList K) := do
  let cpu ← K.parse (decimal cpuCores)
  let memory ← K.parse (mebibyteText memoryMB)
  if 0 < gpuCount then
    let gpuQuantity ← K.parse (decimal gpuCount)
    return ⟨cpu, memory, some gpuQuantity⟩
  else return ⟨cpu, memory, none⟩

def miningPod (providerID : String) (config : FullConfig) (nodeName : String)
    (limits requests : ResourceList K) : PodSpec K where
  name := s!"mining-{providerID}"
  podNamespace := miningNamespace
  labels := [("app", "worldland-mining"), ("provider-id", providerID),
    ("worldland.io/mining", "true")]
  restartPolicy := "Always"
  hostNetwork := true
  containerName := "worldland-node"
  image := resolveImage config.image
  limits := limits
  requests := requests
  args := nodeArgs config
  ports := [⟨"p2p-tcp", 30303, "TCP"⟩, ⟨"p2p-udp", 30303, "UDP"⟩, ⟨"http-rpc", 8545, "TCP"⟩,
    ⟨"ws-rpc", 8546, "TCP"⟩]
  mountPath := "/worldland/data"
  hostPath := s!"/data/worldland/{providerID}"
  tolerations := [⟨"nvidia.com/gpu", "Exists", "NoSchedule"⟩]
  nodeSelector := nodeSelector nodeName

def buildMiningPod (K : QuantityAPI) (providerID : String) (config : FullConfig)
    (nodeName : String) : Option (PodSpec K) := do
  let limits ← resourceList K config.cpuCores config.memoryMB config.gpuCount
  let requests ← resourceList K (config.cpuCores.tdiv 2 + 1) (config.memoryMB.tdiv 2)
    config.gpuCount
  return miningPod providerID config nodeName limits requests

def ResourceList.withoutGPUs (r : ResourceList K) : ResourceList K := { r with gpus := none }

def PodSpec.withoutGPUs (pod : PodSpec K) : PodSpec K :=
  { pod with limits := pod.limits.withoutGPUs, requests := pod.requests.withoutGPUs }

/-! ## Deploying and updating -/

/-- A pod that exists already counts as success and stays as it is. -/
def deployMiningPod (K : QuantityAPI) (providerID : String) (pod : Option (PodSpec K))
    (config : FullConfig) (nodeName : String) (created : Reply) :
    Option (Outcome × Option (PodSpec K)) :=
  (buildMiningPod K providerID config nodeName).map fun built =>
    match created with
    | .done => (.ok (), some (pod.getD built))
    | .failed => (.error "failed to create mining pod", pod)
    | .lost => (.error "failed to create mining pod", some (pod.getD built))

/-- A pod that does not exist counts as deleted. -/
def updateMiningPodGPU (K : QuantityAPI) (providerID : String) (pod : Option (PodSpec K))
    (config : FullConfig) (nodeName : String) (deleted created : Reply) :
    Option (Outcome × Option (PodSpec K)) :=
  match deleted with
  | .failed => some (.error "failed to delete existing mining pod", pod)
  | .lost => some (.error "failed to delete existing mining pod", none)
  | .done =>
      (buildMiningPod K providerID config nodeName).map fun built =>
        match created with
        | .done => (.ok (), some built)
        | .failed => (.error "failed to create updated mining pod", none)
        | .lost => (.error "failed to create updated mining pod", some built)

/-! ## One provider -/

structure Deployment where
  config : FullConfig
  nodeName : String

/--
An update that a resize has started, and the deployment that it resizes.  It holds on
to the provider's record of that time: `replaced` is the node name that the record was
left with when another one took its place.
-/
structure PodUpdate where
  config : FullConfig
  resized : Option Deployment
  replaced : Option String

/-- A heartbeat writes the node name into the current record only. -/
def PodUpdate.nodeName (update : PodUpdate) (current : String) : String :=
  update.replaced.getD current

def PodUpdate.outlive (update : PodUpdate) (current : String) : PodUpdate :=
  { update with replaced := some (update.nodeName current) }

/-- `deployed` is the last deployment that succeeded; the program does not keep it. -/
structure State (K : QuantityAPI) where
  nodeName : String
  spec : SystemSpec
  capacity : ProviderCapacity
  pod : Option (PodSpec K)
  deployed : Option Deployment
  updates : List PodUpdate

inductive Action where
  | deployMiningForProvider (config : FullConfig) (first : Option String) (created : Reply)
  | allocateMiningGPU (gpuType : String) (count : ℤ)
  | releaseMiningGPU (gpuType : String) (count : ℤ)
  | updateMiningPodGPU (u : ℕ) (deleted created : Reply)
  | stopMiningForProvider (deleted : Outcome)
  | syncMiningPodStates (reported : Except String String)
  | allocateResources (a : ResourceAllocation)
  | releaseJobResources (gpuType : String) (gpuCount cpuCores memoryMB : ℤ)
  | handleHeartbeat (nodeName : String)
  | register (nodeName : String) (spec : SystemSpec) (capacity : ProviderCapacity)

/-- The configuration of a resize: what the ledger has kept. -/
def resizedConfig (c : ProviderCapacity) : FullConfig where
  gpuCount := c.miningGPUCount
  cpuCores := c.miningCPUCores
  memoryMB := c.miningMemoryMB
  image := ""
  extraArgs := []
  publicIP := ""

def startUpdate (s : State K) (result : Outcome × ProviderCapacity) : State K :=
  { s with
    capacity := result.2
    updates :=
      match result.1 with
      | .error _ => s.updates
      | .ok _ => s.updates ++ [⟨resizedConfig result.2, s.deployed, none⟩] }

/-- A step of a provider; a panic of `MustParse` ends the program. -/
def step (K : QuantityAPI) (providerID : String) (s : State K) : Action → Option (State K)
  | .deployMiningForProvider config first created =>
      let deploy := Provider.deployMiningForProvider providerID s.spec s.capacity
        config.toMiningConfig first
      -- the cluster is only called once the GPUs are known to suffice
      match deploy (.ok ()) with
      | (.error _, capacity) => some { s with capacity := capacity }
      | (.ok _, _) =>
          (deployMiningPod K providerID s.pod config s.nodeName created).map fun answer =>
            match deploy answer.1 with
            | (.error _, capacity) => { s with capacity := capacity, pod := answer.2 }
            | (.ok _, capacity) =>
                { s with
                  capacity := capacity
                  pod := answer.2
                  deployed := some ⟨config, s.nodeName⟩ }
  | .allocateMiningGPU gpuType count =>
      some (startUpdate s (Provider.allocateMiningGPU s.capacity gpuType count))
  | .releaseMiningGPU gpuType count =>
      some (startUpdate s (Provider.releaseMiningGPU s.capacity gpuType count))
  | .updateMiningPodGPU u deleted created =>
      -- the node name is read when the update runs, from the record of the resize
      match s.updates[u]? with
      | none => none
      | some update =>
          (updateMiningPodGPU K providerID s.pod update.config (update.nodeName s.nodeName)
            deleted created).map fun updated =>
              { s with pod := updated.2, updates := s.updates.eraseIdx u }
  | .stopMiningForProvider deleted =>
      let result := Provider.stopMiningForProvider s.capacity deleted
      some { s with
        capacity := result.2
        pod := match result.1 with
          | .error _ => s.pod
          | .ok _ => none }
  | .syncMiningPodStates reported =>
      some { s with capacity := syncMiningPodState s.capacity reported }
  | .allocateResources a =>
      some { s with capacity := (Provider.allocateResources s.spec s.capacity a).2 }
  | .releaseJobResources gpuType gpuCount cpuCores memoryMB =>
      some { s with
        capacity := Provider.releaseJobResources s.spec s.capacity gpuType gpuCount cpuCores
          memoryMB }
  | .handleHeartbeat nodeName => some { s with nodeName := nodeName }
  -- a new record, from a registration or from the database, has no mining share
  | .register nodeName spec capacity =>
      if capacity.miningCPUCores = 0 ∧ capacity.miningMemoryMB = 0 then
        some {
          s with
          nodeName := nodeName
          spec := spec
          capacity := capacity
          updates := s.updates.map fun update => update.outlive s.nodeName }
      else none

/-! ## The share in the ledger -/

def SharedBy (config : FullConfig) (cpuCores memoryMB : ℤ) : Prop :=
  cpuCores = config.cpuCores ∧ memoryMB = config.memoryMB ∨ cpuCores = 0 ∧ memoryMB = 0

def SameShare (c c' : ProviderCapacity) : Prop :=
  c'.miningCPUCores = c.miningCPUCores ∧ c'.miningMemoryMB = c.miningMemoryMB

def KeepsShare (c c' : ProviderCapacity) : Prop :=
  SameShare c c' ∨ c'.miningCPUCores = 0 ∧ c'.miningMemoryMB = 0

variable {c c' : ProviderCapacity} {config : FullConfig} {providerID : String}

theorem SharedBy.keep (h : SharedBy config c.miningCPUCores c.miningMemoryMB)
    (hkeeps : KeepsShare c c') : SharedBy config c'.miningCPUCores c'.miningMemoryMB := by
  rcases hkeeps with ⟨hcpu, hmemory⟩ | hcleared
  · rw [hcpu, hmemory]
    exact h
  · exact .inr hcleared

theorem allocateMiningGPU_share (c : ProviderCapacity) (gpuType : String) (count : ℤ) :
    KeepsShare c (Provider.allocateMiningGPU c gpuType count).2 := by
  unfold Provider.allocateMiningGPU
  simp only []
  split
  · exact .inl ⟨rfl, rfl⟩
  · exact .inl ⟨rfl, rfl⟩

theorem releaseMiningGPU_share (c : ProviderCapacity) (gpuType : String) (count : ℤ) :
    KeepsShare c (Provider.releaseMiningGPU c gpuType count).2 := by
  unfold Provider.releaseMiningGPU
  simp only []
  split
  · exact .inl ⟨rfl, rfl⟩
  · split
    · exact .inl ⟨rfl, rfl⟩
    · exact .inl ⟨rfl, rfl⟩

theorem stopMining_share (c : ProviderCapacity) (deleted : Outcome) :
    KeepsShare c (Provider.stopMiningForProvider c deleted).2 := by
  cases deleted with
  | error message => exact .inl ⟨rfl, rfl⟩
  | ok => exact .inr ⟨rfl, rfl⟩

theorem syncMining_share (c : ProviderCapacity) (reported : Except String String) :
    KeepsShare c (syncMiningPodState c reported) := by
  unfold syncMiningPodState
  split
  · exact .inl ⟨rfl, rfl⟩
  · cases reported with
    | error message => exact .inl ⟨rfl, rfl⟩
    | ok status =>
        simp only []
        split
        · exact .inr ⟨rfl, rfl⟩
        · exact .inl ⟨rfl, rfl⟩

theorem debitGPUs_share (c : ProviderCapacity) (gpuType : String) (n : ℤ) :
    SameShare c (c.debitGPUs gpuType n) := by
  unfold ProviderCapacity.debitGPUs
  split <;> exact ⟨rfl, rfl⟩

theorem debitCPU_share (spec : SystemSpec) (c : ProviderCapacity) (n : ℤ) :
    SameShare c (c.debitCPU spec n) := by
  unfold ProviderCapacity.debitCPU
  split <;> exact ⟨rfl, rfl⟩

theorem debitMemory_share (spec : SystemSpec) (c : ProviderCapacity) (n : ℤ) :
    SameShare c (c.debitMemory spec n) := by
  unfold ProviderCapacity.debitMemory
  split <;> exact ⟨rfl, rfl⟩

theorem SameShare.trans {c₁ c₂ c₃ : ProviderCapacity} (h : SameShare c₁ c₂)
    (h' : SameShare c₂ c₃) : SameShare c₁ c₃ :=
  ⟨h'.1.trans h.1, h'.2.trans h.2⟩

theorem allocateResources_share (spec : SystemSpec) (c : ProviderCapacity)
    (a : ResourceAllocation) : SameShare c (Provider.allocateResources spec c a).2 := by
  have hgpus : SameShare c ((c.initPools spec (resolveGPUType spec a.gpuType)).debitGPUs
      (resolveGPUType spec a.gpuType) a.gpuCount) := debitGPUs_share _ _ _
  have hcpu := hgpus.trans (debitCPU_share spec _ a.cpuCores)
  have hallocation := allocateResources_allocation spec c a
  generalize Provider.allocateResources spec c a = r at hallocation ⊢
  cases hallocation with
  | shortOfGPUs => exact ⟨rfl, rfl⟩
  | shortOfCPU => exact hgpus
  | shortOfMemory => exact hcpu
  | granted => exact hcpu.trans (debitMemory_share spec _ a.memoryMB)

theorem deployAvailable_share (spec : SystemSpec) (c : ProviderCapacity) (gpuType : String) :
    SameShare c (deployAvailable spec (deployPools spec c gpuType) gpuType).2 := by
  simp only [deployAvailable]
  split_ifs <;> exact ⟨rfl, rfl⟩

theorem deployMining_refused {spec : SystemSpec} {first : Option String} {created : Outcome}
    {message : String} (h : Provider.deployMiningForProvider providerID spec c
      config.toMiningConfig first created = (.error message, c')) : SameShare c c' := by
  have hsame := deployAvailable_share spec c (deployGPUType spec first)
  unfold Provider.deployMiningForProvider at h
  simp only [] at h
  split at h
  · cases h
    exact hsame
  · cases created with
    | error message =>
        cases h
        exact hsame
    | ok => cases h

theorem deployMining_accepted {spec : SystemSpec} {first : Option String} {created : Outcome}
    (h : Provider.deployMiningForProvider providerID spec c config.toMiningConfig first
      created = (.ok (), c')) :
    c'.miningCPUCores = config.cpuCores ∧ c'.miningMemoryMB = config.memoryMB := by
  unfold Provider.deployMiningForProvider at h
  simp only [] at h
  split at h
  · cases h
  · cases created with
    | error message => cases h
    | ok =>
        cases h
        exact ⟨rfl, rfl⟩

/-! ## What a run keeps -/

structure Defaulted (update : PodUpdate) : Prop where
  image : update.config.image = ""
  extraArgs : update.config.extraArgs = []
  publicIP : update.config.publicIP = ""
  share : ∀ d ∈ update.resized, SharedBy d.config update.config.cpuCores update.config.memoryMB

structure Resizes (s : State K) : Prop where
  share : ∀ d ∈ s.deployed, SharedBy d.config s.capacity.miningCPUCores
    s.capacity.miningMemoryMB
  updates : ∀ update ∈ s.updates, Defaulted update

variable {s s' : State K} {a : Action}

theorem Resizes.keep (h : Resizes s) {c : ProviderCapacity} (hkeeps : KeepsShare s.capacity c)
    (nodeName : String) (spec : SystemSpec) (pod : Option (PodSpec K)) :
    Resizes { s with nodeName := nodeName, spec := spec, capacity := c, pod := pod } :=
  ⟨fun d hd => (h.share d hd).keep hkeeps, h.updates⟩

theorem Resizes.startUpdate (h : Resizes s) {result : Outcome × ProviderCapacity}
    (hkeeps : KeepsShare s.capacity result.2) : Resizes (startUpdate s result) := by
  have hshare : ∀ d ∈ s.deployed, SharedBy d.config result.2.miningCPUCores
      result.2.miningMemoryMB := fun d hd => (h.share d hd).keep hkeeps
  obtain ⟨outcome, c'⟩ := result
  refine ⟨hshare, ?_⟩
  cases outcome with
  | error message => exact h.updates
  | ok =>
      intro update hupdate
      rcases List.mem_append.mp hupdate with hupdate | hupdate
      · exact h.updates update hupdate
      · rw [List.mem_singleton.mp hupdate]
        exact ⟨rfl, rfl, rfl, hshare⟩

theorem Resizes.step (h : Resizes s) (hstep : step K providerID s a = some s') :
    Resizes s' := by
  cases a with
  | deployMiningForProvider config first created =>
      simp only [Resize.step] at hstep
      split at hstep
      · rename_i message capacity hrefused
        obtain rfl := Option.some.inj hstep
        exact h.keep (.inl (deployMining_refused hrefused)) _ _ _
      · obtain ⟨answer, -, rfl⟩ := Option.map_eq_some_iff.mp hstep
        split
        · rename_i message capacity hfailed
          exact h.keep (.inl (deployMining_refused hfailed)) _ _ _
        · rename_i done capacity hdone
          refine ⟨fun d hd => ?_, h.updates⟩
          cases hd
          exact .inl (deployMining_accepted hdone)
  | allocateMiningGPU gpuType count =>
      obtain rfl := Option.some.inj hstep
      exact h.startUpdate (allocateMiningGPU_share s.capacity gpuType count)
  | releaseMiningGPU gpuType count =>
      obtain rfl := Option.some.inj hstep
      exact h.startUpdate (releaseMiningGPU_share s.capacity gpuType count)
  | updateMiningPodGPU u deleted created =>
      simp only [Resize.step] at hstep
      split at hstep
      · contradiction
      · obtain ⟨updated, -, rfl⟩ := Option.map_eq_some_iff.mp hstep
        exact ⟨h.share, fun update hupdate => h.updates update (List.mem_of_mem_eraseIdx hupdate)⟩
  | stopMiningForProvider deleted =>
      obtain rfl := Option.some.inj hstep
      exact h.keep (stopMining_share s.capacity deleted) _ _ _
  | syncMiningPodStates reported =>
      obtain rfl := Option.some.inj hstep
      exact h.keep (syncMining_share s.capacity reported) _ _ _
  | allocateResources a =>
      obtain rfl := Option.some.inj hstep
      exact h.keep (.inl (allocateResources_share s.spec s.capacity a)) _ _ _
  | releaseJobResources gpuType gpuCount cpuCores memoryMB =>
      obtain rfl := Option.some.inj hstep
      have hsame : SameShare s.capacity (Provider.releaseJobResources s.spec s.capacity gpuType
        gpuCount cpuCores memoryMB) := ⟨rfl, rfl⟩
      exact h.keep (.inl hsame) _ _ _
  | handleHeartbeat nodeName =>
      obtain rfl := Option.some.inj hstep
      exact h.keep (.inl ⟨rfl, rfl⟩) _ _ _
  | register nodeName spec capacity =>
      simp only [Resize.step] at hstep
      split at hstep
      · rename_i hcleared
        obtain rfl := Option.some.inj hstep
        obtain ⟨hshare, hupdates⟩ := h.keep (.inr hcleared) nodeName spec s.pod
        refine ⟨hshare, fun update hupdate => ?_⟩
        obtain ⟨before, hbefore, rfl⟩ := List.mem_map.mp hupdate
        obtain ⟨himage, hextra, hnat, hkept⟩ := hupdates before hbefore
        exact ⟨himage, hextra, hnat, hkept⟩
      · contradiction

theorem resizes_run {nodeName : String} {spec : SystemSpec} {capacity : ProviderCapacity}
    {pod : Option (PodSpec K)} {past : List (Transition (State K) Action)}
    (hrun : Run (step K providerID) anyStep ⟨nodeName, spec, capacity, pod, none, []⟩ past s) :
    Resizes s :=
  hrun.always ⟨by simp, by simp⟩ fun _ _ _ _ h _ hstep => h.step hstep

/-! ## The quantities of a pod -/

theorem parse_decimal (hK : K.Documented) (n : ℤ) :
    ∃ q, K.parse (decimal n) = some q ∧ (K.isZero q = true ↔ n = 0) := by
  obtain ⟨q, hparse, -, hzero⟩ := hK.readable _ _ (readNumeral_decimal n)
  refine ⟨q, hparse, hzero.trans ?_⟩
  simp [Numeral.num, Suffix.up]

theorem parse_mebibyteText (hK : K.Documented) (n : ℤ) :
    ∃ q, K.parse (mebibyteText n) = some q ∧ (K.isZero q = true ↔ n = 0) := by
  have hunit : "Mi".toList = ['M', 'i'] := rfl
  have hread := readNumeral_decimal_append n hunit (by decide) (by decide) rfl
  obtain ⟨q, hparse, -, hzero⟩ := hK.readable _ _ hread
  refine ⟨q, hparse, hzero.trans ?_⟩
  simp [Numeral.num, Suffix.up]

theorem resourceList_some (hK : K.Documented) (cpuCores memoryMB gpuCount : ℤ) :
    ∃ r, resourceList K cpuCores memoryMB gpuCount = some r ∧
      K.parse (decimal cpuCores) = some r.cpu ∧
      K.parse (mebibyteText memoryMB) = some r.memory := by
  obtain ⟨cpu, hcpu, -⟩ := parse_decimal hK cpuCores
  obtain ⟨memory, hmemory, -⟩ := parse_mebibyteText hK memoryMB
  obtain ⟨gpus, hgpus, -⟩ := parse_decimal hK gpuCount
  by_cases hasked : 0 < gpuCount
  · exact ⟨⟨cpu, memory, some gpus⟩, by simp [resourceList, hcpu, hmemory, hgpus, hasked],
      hcpu, hmemory⟩
  · exact ⟨⟨cpu, memory, none⟩, by simp [resourceList, hcpu, hmemory, hasked], hcpu, hmemory⟩

theorem buildMiningPod_some (hK : K.Documented) (providerID : String) (config : FullConfig)
    (nodeName : String) :
    ∃ limits requests, buildMiningPod K providerID config nodeName =
        some (miningPod providerID config nodeName limits requests) ∧
      K.parse (decimal config.cpuCores) = some limits.cpu ∧
      K.parse (mebibyteText config.memoryMB) = some limits.memory ∧
      K.parse (decimal (config.cpuCores.tdiv 2 + 1)) = some requests.cpu ∧
      K.parse (mebibyteText (config.memoryMB.tdiv 2)) = some requests.memory := by
  obtain ⟨limits, hlimits, hcpu, hmemory⟩ :=
    resourceList_some hK config.cpuCores config.memoryMB config.gpuCount
  obtain ⟨requests, hrequests, hcpu', hmemory'⟩ :=
    resourceList_some hK (config.cpuCores.tdiv 2 + 1) (config.memoryMB.tdiv 2) config.gpuCount
  exact ⟨limits, requests, by simp [buildMiningPod, hlimits, hrequests], hcpu, hmemory, hcpu',
    hmemory'⟩

/-! ## When two pods are the same -/

theorem resolveImage_default_iff (image : String) :
    resolveImage "" = resolveImage image ↔ image = "" ∨ image = defaultImage := by
  have hempty : resolveImage "" = defaultImage := if_pos rfl
  rw [hempty]
  unfold resolveImage
  by_cases himage : image = ""
  · simp [himage]
  · rw [if_neg himage]
    exact ⟨fun heq => .inr heq.symm, fun heq => (heq.resolve_left himage).symm⟩

theorem natArgs_eq_nil (publicIP : String) : natArgs publicIP = [] ↔ publicIP = "" := by
  unfold natArgs
  split
  · rename_i hset
    simp [hset]
  · rename_i hunset
    simpa using hunset

theorem nodeArgs_base_iff (config : FullConfig) :
    baseArgs = nodeArgs config ↔ config.publicIP = "" ∧ config.extraArgs = [] := by
  rw [nodeArgs, List.append_assoc]
  constructor
  · intro hsame
    have hrest : natArgs config.publicIP ++ config.extraArgs = [] :=
      List.self_eq_append_right.mp hsame
    obtain ⟨hnat, hextra⟩ := List.append_eq_nil_iff.mp hrest
    exact ⟨(natArgs_eq_nil _).mp hnat, hextra⟩
  · rintro ⟨hnat, hextra⟩
    rw [(natArgs_eq_nil _).mpr hnat, hextra, List.append_nil, List.append_nil]

theorem nodeSelector_inj {nodeName nodeName' : String} :
    nodeSelector nodeName = nodeSelector nodeName' ↔ nodeName = nodeName' := by
  constructor
  · intro hsame
    unfold nodeSelector at hsame
    split_ifs at hsame <;> simp_all
  · rintro rfl
    rfl

theorem miningPod_withoutGPUs_iff {config config' : FullConfig} {nodeName nodeName' : String}
    {limits requests limits' requests' : ResourceList K} :
    (miningPod providerID config nodeName limits requests).withoutGPUs =
        (miningPod providerID config' nodeName' limits' requests').withoutGPUs ↔
      resolveImage config.image = resolveImage config'.image ∧
        nodeArgs config = nodeArgs config' ∧ nodeSelector nodeName = nodeSelector nodeName' ∧
        limits.withoutGPUs = limits'.withoutGPUs ∧
        requests.withoutGPUs = requests'.withoutGPUs := by
  simp only [miningPod, PodSpec.withoutGPUs, PodSpec.mk.injEq]
  tauto

theorem withoutGPUs_iff {r r' : ResourceList K} :
    r.withoutGPUs = r'.withoutGPUs ↔ r.cpu = r'.cpu ∧ r.memory = r'.memory := by
  simp [ResourceList.withoutGPUs]

/--
The deployment had nothing but defaults beside its share, the ledger still had
that share at the resize, and the update is sent to the node of the deployment.
-/
structure ResizeKeeps (nodeName : String) (update : PodUpdate) (d : Deployment) : Prop where
  image : d.config.image = "" ∨ d.config.image = defaultImage
  publicIP : d.config.publicIP = ""
  extraArgs : d.config.extraArgs = []
  cpuCores : update.config.cpuCores = d.config.cpuCores
  memoryMB : update.config.memoryMB = d.config.memoryMB
  nodeName : nodeName = d.nodeName

theorem Defaulted.nodeArgs {update : PodUpdate} (h : Defaulted update) :
    nodeArgs update.config = baseArgs := by
  rw [Resize.nodeArgs, h.publicIP, h.extraArgs]
  rfl

theorem SharedBy.of_parse (hK : K.Documented) {cpuCores memoryMB : ℤ}
    (h : SharedBy config cpuCores memoryMB)
    (hcpu : K.parse (decimal cpuCores) = K.parse (decimal config.cpuCores))
    (hmemory : K.parse (mebibyteText memoryMB) = K.parse (mebibyteText config.memoryMB)) :
    cpuCores = config.cpuCores ∧ memoryMB = config.memoryMB := by
  rcases h with hkept | ⟨rfl, rfl⟩
  · exact hkept
  · obtain ⟨q, hq, hzero⟩ := parse_decimal hK 0
    obtain ⟨q', hq', hzero'⟩ := parse_decimal hK config.cpuCores
    rw [hq, hq', Option.some.injEq] at hcpu
    obtain ⟨m, hm, hnone⟩ := parse_mebibyteText hK 0
    obtain ⟨m', hm', hnone'⟩ := parse_mebibyteText hK config.memoryMB
    rw [hm, hm', Option.some.injEq] at hmemory
    rw [hcpu] at hzero
    rw [hmemory] at hnone
    exact ⟨(hzero'.mp (hzero.mpr rfl)).symm, (hnone'.mp (hnone.mpr rfl)).symm⟩

theorem rebuilt_same_iff (hK : K.Documented) (providerID nodeName : String)
    {update : PodUpdate} (hdefault : Defaulted update) {d : Deployment}
    (hd : d ∈ update.resized) :
    ∃ rebuilt original,
      buildMiningPod K providerID update.config nodeName = some rebuilt ∧
      buildMiningPod K providerID d.config d.nodeName = some original ∧
      (rebuilt.withoutGPUs = original.withoutGPUs ↔ ResizeKeeps nodeName update d) := by
  obtain ⟨limits, requests, hrebuilt, hcpu, hmemory, hhalf, hhalfMemory⟩ :=
    buildMiningPod_some hK providerID update.config nodeName
  obtain ⟨limits', requests', horiginal, hcpu', hmemory', hhalf', hhalfMemory'⟩ :=
    buildMiningPod_some hK providerID d.config d.nodeName
  refine ⟨_, _, hrebuilt, horiginal, ?_⟩
  rw [miningPod_withoutGPUs_iff, hdefault.image, resolveImage_default_iff, hdefault.nodeArgs,
    nodeArgs_base_iff, nodeSelector_inj, withoutGPUs_iff, withoutGPUs_iff]
  constructor
  · rintro ⟨himage, ⟨hnat, hextra⟩, hnode, ⟨hlimit, hlimitMemory⟩, -⟩
    obtain ⟨hcores, hmegabytes⟩ := (hdefault.share d hd).of_parse hK
      (by rw [hcpu, hcpu', hlimit]) (by rw [hmemory, hmemory', hlimitMemory])
    exact ⟨himage, hnat, hextra, hcores, hmegabytes, hnode⟩
  · intro hkeeps
    rw [hkeeps.cpuCores] at hcpu hhalf
    rw [hkeeps.memoryMB] at hmemory hhalfMemory
    refine ⟨hkeeps.image, ⟨hkeeps.publicIP, hkeeps.extraArgs⟩, hkeeps.nodeName, ⟨?_, ?_⟩, ?_, ?_⟩
    · exact Option.some.inj (hcpu.symm.trans hcpu')
    · exact Option.some.inj (hmemory.symm.trans hmemory')
    · exact Option.some.inj (hhalf.symm.trans hhalf')
    · exact Option.some.inj (hhalfMemory.symm.trans hhalfMemory')

/--
In every run, each update that a resize has started and that recreates the pod leaves
the pod of the deployment with another GPU quantity exactly when nothing of that
deployment has been lost.
-/
theorem resized_pod_iff (hK : K.Documented) {nodeName : String} {spec : SystemSpec}
    {capacity : ProviderCapacity} {pod : Option (PodSpec K)}
    {past : List (Transition (State K) Action)}
    (hrun : Run (step K providerID) anyStep ⟨nodeName, spec, capacity, pod, none, []⟩ past s) :
    ∀ r ∈ past, ∀ u created update d, r.act = .updateMiningPodGPU u .done created →
      created ≠ .failed → r.pre.updates[u]? = some update → update.resized = some d →
      ∃ rebuilt original, r.post.pod = some rebuilt ∧
        buildMiningPod K providerID d.config d.nodeName = some original ∧
        (rebuilt.withoutGPUs = original.withoutGPUs ↔
          ResizeKeeps (update.nodeName r.pre.nodeName) update d) := by
  intro r hr u created update d hact hcreated hupdate hd
  obtain ⟨before, after, hsplit⟩ := List.append_of_mem hr
  obtain ⟨hbefore, -, hstep⟩ := hrun.of_split hsplit
  have hmem : update ∈ r.pre.updates := List.mem_of_getElem? hupdate
  obtain ⟨rebuilt, original, hrebuilt, horiginal, hsame⟩ := rebuilt_same_iff hK providerID
    (update.nodeName r.pre.nodeName) ((resizes_run hbefore).updates update hmem) hd
  refine ⟨rebuilt, original, ?_, horiginal, hsame⟩
  simp only [hact, step, hupdate, updateMiningPodGPU, hrebuilt, Option.map_some,
    Option.some.injEq] at hstep
  rw [← hstep]
  cases created with
  | done | lost => rfl
  | failed => contradiction

/-! ## Two deployments that are resized -/

def sampleStart : State writtenQuantities :=
  ⟨"node-1", sampleSpec, sampleCapacity, none, none, []⟩

def natConfig (publicIP : String) : FullConfig := ⟨⟨1, 2, 4096⟩, "", [], publicIP⟩

/-- Nothing but defaults has been deployed, and the resized pod is the same but for its GPUs. -/
theorem resized_pod_defaults :
    ∃ past s r rebuilt original,
      Run (step writtenQuantities "p1") anyStep sampleStart past s ∧ r ∈ past ∧
      r.act = .updateMiningPodGPU 0 .done .done ∧ r.post.pod = some rebuilt ∧
      buildMiningPod writtenQuantities "p1" (natConfig "") "node-1" = some original ∧
      rebuilt.withoutGPUs = original.withoutGPUs := by
  have hdeployed := (Run.nil : Run (step writtenQuantities "p1") anyStep sampleStart [] _).take
    (.deployMiningForProvider (natConfig "") (some "RTX 4090") .done) trivial rfl
  have hallocated := hdeployed.take (.allocateMiningGPU "RTX 4090" 1) trivial rfl
  have hupdated := hallocated.take (.updateMiningPodGPU 0 .done .done) trivial rfl
  obtain ⟨rebuilt, original, hpod, horiginal, hsame⟩ :=
    resized_pod_iff writtenQuantities_documented hupdated _
      (List.mem_append_right _ (List.mem_singleton_self _)) 0 .done _ ⟨natConfig "", "node-1"⟩
      rfl (by decide) rfl rfl
  exact ⟨_, _, _, rebuilt, original, hupdated,
    List.mem_append_right _ (List.mem_singleton_self _), rfl, hpod, horiginal,
    hsame.mpr ⟨.inl rfl, rfl, rfl, rfl, rfl, rfl⟩⟩

/-- The resized pod has lost its public address. -/
theorem nat_setting_lost :
    ∃ past s r rebuilt original,
      Run (step writtenQuantities "p1") anyStep sampleStart past s ∧ r ∈ past ∧
      r.act = .updateMiningPodGPU 0 .done .done ∧ r.post.pod = some rebuilt ∧
      (∃ update, r.pre.updates[0]? = some update ∧
        update.resized = some ⟨natConfig "203.0.113.7", "node-1"⟩) ∧
      buildMiningPod writtenQuantities "p1" (natConfig "203.0.113.7") "node-1" = some original ∧
      "--nat" ∈ original.args ∧ "--nat" ∉ rebuilt.args ∧
      rebuilt.withoutGPUs ≠ original.withoutGPUs := by
  have hdeployed := (Run.nil : Run (step writtenQuantities "p1") anyStep sampleStart [] _).take
    (.deployMiningForProvider (natConfig "203.0.113.7") (some "RTX 4090") .done) trivial rfl
  have hallocated := hdeployed.take (.allocateMiningGPU "RTX 4090" 1) trivial rfl
  have hupdated := hallocated.take (.updateMiningPodGPU 0 .done .done) trivial rfl
  refine ⟨_, _, _, _, _, hupdated, List.mem_append_right _ (List.mem_singleton_self _), rfl, rfl,
    ⟨_, rfl, rfl⟩, rfl, by decide, by decide, fun hsame => ?_⟩
  have hargs := congrArg PodSpec.args hsame
  exact absurd hargs (by decide)

end WorldlandBroker.Mining.Resize
