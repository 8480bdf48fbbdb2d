import WorldlandBroker.Registration.Accounting
import WorldlandBroker.Sdk.Capacity

/-!
# Mining GPUs are held back twice

The host takes the mining GPUs out of the available pool of every type, and the
deployment takes them out of one type again.  The books balance only where the
host has left nothing of a single type, so that the deployment falls back to the
hardware total.
-/

namespace WorldlandBroker.Sdk

open Foundation Provider Registration ProviderCapacity

variable {config : Config} {spec : SystemSpec}

structure EntersBalanced (config : Config) (c : ProviderCapacity) : Prop where
  equation : ∀ t, c.available t + c.mining t + c.inUse t = c.total t
  mining : c.miningGPUCount = config.miningGPUCount

/-- One model, counted as the hardware total says, of which the host leaves none. -/
def NoneLeft (config : Config) (spec : SystemSpec) : Prop :=
  ∃ name, spec.gpus ≠ [] ∧ (∀ gpu ∈ spec.gpus, gpu.name = name) ∧
    spec.totalGPUs = spec.gpus.length ∧
    (name = "" ∨ (spec.gpus.length : ℤ) ≤ config.miningGPUCount)

/-! ## The pool a deployment finds -/

private theorem registered_pools_allocated {gpu : GPUInfo} (hgpu : gpu ∈ spec.gpus) :
    (overJSON (prepareCapacity config spec)).totalGPUs = some (gpuTypes spec) ∧
      (overJSON (prepareCapacity config spec)).availableGPUs =
        some ((gpuTypes spec).mapCounts (withoutMiningReserve config)) := by
  have hmem : gpu.name ∈ gpuTypes spec :=
    (CountMap.mem_tally _ _).mpr (List.mem_map_of_mem hgpu)
  have hmem' := (CountMap.mem_mapCounts (withoutMiningReserve config) _ _).mpr hmem
  exact ⟨NilMap.omitEmpty_of_mem hmem, NilMap.omitEmpty_of_mem hmem'⟩

private theorem deployPools_registered {first : Option String}
    (hfirst : FirstKey (overJSON (prepareCapacity config spec)).totalGPUs first) (t : String) :
    (deployPools spec (overJSON (prepareCapacity config spec))
      (deployGPUType spec first)).available t =
      (overJSON (prepareCapacity config spec)).available t := by
  cases hgpus : spec.gpus with
  | cons gpu gpus =>
      have hgpu : gpu ∈ spec.gpus := by
        rw [hgpus]
        exact List.mem_cons_self
      have hpool : (overJSON (prepareCapacity config spec)).availableGPUs =
          some ((gpuTypes spec).mapCounts (withoutMiningReserve config)) :=
        (registered_pools_allocated hgpu).2
      simp only [deployPools, ProviderCapacity.available, hpool]
  | nil =>
      have hempty : gpuTypes spec = ∅ := by
        rw [gpuTypes, hgpus]
        rfl
      have htotals : (overJSON (prepareCapacity config spec)).totalGPUs = none := by
        simp only [overJSON, prepareCapacity, hempty]
        rfl
      have hpool : (overJSON (prepareCapacity config spec)).availableGPUs = none := by
        simp only [overJSON, prepareCapacity, hempty]
        rfl
      have hnone : first = none := by
        cases first with
        | none => rfl
        | some k =>
            rw [htotals] at hfirst
            cases hfirst
      have htype : deployGPUType spec first = "" := by
        rw [hnone, deployGPUType, hgpus]
        rfl
      simp only [deployPools, ProviderCapacity.available, htype, hpool, htotals]
      rfl

private theorem deployGPUType_of_single {name : String} {first : Option String}
    (hfirst : FirstKey (overJSON (prepareCapacity config spec)).totalGPUs first)
    (hgpus : spec.gpus ≠ []) (hsingle : ∀ gpu ∈ spec.gpus, gpu.name = name) :
    deployGPUType spec first = name := by
  obtain ⟨gpu, rest, hcons⟩ := List.exists_cons_of_ne_nil hgpus
  have hgpu : gpu ∈ spec.gpus := by
    rw [hcons]
    exact List.mem_cons_self
  rw [(registered_pools_allocated hgpu).1] at hfirst
  cases first with
  | none =>
      have hmem : gpu.name ∈ gpuTypes spec :=
        (CountMap.mem_tally _ _).mpr (List.mem_map_of_mem hgpu)
      have hnil : (gpuTypes spec).keys = [] := hfirst
      rw [AList.mem_keys, hnil] at hmem
      cases hmem
  | some k =>
      have hk : k ∈ spec.gpus.map GPUInfo.name := (CountMap.mem_tally _ _).mp hfirst
      obtain ⟨found, hfound, hname⟩ := List.mem_map.mp hk
      have hkname : k = name := hname ▸ hsingle found hfound
      unfold deployGPUType
      by_cases hk : k = ""
      · simp only [Option.getD_some, hk, if_true, hcons]
        exact hsingle gpu hgpu
      · simp only [Option.getD_some, if_neg hk]
        exact hkname

/-! ## The pools after a deployment -/

def FallsBack (config : Config) (spec : SystemSpec) (gpuType : String) : Prop :=
  (gpuType = "" ∨ withoutMiningReserve config (gpusNamed spec gpuType) = 0) ∧
    0 < spec.totalGPUs

instance (config : Config) (spec : SystemSpec) (gpuType : String) :
    Decidable (FallsBack config spec gpuType) :=
  inferInstanceAs (Decidable (_ ∧ _))

def offered (config : Config) (spec : SystemSpec) (gpuType : String) : ℤ :=
  if FallsBack config spec gpuType then spec.totalGPUs
  else withoutMiningReserve config (gpusNamed spec gpuType)

structure Deployed (config : Config) (spec : SystemSpec) (gpuType : String)
    (c : ProviderCapacity) : Prop where
  enough : config.miningGPUCount ≤ offered config spec gpuType
  available_self : c.available gpuType = offered config spec gpuType - config.miningGPUCount
  available_other : ∀ t, t ≠ gpuType →
    c.available t = withoutMiningReserve config (gpusNamed spec t)
  mining : ∀ t, c.mining t = if t = gpuType then config.miningGPUCount else 0
  inUse : ∀ t, c.inUse t = 0
  total : ∀ t, c.total t = gpusNamed spec t
  miningCount : c.miningGPUCount = config.miningGPUCount

private theorem deployed {providerID : String} {first : Option String} {outcome : Outcome}
    (hcount : 1 ≤ config.miningGPUCount)
    (hfirst : FirstKey (overJSON (prepareCapacity config spec)).totalGPUs first)
    (hok : (deployMiningForProvider providerID spec (overJSON (prepareCapacity config spec))
      (miningConfig config) first outcome).1 = .ok ()) :
    Deployed config spec (deployGPUType spec first)
      (deployMiningForProvider providerID spec (overJSON (prepareCapacity config spec))
        (miningConfig config) first outcome).2 := by
  obtain ⟨henough, havailable, hinUse, htotals⟩ := deployMining_granted hok
  have hmining := (deployMining_ok hok).2
  generalize (deployMiningForProvider providerID spec (overJSON (prepareCapacity config spec))
    (miningConfig config) first outcome).2 = c' at havailable hinUse htotals hmining ⊢
  have hpool := deployPools_registered hfirst
  generalize deployGPUType spec first = gpuType at henough havailable hmining hpool ⊢
  have hleft : ∀ t, (deployPools spec (overJSON (prepareCapacity config spec))
      gpuType).available t = withoutMiningReserve config (gpusNamed spec t) := by
    intro t
    rw [hpool t]
    exact (registered_pools config spec t).2
  have hfallback : FallsBack config spec gpuType ↔
      (if gpuType ≠ "" then withoutMiningReserve config (gpusNamed spec gpuType) else 0) = 0 ∧
        0 < spec.totalGPUs := by
    unfold FallsBack
    by_cases hname : gpuType = "" <;> simp [hname]
  refine ⟨?_, ?_, ?_, ?_, ?_, ?_, ?_⟩
  · simp only [deployAvailable, hleft, ← hfallback, miningConfig] at henough
    unfold offered
    split
    · rename_i hfalls
      simpa [hfalls] using henough
    · rename_i hfalls
      simp only [hfalls, if_false] at henough
      split at henough <;> omega
  · have hself := havailable gpuType
    rw [deployAvailable_pool, hleft] at hself
    simp only [true_and, ← hfallback, if_true] at hself
    exact hself
  · intro t ht
    have hother := havailable t
    rw [deployAvailable_pool, hleft, hleft] at hother
    simpa [ht] using hother
  · intro t
    simp only [ProviderCapacity.mining, hmining, NilMap.count_put]
    rfl
  · intro t
    simp only [ProviderCapacity.inUse, hinUse]
    rfl
  · intro t
    rw [← (registered_pools config spec t).1]
    simp only [ProviderCapacity.total, htotals]
  · simp only [ProviderCapacity.miningGPUCount, hmining, NilMap.total_put]
    exact zero_add _

theorem withoutMiningReserve_eq_self_iff (hmining : config.enableMining = true)
    (hcount : 1 ≤ config.miningGPUCount) {n : ℤ} (hn : 0 ≤ n) :
    withoutMiningReserve config n = n ↔ n = 0 := by
  rw [withoutMiningReserve_of_mining hmining hcount hn]
  omega

theorem withoutMiningReserve_eq_zero_iff (hmining : config.enableMining = true)
    (hcount : 1 ≤ config.miningGPUCount) {n : ℤ} (hn : 0 ≤ n) :
    withoutMiningReserve config n = 0 ↔ n ≤ config.miningGPUCount := by
  rw [withoutMiningReserve_of_mining hmining hcount hn]
  omega

variable {gpuType : String} {c : ProviderCapacity}

theorem Deployed.balanced_iff (h : Deployed config spec gpuType c)
    (hmining : config.enableMining = true) (hcount : 1 ≤ config.miningGPUCount) :
    EntersBalanced config c ↔
      (∀ t, t ≠ gpuType → gpusNamed spec t = 0) ∧ FallsBack config spec gpuType ∧
        spec.totalGPUs = gpusNamed spec gpuType := by
  have henough := h.enough
  have hself := h.available_self
  unfold offered at henough hself
  constructor
  · intro hbalanced
    have hother : ∀ t, t ≠ gpuType → gpusNamed spec t = 0 := by
      intro t ht
      have hequation := hbalanced.equation t
      rw [h.available_other t ht, h.mining, h.inUse, h.total, if_neg ht, add_zero,
        add_zero] at hequation
      exact (withoutMiningReserve_eq_self_iff hmining hcount (gpusNamed_nonneg spec t)).mp
        hequation
    have hequation := hbalanced.equation gpuType
    rw [hself, h.mining, h.inUse, h.total, if_pos rfl] at hequation
    refine ⟨hother, ?_⟩
    by_cases hfalls : FallsBack config spec gpuType
    · rw [if_pos hfalls] at hequation
      exact ⟨hfalls, by omega⟩
    · -- the host has left some, and those it held back are missing
      rw [if_neg hfalls] at hequation henough
      have hnone := (withoutMiningReserve_eq_self_iff hmining hcount
        (gpusNamed_nonneg spec gpuType)).mp (by omega)
      rw [hnone, withoutMiningReserve_zero] at henough
      omega
  · rintro ⟨hother, hfalls, htotal⟩
    rw [if_pos hfalls] at hself
    refine ⟨?_, h.miningCount⟩
    intro t
    by_cases ht : t = gpuType
    · subst ht
      rw [hself, h.mining, h.inUse, h.total, if_pos rfl]
      omega
    · rw [h.available_other t ht, h.mining, h.inUse, h.total, if_neg ht, hother t ht,
        withoutMiningReserve_zero]
      rfl

theorem noneLeft_iff {first : Option String}
    (hfirst : FirstKey (overJSON (prepareCapacity config spec)).totalGPUs first)
    (hmining : config.enableMining = true) (hcount : 1 ≤ config.miningGPUCount) :
    NoneLeft config spec ↔
      (∀ t, t ≠ deployGPUType spec first → gpusNamed spec t = 0) ∧
        FallsBack config spec (deployGPUType spec first) ∧
        spec.totalGPUs = gpusNamed spec (deployGPUType spec first) := by
  constructor
  · rintro ⟨name, hgpus, hsingle, htotal, hnone⟩
    rw [deployGPUType_of_single hfirst hgpus hsingle]
    have hnamed := gpusNamed_of_single hsingle
    have hlength : 0 < (spec.gpus.length : ℤ) :=
      Int.natCast_pos.mpr (List.length_pos_iff.mpr hgpus)
    refine ⟨?_, ⟨?_, by omega⟩, by omega⟩
    · intro t ht
      have habsent : t ∉ spec.gpus.map GPUInfo.name := by
        intro hmem
        obtain ⟨gpu, hgpu, rfl⟩ := List.mem_map.mp hmem
        exact ht (hsingle gpu hgpu)
      rw [gpusNamed, List.count_eq_zero_of_not_mem habsent]
      rfl
    · rw [withoutMiningReserve_eq_zero_iff hmining hcount (gpusNamed_nonneg spec name), hnamed]
      exact hnone
  · generalize deployGPUType spec first = gpuType
    rintro ⟨hother, ⟨hnone, hpositive⟩, htotal⟩
    have hsingle : ∀ gpu ∈ spec.gpus, gpu.name = gpuType := by
      intro gpu hgpu
      by_contra hname
      have hnamed := gpusNamed_pos hgpu
      rw [hother gpu.name hname] at hnamed
      omega
    have hnamed := gpusNamed_of_single hsingle
    rw [withoutMiningReserve_eq_zero_iff hmining hcount (gpusNamed_nonneg spec gpuType),
      hnamed] at hnone
    refine ⟨gpuType, ?_, hsingle, by omega, hnone⟩
    intro hnil
    rw [hnil, List.length_nil] at hnamed
    simp only [Nat.cast_zero] at hnamed
    omega

/-! ## From the request to the deployment -/

variable {o : Orchestrator} {s s₁ s₂ s' : State} {kubeadm : Option (List String)} {now : ℤ}

theorem startedMining_eq_some {req : RegistrationRequest} {response : RegistrationResponse}
    {config' : MiningConfig} (h : startedMining o req response = some config') :
    req.miningConfig = some config' := by
  unfold startedMining at h
  cases hreq : req.miningConfig with
  | none => simp [hreq] at h
  | some asked =>
      simp only [hreq] at h
      split at h
      · exact h
      · contradiction

/-- A request of a provider not joined is stored, and starts at most one deployment. -/
theorem registered {req : RegistrationRequest}
    (hunjoined : joinedNode (s.providers req.providerID) = none)
    (hreceive : step o s (.receive req) = some s₁)
    (hfinish : step o s₁ (.finish kubeadm now) = some s₂) :
    ∃ p, p.spec = req.spec ∧ p.capacity = req.capacity ∧
      s₂.providers req.providerID = some p ∧
      (s₂.deployments = s.deployments ∨ ∃ config', req.miningConfig = some config' ∧
        s₂.deployments = s.deployments ++ [⟨req.providerID, config', false⟩]) := by
  simp only [Registration.step] at hreceive
  split at hreceive
  · contradiction
  obtain rfl := Option.some.inj hreceive
  simp only [Registration.step, hunjoined] at hfinish
  obtain ⟨p, hstored, -, hspec, hcapacity⟩ :=
    handleRegistration_unjoined (o := o) (h := ⟨req, none⟩) rfl kubeadm now
  rw [hstored] at hfinish
  obtain rfl := Option.some.inj hfinish
  refine ⟨p, hspec, hcapacity, Function.update_self _ _ _, ?_⟩
  cases hstarted : startedMining o req (handleRegistration o ⟨req, none⟩ kubeadm now).1 with
  | none => exact .inl rfl
  | some config' => exact .inr ⟨config', startedMining_eq_some hstarted, rfl⟩

private theorem registered_then_deployed {first : Option String} {outcome : Outcome}
    {req : RegistrationRequest}
    (hunjoined : joinedNode (s.providers req.providerID) = none)
    (hreceive : step o s (.receive req) = some s₁)
    (hfinish : step o s₁ (.finish kubeadm now) = some s₂)
    (hdeploy : step o s₂ (.deploy s.deployments.length first outcome) = some s') :
    ∃ p p' config', s₂.providers req.providerID = some p ∧
      s'.providers req.providerID = some p' ∧ p.spec = req.spec ∧
      p.capacity = req.capacity ∧ req.miningConfig = some config' ∧
      p'.capacity = (deployMiningForProvider req.providerID p.spec p.capacity config' first
        outcome).2 := by
  obtain ⟨p, hspec, hcapacity, hp, hstarted⟩ := registered hunjoined hreceive hfinish
  rcases hstarted with hnone | ⟨config', hconfig, hone⟩
  · simp [Registration.step, hnone] at hdeploy
  · have hslot : s₂.deployments[s.deployments.length]? =
        some ⟨req.providerID, config', false⟩ := by
      rw [hone]
      exact List.getElem?_concat_length
    simp only [Registration.step, hslot, Bool.false_eq_true, if_false] at hdeploy
    obtain rfl := Option.some.inj hdeploy
    refine ⟨p, { p with capacity := _ }, config', hp, ?_, hspec, hcapacity, hconfig, rfl⟩
    simp only [runLedger, Function.update_self, hp, Option.map_some]
    rfl

/--
After the registration of a host that mines and the deployment it asked for, the
ledger equation holds, with the configured number of mining GPUs, exactly where
all GPUs are of one model, as many as the hardware total says, and the host had
left none of them.
-/
theorem registration_balanced_iff {providerID : String} {first : Option String}
    {outcome : Outcome} {stored : RegisteredProvider}
    (hmining : config.enableMining = true) (hcount : 1 ≤ config.miningGPUCount)
    (hunjoined : joinedNode (s.providers providerID) = none)
    (hreceive : step o s (.receive (registrationRequest config providerID spec)) = some s₁)
    (hfinish : step o s₁ (.finish kubeadm now) = some s₂)
    (hstored : s₂.providers providerID = some stored)
    (hfirst : FirstKey stored.capacity.totalGPUs first)
    (hok : (deployMiningForProvider providerID stored.spec stored.capacity
      (miningConfig config) first outcome).1 = .ok ())
    (hdeploy : step o s₂ (.deploy s.deployments.length first outcome) = some s') :
    ∃ p, s'.providers providerID = some p ∧
      (EntersBalanced config p.capacity ↔ NoneLeft config spec) := by
  obtain ⟨p, p', config', hp, hp', hspec, hcapacity, hconfig, hafter⟩ :=
    registered_then_deployed hunjoined hreceive hfinish hdeploy
  obtain rfl := Option.some.inj (hstored.symm.trans hp)
  have hsame : config' = miningConfig config := by
    simp only [registrationRequest] at hconfig
    split at hconfig
    · exact (Option.some.inj hconfig).symm
    · contradiction
  rw [hspec, hcapacity, hsame] at hafter
  rw [hspec, hcapacity] at hok
  rw [hcapacity] at hfirst
  have hdeployed := deployed hcount hfirst hok
  refine ⟨p', hp', ?_⟩
  rw [hafter, noneLeft_iff hfirst hmining hcount]
  exact hdeployed.balanced_iff hmining hcount

/-! ## A host with two GPUs -/

def sampleConfig (miningGPUCount : ℤ) : Config := ⟨"0xa11ce", true, miningGPUCount, 2, 4096⟩

def twoGPUs : SystemSpec := ⟨"node-1", 16, 65536, [⟨"RTX 4090"⟩, ⟨"RTX 4090"⟩], 2⟩

private theorem twoGPUs_firstKey (miningGPUCount : ℤ) :
    FirstKey (overJSON (prepareCapacity (sampleConfig miningGPUCount) twoGPUs)).totalGPUs
      (some "RTX 4090") := by
  change "RTX 4090" ∈ (gpuTypes twoGPUs).keys
  decide

/-- Mining is given both GPUs, and the host had left none. -/
theorem registration_balanced_both :
    ∃ run ∈ trace (step sampleOrchestrator) initial
        [.receive (registrationRequest (sampleConfig 2) "p1" twoGPUs), .finish none 60,
          .deploy 0 (some "RTX 4090") (.ok ())],
      ∃ p, run.2.providers "p1" = some p ∧ EntersBalanced (sampleConfig 2) p.capacity := by
  obtain ⟨p, hp, hiff⟩ := @registration_balanced_iff (sampleConfig 2) twoGPUs
    sampleOrchestrator initial _ _ _ none 60 "p1" (some "RTX 4090") (.ok ()) _ rfl (by decide)
    rfl rfl rfl rfl (twoGPUs_firstKey 2) (by decide +kernel) rfl
  have hnone : NoneLeft (sampleConfig 2) twoGPUs :=
    ⟨"RTX 4090", by decide, by decide, by decide, .inr (by decide)⟩
  exact ⟨_, rfl, p, hp, hiff.mpr hnone⟩

/-- Mining is given one of them: the other is not to be had any more. -/
theorem mining_reserved_twice :
    ¬ ∀ (config : Config) (spec : SystemSpec) (o : Orchestrator) (s s₁ s₂ s' : State)
        (providerID : String) (kubeadm : Option (List String)) (now : ℤ)
        (first : Option String) (outcome : Outcome) (stored : RegisteredProvider),
      config.enableMining = true → 1 ≤ config.miningGPUCount →
      joinedNode (s.providers providerID) = none →
      step o s (.receive (registrationRequest config providerID spec)) = some s₁ →
      step o s₁ (.finish kubeadm now) = some s₂ →
      s₂.providers providerID = some stored →
      FirstKey stored.capacity.totalGPUs first →
      (deployMiningForProvider providerID stored.spec stored.capacity
        (miningConfig config) first outcome).1 = .ok () →
      step o s₂ (.deploy s.deployments.length first outcome) = some s' →
        ∃ p, s'.providers providerID = some p ∧ EntersBalanced config p.capacity := by
  intro hclaim
  obtain ⟨p, hp, hbalanced⟩ := hclaim (sampleConfig 1) twoGPUs sampleOrchestrator initial
    _ _ _ "p1" none 60 (some "RTX 4090") (.ok ()) _ rfl (by decide) rfl rfl rfl rfl
    (twoGPUs_firstKey 1) (by decide +kernel) rfl
  have hequation := hbalanced.equation "RTX 4090"
  have hnumbers : p.capacity.available "RTX 4090" = 0 ∧ p.capacity.mining "RTX 4090" = 1 ∧
      p.capacity.inUse "RTX 4090" = 0 ∧ p.capacity.total "RTX 4090" = 2 := by
    obtain rfl := Option.some.inj hp
    decide +kernel
  omega

end WorldlandBroker.Sdk
