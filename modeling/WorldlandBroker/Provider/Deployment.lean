import WorldlandBroker.Provider.Balance
import WorldlandBroker.Provider.Requests

/-!
# Deploying mining again and again

What one call of `DeployMiningForProvider` does to the pools, and over any number
of calls when it only takes what is free.  The fallbacks put the reported total
in place of a pool that is missing or empty, rented or not, and the mining count
is assigned where the available one is reduced.
-/

namespace WorldlandBroker.Provider

open Foundation ProviderCapacity

variable {spec : SystemSpec} {c c' : ProviderCapacity} {gpuType : String}
  {config : MiningConfig} {deployed outcome : Outcome}

/-! ## What the call offers -/

/-- The available count of the type; where there is no pool, what fills it. -/
def recordedCount (spec : SystemSpec) (c : ProviderCapacity) (gpuType : String) : ℤ :=
  if c.availableGPUs ≠ none then c.available gpuType
  else if c.totalGPUs ≠ none then c.total gpuType
  else if gpuType ≠ "" then spec.totalGPUs
  else 0

/-- The same with the reported total in place of a zero or of an unnamed type. -/
def offeredCount (spec : SystemSpec) (c : ProviderCapacity) (gpuType : String) : ℤ :=
  if (gpuType = "" ∨ recordedCount spec c gpuType = 0) ∧ 0 < spec.totalGPUs then
    spec.totalGPUs
  else recordedCount spec c gpuType

structure Granted (spec : SystemSpec) (c : ProviderCapacity) (config : MiningConfig)
    (gpuType : String) (deployed : Outcome) : Prop where
  deployed : deployed = .ok ()
  typed : gpuType ≠ "" ∨ 0 < spec.totalGPUs
  enough : config.gpuCount ≤ offeredCount spec c gpuType

private theorem deployPools_self (spec : SystemSpec) (c : ProviderCapacity) (gpuType : String) :
    (deployPools spec c gpuType).available gpuType = recordedCount spec c gpuType := by
  unfold deployPools recordedCount
  cases havailable : c.availableGPUs with
  | some pool => simp [ProviderCapacity.available, havailable]
  | none =>
      cases htotals : c.totalGPUs with
      | some totals => simp [ProviderCapacity.available, ProviderCapacity.total, htotals]
      | none =>
          by_cases hname : gpuType = ""
          · simp [ProviderCapacity.available, hname, NilMap.count, CountMap.count]
          · simp [ProviderCapacity.available, hname, NilMap.count_put]

private theorem deployPools_other (spec : SystemSpec) (c : ProviderCapacity) {gpuType t : String}
    (ht : t ≠ gpuType) :
    (deployPools spec c gpuType).available t =
      if c.availableGPUs ≠ none then c.available t else c.total t := by
  unfold deployPools
  cases havailable : c.availableGPUs with
  | some pool => simp [ProviderCapacity.available, havailable]
  | none =>
      cases htotals : c.totalGPUs with
      | some totals => simp [ProviderCapacity.available, ProviderCapacity.total, htotals]
      | none =>
          by_cases hname : gpuType = ""
          · simp [ProviderCapacity.available, ProviderCapacity.total, htotals, hname,
              NilMap.count, CountMap.count]
          · simp [ProviderCapacity.available, ProviderCapacity.total, htotals, hname, ht,
              NilMap.count_put]

theorem offered_self (spec : SystemSpec) (c : ProviderCapacity) (gpuType : String) :
    (deployAvailable spec (deployPools spec c gpuType) gpuType).2.available gpuType =
      offeredCount spec c gpuType := by
  rw [deployAvailable_pool, deployPools_self, offeredCount]
  refine if_congr ?_ rfl rfl
  by_cases hname : gpuType = ""
  · simp [hname]
  · simp [hname]

theorem offered_other (spec : SystemSpec) (c : ProviderCapacity) {gpuType t : String}
    (ht : t ≠ gpuType) :
    (deployAvailable spec (deployPools spec c gpuType) gpuType).2.available t =
      if c.availableGPUs ≠ none then c.available t else c.total t := by
  rw [deployAvailable_pool, if_neg fun h => ht h.1, deployPools_other spec c ht]

private theorem deploys_iff_granted {first : Option String} (hcount : 1 ≤ config.gpuCount) :
    Deploys spec c config first deployed ↔
      Granted spec c config (deployGPUType spec first) deployed := by
  unfold Deploys
  generalize deployGPUType spec first = gpuType
  have hchecked : (deployAvailable spec (deployPools spec c gpuType) gpuType).1 =
      if gpuType ≠ "" ∨ 0 < spec.totalGPUs then offeredCount spec c gpuType else 0 := by
    simp only [deployAvailable, deployPools_self, offeredCount]
    by_cases hname : gpuType = ""
    · by_cases hpositive : 0 < spec.totalGPUs
      · simp [hname, hpositive]
      · simp [hname, hpositive]
    · by_cases hzero : recordedCount spec c gpuType = 0 ∧ 0 < spec.totalGPUs
      · simp [hname, hzero]
      · simp [hname, hzero]
  change config.gpuCount ≤ (deployAvailable _ _ _).1 ∧ _ ↔ _
  rw [hchecked]
  constructor
  · rintro ⟨henough, hdeployed⟩
    by_cases htyped : gpuType ≠ "" ∨ 0 < spec.totalGPUs
    · rw [if_pos htyped] at henough
      exact ⟨hdeployed, htyped, henough⟩
    · rw [if_neg htyped] at henough
      omega
  · rintro ⟨hdeployed, htyped, henough⟩
    rw [if_pos htyped]
    exact ⟨henough, hdeployed⟩

/-! ## What the call leaves -/

structure DeployEffect (spec : SystemSpec) (c c' : ProviderCapacity) (gpuType : String)
    (mined moved : ℤ) : Prop where
  available : c'.available gpuType = offeredCount spec c gpuType - moved
  mining : c'.mining gpuType = mined
  other : ∀ t ≠ gpuType,
    c'.available t = if c.availableGPUs ≠ none then c.available t else c.total t
  otherMining : ∀ t ≠ gpuType, c'.mining t = c.mining t
  inUse : c'.inUseGPUs = c.inUseGPUs
  totals : c'.totalGPUs = c.totalGPUs

theorem offered_effect (spec : SystemSpec) (c : ProviderCapacity) (gpuType : String) :
    DeployEffect spec c (deployAvailable spec (deployPools spec c gpuType) gpuType).2 gpuType
      (c.mining gpuType) 0 := by
  have hmining := (deployAvailable_deployPools_mining spec c gpuType).gpus
  have hkept : (deployAvailable spec (deployPools spec c gpuType) gpuType).2.inUseGPUs =
        c.inUseGPUs ∧
      (deployAvailable spec (deployPools spec c gpuType) gpuType).2.totalGPUs =
        c.totalGPUs := by
    simp only [deployAvailable]
    split_ifs <;> exact ⟨rfl, rfl⟩
  constructor
  · rw [offered_self, sub_zero]
  · rw [ProviderCapacity.mining, hmining]
    rfl
  · exact fun t ht => offered_other spec c ht
  · intro t ht
    rw [ProviderCapacity.mining, hmining]
    rfl
  · exact hkept.1
  · exact hkept.2

private theorem deployMining_effect {providerID : String} {first : Option String}
    (htype : deployGPUType spec first = gpuType) (hcount : 1 ≤ config.gpuCount)
    (hresult : deployMiningForProvider providerID spec c config first deployed =
      (outcome, c')) :
    (Granted spec c config gpuType deployed ∧ outcome = .ok () ∧
        DeployEffect spec c c' gpuType config.gpuCount config.gpuCount) ∨
      (¬ Granted spec c config gpuType deployed ∧ (∃ message, outcome = .error message) ∧
        DeployEffect spec c c' gpuType (c.mining gpuType) 0) := by
  have hoffered := offered_effect spec c gpuType
  have hdeploys : Deploys spec c config first deployed ↔
      Granted spec c config (deployGPUType spec first) deployed := deploys_iff_granted hcount
  rw [htype] at hdeploys
  rw [← hdeploys]
  simp only [deployMiningForProvider, Deploys, htype] at hresult ⊢
  split at hresult
  · rename_i hshort
    cases hresult
    exact .inr ⟨fun h => absurd h.1 (not_le.mpr hshort), ⟨_, rfl⟩, hoffered⟩
  · rename_i henough
    cases deployed with
    | error message =>
        cases hresult
        exact .inr ⟨(fun h => nomatch h.2), ⟨_, rfl⟩, hoffered⟩
    | ok =>
        cases hresult
        refine .inl ⟨⟨not_lt.mp henough, rfl⟩, rfl, ?_⟩
        constructor
        · have havailable := hoffered.available
          simp only [ProviderCapacity.available, NilMap.count_add, if_true] at havailable ⊢
          rw [havailable]
          omega
        · simp only [ProviderCapacity.mining, NilMap.count_put, if_true]
        · intro t ht
          rw [← hoffered.other t ht]
          simp only [ProviderCapacity.available, NilMap.count_add, if_neg ht, add_zero]
        · intro t ht
          rw [← hoffered.otherMining t ht]
          simp only [ProviderCapacity.mining, NilMap.count_put, if_neg ht]
        · exact hoffered.inUse
        · exact hoffered.totals

/-! ## When the pools are the provider's own -/

/-- What the header promises of one call: mining takes what is free. -/
structure SafeDeployment (c : ProviderCapacity) (config : MiningConfig) (gpuType : String)
    (outcome : Outcome) (c' : ProviderCapacity) : Prop where
  free : outcome = .ok () → config.gpuCount ≤ c.available gpuType + c.mining gpuType
  balanced : Balanced c'
  inUse : ∀ t, c'.inUse t = c.inUse t
  refused : outcome ≠ .ok () → ∀ t,
    c'.total t = c.total t ∧ c'.available t = c.available t ∧ c'.mining t = c.mining t

/--
The pool the call offers is the recorded one: no other type is filled from the
totals, and the type's own count is what is free of rentals, with the mining
GPUs that a call that goes through deploys anew.
-/
structure SoundDeployment (spec : SystemSpec) (c : ProviderCapacity) (config : MiningConfig)
    (gpuType : String) (deployed : Outcome) : Prop where
  others : c.availableGPUs = none → ∀ t ≠ gpuType, c.total t = 0
  granted : Granted spec c config gpuType deployed →
    offeredCount spec c gpuType = c.available gpuType + c.mining gpuType
  refused : ¬ Granted spec c config gpuType deployed →
    offeredCount spec c gpuType = c.available gpuType

theorem others_kept_iff (gpuType : String) :
    (∀ t ≠ gpuType,
        (if c.availableGPUs ≠ none then c.available t else c.total t) = c.available t) ↔
      (c.availableGPUs = none → ∀ t ≠ gpuType, c.total t = 0) := by
  cases havailable : c.availableGPUs with
  | some pool => simp
  | none => simp [ProviderCapacity.available, havailable]

theorem Balanced.of_counts (h : Balanced c) (hkept : ∀ t, c'.total t = c.total t ∧
      c'.available t = c.available t ∧ c'.mining t = c.mining t)
    (hinUse : ∀ t, c'.inUse t = c.inUse t) : Balanced c' := by
  refine ⟨fun t => ?_, fun t => ?_, fun t => ?_, fun t => ?_⟩
  · rw [(hkept t).1, (hkept t).2.1, hinUse, (hkept t).2.2]
    exact h.equation t
  · rw [(hkept t).2.1]
    exact h.available_nonneg t
  · rw [hinUse]
    exact h.inUse_nonneg t
  · rw [(hkept t).2.2]
    exact h.mining_nonneg t

theorem DeployEffect.inUse_eq {mined deployedCount : ℤ}
    (heffect : DeployEffect spec c c' gpuType mined deployedCount) (t : String) :
    c'.inUse t = c.inUse t := by
  simp only [ProviderCapacity.inUse, heffect.inUse]

private theorem safe_iff_of_granted (h : Balanced c) (hcount : 1 ≤ config.gpuCount)
    (hgranted : Granted spec c config gpuType deployed)
    (heffect : DeployEffect spec c c' gpuType config.gpuCount config.gpuCount) :
    SafeDeployment c config gpuType (.ok ()) c' ↔
      SoundDeployment spec c config gpuType deployed := by
  have hbefore := h.equation gpuType
  have hinUse := heffect.inUse_eq
  constructor
  · intro hsafe
    refine ⟨(others_kept_iff gpuType).mp fun t ht => ?_, fun _ => ?_,
      fun hrefused => absurd hgranted hrefused⟩
    · have hequation := hsafe.balanced.equation t
      rw [total_eq_of heffect.totals, h.equation, hinUse, heffect.other t ht,
        heffect.otherMining t ht] at hequation
      omega
    · have hequation := hsafe.balanced.equation gpuType
      rw [total_eq_of heffect.totals, h.equation, hinUse, heffect.available,
        heffect.mining] at hequation
      omega
  · intro hsound
    have hothers := (others_kept_iff gpuType).mpr hsound.others
    have hoffered := hsound.granted hgranted
    have henough := hgranted.enough
    refine ⟨fun _ => hoffered ▸ henough, ?_, hinUse, fun herror => absurd rfl herror⟩
    refine ⟨fun t => ?_, fun t => ?_, fun t => hinUse t ▸ h.inUse_nonneg t, fun t => ?_⟩
    · rw [total_eq_of heffect.totals, h.equation, hinUse]
      by_cases ht : t = gpuType
      · rw [ht, heffect.available, heffect.mining]
        omega
      · rw [heffect.other t ht, heffect.otherMining t ht, hothers t ht]
    · by_cases ht : t = gpuType
      · rw [ht, heffect.available]
        omega
      · rw [heffect.other t ht, hothers t ht]
        exact h.available_nonneg t
    · by_cases ht : t = gpuType
      · rw [ht, heffect.mining]
        omega
      · rw [heffect.otherMining t ht]
        exact h.mining_nonneg t

private theorem safe_iff_of_refused (h : Balanced c)
    (hrefused : ¬ Granted spec c config gpuType deployed) (herror : outcome ≠ .ok ())
    (heffect : DeployEffect spec c c' gpuType (c.mining gpuType) 0) :
    SafeDeployment c config gpuType outcome c' ↔
      SoundDeployment spec c config gpuType deployed := by
  constructor
  · intro hsafe
    refine ⟨(others_kept_iff gpuType).mp fun t ht => ?_,
      fun hgranted => absurd hgranted hrefused, fun _ => ?_⟩
    · rw [← heffect.other t ht]
      exact (hsafe.refused herror t).2.1
    · have hkept := (hsafe.refused herror gpuType).2.1
      rw [heffect.available] at hkept
      omega
  · intro hsound
    have hothers := (others_kept_iff gpuType).mpr hsound.others
    have hoffered := hsound.refused hrefused
    have hkept : ∀ t, c'.total t = c.total t ∧ c'.available t = c.available t ∧
        c'.mining t = c.mining t := by
      intro t
      refine ⟨total_eq_of heffect.totals t, ?_, ?_⟩
      · by_cases ht : t = gpuType
        · rw [ht, heffect.available, hoffered, sub_zero]
        · rw [heffect.other t ht, hothers t ht]
      · by_cases ht : t = gpuType
        · rw [ht, heffect.mining]
        · rw [heffect.otherMining t ht]
    exact ⟨fun hok => absurd hok herror, h.of_counts hkept heffect.inUse_eq,
      heffect.inUse_eq, fun _ => hkept⟩

private theorem safe_iff_sound {providerID : String} {first : Option String} (h : Balanced c)
    (htype : deployGPUType spec first = gpuType) (hcount : 1 ≤ config.gpuCount)
    (hresult : deployMiningForProvider providerID spec c config first deployed =
      (outcome, c')) :
    SafeDeployment c config gpuType outcome c' ↔
      SoundDeployment spec c config gpuType deployed := by
  rcases deployMining_effect htype hcount hresult with
    ⟨hgranted, houtcome, heffect⟩ | ⟨hrefused, ⟨message, houtcome⟩, heffect⟩
  · rw [houtcome]
    exact safe_iff_of_granted h hcount hgranted heffect
  · exact safe_iff_of_refused h hrefused (by simp [houtcome]) heffect

/-! ## Repeated calls -/

structure DeployCall where
  config : MiningConfig
  first : Option String
  deployed : Outcome

def deployStep (providerID : String) (spec : SystemSpec) (c : ProviderCapacity)
    (call : DeployCall) : Option ProviderCapacity :=
  some (deployMiningForProvider providerID spec c call.config call.first call.deployed).2

/-- At least one GPU is asked for, and the map iteration yields a type there is. -/
def properCall : Guard ProviderCapacity DeployCall := fun _ c call =>
  1 ≤ call.config.gpuCount ∧ FirstKey c.totalGPUs call.first

def answer (providerID : String) (spec : SystemSpec)
    (r : Transition ProviderCapacity DeployCall) : Outcome :=
  (deployMiningForProvider providerID spec r.pre r.act.config r.act.first r.act.deployed).1

section Runs

variable {providerID : String} {past : List (Transition ProviderCapacity DeployCall)}
  {c₀ : ProviderCapacity}

theorem call_safe_iff {r : Transition ProviderCapacity DeployCall} (h : Balanced r.pre)
    (hcount : 1 ≤ r.act.config.gpuCount)
    (hstep : deployStep providerID spec r.pre r.act = some r.post) :
    SafeDeployment r.pre r.act.config (deployGPUType spec r.act.first)
        (answer providerID spec r) r.post ↔
      SoundDeployment spec r.pre r.act.config (deployGPUType spec r.act.first)
        r.act.deployed := by
  apply safe_iff_sound h rfl hcount
  rw [answer, ← Option.some.inj hstep]

/--
From a balanced ledger, every call of a run is safe exactly when the pool it
offers is the recorded one.
-/
theorem deployments_safe_iff (hrun : Run (deployStep providerID spec) properCall c₀ past c)
    (h₀ : Balanced c₀) :
    (∀ r ∈ past, SafeDeployment r.pre r.act.config (deployGPUType spec r.act.first)
        (answer providerID spec r) r.post) ↔
      ∀ r ∈ past, SoundDeployment spec r.pre r.act.config (deployGPUType spec r.act.first)
        r.act.deployed := by
  have hbalanced : ∀ {past c}, Run (deployStep providerID spec) properCall c₀ past c →
      (∀ r ∈ past, SafeDeployment r.pre r.act.config (deployGPUType spec r.act.first)
        (answer providerID spec r) r.post) → Balanced c := by
    intro past c hrun hsafe
    cases hrun with
    | nil => exact h₀
    | @snoc past s _ call => exact (hsafe ⟨s, call, c⟩ (by simp)).balanced
  induction hrun with
  | nil => simp
  | @snoc past s s' call hrun hguard hstep ih =>
      have hlast : Balanced s → (SafeDeployment _ _ _ _ _ ↔ SoundDeployment _ _ _ _ _) :=
        fun h => call_safe_iff (r := ⟨s, call, s'⟩) h hguard.1 hstep
      simp only [List.mem_append, List.mem_singleton, or_imp, forall_and, forall_eq]
      constructor
      · rintro ⟨hsafe, hnext⟩
        exact ⟨ih.mp hsafe, (hlast (hbalanced hrun hsafe)).mp hnext⟩
      · rintro ⟨hsound, hnext⟩
        have hsafe := ih.mpr hsound
        exact ⟨hsafe, (hlast (hbalanced hrun hsafe)).mpr hnext⟩

end Runs

/-! ## Eight GPUs, free and rented -/

def sampleDeploy (gpuCount : ℤ) : DeployCall :=
  ⟨⟨gpuCount, 4, 8192⟩, some "RTX 4090", .ok ()⟩

private theorem sampleCapacity_balanced : Balanced sampleCapacity := by
  apply Registered.balanced
  refine ⟨fun t => rfl, fun t => NilMap.count_none t, fun t => NilMap.count_none t, fun t => ?_⟩
  rw [ProviderCapacity.total, sampleCapacity, NilMap.count_put, NilMap.count_none]
  split <;> decide

/-- Two of eight free GPUs are deployed; asking for nine more is refused. -/
theorem deployments_safe_free :
    ∃ past c, Run (deployStep "p1" sampleSpec) properCall sampleCapacity past c ∧
      past.map (fun r => (answer "p1" sampleSpec r).isOk) = [true, false] ∧
      ∀ r ∈ past, SafeDeployment r.pre r.act.config
        (deployGPUType sampleSpec r.act.first) (answer "p1" sampleSpec r) r.post := by
  have hfirst := (Run.nil : Run (deployStep "p1" sampleSpec) properCall sampleCapacity [] _).take
    (sampleDeploy 2) ⟨by decide, List.mem_singleton_self _⟩ rfl
  have hsecond := hfirst.take (sampleDeploy 9) ⟨by decide, List.mem_singleton_self _⟩ rfl
  refine ⟨_, _, hsecond, by decide, (deployments_safe_iff hsecond sampleCapacity_balanced).mpr ?_⟩
  intro r hr
  simp only [List.nil_append, List.cons_append, List.mem_cons, List.not_mem_nil,
    or_false] at hr
  rcases hr with rfl | rfl
  · exact ⟨(fun h => nomatch h), fun _ => by decide, fun _ => by decide⟩
  · refine ⟨(fun h => nomatch h), fun hgranted => ?_, fun _ => by decide⟩
    have henough := hgranted.enough
    revert henough
    decide

def rentedCapacity : ProviderCapacity :=
  { sampleCapacity with
    inUseGPUs := NilMap.put none "RTX 4090" 8
    availableGPUs := NilMap.put none "RTX 4090" 0 }

private theorem rentedCapacity_balanced : Balanced rentedCapacity := by
  have hcount : ∀ (n : ℤ) (t : String), (NilMap.put none "RTX 4090" n).count t =
      if t = "RTX 4090" then n else 0 := fun n t => by
    rw [NilMap.count_put, NilMap.count_none]
  constructor
  · intro t
    simp only [ProviderCapacity.total, ProviderCapacity.available, ProviderCapacity.inUse,
      ProviderCapacity.mining, rentedCapacity, sampleCapacity, hcount, NilMap.count_none]
    split <;> decide
  · intro t
    simp only [ProviderCapacity.available, rentedCapacity, hcount]
    split <;> decide
  · intro t
    simp only [ProviderCapacity.inUse, rentedCapacity, hcount]
    split <;> decide
  · intro t
    exact (NilMap.count_none t).ge

/-- Every GPU is rented, and four are deployed for mining all the same. -/
theorem rented_gpus_deployed :
    ∃ past c, Run (deployStep "p1" sampleSpec) properCall rentedCapacity past c ∧
      Balanced rentedCapacity ∧ rentedCapacity.available "RTX 4090" = 0 ∧
      rentedCapacity.inUse "RTX 4090" = rentedCapacity.total "RTX 4090" ∧
      ∃ r ∈ past, answer "p1" sampleSpec r = .ok () ∧
        ¬ SafeDeployment r.pre r.act.config (deployGPUType sampleSpec r.act.first)
          (answer "p1" sampleSpec r) r.post := by
  have hrun := (Run.nil : Run (deployStep "p1" sampleSpec) properCall rentedCapacity [] _).take
    (sampleDeploy 4) ⟨by decide, List.mem_singleton_self _⟩ rfl
  refine ⟨_, _, hrun, rentedCapacity_balanced, by decide, by decide, _,
    List.mem_singleton_self _, by decide, fun hsafe => ?_⟩
  have hfree := hsafe.free (by decide)
  revert hfree
  decide

end WorldlandBroker.Provider
