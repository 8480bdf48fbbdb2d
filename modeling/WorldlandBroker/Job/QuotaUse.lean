import WorldlandBroker.Foundation.Run
import WorldlandBroker.Job.Tenant
import Mathlib.Algebra.Order.BigOperators.Group.List

/-!
# What a tenant may use at once

The jobs of one user over time, against the quota that came with the first one.  One
request is served at a time, and the tenant's namespace and quota are created without
a failure; requests that overlap, and environments that fail and are cleaned up, are
left out.  Nothing ever renews the CPU and the memory of that quota, and
`UpdateGPUQuota`, which renews the GPUs, has no caller: while the first job lives, no
other one does.
-/

namespace WorldlandBroker.Job

open Foundation Provider

variable {K : QuantityAPI}

/-- The exact amount of a quantity in parts of its unit, as the admission adds them. -/
structure QuantityAmounts (K : QuantityAPI) where
  amount : K.Quantity → ℤ

structure QuantityAmounts.Documented (A : QuantityAmounts K) (parts : ℕ) : Prop where
  resolution : 1000 ≤ parts
  reads : ∀ s w q, readNumeral s = some w → K.parse s = some q → A.amount q = w.stored parts

inductive QuotaResource where
  | requestsGPU
  | limitsGPU
  | requestsCPU
  | requestsMemory
  deriving DecidableEq

def quotaResources : List QuotaResource :=
  [.requestsGPU, .limitsGPU, .requestsCPU, .requestsMemory]

private theorem mem_quotaResources (r : QuotaResource) : r ∈ quotaResources := by
  cases r <;> decide

def ResourceQuota.hard (quota : ResourceQuota K) : QuotaResource → K.Quantity
  | .requestsGPU => quota.requestsGPU
  | .limitsGPU => quota.limitsGPU
  | .requestsCPU => quota.requestsCPU
  | .requestsMemory => quota.requestsMemory

/-- Requests and limits of a rental pod are the same. -/
def Pod.uses (pod : Pod K) : QuotaResource → K.Quantity
  | .requestsGPU => pod.gpus
  | .limitsGPU => pod.gpus
  | .requestsCPU => pod.cpu
  | .requestsMemory => pod.memory

/-- The user's namespace; a pod that has ended is no longer in `pods`. -/
structure TenantUse (K : QuantityAPI) where
  namespaceMade : Bool
  quota : Option (ResourceQuota K)
  pods : List (Pod K)

def newUser : TenantUse K := ⟨false, none, []⟩

def used (A : QuantityAmounts K) (pods : List (Pod K)) (r : QuotaResource) : ℤ :=
  (pods.map fun pod => A.amount (pod.uses r)).sum

def Admits (A : QuantityAmounts K) (s : TenantUse K) (pod : Pod K) : Prop :=
  (∀ r ∈ quotaResources, 0 ≤ A.amount (pod.uses r)) ∧
    ∀ quota ∈ s.quota, ∀ r ∈ quotaResources,
      used A s.pods r + A.amount (pod.uses r) ≤ A.amount (quota.hard r)

instance (A : QuantityAmounts K) (s : TenantUse K) (pod : Pod K) :
    Decidable (Admits A s pod) :=
  inferInstanceAs (Decidable (_ ∧ _))

/-- The first call makes the namespace and its quota, both of which succeed. -/
def ensureTenant (user : String) (s : TenantUse K) (req : CreateJobRequest) : TenantUse K :=
  if s.namespaceMade then s
  else ⟨true, createResourceQuota K (firstTenantConfig user req), s.pods⟩

/--
The request from its start to its end, with no other in between.  `answered` tells
whether the API server carries the creation of the pod out where nothing speaks
against it.  A quantity that does not parse panics, in the quota first.
-/
def createJob (A : QuantityAmounts K) (user : String) (s : TenantUse K) (uid : ℕ)
    (providerID gpuModel : String) (req : CreateJobRequest) (now : ℤ) (answered : Bool) :
    TenantUse K :=
  let s' := ensureTenant user s req
  if s.namespaceMade = false ∧ s'.quota.isNone then s'
  else
    match buildGPUPod K uid user providerID gpuModel req now with
    | none => s'
    | some pod =>
        if answered = true ∧ Admits A s' pod then { s' with pods := s'.pods ++ [pod] } else s'

def updateGPUQuota (K : QuantityAPI) (s : TenantUse K) (newGPUCount : ℤ) : TenantUse K :=
  match s.quota, K.parse (decimal newGPUCount) with
  | some quota, some gpus =>
      { s with quota := some { quota with requestsGPU := gpus, limitsGPU := gpus } }
  | _, _ => s

inductive UseAction where
  | createJob (uid : ℕ) (providerID gpuModel : String) (req : CreateJobRequest) (now : ℤ)
      (answered : Bool)
  | updateGPUQuota (newGPUCount : ℤ)
  -- the pod is through or has been deleted
  | podEnds (uid : ℕ)
  deriving DecidableEq

def useStep (A : QuantityAmounts K) (user : String) (s : TenantUse K) :
    UseAction → Option (TenantUse K)
  | .createJob uid providerID gpuModel req now answered =>
      some (createJob A user s uid providerID gpuModel req now answered)
  | .updateGPUQuota newGPUCount => some (updateGPUQuota K s newGPUCount)
  | .podEnds uid => some { s with pods := s.pods.filter fun pod => pod.uid ≠ uid }

/-! ## Sums of what pods use -/

variable {A : QuantityAmounts K} {parts : ℕ} {user : String} {s s' : TenantUse K}
  {pod : Pod K} {pods : List (Pod K)} {quota : ResourceQuota K} {req : CreateJobRequest}

@[simp]
theorem used_nil (r : QuotaResource) : used A [] r = 0 := rfl

private theorem used_append (pods pods' : List (Pod K)) (r : QuotaResource) :
    used A (pods ++ pods') r = used A pods r + used A pods' r := by
  simp [used]

private theorem used_cons (pod : Pod K) (pods : List (Pod K)) (r : QuotaResource) :
    used A (pod :: pods) r = A.amount (pod.uses r) + used A pods r := by
  simp [used]

private theorem used_snoc (pods : List (Pod K)) (pod : Pod K) (r : QuotaResource) :
    used A (pods ++ [pod]) r = used A pods r + A.amount (pod.uses r) := by
  simp [used]

private theorem used_filter_le {r : QuotaResource} (h : ∀ pod ∈ pods, 0 ≤ A.amount (pod.uses r))
    (p : Pod K → Bool) : used A (pods.filter p) r ≤ used A pods r := by
  induction pods with
  | nil => exact le_rfl
  | cons pod pods ih =>
      have hrest := ih fun other hother => h other (List.mem_cons_of_mem _ hother)
      have hpod := h pod List.mem_cons_self
      cases hp : p pod with
      | true =>
          rw [List.filter_cons_of_pos hp, used_cons, used_cons]
          omega
      | false =>
          rw [List.filter_cons_of_neg (by simp [hp]), used_cons]
          omega

private theorem others_use_nothing (r : QuotaResource) {before after : List (Pod K)} {hard : ℤ}
    (hnonneg : ∀ other ∈ before ++ pod :: after, 0 ≤ A.amount (other.uses r))
    (hle : used A (before ++ pod :: after) r ≤ hard) (hfull : A.amount (pod.uses r) = hard) :
    ∀ other ∈ before ++ after, A.amount (other.uses r) = 0 := by
  have hrest : used A (before ++ after) r ≤ 0 := by
    rw [used_append, used_cons] at hle
    rw [used_append]
    omega
  have hnone : ∀ other ∈ before ++ after, 0 ≤ A.amount (other.uses r) := by
    intro other hother
    apply hnonneg
    rcases List.mem_append.mp hother with h | h
    · exact List.mem_append_left _ h
    · exact List.mem_append_right _ (List.mem_cons_of_mem _ h)
  intro other hother
  have hle : A.amount (other.uses r) ≤ used A (before ++ after) r := by
    apply List.single_le_sum
    · intro amount hamount
      obtain ⟨pod', hpod', rfl⟩ := List.mem_map.mp hamount
      exact hnone pod' hpod'
    · exact List.mem_map_of_mem hother
  exact le_antisymm (hle.trans hrest) (hnone other hother)

/-! ## One step -/

private theorem ensureTenant_made (h : s.namespaceMade = true) : ensureTenant user s req = s := by
  simp [ensureTenant, h]

private theorem ensureTenant_new (h : s.namespaceMade = false) :
    ensureTenant user s req =
      ⟨true, createResourceQuota K (firstTenantConfig user req), s.pods⟩ := by
  simp [ensureTenant, h]

@[simp]
theorem ensureTenant_pods : (ensureTenant user s req).pods = s.pods := by
  unfold ensureTenant
  split <;> rfl

@[simp]
theorem ensureTenant_namespaceMade : (ensureTenant user s req).namespaceMade = true := by
  unfold ensureTenant
  split
  · assumption
  · rfl

/-- A call adds at most the pod of its request, and that one only within the quota. -/
theorem createJob_cases (A : QuantityAmounts K) (user : String) (s : TenantUse K)
    (req : CreateJobRequest) (uid : ℕ) (providerID gpuModel : String) (now : ℤ)
    (answered : Bool) :
    createJob A user s uid providerID gpuModel req now answered = ensureTenant user s req ∨
      ∃ pod, buildGPUPod K uid user providerID gpuModel req now = some pod ∧
        (s.namespaceMade = true ∨ (ensureTenant user s req).quota.isSome) ∧
        Admits A (ensureTenant user s req) pod ∧
        createJob A user s uid providerID gpuModel req now answered =
          { ensureTenant user s req with pods := s.pods ++ [pod] } := by
  simp only [createJob]
  split
  · exact .inl rfl
  · rename_i hquota
    split
    · exact .inl rfl
    · rename_i pod hpod
      split
      · rename_i hadmits
        refine .inr ⟨pod, hpod, ?_, hadmits.2, by rw [ensureTenant_pods]⟩
        cases hmade : s.namespaceMade with
        | true => exact .inl rfl
        | false => exact .inr (by simpa [hmade, Option.isSome_iff_ne_none] using hquota)
      · exact .inl rfl

theorem updateGPUQuota_cases (n : ℤ) :
    updateGPUQuota K s n = s ∨
      ∃ quota gpus, s.quota = some quota ∧ K.parse (decimal n) = some gpus ∧
        updateGPUQuota K s n =
          { s with quota := some { quota with requestsGPU := gpus, limitsGPU := gpus } } := by
  unfold updateGPUQuota
  split
  · rename_i quota gpus hquota hgpus
    exact .inr ⟨quota, gpus, hquota, hgpus, rfl⟩
  · exact .inl rfl

/-! ## Runs -/

abbrev UseRecord (K : QuantityAPI) := List (Transition (TenantUse K) UseAction)

def WrittenFirst (past : UseRecord K) (quota : ResourceQuota K) : Prop :=
  ∃ r ∈ past, ∃ uid providerID gpuModel req now answered,
    r.act = .createJob uid providerID gpuModel req now answered ∧
      r.pre.namespaceMade = false ∧ K.parse req.cpuCores = some quota.requestsCPU ∧
      K.parse req.memoryGB = some quota.requestsMemory

def GPUsGiven (A : QuantityAmounts K) (past : UseRecord K) (gpus : ℤ) : Prop :=
  ∃ r ∈ past, ∃ quota ∈ r.post.quota, gpus ≤ A.amount quota.requestsGPU

structure WithinQuota (A : QuantityAmounts K) (past : UseRecord K) (s : TenantUse K) :
    Prop where
  nonneg : ∀ pod ∈ s.pods, ∀ r, 0 ≤ A.amount (pod.uses r)
  unmade : s.namespaceMade = false → s.quota = none ∧ s.pods = []
  written : ∀ quota ∈ s.quota, WrittenFirst past quota
  kept : ∀ quota ∈ s.quota, s.pods ≠ [] → ∀ r, r = .requestsCPU ∨ r = .requestsMemory →
    used A s.pods r ≤ A.amount (quota.hard r)
  gpus : s.quota.isSome → s.pods ≠ [] → GPUsGiven A past (used A s.pods .requestsGPU)

theorem WrittenFirst.snoc {past : UseRecord K} (h : WrittenFirst past quota)
    (r : Transition (TenantUse K) UseAction) : WrittenFirst (past ++ [r]) quota := by
  obtain ⟨first, hfirst, hwrites⟩ := h
  exact ⟨first, List.mem_append_left _ hfirst, hwrites⟩

theorem GPUsGiven.snoc {past : UseRecord K} {gpus gpus' : ℤ} (h : GPUsGiven A past gpus)
    (hle : gpus' ≤ gpus) (r : Transition (TenantUse K) UseAction) :
    GPUsGiven A (past ++ [r]) gpus' := by
  obtain ⟨given, hgiven, quota, hquota, hwithin⟩ := h
  exact ⟨given, List.mem_append_left _ hgiven, quota, hquota, hle.trans hwithin⟩

variable {past : UseRecord K}

private theorem withinQuota_newUser : WithinQuota A [] (newUser : TenantUse K) where
  nonneg pod hpod := by cases hpod
  unmade _ := ⟨rfl, rfl⟩
  written quota hquota := by cases hquota
  kept quota hquota := by cases hquota
  gpus hquota := by cases hquota

theorem WithinQuota.ensureTenant (h : WithinQuota A past s) (user : String)
    (req : CreateJobRequest) (uid : ℕ) (providerID gpuModel : String) (now : ℤ)
    (answered : Bool) (post : TenantUse K) :
    WithinQuota A
      (past ++ [⟨s, .createJob uid providerID gpuModel req now answered, post⟩])
      (ensureTenant user s req) := by
  cases hmade : s.namespaceMade with
  | true =>
      rw [ensureTenant_made hmade]
      exact ⟨h.nonneg, h.unmade, fun quota hquota => (h.written quota hquota).snoc _, h.kept,
        fun hquota hpods => (h.gpus hquota hpods).snoc le_rfl _⟩
  | false =>
      obtain ⟨-, hnone⟩ := h.unmade hmade
      rw [ensureTenant_new hmade, hnone]
      refine ⟨by simp, by simp, ?_, by simp, by simp⟩
      intro quota hquota
      obtain ⟨-, -, hcpu, hmemory⟩ := createResourceQuota_eq_some.mp hquota
      exact ⟨_, List.mem_append_right _ (List.mem_singleton_self _), uid, providerID, gpuModel,
        req, now, answered, rfl, hmade, hcpu, hmemory⟩

theorem WithinQuota.append (h : WithinQuota A past s) (hadmits : Admits A s pod)
    (hmade : s.namespaceMade = true)
    (hquota : s.quota.isSome → ∃ r ∈ past, r.post.quota = s.quota) :
    WithinQuota A past { s with pods := s.pods ++ [pod] } where
  nonneg other hother r := by
    rcases List.mem_append.mp hother with hold | hnew
    · exact h.nonneg other hold r
    · rw [List.mem_singleton.mp hnew]
      exact hadmits.1 r (mem_quotaResources r)
  unmade hnot := by simp [hmade] at hnot
  written := h.written
  kept quota hq _ r _ :=
    (used_snoc s.pods pod r).trans_le (hadmits.2 quota hq r (mem_quotaResources r))
  gpus hsome _ := by
    obtain ⟨r, hr, hpost⟩ := hquota hsome
    obtain ⟨quota, hq⟩ := Option.isSome_iff_exists.mp hsome
    exact ⟨r, hr, quota, hpost.trans hq, (used_snoc s.pods pod _).trans_le
      (hadmits.2 quota hq .requestsGPU (mem_quotaResources _))⟩

theorem WithinQuota.createJob (h : WithinQuota A past s) (uid : ℕ)
    (providerID gpuModel : String) (req : CreateJobRequest) (now : ℤ) (answered : Bool) :
    let s' := createJob A user s uid providerID gpuModel req now answered
    WithinQuota A
      (past ++ [⟨s, .createJob uid providerID gpuModel req now answered, s'⟩]) s' := by
  intro s'
  have hensured := h.ensureTenant user req uid providerID gpuModel now answered s'
  rcases createJob_cases A user s req uid providerID gpuModel now answered with
    hsame | ⟨pod, -, -, hadmits, hs⟩
  · rwa [← hsame] at hensured
  · have hquota : s'.quota = (Job.ensureTenant user s req).quota := by
      simp only [s', hs]
    have hmore := hensured.append hadmits ensureTenant_namespaceMade fun _ =>
      ⟨_, List.mem_append_right _ (List.mem_singleton_self _), hquota⟩
    rwa [ensureTenant_pods, ← hs] at hmore

theorem WithinQuota.updateGPUQuota (h : WithinQuota A past s) (n : ℤ)
    (r : Transition (TenantUse K) UseAction) :
    WithinQuota A (past ++ [r]) (updateGPUQuota K s n) := by
  rcases updateGPUQuota_cases (s := s) n with hsame | ⟨quota, gpus, hquota, -, hs⟩
  · rw [hsame]
    exact ⟨h.nonneg, h.unmade, fun quota hquota => (h.written quota hquota).snoc _, h.kept,
      fun hquota hpods => (h.gpus hquota hpods).snoc le_rfl _⟩
  · rw [hs]
    refine ⟨h.nonneg, ?_, ?_, ?_, fun _ hpods => ?_⟩
    · intro hunmade
      rw [(h.unmade hunmade).1] at hquota
      cases hquota
    · rintro _ ⟨⟩
      exact (h.written quota hquota).snoc r
    · rintro _ ⟨⟩ hpods resource hresource
      have hkept := h.kept quota hquota hpods resource hresource
      rcases hresource with rfl | rfl <;> exact hkept
    · exact (h.gpus (by simp [hquota]) hpods).snoc le_rfl r

theorem WithinQuota.podEnds (h : WithinQuota A past s) (uid : ℕ)
    (r : Transition (TenantUse K) UseAction) :
    WithinQuota A (past ++ [r])
      { s with pods := s.pods.filter fun pod => pod.uid ≠ uid } := by
  have hle (resource : QuotaResource) :=
    used_filter_le (fun pod hpod => h.nonneg pod hpod resource) fun pod => pod.uid ≠ uid
  have hpods (hleft : s.pods.filter (fun pod => pod.uid ≠ uid) ≠ []) : s.pods ≠ [] := by
    rintro hnone
    simp [hnone] at hleft
  refine ⟨?_, ?_, fun quota hquota => (h.written quota hquota).snoc r, ?_, ?_⟩
  · intro pod hpod
    exact h.nonneg pod (List.mem_of_mem_filter hpod)
  · intro hunmade
    obtain ⟨hquota, hnone⟩ := h.unmade hunmade
    exact ⟨hquota, by simp [hnone]⟩
  · intro quota hquota hleft resource hresource
    exact (hle resource).trans (h.kept quota hquota (hpods hleft) resource hresource)
  · intro hquota hleft
    exact (h.gpus hquota (hpods hleft)).snoc (hle _) r

theorem WithinQuota.run {s₀ : TenantUse K} {past₀ : UseRecord K} (h₀ : WithinQuota A past₀ s₀)
    (hrun : Run (useStep A user) anyStep s₀ past s) : WithinQuota A (past₀ ++ past) s := by
  apply hrun.invariant (I := fun past s => WithinQuota A (past₀ ++ past) s)
  · rwa [List.append_nil]
  rintro past s a s' - h - hs
  rw [← List.append_assoc]
  cases a with
  | createJob uid providerID gpuModel req now answered =>
      cases hs
      exact h.createJob uid providerID gpuModel req now answered
  | updateGPUQuota n =>
      cases hs
      exact h.updateGPUQuota n _
  | podEnds uid =>
      cases hs
      exact h.podEnds uid _

/--
Whatever jobs a user asks for one after the other, and whatever GPU quotas are set:
all live pods together stay within the CPU and memory that the user's first request
wrote, and within a number of GPUs that some quota of the run allowed.
-/
theorem tenant_within_quota (hrun : Run (useStep A user) anyStep newUser past s)
    (hquota : s.quota = some quota) (hpods : s.pods ≠ []) :
    used A s.pods .requestsCPU ≤ A.amount quota.requestsCPU ∧
      used A s.pods .requestsMemory ≤ A.amount quota.requestsMemory ∧
      WrittenFirst past quota ∧ GPUsGiven A past (used A s.pods .requestsGPU) := by
  have h := withinQuota_newUser.run hrun
  rw [List.nil_append] at h
  exact ⟨h.kept quota hquota hpods _ (.inl rfl), h.kept quota hquota hpods _ (.inr rfl),
    h.written quota hquota, h.gpus (by simp [hquota]) hpods⟩

/-! ## The first job -/

variable {uid : ℕ} {providerID gpuModel : String} {now : ℤ} {hard : K.Quantity}

private theorem amount_podGPUs_pos (hA : A.Documented parts)
    (hgpus : K.parse (podGPUText req) = some hard) : 0 < A.amount hard := by
  have hparts := hA.resolution
  obtain ⟨n, hn, htext⟩ : ∃ n : ℤ, 0 < n ∧ podGPUText req = decimal n := by
    rw [podGPUText]
    split
    · exact ⟨1, by decide, rfl⟩
    · exact ⟨req.gpuCount, by omega, rfl⟩
  rw [htext] at hgpus
  have hmax : 1 ≤ maxInt64 * parts := Nat.mul_pos (by decide) (by omega)
  have hunits : 1 ≤ n.natAbs * parts := Nat.mul_pos (by omega) (by omega)
  rw [hA.reads _ _ _ (readNumeral_decimal n) hgpus]
  simp only [Numeral.stored, Numeral.signed, Numeral.num, Numeral.den, Suffix.up, Suffix.down,
    show ¬ n < 0 by omega, decide_false, Bool.false_eq_true, if_false, pow_zero, mul_one,
    add_zero, Int.toNat_zero, neg_zero, ceilDiv_one]
  omega

private theorem gpuCount_pos_of_admits (hA : A.Documented parts)
    (hcreated : createResourceQuota K (firstTenantConfig user req) = some quota)
    (hbuilt : buildGPUPod K uid user providerID gpuModel req now = some pod)
    (hadmits : Admits A ⟨true, some quota, []⟩ pod) : 0 < req.gpuCount := by
  obtain ⟨hparse, -, -, -⟩ := createResourceQuota_eq_some.mp hcreated
  obtain ⟨-, -, -, -, -, hgpus⟩ := buildGPUPod_eq_some hbuilt
  have hpositive := amount_podGPUs_pos hA hgpus
  have hwithin : A.amount pod.gpus ≤ A.amount quota.requestsGPU := by
    have hle := hadmits.2 quota rfl .requestsGPU (mem_quotaResources _)
    rwa [used_nil, zero_add] at hle
  by_contra hnone
  have hread := hA.reads _ _ _ (readNumeral_decimal req.gpuCount) hparse
  have hle : A.amount quota.requestsGPU ≤ 0 := by
    rw [hread]
    rcases lt_or_eq_of_le (not_lt.mp hnone) with hnegative | hzero
    · simp only [Numeral.stored, Numeral.signed, hnegative, decide_true, if_true]
      omega
    · simp [hzero, Numeral.stored, Numeral.signed, Numeral.num]
  omega

structure FirstJob (A : QuantityAmounts K) (user : String) (req : CreateJobRequest)
    (pod : Pod K) (s : TenantUse K) : Prop where
  created : ∃ uid providerID gpuModel now,
    buildGPUPod K uid user providerID gpuModel req now = some pod ∧
      s = createJob A user newUser uid providerID gpuModel req now true
  there : s.pods = [pod]

/-- The pod takes all CPU and all GPUs of the quota that comes with it. -/
theorem FirstJob.takesAll (hA : A.Documented parts) (hK : K.Documented)
    (h : FirstJob A user req pod s) :
    ∃ quota, s.quota = some quota ∧ pod.cpu = quota.requestsCPU ∧
      pod.gpus = quota.requestsGPU := by
  obtain ⟨uid, providerID, gpuModel, now, hbuilt, hs⟩ := h.created
  rcases createJob_cases A user newUser req uid providerID gpuModel now true with
    hsame | ⟨pod', hbuilt', hquota, hadmits, hmore⟩
  · have hnone : s.pods = [] := by
      rw [hs, hsame, ensureTenant_pods]
      rfl
    simp [h.there] at hnone
  · rw [hbuilt] at hbuilt'
    cases hbuilt'
    rw [ensureTenant_new rfl] at hadmits hmore hquota
    obtain ⟨quota, hcreated : createResourceQuota K (firstTenantConfig user req) = some quota⟩ :=
      Option.isSome_iff_exists.mp (hquota.resolve_left (by simp [newUser]))
    rw [hcreated] at hadmits hmore
    have hgpuCount : 0 < req.gpuCount := gpuCount_pos_of_admits hA hcreated hbuilt hadmits
    obtain ⟨hhard, -, hcpuText, -⟩ := createResourceQuota_eq_some.mp hcreated
    obtain ⟨-, -, -, hcpu, -, hgpus⟩ := buildGPUPod_eq_some hbuilt
    refine ⟨quota, by rw [hs, hmore], ?_, ?_⟩
    · have hnonempty : req.cpuCores ≠ "" := by
        intro hempty
        change K.parse req.cpuCores = _ at hcpuText
        rw [hempty, hK.unreadable "" (by decide)] at hcpuText
        contradiction
      rw [podCPUText, if_neg hnonempty] at hcpu
      exact Option.some.inj (hcpu.symm.trans hcpuText)
    · rw [podGPUText, if_neg (by omega)] at hgpus
      exact Option.some.inj (hgpus.symm.trans hhard)

theorem FirstJob.withinQuota (h : FirstJob A user req pod s) :
    ∃ a, WithinQuota A [⟨newUser, a, s⟩] s := by
  obtain ⟨uid, providerID, gpuModel, now, -, rfl⟩ := h.created
  exact ⟨_, withinQuota_newUser.createJob uid providerID gpuModel req now true⟩

private theorem useStep_quota {a : UseAction} (hs : useStep A user s a = some s')
    (hmade : s.namespaceMade = true) (hquota : s.quota = some quota) :
    s'.namespaceMade = true ∧ ∃ quota', s'.quota = some quota' ∧
      quota'.requestsCPU = quota.requestsCPU ∧
      ((∀ n, a ≠ .updateGPUQuota n) → quota' = quota) := by
  cases a with
  | createJob uid providerID gpuModel req now answered =>
      cases hs
      rcases createJob_cases A user s req uid providerID gpuModel now answered with
        hsame | ⟨pod, -, -, -, hmore⟩
      · rw [hsame, ensureTenant_made hmade]
        exact ⟨hmade, quota, hquota, rfl, fun _ => rfl⟩
      · rw [hmore, ensureTenant_made hmade]
        exact ⟨hmade, quota, hquota, rfl, fun _ => rfl⟩
  | updateGPUQuota n =>
      cases hs
      rcases updateGPUQuota_cases (s := s) n with hsame | ⟨quota', gpus, hquota', -, hmore⟩
      · rw [hsame]
        exact ⟨hmade, quota, hquota, rfl, fun _ => rfl⟩
      · rw [hmore]
        cases hquota.symm.trans hquota'
        exact ⟨hmade, _, rfl, rfl, fun hnot => absurd rfl (hnot n)⟩
  | podEnds uid =>
      cases hs
      exact ⟨hmade, quota, hquota, rfl, fun _ => rfl⟩

structure KeepsQuota (quota : ResourceQuota K) (past : UseRecord K) (s : TenantUse K) :
    Prop where
  made : s.namespaceMade = true
  cpu : ∃ quota', s.quota = some quota' ∧ quota'.requestsCPU = quota.requestsCPU
  same : (∀ r ∈ past, ∀ n, r.act ≠ .updateGPUQuota n) →
    s.quota = some quota ∧ ∀ r ∈ past, r.post.quota = some quota

theorem keepsQuota_run {s₀ : TenantUse K}
    (hrun : Run (useStep A user) anyStep s₀ past s) (hmade : s₀.namespaceMade = true)
    (hquota : s₀.quota = some quota) : KeepsQuota quota past s := by
  apply hrun.invariant (I := KeepsQuota quota)
  · exact ⟨hmade, ⟨quota, hquota, rfl⟩, fun _ => ⟨hquota, by simp⟩⟩
  · rintro past s a s' - h - hs
    obtain ⟨quota', hquota', hcpu⟩ := h.cpu
    obtain ⟨hmade', quota'', hpost, hcpu', hsame⟩ := useStep_quota hs h.made hquota'
    refine ⟨hmade', ⟨quota'', hpost, hcpu'.trans hcpu⟩, fun hnot => ?_⟩
    obtain ⟨hpre, hposts⟩ := h.same fun r hr => hnot r (List.mem_append_left _ hr)
    cases hpre.symm.trans hquota'
    have hkept : s'.quota = some quota := by
      rw [hpost, hsame (hnot ⟨s, a, s'⟩ (by simp))]
    refine ⟨hkept, fun r hr => ?_⟩
    rcases List.mem_append.mp hr with hr | hr
    · exact hposts r hr
    · rw [List.mem_singleton.mp hr]
      exact hkept

private theorem pods_hold_gpus (hA : A.Documented parts) {s₀ : TenantUse K}
    (h₀ : ∀ pod ∈ s₀.pods, 0 < A.amount pod.gpus)
    (hrun : Run (useStep A user) anyStep s₀ past s) : ∀ pod ∈ s.pods, 0 < A.amount pod.gpus := by
  apply hrun.always (I := fun s => ∀ pod ∈ s.pods, 0 < A.amount pod.gpus) h₀
  rintro - s a s' h - hs pod hpod
  cases a with
  | createJob uid providerID gpuModel req now answered =>
      cases hs
      rcases createJob_cases A user s req uid providerID gpuModel now answered with
        hsame | ⟨new, hbuilt, -, -, hmore⟩
      · rw [hsame, ensureTenant_pods] at hpod
        exact h pod hpod
      · rw [hmore] at hpod
        rcases List.mem_append.mp hpod with hold | hnew
        · exact h pod hold
        · rw [List.mem_singleton.mp hnew]
          obtain ⟨-, -, -, -, -, hgpus⟩ := buildGPUPod_eq_some hbuilt
          exact amount_podGPUs_pos hA hgpus
  | updateGPUQuota n =>
      cases hs
      rcases updateGPUQuota_cases (s := s) n with hsame | ⟨quota, gpus, -, -, hmore⟩
      · rw [hsame] at hpod
        exact h pod hpod
      · rw [hmore] at hpod
        exact h pod hpod
  | podEnds uid =>
      cases hs
      exact h pod (List.mem_of_mem_filter hpod)

/--
While the pod of a user's first job lives, every other pod of the user asks for
no CPU, whatever GPU quotas are set; and where none is, there is no other pod.
-/
theorem first_job_alone (hA : A.Documented parts) (hK : K.Documented) {s₁ : TenantUse K}
    (hfirst : FirstJob A user req pod s₁)
    (hrun : Run (useStep A user) anyStep s₁ past s) {before after : List (Pod K)}
    (hpods : s.pods = before ++ pod :: after) :
    (∀ other ∈ before ++ after, A.amount other.cpu = 0) ∧
      ((∀ r ∈ past, ∀ n, r.act ≠ .updateGPUQuota n) → s.pods = [pod]) := by
  obtain ⟨quota, hquota, hcpu, hgpus⟩ := hfirst.takesAll hA hK
  obtain ⟨a, hfrom⟩ := hfirst.withinQuota
  have hmade : s₁.namespaceMade = true := by
    by_contra hnot
    have hnone := (hfrom.unmade (by simpa using hnot)).2
    simp [hfirst.there] at hnone
  have hkeeps := keepsQuota_run hrun hmade hquota
  have hwithin := hfrom.run hrun
  have hsome : s.pods ≠ [] := by simp [hpods]
  have hnonneg (r : QuotaResource) :
      ∀ other ∈ before ++ pod :: after, 0 ≤ A.amount (other.uses r) := by
    rw [← hpods]
    exact fun other hother => hwithin.nonneg other hother r
  constructor
  · obtain ⟨quota', hquota', hcpu'⟩ := hkeeps.cpu
    have hfull : A.amount pod.cpu = A.amount quota'.requestsCPU := by rw [hcpu, hcpu']
    have hkept := hwithin.kept quota' hquota' hsome .requestsCPU (.inl rfl)
    rw [hpods] at hkept
    exact others_use_nothing .requestsCPU (hnonneg .requestsCPU) hkept hfull
  · intro hnot
    obtain ⟨hsame, hposts⟩ := hkeeps.same hnot
    have hle : used A s.pods .requestsGPU ≤ A.amount quota.requestsGPU := by
      obtain ⟨r, hr, given, hgiven, hle⟩ := hwithin.gpus (by simp [hsame]) hsome
      have hquotas : r.post.quota = some quota := by
        rcases List.mem_cons.mp hr with rfl | hr
        · exact hquota
        · exact hposts r hr
      cases hquotas.symm.trans hgiven
      exact hle
    rw [hpods] at hle
    have hnothing := others_use_nothing .requestsGPU (hnonneg .requestsGPU) hle
      (congrArg A.amount hgpus)
    have hholds := pods_hold_gpus hA (by
      obtain ⟨uid, providerID, gpuModel, now, hbuilt, -⟩ := hfirst.created
      obtain ⟨-, -, -, -, -, hparse⟩ := buildGPUPod_eq_some hbuilt
      rw [hfirst.there]
      simpa using amount_podGPUs_pos hA hparse) hrun
    have hnone : before ++ after = [] := by
      apply List.eq_nil_iff_forall_not_mem.mpr
      intro other hother
      have hpositive : 0 < A.amount other.gpus := by
        apply hholds
        rw [hpods]
        rcases List.mem_append.mp hother with h | h
        · exact List.mem_append_left _ h
        · exact List.mem_append_right _ (List.mem_cons_of_mem _ h)
      exact hpositive.ne' (hnothing other hother)
    obtain ⟨rfl, rfl⟩ := List.append_eq_nil_iff.mp hnone
    exact hpods

/-! ## One user's jobs -/

def writtenAmounts : QuantityAmounts writtenQuantities where
  amount q := q.2.stored (10 ^ 9)

private theorem writtenAmounts_documented : writtenAmounts.Documented (10 ^ 9) where
  resolution := by decide
  reads s w q hread hparse := by
    simp only [writtenQuantities, hread, Option.map_some] at hparse
    cases hparse
    rfl

private theorem firstJob_of_pods
    (h : (createJob A user newUser uid providerID gpuModel req now true).pods ≠ []) :
    ∃ pod, FirstJob A user req pod
      (createJob A user newUser uid providerID gpuModel req now true) := by
  rcases createJob_cases A user newUser req uid providerID gpuModel now true with
    hsame | ⟨pod, hbuilt, -, -, hmore⟩
  · exact absurd (by rw [hsame, ensureTenant_pods]; rfl) h
  · exact ⟨pod, ⟨uid, providerID, gpuModel, now, hbuilt, rfl⟩, by rw [hmore]; rfl⟩

def oneCore : CreateJobRequest := ⟨"p1", "", 1, "1", "1Gi", "", 24⟩

def waitingJobs : List UseAction :=
  [.createJob 0 "p1" "RTX 4090" sampleRequest 0 true, .createJob 1 "p1" "RTX 4090" oneCore 1 true,
    .podEnds 0, .createJob 2 "p1" "RTX 4090" oneCore 2 true,
    .createJob 3 "p1" "RTX 4090" oneCore 3 true]

private theorem waitingJobs_checked :
    ∃ run ∈ trace (useStep writtenAmounts "alice") newUser waitingJobs,
      run.2.quota.isSome ∧ run.2.pods.map Pod.uid = [2, 3] := by
  decide +kernel

theorem tenant_within_quota_sample : ∃ (s : TenantUse writtenQuantities)
    (quota : ResourceQuota writtenQuantities), s.pods.map Pod.uid = [2, 3] ∧
      used writtenAmounts s.pods .requestsCPU ≤ writtenAmounts.amount quota.requestsCPU := by
  obtain ⟨run, hrun, hquota, hpods⟩ := waitingJobs_checked
  obtain ⟨quota, hquota⟩ := Option.isSome_iff_exists.mp hquota
  have hsome : run.2.pods ≠ [] := by
    rintro hnone
    simp [hnone] at hpods
  exact ⟨run.2, quota, hpods, (tenant_within_quota (Run.of_trace hrun) hquota hsome).1⟩

theorem first_job_alone_sample : ∃ (pod : Pod writtenQuantities)
    (s₁ s : TenantUse writtenQuantities), FirstJob writtenAmounts "alice" sampleRequest pod s₁ ∧
      s = createJob writtenAmounts "alice" s₁ 1 "p1" "RTX 4090" oneCore 1 true ∧
      s.pods = [pod] := by
  obtain ⟨pod, hfirst⟩ := firstJob_of_pods
    (show (createJob writtenAmounts "alice" newUser 0 "p1" "RTX 4090" sampleRequest 0 true).pods ≠ []
      by decide +kernel)
  generalize createJob writtenAmounts "alice" newUser 0 "p1" "RTX 4090" sampleRequest 0 true = s₁
    at hfirst
  refine ⟨pod, s₁, _, hfirst, rfl, ?_⟩
  have hrun := (Run.nil : Run (useStep writtenAmounts "alice") anyStep s₁ [] s₁).take
    (.createJob 1 "p1" "RTX 4090" oneCore 1 true) trivial rfl
  obtain ⟨rest, hpods⟩ : ∃ rest, (createJob writtenAmounts "alice" s₁ 1 "p1" "RTX 4090" oneCore
      1 true).pods = [] ++ pod :: rest := by
    rcases createJob_cases writtenAmounts "alice" s₁ oneCore 1 "p1" "RTX 4090" 1 true with
      hsame | ⟨new, -, -, -, hmore⟩
    · exact ⟨[], by rw [hsame, ensureTenant_pods, hfirst.there]; rfl⟩
    · exact ⟨[new], by rw [hmore, hfirst.there]; rfl⟩
  apply (first_job_alone writtenAmounts_documented writtenQuantities_documented hfirst hrun
    hpods).2
  intro r hr n
  rw [List.nil_append, List.mem_singleton] at hr
  subst hr
  rintro ⟨⟩

end WorldlandBroker.Job
