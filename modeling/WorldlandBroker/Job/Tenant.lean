import WorldlandBroker.Job.Request
import WorldlandBroker.Job.Numeral

/-!
# A new tenant's quota

The first job of a user creates the user's namespace with a resource quota
taken from the request as it came; the pod is built afterwards, from the
request with its defaults and units filled in.
-/

namespace WorldlandBroker.Job

open Provider

variable {K : QuantityAPI}

/-- `Cmp` of two quantities, as the quota admission uses it. -/
structure QuantityOrder (K : QuantityAPI) where
  atMost : K.Quantity → K.Quantity → Bool

/-- A quantity is kept in `parts` of a unit, rounded up, and capped. -/
def Numeral.stored (parts : ℕ) (w : Numeral) : ℤ :=
  w.signed (min (w.num * parts ⌈/⌉ w.den) (maxInt64 * parts))

structure QuantityOrder.Documented (O : QuantityOrder K) (parts : ℕ) : Prop where
  resolution : 1000 ≤ parts
  compares : ∀ s s' w w' q q', readNumeral s = some w →
    readNumeral s' = some w' → K.parse s = some q → K.parse s' = some q' →
    (O.atMost q q' = true ↔ w.stored parts ≤ w'.stored parts)

structure TenantConfig where
  userID : String
  gpuCount : ℤ
  cpuRequest : String
  memoryRequest : String

def defaultTenantConfig (userID : String) (gpuCount : ℤ) : TenantConfig where
  userID := userID
  gpuCount := gpuCount
  cpuRequest := "4"
  memoryRequest := "16Gi"

structure ResourceQuota (K : QuantityAPI) where
  requestsGPU : K.Quantity
  limitsGPU : K.Quantity
  requestsCPU : K.Quantity
  requestsMemory : K.Quantity

/-- A quantity that does not parse panics. -/
def createResourceQuota (K : QuantityAPI) (cfg : TenantConfig) :
    Option (ResourceQuota K) := do
  let gpus ← K.parse (decimal cfg.gpuCount)
  let cpu ← K.parse cfg.cpuRequest
  let memory ← K.parse cfg.memoryRequest
  return ⟨gpus, gpus, cpu, memory⟩

def firstTenantConfig (user : String) (req : CreateJobRequest) : TenantConfig :=
  { defaultTenantConfig user req.gpuCount with
    cpuRequest := req.cpuCores
    memoryRequest := req.memoryGB }

structure Submission (K : QuantityAPI) where
  quota : Option (ResourceQuota K)
  pod : Pod K

def createGPUJob (K : QuantityAPI) (tenantExists : Bool) (uid : ℕ)
    (user providerID gpuModel : String) (req : CreateJobRequest) (now : ℤ) :
    Option (Submission K) :=
  if user ≠ "" ∧ user ≠ "anonymous" ∧ tenantExists = false then do
    let quota ← createResourceQuota K (firstTenantConfig user req)
    let pod ← buildGPUPod K uid user providerID gpuModel req now
    return ⟨some quota, pod⟩
  else do
    let pod ← buildGPUPod K uid user providerID gpuModel req now
    return ⟨none, pod⟩

def ResourceQuota.allows (O : QuantityOrder K) (quota : ResourceQuota K)
    (pod : Pod K) : Prop :=
  O.atMost pod.gpus quota.requestsGPU = true ∧
    O.atMost pod.gpus quota.limitsGPU = true ∧
    O.atMost pod.cpu quota.requestsCPU = true ∧
    O.atMost pod.memory quota.requestsMemory = true

def FirstPodAdmitted (O : QuantityOrder K) (submission : Option (Submission K)) :
    Prop :=
  ∃ s quota, submission = some s ∧ s.quota = some quota ∧ quota.allows O s.pod

/--
A memory text with its unit, or a plain number of bytes that is not positive, or
so small or so large that times 2^30 is kept as the same amount.
-/
def MemoryQuotaFits (parts : ℕ) (memoryGB : String) : Prop :=
  hasSuffix memoryGB "Gi" = true ∨ hasSuffix memoryGB "Mi" = true ∨
    ∃ w, readNumeral memoryGB = some w ∧
      (w.negative = true ∨ w.num * 2 ^ 30 * parts ≤ w.den ∨
        (maxInt64 * parts - 1) * w.den < w.num * parts)

structure QuotaFits (parts : ℕ) (req : CreateJobRequest) : Prop where
  gpus : 0 < req.gpuCount
  cpu : req.cpuCores ≠ ""
  memory : req.memoryGB ≠ "" ∧ MemoryQuotaFits parts req.memoryGB

variable {O : QuantityOrder K} {parts : ℕ}

theorem QuantityOrder.Documented.refl (hK : K.Documented)
    (hO : O.Documented parts) {s : String} {q : K.Quantity}
    (h : K.parse s = some q) : O.atMost q q = true := by
  obtain ⟨w, hread, -⟩ := hK.read h
  exact (hO.compares s s w w q q hread hread h h).mpr le_rfl

/-- Scaling by 2^30 leaves the rounded amount alone below one part only. -/
theorem roundUp_scaled_le_iff {n den : ℕ} (hden : 0 < den) :
    n * 2 ^ 30 ⌈/⌉ den ≤ n ⌈/⌉ den ↔ n * 2 ^ 30 ≤ den := by
  have hle (a m : ℕ) : a ⌈/⌉ den ≤ m ↔ a ≤ m * den := by
    rw [ceilDiv_le_iff_le_mul hden, Nat.mul_comm]
  constructor
  · intro hscaled
    have hsmall : n ⌈/⌉ den ≤ 1 := by
      by_contra hlarge
      have hbelow : (n ⌈/⌉ den - 1) * den < n := by
        rw [← not_le, ← hle]
        omega
      have habove := (hle _ _).mp hscaled
      have hexpand : n ⌈/⌉ den * den = (n ⌈/⌉ den - 1) * den + den := by
        rw [← Nat.succ_mul]
        congr 1
        omega
      have hone : 1 * den ≤ (n ⌈/⌉ den - 1) * den :=
        Nat.mul_le_mul_right _ (by omega)
      omega
    have hbytes := (hle _ _).mp (hscaled.trans hsmall)
    omega
  · intro hbytes
    rcases Nat.eq_zero_or_pos n with rfl | hpositive
    · simp
    · have hscaled : n * 2 ^ 30 ⌈/⌉ den ≤ 1 := (hle _ _).mpr (by omega)
      have hone : ¬ n ⌈/⌉ den ≤ 0 := by
        rw [hle]
        omega
      omega

theorem Numeral.stored_gibibytes_le_iff {w w' : Numeral} (hparts : 0 < parts)
    (hplain : w' = { w with suffix := .decimal 0 })
    (hsuffix : w.suffix = .binary 3) :
    w.stored parts ≤ w'.stored parts ↔
      w'.negative = true ∨ w'.num * 2 ^ 30 * parts ≤ w'.den ∨
        (maxInt64 * parts - 1) * w'.den < w'.num * parts := by
  have hden : w.den = w'.den := by
    rw [hplain, Numeral.den, Numeral.den, hsuffix]
    rfl
  have hnum : w.num * parts = w'.num * parts * 2 ^ 30 := by
    rw [hplain, Numeral.num, Numeral.num, hsuffix, Nat.mul_right_comm]
    simp [Suffix.up]
  have hnegative : w.negative = w'.negative := by rw [hplain]
  have hpositive := w'.den_pos
  have hscaled := roundUp_scaled_le_iff (n := w'.num * parts) hpositive
  have hle (a n : ℕ) : a ⌈/⌉ w'.den ≤ n ↔ a ≤ n * w'.den := by
    rw [ceilDiv_le_iff_le_mul hpositive, Nat.mul_comm]
  have hgrows : w'.num * parts ⌈/⌉ w'.den ≤
      w'.num * parts * 2 ^ 30 ⌈/⌉ w'.den := by
    rw [hle]
    exact (Nat.le_mul_of_pos_right _ (by decide)).trans ((hle _ _).mp le_rfl)
  have hcap : 0 < maxInt64 * parts := Nat.mul_pos (by decide) hparts
  have hfull : ¬ w'.num * parts ⌈/⌉ w'.den ≤ maxInt64 * parts - 1 ↔
      (maxInt64 * parts - 1) * w'.den < w'.num * parts := by
    rw [hle, not_le]
  rw [Nat.mul_right_comm, ← hscaled, ← hfull]
  simp only [Numeral.stored, Numeral.signed, hnum, hden, hnegative]
  cases w'.negative with
  | true =>
      simp only [if_true, true_or, iff_true]
      omega
  | false =>
      simp only [Bool.false_eq_true, if_false, false_or]
      omega

theorem quota_gpus_iff (hO : O.Documented parts) {req : CreateJobRequest}
    (hK : K.Documented) {gpus hard : K.Quantity}
    (hgpus : K.parse (podGPUText req) = some gpus)
    (hhard : K.parse (decimal req.gpuCount) = some hard) :
    O.atMost gpus hard = true ↔ 0 < req.gpuCount := by
  by_cases hpositive : 0 < req.gpuCount
  · rw [podGPUText, if_neg (by omega), hhard] at hgpus
    cases hgpus
    exact iff_of_true (hO.refl hK hhard) hpositive
  · rw [podGPUText, if_pos (by omega)] at hgpus
    rw [hO.compares _ _ _ _ _ _ (readNumeral_decimal 1)
      (readNumeral_decimal req.gpuCount) hgpus hhard]
    have hparts := hO.resolution
    refine iff_of_false ?_ hpositive
    have hcap : parts ≤ maxInt64 * parts :=
      Nat.le_mul_of_pos_left _ (by decide)
    have hone : Numeral.stored parts ⟨(1 : ℤ) < 0, (1 : ℤ).natAbs, 0, 0,
        by decide, .decimal 0⟩ = parts := by
      simp [Numeral.stored, Numeral.signed, Numeral.num, Numeral.den, Suffix.up,
        Suffix.down, hcap]
    have hnone : Numeral.stored parts ⟨req.gpuCount < 0, req.gpuCount.natAbs, 0,
        0, by decide, .decimal 0⟩ ≤ 0 := by
      rcases lt_or_eq_of_le (not_lt.mp hpositive) with hnegative | hzero
      · simp only [Numeral.stored, Numeral.signed, hnegative, decide_true,
          if_true]
        omega
      · simp [hzero, Numeral.stored, Numeral.signed, Numeral.num]
    omega

variable {req : CreateJobRequest} {user providerID gpuModel : String} {uid : ℕ}
  {now : ℤ} {pod : Pod K}

theorem quota_memory_iff (hK : K.Documented) (hO : O.Documented parts)
    {memory : K.Quantity} (hmemory : K.parse (podMemoryText req) = some memory) :
    (∃ hard, K.parse req.memoryGB = some hard ∧ O.atMost memory hard = true) ↔
      req.memoryGB ≠ "" ∧ MemoryQuotaFits parts req.memoryGB := by
  by_cases hempty : req.memoryGB = ""
  · have hnone : K.parse "" = none := hK.unreadable "" (by decide)
    simp [hempty, hnone]
  · rw [and_iff_right hempty]
    rw [podMemoryText, if_neg hempty, withGi] at hmemory
    split at hmemory
    · rename_i hunit
      obtain ⟨w, hread, -⟩ := hK.read hmemory
      obtain ⟨hplain, hsuffix⟩ := readNumeral_of_append hread
      obtain ⟨hard, hhard, -⟩ := hK.readable _ _ hplain
      have hcompare := hO.compares _ _ _ _ _ _ hread hplain hmemory hhard
      have hparts := hO.resolution
      rw [Numeral.stored_gibibytes_le_iff (by omega) rfl hsuffix] at hcompare
      simp [MemoryQuotaFits, hunit, hhard, hplain, hcompare]
    · rename_i hunit
      have hfits : MemoryQuotaFits parts req.memoryGB := by
        unfold MemoryQuotaFits
        cases hgi : hasSuffix req.memoryGB "Gi" with
        | true => exact .inl rfl
        | false => exact .inr (.inl (by simpa [hgi] using hunit))
      exact iff_of_true ⟨memory, hmemory, hO.refl hK hmemory⟩ hfits

theorem createResourceQuota_eq_some {cfg : TenantConfig} {quota : ResourceQuota K} :
    createResourceQuota K cfg = some quota ↔
      K.parse (decimal cfg.gpuCount) = some quota.requestsGPU ∧
        quota.limitsGPU = quota.requestsGPU ∧
        K.parse cfg.cpuRequest = some quota.requestsCPU ∧
        K.parse cfg.memoryRequest = some quota.requestsMemory := by
  obtain ⟨requestsGPU, limitsGPU, requestsCPU, requestsMemory⟩ := quota
  simp only [createResourceQuota, Option.bind_eq_bind, Option.bind_eq_some_iff,
    Option.pure_def, Option.some.injEq, ResourceQuota.mk.injEq]
  constructor
  · rintro ⟨gpus, hgpus, cpu, hcpu, memory, hmemory, rfl, rfl, rfl, rfl⟩
    exact ⟨hgpus, rfl, hcpu, hmemory⟩
  · rintro ⟨hgpus, rfl, hcpu, hmemory⟩
    exact ⟨_, hgpus, _, hcpu, _, hmemory, rfl, rfl, rfl, rfl⟩

private theorem createGPUJob_first (huser : user ≠ "" ∧ user ≠ "anonymous")
    (hpod : buildGPUPod K uid user providerID gpuModel req now = some pod) :
    createGPUJob K false uid user providerID gpuModel req now =
      (createResourceQuota K (firstTenantConfig user req)).map
        fun quota => ⟨some quota, pod⟩ := by
  rw [createGPUJob, if_pos ⟨huser.1, huser.2, rfl⟩, hpod]
  cases createResourceQuota K (firstTenantConfig user req) <;> rfl

/--
For every first job of a user whose pod can be built, the quota created for the
user admits the pod exactly when the raw request already carries what the
defaults and units would add.
-/
theorem first_pod_admitted_iff (hK : K.Documented) (hO : O.Documented parts)
    (huser : user ≠ "" ∧ user ≠ "anonymous")
    (hpod : buildGPUPod K uid user providerID gpuModel req now = some pod) :
    FirstPodAdmitted O (createGPUJob K false uid user providerID gpuModel req
      now) ↔ QuotaFits parts req := by
  obtain ⟨-, -, -, hcpu, hmemory, hgpus⟩ := buildGPUPod_eq_some hpod
  rw [FirstPodAdmitted, createGPUJob_first huser hpod]
  constructor
  · rintro ⟨s, quota, hs, hquota, hgpu, -, hcpus, hmem⟩
    obtain ⟨quota', hcreated, rfl⟩ := Option.map_eq_some_iff.mp hs
    cases hquota
    obtain ⟨hhard, -, htext, hbytes⟩ := createResourceQuota_eq_some.mp hcreated
    refine ⟨(quota_gpus_iff hO hK hgpus hhard).mp hgpu, ?_,
      (quota_memory_iff hK hO hmemory).mp ⟨_, hbytes, hmem⟩⟩
    intro hempty
    change K.parse req.cpuCores = _ at htext
    rw [hempty, hK.unreadable "" (by decide)] at htext
    contradiction
  · intro hfits
    obtain ⟨gpus, hhard, -⟩ := hK.readable _ _ (readNumeral_decimal req.gpuCount)
    obtain ⟨memory, hbytes, hmem⟩ :=
      (quota_memory_iff hK hO hmemory).mpr hfits.memory
    rw [podCPUText, if_neg hfits.cpu] at hcpu
    have hgpu := (quota_gpus_iff hO hK hgpus hhard).mpr hfits.gpus
    have hcreated : createResourceQuota K (firstTenantConfig user req) =
        some ⟨gpus, gpus, pod.cpu, memory⟩ :=
      createResourceQuota_eq_some.mpr ⟨hhard, rfl, hcpu, hbytes⟩
    exact ⟨_, _, by rw [hcreated]; rfl, rfl, hgpu, hgpu, hO.refl hK hcpu, hmem⟩

/-! ## Quantities kept in nano-units -/

def writtenOrder : QuantityOrder writtenQuantities where
  atMost q q' := q.2.stored (10 ^ 9) ≤ q'.2.stored (10 ^ 9)

private theorem writtenOrder_documented : writtenOrder.Documented (10 ^ 9) where
  resolution := by decide
  compares s s' w w' q q' hread hread' hparse hparse' := by
    simp only [writtenQuantities, hread, hread', Option.map_some] at hparse hparse'
    cases hparse
    cases hparse'
    simp [writtenOrder]

/-- Eight cores and 16 gibibytes with their unit fit the quota they make. -/
theorem first_pod_admitted_sample :
    FirstPodAdmitted writtenOrder (createGPUJob writtenQuantities false 0
      "alice" "p1" "RTX 4090" ⟨"p1", "", 2, "8", "16Gi", "", 24⟩ 0) := by
  have hbuilt : (buildGPUPod writtenQuantities 0 "alice" "p1" "RTX 4090"
      ⟨"p1", "", 2, "8", "16Gi", "", 24⟩ 0).isSome := by decide
  obtain ⟨pod, hpod⟩ := Option.isSome_iff_exists.mp hbuilt
  exact (first_pod_admitted_iff writtenQuantities_documented
    writtenOrder_documented (by decide) hpod).mpr
    ⟨by decide, by decide, by decide, .inl (by decide)⟩

/-- With the texts left empty the pod is well-formed and the quota panics. -/
theorem first_pod_panics :
    (buildGPUPod writtenQuantities 0 "alice" "p1" "RTX 4090"
      ⟨"p1", "", 1, "", "", "", 24⟩ 0).isSome ∧
    createGPUJob writtenQuantities false 0 "alice" "p1" "RTX 4090"
      ⟨"p1", "", 1, "", "", "", 24⟩ 0 = none :=
  ⟨by decide, rfl⟩

end WorldlandBroker.Job
