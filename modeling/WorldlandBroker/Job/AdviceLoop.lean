import WorldlandBroker.Job.OutOfMemory

/-!
# Following the advice

A user whose job is killed for its memory asks again for what is advised.  From the
first advice on the limit of the pod that the manager builds doubles, up to 512 GB.
Whether such a pod is let in is another matter: the checks of a request, the ledger
and the quota of the namespace, which keeps the memory of the first request, are all
left out here.
-/

namespace WorldlandBroker.Job

open Provider

variable {K : QuantityAPI}

def askAgain (req : CreateJobRequest) (p : JobPod K) : CreateJobRequest :=
  { req with memoryGB := calculateRecommendedMemory (K.print p.pod.memory) }

/-- The pods built for one request and for those that follow the advice about the pod before. -/
def attempt (K : QuantityAPI) (user : String) (offered : ℕ → Offered) (uid : ℕ → ℕ)
    (now : ℕ → ℤ) (req : CreateJobRequest) : ℕ → Option (JobPod K)
  | 0 => buildJobPod K (uid 0) user (offered 0) req (now 0)
  | n + 1 => do
      let p ← attempt K user offered uid now req n
      buildJobPod K (uid (n + 1)) user (offered (n + 1)) (askAgain req p) (now (n + 1))

/-! ## One advice -/

private theorem buildGPUPod_of_parsed {req : CreateJobRequest}
    {cpu memory gpus storage : K.Quantity}
    (hcpu : K.parse (podCPUText req) = some cpu) (hmemory : K.parse (podMemoryText req) = some memory)
    (hgpus : K.parse (podGPUText req) = some gpus)
    (hstorage : K.parse (podStorageText req) = some storage) (uid : ℕ)
    (user providerID gpuModel : String) (now : ℤ) :
    ∃ pod, buildGPUPod K uid user providerID gpuModel req now = some pod ∧
      pod.memory = memory := by
  simp only [buildGPUPod, hcpu, hmemory, hgpus, hstorage]
  exact ⟨_, rfl, rfl⟩

/-- The rest of a request parses as before, so the next pod is built as well. -/
theorem built_again {uid : ℕ} {user : String} {offered : Offered} {req : CreateJobRequest}
    {now : ℤ} {p : JobPod K} {text : String} {limit : K.Quantity}
    (hbuilt : buildJobPod K uid user offered req now = some p) (htext : text ≠ "")
    (hgi : hasSuffix text "Gi" = true) (hparse : K.parse text = some limit) (uid' : ℕ)
    (offered' : Offered) (now' : ℤ) :
    ∃ q, buildJobPod K uid' user offered' { req with memoryGB := text } now' = some q ∧
      q.pod.memory = limit := by
  obtain ⟨pod, hpod, -⟩ := Option.map_eq_some_iff.mp hbuilt
  have hmemory : podMemoryText { req with memoryGB := text } = text := by
    rw [podMemoryText, if_neg htext, withGi, if_neg (by simp [hgi])]
  unfold buildGPUPod at hpod
  split at hpod
  · rename_i cpu memory gpus storage hcpu _ hgpus hstorage
    have hcpu' : K.parse (podCPUText { req with memoryGB := text }) = some cpu := hcpu
    obtain ⟨next, hnext, hlimit⟩ := buildGPUPod_of_parsed hcpu' (by rw [hmemory, hparse]) hgpus
      hstorage uid' user offered'.providerID offered'.gpuModel now'
    exact ⟨_, Option.map_eq_some_iff.mpr ⟨next, hnext, rfl⟩, hlimit⟩
  · cases hpod

private theorem mantissa_of_gibibytes {m power r : ℕ} (hr : 0 < r ∧ r < 1024)
    (hexact : m * 1024 ^ power = r * 1024 ^ 3) (hlargest : ¬ 1024 ∣ m) : power = 3 := by
  rcases Nat.lt_trichotomy power 3 with hless | heq | hmore
  · exfalso
    apply hlargest
    obtain rfl | rfl | rfl : power = 0 ∨ power = 1 ∨ power = 2 := by omega
    all_goals omega
  · exact heq
  · exfalso
    obtain ⟨d, rfl⟩ : ∃ d, power = d + 1 + 3 := ⟨power - 4, by omega⟩
    have hcancel : m * 1024 ^ (d + 1) = r := by
      rw [pow_add _ (d + 1) 3, ← Nat.mul_assoc] at hexact
      exact Nat.eq_of_mul_eq_mul_right (Nat.pow_pos (by decide)) hexact
    have hm : 0 < m := by
      by_contra hzero
      rw [Nat.eq_zero_of_not_pos hzero, Nat.zero_mul] at hcancel
      omega
    have hlarge : 1024 ≤ m * 1024 ^ (d + 1) := by
      rw [pow_succ, ← Nat.mul_assoc]
      exact Nat.le_mul_of_pos_left _ (Nat.mul_pos hm (Nat.pow_pos (by decide)))
    omega

def gibibytes (n : ℕ) : Numeral := ⟨false, n, 0, 0, by decide, .binary 3⟩

private theorem readNumeral_gibibytes (n : ℕ) :
    readNumeral (decimal n ++ "Gi") = some (gibibytes n) := by
  have hunit : "Gi".toList = ['G', 'i'] := rfl
  have hsign : decide ((n : ℤ) < 0) = false := decide_eq_false (by omega)
  have hread := readNumeral_decimal_append (n : ℤ) hunit (by decide) (by decide) rfl
  rw [hread, hsign]
  rfl

private theorem gibibytes_num (n : ℕ) : (gibibytes n).num = n * 1024 ^ 3 := by
  simp [Numeral.num, gibibytes, Suffix.up]

private theorem gibibytes_thousandths {n : ℕ} (hn : n < 1024) :
    (gibibytes n).thousandths = n * 1024 ^ 3 * 1000 := by
  have hden : (gibibytes n).den = 1 := rfl
  rw [Numeral.thousandths, gibibytes_num, hden, ceilDiv_one, maxInt64]
  omega

private theorem gibibytes_value {n : ℕ} (hn : n < 1024) : (gibibytes n).value = n * 1024 ^ 3 := by
  rw [value_of_thousandths (gibibytes_thousandths hn)]
  simp [Numeral.signed, gibibytes]

private theorem converted_gibibytes {n : ℕ} (hn : 0 < n ∧ n < 1024) {text : String}
    (h : (gibibytes n).Canonical text) : Converted text := by
  have hbytes := gibibytes_thousandths hn.2
  have hbinary : (gibibytes n).PrintsBinary := by
    refine ⟨rfl, ?_, ?_⟩
    · rw [hbytes]
      exact Nat.dvd_mul_left _ _
    · omega
  cases h with
  | decimal m power suffix hform => exact absurd hbinary hform
  | binary m power suffix hform hexact hlargest hsuffix =>
      rw [hbytes] at hexact
      have hpower := mantissa_of_gibibytes hn (Nat.eq_of_mul_eq_mul_right (by decide) hexact)
        hlargest
      subst hpower
      cases hsuffix
      rw [converted_printed _ (by decide)]
      exact .inl rfl

private theorem recommended_gibibytes (hK : K.Documented) (hcanonical : K.Canonical) {n : ℕ}
    (hn : 8 ≤ n ∧ n ≤ 512) {limit : K.Quantity}
    (hparse : K.parse (decimal n ++ "Gi") = some limit) :
    K.value limit = n * 1024 ^ 3 ∧
      calculateRecommendedMemory (K.print limit) = decimal (min (2 * n) 512 : ℕ) ++ "Gi" := by
  have hsmall : n < 1024 := by omega
  obtain ⟨w, hread, hvalue, -⟩ := hK.read hparse
  rw [readNumeral_gibibytes] at hread
  cases hread
  have hnum : (gibibytes n).num ≠ 0 := by
    rw [gibibytes_num]
    omega
  have hprinted := hcanonical.prints _ _ limit (readNumeral_gibibytes n) hparse hnum
  obtain ⟨r, htext, -, hconverted, -⟩ := hprinted.recommended
  rw [gibibytes_value hsmall] at hvalue hconverted
  have hr := hconverted (converted_gibibytes ⟨by omega, hsmall⟩ hprinted)
  have hgigabytes : ((n : ℤ) * 1024 ^ 3).tdiv (1024 ^ 3) = (n : ℤ) :=
    Int.mul_tdiv_cancel (n : ℤ) (by decide)
  rw [doubledGi, hgigabytes] at hr
  refine ⟨hvalue, ?_⟩
  rw [htext, hr]
  congr 2
  omega

/-! ## The whole sequence -/

variable {user : String} {offered : ℕ → Offered} {uid : ℕ → ℕ} {now : ℕ → ℤ}
  {req : CreateJobRequest} {p : JobPod K}

private theorem attempt_built {n : ℕ} (h : attempt K user offered uid now req n = some p) :
    ∃ memoryGB, buildJobPod K (uid n) user (offered n) { req with memoryGB := memoryGB } (now n) =
      some p := by
  cases n with
  | zero => exact ⟨req.memoryGB, h⟩
  | succ n =>
      obtain ⟨before, -, hbuilt⟩ := Option.bind_eq_some_iff.mp h
      exact ⟨_, hbuilt⟩

private theorem attempt_succ (hK : K.Documented) (hcanonical : K.Canonical) {n r : ℕ}
    (hr : 8 ≤ r ∧ r ≤ 512) (hattempt : attempt K user offered uid now req n = some p)
    (hadvice : calculateRecommendedMemory (K.print p.pod.memory) = decimal r ++ "Gi") :
    ∃ q, attempt K user offered uid now req (n + 1) = some q ∧
      K.value q.pod.memory = r * 1024 ^ 3 ∧
      calculateRecommendedMemory (K.print q.pod.memory) =
        decimal (min (2 * r) 512 : ℕ) ++ "Gi" := by
  obtain ⟨limit, hparse, -⟩ := parse_gibibytes hK (r := r) (by omega)
  obtain ⟨hvalue, hdoubled⟩ := recommended_gibibytes hK hcanonical hr hparse
  have hgi : hasSuffix (decimal r ++ "Gi") "Gi" = true := by
    rw [hasSuffix_decimal_append _ _ (by decide)]
    rfl
  obtain ⟨memoryGB, hbuilt⟩ := attempt_built hattempt
  obtain ⟨q, hq, rfl⟩ := built_again hbuilt (decimal_append_ne_empty r "Gi") hgi hparse
    (uid (n + 1)) (offered (n + 1)) (now (n + 1))
  refine ⟨q, ?_, hvalue, hdoubled⟩
  rw [attempt, hattempt]
  change buildJobPod K _ user _ { req with
    memoryGB := calculateRecommendedMemory (K.print p.pod.memory) } _ = some q
  rw [hadvice]
  exact hq

private theorem attempt_doubles (hK : K.Documented) (hcanonical : K.Canonical) {r : ℕ}
    (hr : 8 ≤ r ∧ r ≤ 512) (hfirst : attempt K user offered uid now req 0 = some p)
    (hadvice : calculateRecommendedMemory (K.print p.pod.memory) = decimal r ++ "Gi") (n : ℕ) :
    ∃ q, attempt K user offered uid now req (n + 1) = some q ∧
      K.value q.pod.memory = (min (r * 2 ^ n) 512 : ℕ) * 1024 ^ 3 ∧
      calculateRecommendedMemory (K.print q.pod.memory) =
        decimal (min (r * 2 ^ (n + 1)) 512 : ℕ) ++ "Gi" := by
  induction n with
  | zero =>
      have hone : min (r * 2 ^ 0) 512 = r := by omega
      have htwo : min (2 * r) 512 = min (r * 2 ^ (0 + 1)) 512 := by omega
      rw [hone, ← htwo]
      exact attempt_succ hK hcanonical hr hfirst hadvice
  | succ n ih =>
      obtain ⟨q, hq, -, hnext⟩ := ih
      have hpositive : 0 < 2 ^ (n + 1) := Nat.pow_pos (by decide)
      have hgrows : r ≤ r * 2 ^ (n + 1) := Nat.le_mul_of_pos_right r hpositive
      have hpower : r * 2 ^ (n + 2) = 2 * (r * 2 ^ (n + 1)) := by
        rw [pow_succ, Nat.mul_comm _ 2, Nat.mul_left_comm]
      have htwo : min (2 * min (r * 2 ^ (n + 1)) 512) 512 = min (r * 2 ^ (n + 2)) 512 := by
        omega
      rw [← htwo]
      exact attempt_succ hK hcanonical (by omega) hq hnext

/--
If the pod of the first request can be built then so can each that follows the advice.
The first advised pod has 8 to 512 GB, every later one twice the memory of the one
before it until it has 512 GB, which the seventh has in any case.
-/
theorem advised_pods_double (hK : K.Documented) (hcanonical : K.Canonical) (hzero : K.PrintsZero)
    (hfirst : attempt K user offered uid now req 0 = some p) :
    (∃ r : ℕ, 8 ≤ r ∧ r ≤ 512 ∧ ∀ n, ∃ q, attempt K user offered uid now req (n + 1) = some q ∧
      K.value q.pod.memory = (min (r * 2 ^ n) 512 : ℕ) * 1024 ^ 3) ∧
    ∀ need ≤ practicalLimit, ∃ q, attempt K user offered uid now req 7 = some q ∧
      need ≤ K.value q.pod.memory := by
  have hcarried : Carried p.pod.memory := ⟨_, _, _, _, _, p, hfirst, rfl⟩
  obtain ⟨w, advised, -, hadvised⟩ := recommended_of_carried hK hcanonical hzero hcarried
  obtain ⟨r, rfl⟩ := Int.eq_ofNat_of_zero_le (show 0 ≤ advised by have := hadvised.bounds; omega)
  have hr : 8 ≤ r ∧ r ≤ 512 := by
    have hbounds := hadvised.bounds
    omega
  have hdoubles := attempt_doubles hK hcanonical hr hfirst hadvised.text
  constructor
  · refine ⟨r, hr.1, hr.2, fun n => ?_⟩
    obtain ⟨q, hq, hvalue, -⟩ := hdoubles n
    exact ⟨q, hq, hvalue⟩
  · intro need hneed
    obtain ⟨q, hq, hvalue, -⟩ := hdoubles 6
    refine ⟨q, hq, hneed.trans ?_⟩
    have hcap : min (r * 2 ^ 6) 512 = 512 := by omega
    rw [hvalue, hcap]
    exact le_refl _

/-! ## From ten gigabytes -/

def tenGigabytes : CreateJobRequest := ⟨"p1", "", 1, "8", "10Gi", "", 24⟩

/-- The advice is 20 GB, 40 and so on: the seventh pod has more than 300 GB. -/
theorem advised_pods_double_sample :
    ∃ q, attempt canonicalQuantities "alice" (fun _ => ⟨"p1", "RTX 4090", "0.50", ""⟩) id
        (fun n => n) tenGigabytes 7 = some q ∧
      300 * 1024 ^ 3 ≤ canonicalQuantities.value q.pod.memory := by
  have hfirst : (attempt canonicalQuantities "alice" (fun _ => ⟨"p1", "RTX 4090", "0.50", ""⟩) id
      (fun n => n) tenGigabytes 0).isSome = true := by decide
  obtain ⟨p, hp⟩ := Option.isSome_iff_exists.mp hfirst
  exact (advised_pods_double canonicalQuantities_documented canonicalQuantities_canonical
    canonicalQuantities_printsZero hp).2 _ (by decide)

end WorldlandBroker.Job
