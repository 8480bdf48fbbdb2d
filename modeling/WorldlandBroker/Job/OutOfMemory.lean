import WorldlandBroker.Job.Cluster
import WorldlandBroker.Job.Decoders

/-!
# What is advised after memory ran out

Whoever owns a pod that was killed for its memory is advised to take twice its
limit, at least 8 and at most 512 GB.  The printed limit is converted from
gigabytes and megabytes; any other unit counts as unknown, and the advice is
32 GB then.
-/

namespace WorldlandBroker.Job

open Provider

structure QuantityAPI.PrintsZero (K : QuantityAPI) : Prop where
  prints : ∀ q, K.isZero q = true → K.print q = "0"

def Converted (text : String) : Prop :=
  hasSuffix text "Gi" = true ∨ hasSuffix text "Mi" = true

instance (text : String) : Decidable (Converted text) :=
  inferInstanceAs (Decidable (_ ∨ _))

def practicalLimit : ℤ := 512 * 1024 ^ 3

section Advice

variable {K : QuantityAPI}

def Carried (limit : K.Quantity) : Prop :=
  ∃ uid user offered req now p, buildJobPod K uid user offered req now = some p ∧
    p.pod.memory = limit

def Suggested (limit : K.Quantity) (recommended : String) : Prop :=
  ∃ jobID p svc answers suggestion, p.pod.memory = limit ∧
    (jobResponse jobID p svc answers).suggestion = some suggestion ∧
    suggestion.recommendedMemory = recommended

@[simp] theorem memorySuggestion_recommendedMemory (recommended : String) :
    (memorySuggestion recommended).recommendedMemory = recommended :=
  rfl

private theorem recommended_of_suggested {limit : K.Quantity} {recommended : String}
    (h : Suggested limit recommended) :
    recommended = calculateRecommendedMemory (K.print limit) := by
  obtain ⟨jobID, p, svc, answers, suggestion, rfl, hsuggestion, rfl⟩ := h
  unfold jobResponse at hsuggestion
  split at hsuggestion
  · split at hsuggestion
    · cases hsuggestion
    · unfold JobResponse.withFailure at hsuggestion
      split at hsuggestion
      · cases hsuggestion
        rfl
      · split at hsuggestion <;> cases hsuggestion
  · cases hsuggestion

end Advice

/-! ## Twice the limit -/

def doubledGi (bytes : ℤ) : ℤ := min (max (2 * bytes.tdiv (1024 ^ 3)) 8) 512

private theorem doubledGi_monotone {bytes bytes' : ℤ} (h : bytes ≤ bytes') :
    doubledGi bytes ≤ doubledGi bytes' := by
  have hdiv : bytes.tdiv (1024 ^ 3) ≤ bytes'.tdiv (1024 ^ 3) :=
    Int.tdiv_le_tdiv (by decide) h
  unfold doubledGi
  omega

/-- Doubling makes up for what the division drops. -/
theorem le_doubledGi (bytes : ℤ) : min bytes practicalLimit ≤ doubledGi bytes * 1024 ^ 3 := by
  have hsplit := Int.tmod_add_mul_tdiv bytes (1024 ^ 3)
  have hdropped := Int.tmod_lt_of_pos bytes (show (0 : ℤ) < 1024 ^ 3 by decide)
  unfold doubledGi practicalLimit
  omega

/-! ## Printed limits -/

private theorem trimSpace_eq_self {s : String} (hfirst : ∀ c ∈ s.toList.head?, isSpace c = false)
    (hlast : ∀ c ∈ s.toList.reverse.head?, isSpace c = false) : trimSpace s = s := by
  have hkept : ∀ {text : List Char}, (∀ c ∈ text.head?, isSpace c = false) →
      text.dropWhile isSpace = text := by
    intro text htext
    cases text with
    | nil => rfl
    | cons c text => rw [List.dropWhile_cons, htext c rfl, if_neg (by decide)]
  rw [trimSpace, hkept hfirst, hkept hlast, List.reverse_reverse, String.ofList_toList]

theorem trimSpace_printed (n : ℤ) {suffix : String} (hsuffix : suffix ∈ printedSuffixes) :
    trimSpace (decimal n ++ suffix) = decimal n ++ suffix := by
  have hends : ∀ suffix ∈ printedSuffixes,
      suffix.toList.reverse.head?.any isSpace = false := by decide
  obtain ⟨front, c, hdigits, hc⟩ := getLast_decimal n
  apply trimSpace_eq_self
  · intro first hfirst
    rw [String.toList_append, toList_decimal_signed] at hfirst
    obtain ⟨digit, digits, htext, hdigit⟩ := toDigits_eq_cons n.natAbs
    split at hfirst
    · cases hfirst
      decide
    · rw [htext] at hfirst
      cases hfirst
      exact isSpace_of_isDigit hdigit
  · intro last hlast
    rw [String.toList_append, List.reverse_append, hdigits] at hlast
    cases hrest : suffix.toList.reverse with
    | nil =>
        rw [hrest, List.reverse_append] at hlast
        cases hlast
        exact isSpace_of_isDigit hc
    | cons other rest =>
        have hother := hends suffix hsuffix
        rw [hrest] at hlast hother
        cases hlast
        exact hother

/-- The number of gigabytes that is recommended for a printed limit. -/
def recommendedGi (n : ℤ) (suffix : String) : ℤ :=
  if suffix = "Gi" ∨ suffix = "G" then min (max (wrapInt64 (fitted n * 2)) 8) 512
  else if suffix = "Mi" then min (max (wrapInt64 ((fitted n).tdiv 1024 * 2)) 8) 512
  else 32

private theorem recommended_printed (n : ℤ) {suffix : String} (hsuffix : suffix ∈ printedSuffixes) :
    calculateRecommendedMemory (decimal n ++ suffix) =
      decimal (recommendedGi n suffix) ++ "Gi" := by
  have hends : ∀ suffix ∈ printedSuffixes,
      hasSuffix suffix "Gi" = decide (suffix = "Gi") ∧
      hasSuffix suffix "G" = decide (suffix = "G") ∧
      hasSuffix suffix "Mi" = decide (suffix = "Mi") := by decide
  obtain ⟨hgi, hg, hmi⟩ := hends suffix hsuffix
  have hscan := sscanfD_decimal_append n (printedSuffixes_head suffix hsuffix)
  rw [calculateRecommendedMemory, if_neg (decimal_append_ne_empty n suffix),
    trimSpace_printed n hsuffix, currentMemoryGi,
    hasSuffix_decimal_append n suffix (by decide), hasSuffix_decimal_append n suffix (by decide),
    hasSuffix_decimal_append n suffix (by decide), hgi, hg, hmi, hscan, recommendedGi]
  by_cases hgigabytes : suffix = "Gi" ∨ suffix = "G"
  · rcases hgigabytes with rfl | rfl <;> rfl
  · rw [not_or] at hgigabytes
    by_cases hmegabytes : suffix = "Mi"
    · rw [hmegabytes]
      rfl
    · simp only [hgigabytes, hmegabytes, decide_false, if_false, or_self]
      rfl

private theorem recommendedGi_bounds (n : ℤ) (suffix : String) :
    8 ≤ recommendedGi n suffix ∧ recommendedGi n suffix ≤ 512 := by
  unfold recommendedGi
  split
  · omega
  · split <;> omega

theorem converted_printed (n : ℤ) {suffix : String} (hsuffix : suffix ∈ printedSuffixes) :
    Converted (decimal n ++ suffix) ↔ suffix = "Gi" ∨ suffix = "Mi" := by
  have hends : ∀ suffix ∈ printedSuffixes,
      hasSuffix suffix "Gi" = decide (suffix = "Gi") ∧
      hasSuffix suffix "Mi" = decide (suffix = "Mi") := by decide
  obtain ⟨hgi, hmi⟩ := hends suffix hsuffix
  rw [Converted, hasSuffix_decimal_append n suffix (by decide),
    hasSuffix_decimal_append n suffix (by decide), hgi, hmi, decide_eq_true_eq, decide_eq_true_eq]

variable {w : Numeral} {text : String}

theorem value_of_thousandths {bytes : ℕ} (h : w.thousandths = bytes * 1000) :
    w.value = w.signed bytes := by
  have hround : (w.thousandths + 999) / 1000 = bytes := by omega
  rw [w.value_eq_thousandths, hround]

private theorem signed_mul (w : Numeral) (m d : ℕ) : w.signed (m * d) = w.signed m * d := by
  unfold Numeral.signed
  split
  · rw [Nat.cast_mul, Int.neg_mul]
  · rw [Nat.cast_mul]

private theorem signed_range (w : Numeral) (m : ℕ) : -(m : ℤ) ≤ w.signed m ∧ w.signed m ≤ m := by
  unfold Numeral.signed
  split <;> omega

private theorem power_of_converted {power : ℕ} {suffix : String}
    (hsuffix : binarySuffixes[power]? = some suffix) (hunit : suffix = "Gi" ∨ suffix = "Mi") :
    power = 2 ∧ suffix = "Mi" ∨ power = 3 ∧ suffix = "Gi" := by
  have hunits : ∀ power < 7, ∀ suffix ∈ binarySuffixes[power]?, suffix = "Gi" ∨ suffix = "Mi" →
      power = 2 ∧ suffix = "Mi" ∨ power = 3 ∧ suffix = "Gi" := by decide
  exact hunits power (List.getElem?_eq_some_iff.mp hsuffix).1 suffix hsuffix hunit

private theorem recommendedGi_converted {m power : ℕ} {suffix : String}
    (hexact : m * 1024 ^ power * 1000 = w.thousandths)
    (hsuffix : power = 2 ∧ suffix = "Mi" ∨ power = 3 ∧ suffix = "Gi") :
    recommendedGi (w.signed m) suffix = doubledGi w.value := by
  have hcap := w.thousandths_le
  simp only [maxInt64] at hcap
  have hm : m ≤ 2 ^ 43 := by rcases hsuffix with ⟨rfl, -⟩ | ⟨rfl, -⟩ <;> omega
  obtain ⟨hlower, hupper⟩ := signed_range w m
  have hfitted := fitted_signed w (m := m) (by simp only [maxInt64]; omega)
  have hvalue : w.value = w.signed m * (1024 ^ power : ℕ) := by
    rw [value_of_thousandths hexact.symm, signed_mul]
  generalize w.signed m = n at hlower hupper hfitted hvalue ⊢
  rcases hsuffix with ⟨rfl, rfl⟩ | ⟨rfl, rfl⟩
  · have hdiv : w.value.tdiv (1024 ^ 3) = n.tdiv 1024 := by
      rw [hvalue]
      exact Int.mul_tdiv_mul_of_pos_left n 1024 (by decide)
    have hsize := Int.natAbs_tdiv_le_natAbs n 1024
    rw [recommendedGi, if_neg (by decide), if_pos rfl, hfitted, doubledGi, hdiv, mul_comm,
      wrapInt64_of_fits (by omega) (by omega)]
  · have hdiv : w.value.tdiv (1024 ^ 3) = n := by
      rw [hvalue]
      exact Int.mul_tdiv_cancel n (by decide)
    rw [recommendedGi, if_pos (.inl rfl), hfitted, doubledGi, hdiv, mul_comm,
      wrapInt64_of_fits (by omega) (by omega)]

private theorem recommendedGi_unknown (n : ℤ) {suffix : String}
    (h : suffix ≠ "Gi" ∧ suffix ≠ "G" ∧ suffix ≠ "Mi") : recommendedGi n suffix = 32 := by
  rw [recommendedGi, if_neg (by simp [h]), if_neg h.2.2]

/-- Decimal gigabytes are taken for binary ones, which are more. -/
theorem small_le_recommendedGi_decimal {m : ℕ} (hexact : m * 1000 ^ 4 = w.thousandths)
    (hsmall : w.value ≤ 32 * 1024 ^ 3) :
    w.value ≤ recommendedGi (w.signed m) "G" * 1024 ^ 3 := by
  have hcap := w.thousandths_le
  simp only [maxInt64] at hcap
  obtain ⟨hlower, hupper⟩ := signed_range w m
  have hfitted := fitted_signed w (m := m) (by simp only [maxInt64]; omega)
  have hbytes : w.thousandths = m * 1000 ^ 3 * 1000 := by omega
  have hvalue : w.value = w.signed m * (1000 ^ 3 : ℕ) := by
    rw [value_of_thousandths hbytes, signed_mul]
  rw [recommendedGi, if_pos (.inr rfl), hfitted, wrapInt64_of_fits (by omega) (by omega)]
  omega

structure Numeral.Recommended (w : Numeral) (limit : String) (r : ℤ) : Prop where
  text : calculateRecommendedMemory limit = decimal r ++ "Gi"
  bounds : 8 ≤ r ∧ r ≤ 512
  converted : Converted limit → r = doubledGi w.value
  small : w.value ≤ 32 * 1024 ^ 3 → w.value ≤ r * 1024 ^ 3

theorem Numeral.Canonical.recommended (h : w.Canonical text) : ∃ r, w.Recommended text r := by
  cases h with
  | decimal m power suffix hform hexact hlargest hsuffix =>
      have hunits : ∀ suffix ∈ decimalSuffixes ++ exponentSuffixes,
          suffix ≠ "Gi" ∧ suffix ≠ "Mi" := by decide
      have hsuffixes : suffix ∈ decimalSuffixes ++ exponentSuffixes :=
        List.mem_append.mpr (hsuffix.imp List.mem_of_getElem? List.mem_of_getElem?)
      obtain ⟨hgi, hmi⟩ := hunits suffix hsuffixes
      have hprinted : suffix ∈ printedSuffixes := List.mem_append_left _ hsuffixes
      refine ⟨_, recommended_printed _ hprinted, recommendedGi_bounds _ _, ?_, ?_⟩
      · intro hconverted
        rw [converted_printed _ hprinted] at hconverted
        exact absurd hconverted (by simp [hgi, hmi])
      · intro hsmall
        by_cases hg : suffix = "G"
        · have hpowers : ∀ power < 8, decimalSuffixes[power]? = some "G" ∨
              exponentSuffixes[power]? = some "G" → power = 4 := by decide
          rw [hg] at hsuffix ⊢
          have hlarge : power < 8 := hsuffix.elim
            (fun h => (List.getElem?_eq_some_iff.mp h).1)
            (fun h => (List.getElem?_eq_some_iff.mp h).1)
          rw [hpowers power hlarge hsuffix] at hexact
          exact small_le_recommendedGi_decimal hexact hsmall
        · rw [recommendedGi_unknown _ ⟨hgi, hg, hmi⟩]
          exact hsmall
  | binary m power suffix hform hexact hlargest hsuffix =>
      have hunits : ∀ suffix ∈ binarySuffixes, suffix ≠ "G" := by decide
      have hsuffixes := List.mem_of_getElem? hsuffix
      have hprinted : suffix ∈ printedSuffixes := List.mem_append_right _ hsuffixes
      refine ⟨_, recommended_printed _ hprinted, recommendedGi_bounds _ _, ?_, ?_⟩
      · intro hconverted
        rw [converted_printed _ hprinted] at hconverted
        exact recommendedGi_converted hexact (power_of_converted hsuffix hconverted)
      · intro hsmall
        by_cases hunit : suffix = "Gi" ∨ suffix = "Mi"
        · rw [recommendedGi_converted hexact (power_of_converted hsuffix hunit)]
          have hcovers := le_doubledGi w.value
          have hpractical : w.value ≤ practicalLimit := hsmall.trans (by decide)
          rwa [min_eq_left hpractical] at hcovers
        · rw [not_or] at hunit
          rw [recommendedGi_unknown _ ⟨hunit.1, hunits suffix hsuffixes, hunit.2⟩]
          exact hsmall

/-! ## Limits of the job manager's pods -/

section Pods

variable {K : QuantityAPI} {limit : K.Quantity}

theorem recommended_of_carried (hK : K.Documented) (hcanonical : K.Canonical)
    (hzero : K.PrintsZero) (hlimit : Carried limit) :
    ∃ (w : Numeral) (r : ℤ), K.value limit = w.value ∧ w.Recommended (K.print limit) r := by
  obtain ⟨uid, user, offered, req, now, p, hbuilt, rfl⟩ := hlimit
  obtain ⟨pod, hpod, rfl⟩ := Option.map_eq_some_iff.mp hbuilt
  obtain ⟨-, -, -, -, hmemory, -⟩ := buildGPUPod_eq_some hpod
  obtain ⟨w, hread, hvalue, hisZero⟩ := hK.read hmemory
  by_cases hnum : w.num = 0
  · refine ⟨w, 32, hvalue, ?_⟩
    rw [hzero.prints pod.memory (hisZero.mpr hnum)]
    exact ⟨by decide, by decide, fun h => absurd h (by decide), id⟩
  · obtain ⟨r, hrecommended⟩ := (hcanonical.prints _ w _ hread hmemory hnum).recommended
    exact ⟨w, r, hvalue, hrecommended⟩

theorem parse_gibibytes (hK : K.Documented) {r : ℤ} (h : 8 ≤ r ∧ r ≤ 512) :
    ∃ advice, K.parse (decimal r ++ "Gi") = some advice ∧ K.value advice = r * 1024 ^ 3 := by
  have hunit : "Gi".toList = ['G', 'i'] := rfl
  have hread := readNumeral_decimal_append r hunit (by decide) (by decide) rfl
  obtain ⟨advice, hparse, hvalue, -⟩ := hK.readable _ _ hread
  refine ⟨advice, hparse, hvalue.trans ?_⟩
  have hsign : decide (r < 0) = false := decide_eq_false (by omega)
  simp only [Numeral.value, Numeral.num, Numeral.den, Numeral.signed, Suffix.up, Suffix.down,
    hsign, pow_zero, mul_one, add_zero, ceilDiv_one, maxInt64]
  rw [if_neg (by decide)]
  omega

/--
Whatever limit a pod has, the advice about it is a quantity.  It covers the
limit up to what is practical, where the unit is converted or 32 GB are enough;
among converted limits it grows with the limit.
-/
theorem advice_keeps_up (hK : K.Documented) (hcanonical : K.Canonical) (hzero : K.PrintsZero) :
    (∀ (limit : K.Quantity) recommended, Carried limit → Suggested limit recommended →
      ∃ advice, K.parse recommended = some advice ∧
        (Converted (K.print limit) ∨ K.value limit ≤ 32 * 1024 ^ 3 →
          min (K.value limit) practicalLimit ≤ K.value advice)) ∧
    ∀ (limit larger : K.Quantity) recommended recommended' advice advice',
      Carried limit → Carried larger →
      Suggested limit recommended → Suggested larger recommended' →
      Converted (K.print limit) → Converted (K.print larger) →
      K.value limit ≤ K.value larger →
      K.parse recommended = some advice → K.parse recommended' = some advice' →
      K.value advice ≤ K.value advice' := by
  constructor
  · intro limit recommended hlimit hsuggested
    obtain ⟨w, r, hvalue, hr⟩ := recommended_of_carried hK hcanonical hzero hlimit
    obtain ⟨advice, hparse, hadvice⟩ := parse_gibibytes hK hr.bounds
    rw [recommended_of_suggested hsuggested, hr.text, hvalue]
    refine ⟨advice, hparse, ?_⟩
    rw [hadvice]
    rintro (hconverted | hsmall)
    · rw [hr.converted hconverted]
      exact le_doubledGi w.value
    · exact (min_le_left _ _).trans (hr.small hsmall)
  · intro limit larger recommended recommended' advice advice' hlimit hlarger hsuggested
      hsuggested' hconverted hconverted' hle hparse hparse'
    obtain ⟨w, r, hvalue, hr⟩ := recommended_of_carried hK hcanonical hzero hlimit
    obtain ⟨w', r', hvalue', hr'⟩ := recommended_of_carried hK hcanonical hzero hlarger
    obtain ⟨read, hread, hadvice⟩ := parse_gibibytes hK hr.bounds
    obtain ⟨read', hread', hadvice'⟩ := parse_gibibytes hK hr'.bounds
    rw [recommended_of_suggested hsuggested, hr.text, hread] at hparse
    rw [recommended_of_suggested hsuggested', hr'.text, hread'] at hparse'
    cases hparse
    cases hparse'
    rw [hvalue, hvalue'] at hle
    rw [hadvice, hadvice', hr.converted hconverted, hr'.converted hconverted']
    exact Int.mul_le_mul_of_nonneg_right (doubledGi_monotone hle) (by decide)

end Pods

/-! ## Two pods that are killed -/

private theorem suggestion_of_killed {K : QuantityAPI} {p : JobPod K} {t : Terminated}
    (jobID : String)
    (svc : Service) (answers : ReadAnswers) (hphase : p.pod.phase = "Failed")
    (hfirst : p.containerStatuses.findSome? id = some t) (hreason : t.reason = "OOMKilled") :
    (jobResponse jobID p svc answers).suggestion =
      some (memorySuggestion (calculateRecommendedMemory (K.print p.pod.memory))) := by
  simp only [jobResponse, JobResponse.withFailure, if_pos hphase, hfirst, if_pos hreason]

private theorem suggested_of_carried {K : QuantityAPI} {limit : K.Quantity} (h : Carried limit) :
    Suggested limit (calculateRecommendedMemory (K.print limit)) := by
  obtain ⟨uid, user, offered, req, now, p, -, rfl⟩ := h
  have hsuggestion := suggestion_of_killed "" ⟨"", [], ""⟩
    ⟨true, fun _ => true, fun _ => true, fun _ => none⟩
    (p := { p with
      pod := { p.pod with phase := "Failed" }
      containerStatuses := [some ⟨"OOMKilled", 137, ""⟩] }) rfl rfl rfl
  refine ⟨_, _, _, _, _, ?_, hsuggestion, ?_⟩
  · rfl
  · exact memorySuggestion_recommendedMemory _

private theorem canonicalText_zero {w : Numeral} (hnum : w.num = 0) : w.canonicalText = "0" := by
  have hthousandths := w.thousandths_eq_zero.mpr hnum
  have hform : ¬ w.PrintsBinary := fun h => by
    have hlarge := h.2.2
    omega
  have hstripped : stripFactor 1000 8 0 = (0, 8) := by decide
  have hsigned : w.signed 0 = 0 := by
    unfold Numeral.signed
    split <;> rfl
  rw [Numeral.canonicalText, if_neg hform, hthousandths, hstripped]
  simp only [hsigned]
  decide

theorem canonicalQuantities_printsZero : canonicalQuantities.PrintsZero where
  prints _ hzero := canonicalText_zero (beq_iff_eq.mp hzero)

def memoryPod (memoryGB : String) : Option (JobPod canonicalQuantities) :=
  buildJobPod canonicalQuantities 0 "alice" ⟨"p1", "RTX 4090", "0.50", ""⟩
    ⟨"p1", "", 1, "8", memoryGB, "", 24⟩ 0

private theorem carried_of_memoryPod (memoryGB text : String) (bytes : ℤ)
    (h : (memoryPod memoryGB).any (fun p => canonicalQuantities.print p.pod.memory = text ∧
      canonicalQuantities.value p.pod.memory = bytes) = true) :
    ∃ limit : Numeral, Carried (K := canonicalQuantities) limit ∧
      canonicalQuantities.print limit = text ∧ canonicalQuantities.value limit = bytes := by
  obtain ⟨p, hp, hlimit⟩ := (Option.any_eq_true _ _).mp h
  obtain ⟨hprint, hvalue⟩ := of_decide_eq_true hlimit
  exact ⟨p.pod.memory, ⟨_, _, _, _, _, p, hp, rfl⟩, hprint, hvalue⟩

/-- 16 GB run out and 32 are advised, which is no more than what 300 GB are answered with. -/
theorem advice_keeps_up_sample :
    ∃ limit larger advice advice' : Numeral,
      Carried (K := canonicalQuantities) limit ∧ Carried (K := canonicalQuantities) larger ∧
      Suggested (K := canonicalQuantities) limit "32Gi" ∧
      Suggested (K := canonicalQuantities) larger "512Gi" ∧
      canonicalQuantities.parse "32Gi" = some advice ∧
      canonicalQuantities.parse "512Gi" = some advice' ∧
      limit.value = 16 * 1024 ^ 3 ∧ larger.value = 300 * 1024 ^ 3 ∧
      limit.value ≤ advice.value ∧ advice.value ≤ advice'.value := by
  obtain ⟨limit, hcarried, hprint, hvalue⟩ := carried_of_memoryPod "16" "16Gi"
    (16 * 1024 ^ 3) (by decide +kernel)
  obtain ⟨larger, hcarried', hprint', hvalue'⟩ := carried_of_memoryPod "300" "300Gi"
    (300 * 1024 ^ 3) (by decide +kernel)
  have hsuggested := suggested_of_carried hcarried
  have hsuggested' := suggested_of_carried hcarried'
  have htext : calculateRecommendedMemory "16Gi" = "32Gi" := by decide
  have htext' : calculateRecommendedMemory "300Gi" = "512Gi" := by decide
  rw [hprint, htext] at hsuggested
  rw [hprint', htext'] at hsuggested'
  obtain ⟨hcovers, hgrows⟩ := advice_keeps_up canonicalQuantities_documented
    canonicalQuantities_canonical canonicalQuantities_printsZero
  obtain ⟨advice, hparse, hcovered⟩ := hcovers _ _ hcarried hsuggested
  obtain ⟨advice', hparse', -⟩ := hcovers _ _ hcarried' hsuggested'
  have hconverted : Converted (canonicalQuantities.print limit) := by
    rw [hprint]
    decide
  have hconverted' : Converted (canonicalQuantities.print larger) := by
    rw [hprint']
    decide
  have hle : canonicalQuantities.value limit ≤ canonicalQuantities.value larger := by
    rw [hvalue, hvalue']
    decide
  have hmost := hcovered (.inl hconverted)
  rw [min_eq_left (by rw [hvalue]; decide)] at hmost
  exact ⟨limit, larger, advice, advice', hcarried, hcarried', hsuggested, hsuggested', hparse,
    hparse', hvalue, hvalue', hmost, hgrows _ _ _ _ _ _ hcarried hcarried' hsuggested
      hsuggested' hconverted hconverted' hle hparse hparse'⟩

/-- 600 GB run out and 512 are advised. -/
theorem advice_below_limit :
    ∃ limit advice : Numeral, Carried (K := canonicalQuantities) limit ∧
      canonicalQuantities.print limit = "600Gi" ∧
      Suggested (K := canonicalQuantities) limit "512Gi" ∧
      canonicalQuantities.parse "512Gi" = some advice ∧ advice.value < limit.value := by
  obtain ⟨limit, hcarried, hprint, hvalue⟩ := carried_of_memoryPod "600" "600Gi"
    (600 * 1024 ^ 3) (by decide +kernel)
  have hsuggested := suggested_of_carried hcarried
  have htext : calculateRecommendedMemory "600Gi" = "512Gi" := by decide
  rw [hprint, htext] at hsuggested
  obtain ⟨advice, hparse, hadvice⟩ := parse_gibibytes canonicalQuantities_documented
    (r := 512) (by decide)
  have hbelow : canonicalQuantities.value advice < canonicalQuantities.value limit := by
    rw [hadvice, hvalue]
    decide
  exact ⟨limit, advice, hcarried, hprint, hsuggested, hparse, hbelow⟩

/-- Whole tebibytes print in a unit that is not converted. -/
example : calculateRecommendedMemory "1Ti" = "32Gi" := by decide

end WorldlandBroker.Job
