import WorldlandBroker.Job.Canonical

/-!
# Two ways to read a pod's resources back

`DeleteJob` parses the canonical texts of a pod's quantities, the watcher and the
sweeper compute with their values.  Where the two agree depends on the number of
thousandths, and in the end on how a number of megabytes wraps.
-/

namespace WorldlandBroker.Job

open Provider

namespace Numeral

def PrintsWhole (w : Numeral) : Prop :=
  1000 ∣ w.thousandths ∧
    if w.PrintsBinary then ¬ 1024 * 1000 ∣ w.thousandths else ¬ 1000 * 1000 ∣ w.thousandths

instance (w : Numeral) : Decidable w.PrintsWhole :=
  inferInstanceAs (Decidable (_ ∧ _))

/-- At most a thousandth, fewer than 1000 whole cores, or a negative whole number. -/
def CPUAgrees (w : Numeral) : Prop :=
  w.thousandths ≤ 1 ∨
    (w.negative = false ∧ 1000 ∣ w.thousandths ∧ w.thousandths < 1000 * 1000) ∨
    (w.negative = true ∧ w.PrintsWhole)

def WrapsBack (w : Numeral) : Prop :=
  (∃ r, 1 ≤ r ∧ r ≤ 7 ∧ w.thousandths = r * (2 ^ 60 + 2 ^ 30 + 1) * 1000) ∨
    ∃ r, 1 ≤ r ∧ r ≤ 4 ∧ w.thousandths = r * (125 * 2 ^ 54 + 2 ^ 21)

/-- Whole mebibytes that are no whole tebibytes, apart from nothing and from wrapping. -/
def MemoryAgrees (w : Numeral) : Prop :=
  w.thousandths = 0 ∨
    (2 ^ 20 * 1000 ∣ w.thousandths ∧ ¬ 2 ^ 40 * 1000 ∣ w.thousandths) ∨ w.WrapsBack

end Numeral

variable {w : Numeral} {text : String}

/-! ## Numbers that fit -/

theorem inInt64_iff (n : ℤ) : inInt64 n = true ↔ -2 ^ 63 ≤ n ∧ n < 2 ^ 63 := by
  rw [inInt64, Bool.and_eq_true, decide_eq_true_eq, decide_eq_true_eq]

theorem Numeral.signed_of_nonneg (hsign : w.negative = false) (m : ℕ) : w.signed m = m := by
  simp [Numeral.signed, hsign]

theorem Numeral.signed_of_negative (hsign : w.negative = true) (m : ℕ) :
    w.signed m = -m := by
  simp [Numeral.signed, hsign]

theorem fitted_signed (w : Numeral) {m : ℕ} (hm : m ≤ maxInt64) :
    fitted (w.signed m) = w.signed m := by
  simp only [maxInt64] at hm
  rw [fitted, if_pos]
  rw [inInt64_iff]
  cases hsign : w.negative with
  | false =>
      rw [w.signed_of_nonneg hsign]
      omega
  | true =>
      rw [w.signed_of_negative hsign]
      omega

private theorem fitted_overflow (w : Numeral) {m : ℕ} (hm : maxInt64 < m) :
    fitted (w.signed m) = 0 ∨ fitted (w.signed m) = -2 ^ 63 := by
  simp only [maxInt64] at hm
  by_cases hfits : inInt64 (w.signed m) = true
  · right
    rw [fitted, if_pos hfits]
    rw [inInt64_iff] at hfits
    cases hsign : w.negative with
    | false =>
        rw [w.signed_of_nonneg hsign] at hfits
        omega
    | true =>
        rw [w.signed_of_negative hsign] at hfits ⊢
        omega
  · exact .inl (if_neg hfits)

/-! ## The mantissa of a canonical text -/

inductive Numeral.Mantissa (w : Numeral) (m : ℕ) : Prop where
  | milli (hparts : ¬ 1000 ∣ w.thousandths) (hm : w.thousandths = m)
  | whole (hwhole : w.PrintsWhole) (hm : w.thousandths = m * 1000)
  | scaled (hparts : 1000 ∣ w.thousandths) (hsuffixed : ¬ w.PrintsWhole)
      (hm : m * (1000 * 1000) ≤ w.thousandths)

private theorem mem_of_getElem?_suffixes {suffixes : List String} {power : ℕ} {suffix : String}
    (h : suffixes[power]? = some suffix) (hsub : suffixes ⊆ printedSuffixes) :
    suffix ∈ printedSuffixes :=
  hsub (List.mem_of_getElem? h)

theorem Numeral.Canonical.mantissa (h : w.Canonical text) (hpositive : 0 < w.thousandths) :
    ∃ (m : ℕ) (suffix : String), text = Provider.decimal (w.signed m) ++ suffix ∧
      suffix ∈ printedSuffixes ∧ 0 < m ∧ w.Mantissa m := by
  cases h with
  | decimal m power suffix hform hexact hlargest hsuffix =>
      have hm : 0 < m := Nat.pos_of_ne_zero fun hzero => hlargest (hzero ▸ dvd_zero 1000)
      refine ⟨m, suffix, rfl, ?_, hm, ?_⟩
      · rcases hsuffix with hsuffix | hsuffix
        · exact mem_of_getElem?_suffixes hsuffix (by decide)
        · exact mem_of_getElem?_suffixes hsuffix (by decide)
      · match power with
        | 0 =>
            rw [pow_zero, mul_one] at hexact
            exact .milli (hexact ▸ hlargest) hexact.symm
        | 1 =>
            refine .whole ⟨⟨m, by omega⟩, ?_⟩ (by omega)
            rw [if_neg hform]
            omega
        | power + 2 =>
            have hscale : 0 < 1000 ^ power := Nat.pow_pos (by decide)
            have hsplit : w.thousandths = m * 1000 ^ power * (1000 * 1000) := by
              rw [← hexact, pow_add]
              ring
            have hgrows : m ≤ m * 1000 ^ power := Nat.le_mul_of_pos_right m hscale
            generalize m * 1000 ^ power = scaled at hsplit hgrows
            refine .scaled ⟨scaled * 1000, by omega⟩ ?_ (by omega)
            rintro ⟨-, hplain⟩
            rw [if_neg hform] at hplain
            exact hplain ⟨scaled, by omega⟩
  | binary m power suffix hform hexact hlargest hsuffix =>
      have hm : 0 < m := Nat.pos_of_ne_zero fun hzero => hlargest (hzero ▸ dvd_zero 1024)
      refine ⟨m, suffix, rfl, mem_of_getElem?_suffixes hsuffix (by decide), hm, ?_⟩
      cases power with
      | zero =>
          rw [pow_zero, mul_one] at hexact
          refine .whole ⟨⟨m, by omega⟩, ?_⟩ hexact.symm
          rw [if_pos hform]
          omega
      | succ power =>
          have hscale : 0 < 1024 ^ power := Nat.pow_pos (by decide)
          have hsplit : w.thousandths = m * 1024 ^ power * (1024 * 1000) := by
            rw [← hexact, pow_succ]
            ring
          have hgrows : m ≤ m * 1024 ^ power := Nat.le_mul_of_pos_right m hscale
          generalize m * 1024 ^ power = scaled at hsplit hgrows
          refine .scaled ⟨scaled * 1024, by omega⟩ ?_ (by omega)
          rintro ⟨-, hplain⟩
          rw [if_pos hform] at hplain
          exact hplain ⟨scaled, by omega⟩

/-! ## CPU -/

theorem coresRead_nonneg (hsign : w.negative = false) {m : ℕ} (hm : m ≤ maxInt64) :
    coresRead (w.signed m) = if 1000 ≤ m then m / 1000 else m := by
  rw [coresRead, fitted_signed w hm, w.signed_of_nonneg hsign]
  split
  · rw [if_pos (by omega), Int.tdiv_eq_ediv_of_nonneg (by omega)]
    rfl
  · rw [if_neg (by omega)]

theorem coresRead_negative (hsign : w.negative = true) {m : ℕ} (hm : m ≤ maxInt64) :
    coresRead (w.signed m) = -m := by
  rw [coresRead, fitted_signed w hm, w.signed_of_negative hsign, if_neg (by omega)]

private theorem coresRead_overflow (w : Numeral) {m : ℕ} (hm : maxInt64 < m) :
    coresRead (w.signed m) = 0 ∨ coresRead (w.signed m) = -2 ^ 63 := by
  unfold coresRead
  rcases fitted_overflow w hm with hnone | hleast
  · rw [hnone]
    exact .inl rfl
  · rw [hleast]
    exact .inr rfl

theorem cores_nonneg_iff (hsign : w.negative = false) {m : ℕ} (hm : 0 < m)
    (hmantissa : w.Mantissa m) :
    coresRead (w.signed m) = w.value ↔
      w.thousandths ≤ 1 ∨ 1000 ∣ w.thousandths ∧ w.thousandths < 1000 * 1000 := by
  have hcap := w.thousandths_le
  rw [w.value_eq_thousandths, w.signed_of_nonneg hsign ((w.thousandths + 999) / 1000)]
  by_cases hfits : m ≤ maxInt64
  · rw [coresRead_nonneg hsign hfits]
    cases hmantissa with
    | milli hparts hm => split <;> omega
    | whole hwhole hm => split <;> omega
    | scaled hparts hsuffixed hm => split <;> omega
  · simp only [maxInt64] at hcap hfits
    cases hmantissa with
    | milli hparts hm =>
        rcases coresRead_overflow w (m := m) (by simp only [maxInt64]; omega) with hread | hread
        · rw [hread]
          omega
        · rw [hread]
          omega
    | whole hwhole hm => omega
    | scaled hparts hsuffixed hm => omega

theorem cores_negative_iff (hsign : w.negative = true) {m : ℕ} (hm : 0 < m)
    (hmantissa : w.Mantissa m) :
    coresRead (w.signed m) = w.value ↔ w.thousandths ≤ 1 ∨ w.PrintsWhole := by
  have hcap := w.thousandths_le
  rw [w.value_eq_thousandths, w.signed_of_negative hsign ((w.thousandths + 999) / 1000)]
  cases hmantissa with
  | milli hparts hm =>
      have hnone : ¬ w.PrintsWhole := fun hwhole => hparts hwhole.1
      rw [or_iff_left hnone]
      by_cases hfits : m ≤ maxInt64
      · rw [coresRead_negative hsign hfits]
        omega
      · simp only [maxInt64] at hcap hfits
        rcases coresRead_overflow w (m := m) (by simp only [maxInt64]; omega) with
          hread | hread
        · rw [hread]
          omega
        · rw [hread]
          omega
  | whole hwhole hm =>
      rw [coresRead_negative hsign (by omega)]
      exact iff_of_true (by omega) (.inr hwhole)
  | scaled hparts hsuffixed hm =>
      rw [coresRead_negative hsign (by omega), or_iff_left hsuffixed]
      omega

theorem Numeral.Canonical.cpu_iff (h : w.Canonical text) (hpositive : 0 < w.thousandths) :
    decodeCPU text = w.value ↔ w.CPUAgrees := by
  obtain ⟨m, suffix, rfl, hsuffix, hm, hmantissa⟩ := h.mantissa hpositive
  rw [decodeCPU_printed _ hsuffix]
  unfold Numeral.CPUAgrees
  cases hsign : w.negative with
  | false => simp [cores_nonneg_iff hsign hm hmantissa]
  | true => simp [cores_negative_iff hsign hm hmantissa]

/-! ## Memory -/

theorem mebibytes_signed (w : Numeral) (n : ℕ) :
    mebibytes (w.signed n) = w.signed (n / 2 ^ 20) := by
  have hdiv : (n : ℤ).tdiv (1024 * 1024) = ((n / 2 ^ 20 : ℕ) : ℤ) := by
    rw [Int.tdiv_eq_ediv_of_nonneg (by omega)]
    rfl
  unfold mebibytes Numeral.signed
  split
  · rw [Int.neg_tdiv, hdiv]
  · exact hdiv

/-- Taken for gigabytes, the mantissa has to wrap around to the megabytes. -/
theorem gigabytes_iff (w : Numeral) {m d : ℕ} (hm : m ≤ maxInt64) (hd : d < 2 ^ 63) :
    wrapInt64 (fitted (w.signed m) * 1024) = w.signed d ↔
      (2 ^ 64 : ℤ) ∣ m * 1024 - d := by
  rw [fitted_signed w hm]
  cases hsign : w.negative with
  | false =>
      rw [w.signed_of_nonneg hsign, w.signed_of_nonneg hsign,
        wrapInt64_eq_iff (by omega) (by omega)]
  | true =>
      rw [w.signed_of_negative hsign, w.signed_of_negative hsign,
        wrapInt64_eq_iff (by omega) (by omega)]
      omega

private theorem gigabytes_overflow (w : Numeral) {m d : ℕ} (hm : maxInt64 < m) (hd : 0 < d) :
    wrapInt64 (fitted (w.signed m) * 1024) ≠ w.signed d := by
  have hnone : wrapInt64 (fitted (w.signed m) * 1024) = 0 := by
    rcases fitted_overflow w hm with hread | hread
    · rw [hread]
      rfl
    · rw [hread]
      decide
  rw [hnone]
  unfold Numeral.signed
  split <;> omega

theorem bytes_wrap_iff {n : ℕ} (hpositive : 0 < n) (hn : n < 2 ^ 63) :
    (2 ^ 64 : ℤ) ∣ n * 1024 - (n / 2 ^ 20 : ℕ) ↔
      ∃ r, 1 ≤ r ∧ r ≤ 7 ∧ n = r * (2 ^ 60 + 2 ^ 30 + 1) := by
  constructor
  · rintro ⟨q, hq⟩
    obtain ⟨v, hv⟩ : ∃ v, n / 2 ^ 20 = 1024 * v := ⟨n / 2 ^ 20 / 1024, by omega⟩
    have hsum : (n : ℤ) = v + 2 ^ 54 * q := by omega
    obtain ⟨r, hr⟩ : ∃ r : ℤ, (v : ℤ) = 2 ^ 24 * q + r := ⟨v - 2 ^ 24 * q, by omega⟩
    have hq64 : q = 64 * r := by omega
    exact ⟨r.toNat, by omega, by omega, by omega⟩
  · rintro ⟨r, -, hr, rfl⟩
    have hquotient : r * (2 ^ 60 + 2 ^ 30 + 1) / 2 ^ 20 = r * (2 ^ 40 + 2 ^ 10) := by omega
    rw [hquotient]
    exact ⟨64 * r, by omega⟩

theorem thousandths_wrap_iff {n : ℕ} (hpositive : 0 < n) (hn : n < 2 ^ 63) :
    (2 ^ 64 : ℤ) ∣ n * 1024 - ((n + 999) / 1000 / 2 ^ 20 : ℕ) ↔
      ∃ r, 1 ≤ r ∧ r ≤ 4 ∧ n = r * (125 * 2 ^ 54 + 2 ^ 21) := by
  constructor
  · rintro ⟨q, hq⟩
    obtain ⟨v, hv⟩ : ∃ v, (n + 999) / 1000 / 2 ^ 20 = 1024 * v :=
      ⟨(n + 999) / 1000 / 2 ^ 20 / 1024, by omega⟩
    have hsum : (n : ℤ) = v + 2 ^ 54 * q := by omega
    have hbalance : 2 ^ 21 * q = 125 * v := by omega
    obtain ⟨r, hr⟩ : ∃ r : ℤ, q = 125 * r := ⟨q / 125, by omega⟩
    exact ⟨r.toNat, by omega, by omega, by omega⟩
  · rintro ⟨r, -, hr, rfl⟩
    have hquotient : (r * (125 * 2 ^ 54 + 2 ^ 21) + 999) / 1000 / 2 ^ 20 = r * 2 ^ 31 := by
      omega
    rw [hquotient]
    exact ⟨125 * r, by omega⟩

theorem memory_milli_iff (hparts : ¬ 1000 ∣ w.thousandths) :
    wrapInt64 (fitted (w.signed w.thousandths) * 1024) = mebibytes w.value ↔
      w.MemoryAgrees := by
  have hpositive : 0 < w.thousandths :=
    Nat.pos_of_ne_zero fun hzero => hparts (hzero ▸ dvd_zero 1000)
  have hcap := w.thousandths_le
  simp only [maxInt64] at hcap
  have hagrees : w.MemoryAgrees ↔
      ∃ r, 1 ≤ r ∧ r ≤ 4 ∧ w.thousandths = r * (125 * 2 ^ 54 + 2 ^ 21) := by
    constructor
    · rintro (hzero | ⟨hwhole, -⟩ | ⟨r, -, -, hr⟩ | hwraps)
      · omega
      · omega
      · omega
      · exact hwraps
    · intro hwraps
      exact .inr (.inr (.inr hwraps))
  rw [hagrees, w.value_eq_thousandths, mebibytes_signed]
  by_cases hfits : w.thousandths ≤ maxInt64
  · rw [gigabytes_iff w hfits (by omega)]
    simp only [maxInt64] at hfits
    exact thousandths_wrap_iff hpositive (by omega)
  · refine iff_of_false (gigabytes_overflow w (by omega) ?_) ?_
    · simp only [maxInt64] at hfits
      omega
    · rintro ⟨r, -, hr, hwraps⟩
      simp only [maxInt64] at hfits
      omega

/-- Below 1024 bytes there is less than a megabyte, but a number above zero. -/
theorem memory_small_iff {m : ℕ} (hm : 0 < m) (hle : m * 1000 ≤ w.thousandths)
    (hsmall : w.thousandths < 1024 * 1000) :
    wrapInt64 (fitted (w.signed m) * 1024) = mebibytes w.value ↔ w.MemoryAgrees := by
  have hnone : (w.thousandths + 999) / 1000 / 2 ^ 20 = 0 := by omega
  rw [w.value_eq_thousandths, mebibytes_signed, hnone,
    gigabytes_iff w (by simp only [maxInt64]; omega) (by omega)]
  refine iff_of_false (by omega) ?_
  rintro (hzero | ⟨hwhole, -⟩ | ⟨r, hr, -, hwraps⟩ | ⟨r, hr, -, hwraps⟩)
  · omega
  · omega
  · omega
  · omega

theorem memory_plain_iff {m : ℕ} (hm : 0 < m) (hlargest : ¬ 1024 ∣ m)
    (hexact : w.thousandths = m * 1000) :
    wrapInt64 (fitted (w.signed m) * 1024) = mebibytes w.value ↔ w.MemoryAgrees := by
  have hcap := w.thousandths_le
  simp only [maxInt64] at hcap
  have hvalue : (w.thousandths + 999) / 1000 = m := by omega
  have hagrees : w.MemoryAgrees ↔ ∃ r, 1 ≤ r ∧ r ≤ 7 ∧ m = r * (2 ^ 60 + 2 ^ 30 + 1) := by
    constructor
    · rintro (hzero | ⟨hwhole, -⟩ | ⟨r, hr, hr', hwraps⟩ | ⟨r, hr, hr', hwraps⟩)
      · omega
      · omega
      · exact ⟨r, hr, hr', by omega⟩
      · omega
    · rintro ⟨r, hr, hr', hwraps⟩
      have hthousandths : w.thousandths = r * (2 ^ 60 + 2 ^ 30 + 1) * 1000 := by
        rw [hexact, hwraps]
      exact .inr (.inr (.inl ⟨r, hr, hr', hthousandths⟩))
  rw [hagrees, w.value_eq_thousandths, mebibytes_signed, hvalue,
    gigabytes_iff w (by simp only [maxInt64]; omega) (by omega)]
  exact bytes_wrap_iff hm (by omega)

theorem memory_kibibytes_iff {m : ℕ} (hm : 0 < m) (hlargest : ¬ 1024 ∣ m)
    (hexact : w.thousandths = m * 1024 * 1000) :
    wrapInt64 (fitted (w.signed m) * 1024) = mebibytes w.value ↔ w.MemoryAgrees := by
  have hcap := w.thousandths_le
  simp only [maxInt64] at hcap
  have hvalue : (w.thousandths + 999) / 1000 / 2 ^ 20 = m / 1024 := by omega
  have hless : m / 1024 < m * 1024 := by omega
  rw [w.value_eq_thousandths, mebibytes_signed, hvalue,
    gigabytes_iff w (by simp only [maxInt64]; omega) (by omega)]
  apply iff_of_false
  · rintro ⟨q, hq⟩
    have hturn : 0 < q := by omega
    omega
  · rintro (hzero | ⟨hwhole, -⟩ | ⟨r, hr, hr', hwraps⟩ | ⟨r, hr, hr', hwraps⟩)
    · omega
    · omega
    · omega
    · omega

theorem memory_larger_iff {m scaled : ℕ} (hm : 0 < m) (hgrows : m ≤ scaled)
    (hexact : w.thousandths = scaled * 2 ^ 40 * 1000) :
    wrapInt64 (fitted (w.signed m) * 1024) = mebibytes w.value ↔ w.MemoryAgrees := by
  have hcap := w.thousandths_le
  simp only [maxInt64] at hcap
  have hvalue : (w.thousandths + 999) / 1000 / 2 ^ 20 = scaled * 2 ^ 20 := by omega
  rw [w.value_eq_thousandths, mebibytes_signed, hvalue,
    gigabytes_iff w (by simp only [maxInt64]; omega) (by omega)]
  refine iff_of_false (by omega) ?_
  rintro (hzero | ⟨-, hwhole⟩ | ⟨r, hr, hr', hwraps⟩ | ⟨r, hr, hr', hwraps⟩)
  · omega
  · omega
  · omega
  · omega

private theorem memory_units {m d : ℕ} (hlargest : ¬ 1024 ∣ m)
    (hexact : w.thousandths = m * d * 2 ^ 20 * 1000) (hd : d = 1 ∨ d = 1024) :
    mebibytes w.value = w.signed (m * d) ∧ w.MemoryAgrees := by
  have hvalue : (w.thousandths + 999) / 1000 / 2 ^ 20 = m * d := by omega
  rw [w.value_eq_thousandths, mebibytes_signed, hvalue]
  refine ⟨rfl, .inr (.inl ⟨?_, ?_⟩)⟩
  · omega
  · rcases hd with rfl | rfl
    · omega
    · omega

theorem memory_binary_iff {m power : ℕ} {suffix : String} (hm : 0 < m)
    (hexact : m * 1024 ^ power * 1000 = w.thousandths) (hlargest : ¬ 1024 ∣ m)
    (hsuffix : binarySuffixes[power]? = some suffix) :
    decodeMemory (decimal (w.signed m) ++ suffix) = mebibytes w.value ↔ w.MemoryAgrees := by
  have hcap := w.thousandths_le
  simp only [maxInt64] at hcap
  rw [decodeMemory_printed _ (List.mem_append_right _ (List.mem_of_getElem? hsuffix))]
  have hcases : power = 0 ∨ power = 1 ∨ power = 2 ∨ power = 3 ∨ 4 ≤ power := by omega
  rcases hcases with rfl | rfl | rfl | rfl | hlarge
  · obtain rfl : "" = suffix := Option.some.inj hsuffix
    rw [if_neg (by decide)]
    exact memory_plain_iff hm hlargest (by omega)
  · obtain rfl : "Ki" = suffix := Option.some.inj hsuffix
    rw [if_neg (by decide)]
    exact memory_kibibytes_iff hm hlargest (by omega)
  · obtain rfl : "Mi" = suffix := Option.some.inj hsuffix
    obtain ⟨hvalue, hagrees⟩ := memory_units hlargest (w := w) (d := 1) (by omega) (.inl rfl)
    rw [if_pos rfl, hvalue, fitted_signed w (by simp only [maxInt64]; omega), mul_one]
    exact iff_of_true rfl hagrees
  · obtain rfl : "Gi" = suffix := Option.some.inj hsuffix
    obtain ⟨hvalue, hagrees⟩ := memory_units hlargest (w := w) (d := 1024) (by omega) (.inr rfl)
    rw [if_neg (by decide), hvalue, gigabytes_iff w (by simp only [maxInt64]; omega) (by omega)]
    exact iff_of_true (by omega) hagrees
  · obtain ⟨more, rfl⟩ := Nat.exists_eq_add_of_le hlarge
    have hlarger : ["Ti", "Pi", "Ei"][more]? = some suffix := by
      rw [← hsuffix, Nat.add_comm]
      rfl
    have hmi : suffix ≠ "Mi" := by
      rintro rfl
      have hmem := List.mem_of_getElem? hlarger
      revert hmem
      decide
    have hscale : 0 < 1024 ^ more := Nat.pow_pos (by decide)
    have hsplit : w.thousandths = m * 1024 ^ more * 2 ^ 40 * 1000 := by
      rw [← hexact, pow_add]
      ring
    rw [if_neg hmi]
    exact memory_larger_iff hm (Nat.le_mul_of_pos_right m hscale) hsplit

theorem Numeral.Canonical.memory_iff (h : w.Canonical text)
    (hbinary : w.suffix.isBinary = true) :
    decodeMemory text = mebibytes w.value ↔ w.MemoryAgrees := by
  cases h with
  | decimal m power suffix hform hexact hlargest hsuffix =>
      have hm : 0 < m := Nat.pos_of_ne_zero fun hzero => hlargest (hzero ▸ dvd_zero 1000)
      have hprinted : suffix ∈ decimalSuffixes ++ exponentSuffixes := by
        rw [List.mem_append]
        exact hsuffix.imp List.mem_of_getElem? List.mem_of_getElem?
      have hmi : suffix ≠ "Mi" := by
        rintro rfl
        revert hprinted
        decide
      rw [decodeMemory_printed _ (List.mem_append_left _ hprinted), if_neg hmi]
      cases power with
      | zero =>
          rw [pow_zero, mul_one] at hexact
          rw [hexact] at hlargest ⊢
          exact memory_milli_iff hlargest
      | succ power =>
          have hparts : 1000 ∣ w.thousandths := by
            rw [← hexact, pow_succ, ← Nat.mul_assoc]
            exact Nat.dvd_mul_left 1000 _
          have hle : m * 1000 ≤ w.thousandths := by
            rw [← hexact, pow_succ, ← Nat.mul_assoc]
            exact Nat.mul_le_mul_right 1000
              (Nat.le_mul_of_pos_right m (Nat.pow_pos (by decide)))
          have hsmall : w.thousandths < 1024 * 1000 := by
            by_contra hlarge
            exact hform ⟨hbinary, hparts, not_lt.mp hlarge⟩
          exact memory_small_iff hm hle hsmall
  | binary m power suffix hform hexact hlargest hsuffix =>
      have hm : 0 < m := Nat.pos_of_ne_zero fun hzero => hlargest (hzero ▸ dvd_zero 1024)
      exact memory_binary_iff hm hexact hlargest hsuffix

/-! ## The pods of requests -/

variable {K : QuantityAPI} {q : K.Quantity} {s : String}

structure DecodersAgree (pod : Pod K) : Prop where
  cpu : decodeCPU (getJobStatus pod).cpuCores = (parsePodToGPUJobInfo pod).cpuCores
  memory : decodeMemory (getJobStatus pod).memoryGB = (parsePodToGPUJobInfo pod).memoryMB

theorem decodeCPU_iff (hK : K.Documented) (hprint : K.Canonical) (hparse : K.parse s = some q)
    (hread : readNumeral s = some w) :
    decodeCPU (quantityText K q) = podCPUCores K q ↔ w.CPUAgrees := by
  obtain ⟨w', hread', hvalue, hzero⟩ := hK.read hparse
  cases hread.symm.trans hread'
  unfold quantityText podCPUCores
  split
  · rename_i hnone
    have hempty : w.thousandths = 0 := w.thousandths_eq_zero.mpr (hzero.mp hnone)
    exact iff_of_true rfl (.inl (by omega))
  · rename_i hsome
    have hnum : w.num ≠ 0 := fun hnum => hsome (hzero.mpr hnum)
    have hpositive : 0 < w.thousandths :=
      Nat.pos_of_ne_zero fun hempty => hnum (w.thousandths_eq_zero.mp hempty)
    rw [hvalue]
    exact (hprint.prints s w q hread hparse hnum).cpu_iff hpositive

theorem decodeMemory_iff (hK : K.Documented) (hprint : K.Canonical)
    (hparse : K.parse s = some q) (hread : readNumeral s = some w)
    (hbinary : w.suffix.isBinary = true) :
    decodeMemory (quantityText K q) = podMemoryMB K q ↔ w.MemoryAgrees := by
  obtain ⟨w', hread', hvalue, hzero⟩ := hK.read hparse
  cases hread.symm.trans hread'
  unfold quantityText podMemoryMB
  split
  · rename_i hnone
    exact iff_of_true rfl (.inl (w.thousandths_eq_zero.mpr (hzero.mp hnone)))
  · rename_i hsome
    rw [hvalue]
    exact (hprint.prints s w q hread hparse fun hnum => hsome (hzero.mpr hnum)).memory_iff
      hbinary

/-- The manager sees to it that the memory of a pod has a binary suffix. -/
theorem podMemoryText_binary {req : CreateJobRequest}
    (hread : readNumeral (podMemoryText req) = some w) : w.suffix.isBinary = true := by
  by_cases hempty : req.memoryGB = ""
  · rw [podMemoryText, if_pos hempty] at hread
    cases hread
    rfl
  · rw [podMemoryText, if_neg hempty] at hread
    rcases withGi_ends req.memoryGB with ⟨-, hgi⟩ | ⟨hmi, hsame⟩
    · have hsuffix : w.suffix = .binary 3 :=
        (Option.some.inj (suffix_of_ends hread (List.isSuffixOf_iff_suffix.mp hgi))).symm
      rw [hsuffix]
      rfl
    · rw [hsame] at hread
      have hsuffix : w.suffix = .binary 2 :=
        (Option.some.inj (suffix_of_ends hread (List.isSuffixOf_iff_suffix.mp hmi))).symm
      rw [hsuffix]
      rfl

variable {uid : ℕ} {user providerID gpuModel : String} {req : CreateJobRequest} {now : ℤ}
  {pod : Pod K}

/-- The decoders agree on a pod exactly where its two texts are of the kinds they read. -/
theorem decoders_agree_iff (hK : K.Documented) (hprint : K.Canonical)
    (hpod : buildGPUPod K uid user providerID gpuModel req now = some pod) :
    DecodersAgree pod ↔ ∃ cpu memory, readNumeral (podCPUText req) = some cpu ∧
      readNumeral (podMemoryText req) = some memory ∧ cpu.CPUAgrees ∧
        memory.MemoryAgrees := by
  obtain ⟨-, -, -, hcpu, hmemory, -⟩ := buildGPUPod_eq_some hpod
  obtain ⟨cpu, hcpuRead, -⟩ := hK.read hcpu
  obtain ⟨memory, hmemoryRead, -⟩ := hK.read hmemory
  have hcpuAgrees := decodeCPU_iff hK hprint hcpu hcpuRead
  have hmemoryAgrees := decodeMemory_iff hK hprint hmemory hmemoryRead
    (podMemoryText_binary hmemoryRead)
  constructor
  · intro hagree
    exact ⟨cpu, memory, hcpuRead, hmemoryRead, hcpuAgrees.mp hagree.cpu,
      hmemoryAgrees.mp hagree.memory⟩
  · rintro ⟨cpu', memory', hcpuRead', hmemoryRead', hcpu', hmemory'⟩
    cases hcpuRead.symm.trans hcpuRead'
    cases hmemoryRead.symm.trans hmemoryRead'
    exact ⟨hcpuAgrees.mpr hcpu', hmemoryAgrees.mpr hmemory'⟩

def wholeRequest : CreateJobRequest := ⟨"p1", "", 1, "8", "16Gi", "", 24⟩

/-- Eight cores and 16 gibibytes are read back alike. -/
theorem decoders_agree_whole : ∃ pod,
    buildGPUPod canonicalQuantities 0 "alice" "p1" "RTX 4090" wholeRequest 0 = some pod ∧
      DecodersAgree pod := by
  obtain ⟨pod, hpod⟩ : ∃ pod, buildGPUPod canonicalQuantities 0 "alice" "p1" "RTX 4090"
      wholeRequest 0 = some pod := ⟨_, rfl⟩
  refine ⟨pod, hpod, (decoders_agree_iff canonicalQuantities_documented
    canonicalQuantities_canonical hpod).mpr ⟨_, _, rfl, rfl, ?_, ?_⟩⟩
  · exact .inr (.inl ⟨rfl, by decide, by decide⟩)
  · exact .inr (.inl ⟨by decide, by decide⟩)

/-- Half a core is read as 500 cores, and 1024 gibibytes as one. -/
theorem millicores_read_as_cores :
    ¬ ∀ (K : QuantityAPI) (uid : ℕ) (user providerID gpuModel : String)
      (req : CreateJobRequest) (now : ℤ) (pod : Pod K), K.Documented → K.Canonical →
      buildGPUPod K uid user providerID gpuModel req now = some pod → DecodersAgree pod := by
  intro hall
  have hagree := hall canonicalQuantities 0 "alice" "p1" "RTX 4090"
    ⟨"p1", "", 1, "500m", "1024Gi", "", 24⟩ 0 _ canonicalQuantities_documented
    canonicalQuantities_canonical rfl
  have hcpu := hagree.cpu
  revert hcpu
  decide

end WorldlandBroker.Job
