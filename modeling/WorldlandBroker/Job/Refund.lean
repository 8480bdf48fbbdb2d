import WorldlandBroker.Job.Decoders

/-!
# What a return path reads back

The watch and the sweeper compute with the quantities of a pod, `DeleteJob` parses
what they print as.  The conditions here are on the texts of the request: under
them no more is read back than the handler has debited.
-/

namespace WorldlandBroker.Job

open Provider

variable {K : QuantityAPI} {req : CreateJobRequest}

namespace Numeral

variable (w : Numeral)

/--
A whole part that `Sscanf` takes is debited itself: only a fraction or a suffix
above the unit makes the pod larger.  Any other number is debited as four cores.
-/
def CoresCovered : Prop :=
  w.negative = true ∨
    if w.whole = 0 ∨ maxInt64 < w.whole then w.num ≤ 4 * w.den
    else w.whole = maxInt64 ∨ w.suffix.down ≠ 1 ∨ w.suffix.up = 1 ∧ w.fraction = 0

/--
Mebibytes are debited as gigabytes, gibibytes as what they are apart from their
fraction.  Beyond 64 bits of bytes it depends on how the debit wraps.
-/
def MemoryCovered : Prop :=
  w.negative = true ∨
    if w.whole * w.suffix.up < 2 ^ 63 then
      w.suffix = .binary 2 ∨ w.whole = 0 ∨
        w.fraction * 2 ^ 30 ≤ (2 ^ 20 - 1) * 10 ^ w.places
    else w.whole ≤ maxInt64 ∧ 2 ^ 33 ≤ w.whole % 2 ^ 54 ∧ w.whole % 2 ^ 54 < 2 ^ 53

theorem value_le_cpuDebit_iff : w.value ≤ cpuDebit w.scanned ↔ w.CoresCovered := by
  have hdebit : 0 ≤ cpuDebit w.scanned := by
    unfold cpuDebit booked
    split <;> omega
  unfold CoresCovered
  cases hsign : w.negative with
  | true =>
      have hvalue := w.value_nonpos hsign
      exact iff_of_true (by omega) (.inl rfl)
  | false =>
      rw [w.value_of_nonneg hsign]
      simp only [Bool.false_eq_true, false_or]
      split
      · rename_i hwhole
        have hzero : w.scanned = 0 := by
          rw [w.scanned_of_nonneg hsign]
          split <;> omega
        rw [hzero, ← w.roundUp_le_iff]
        simp only [cpuDebit, booked, maxInt64, if_true]
        omega
      · rename_i hwhole
        have hwholeDebit : cpuDebit w.scanned = (w.whole : ℤ) := by
          rw [w.scanned_eq_whole hsign (by omega), cpuDebit, booked]
          split <;> split <;> omega
        rw [hwholeDebit, Int.ofNat_le]
        by_cases hdown : w.suffix.down = 1
        · have hge := w.whole_le_roundUp hdown
          rw [← w.roundUp_eq_whole_iff hdown (by omega)]
          simp only [hdown, ne_eq, not_true_eq_false, false_or]
          omega
        · have hle := (w.roundUp_of_sub hdown (by omega)).1
          exact iff_of_true ((min_le_left _ _).trans hle) (.inr (.inl hdown))

private theorem mebibytes_value_nonneg (hsign : w.negative = false) :
    mebibytes w.value = (min (w.num ⌈/⌉ w.den) maxInt64 / 2 ^ 20 : ℕ) := by
  rw [w.value_of_nonneg hsign, mebibytes_of_nonneg]

private theorem wrapped_debit_iff (n : ℕ) :
    2 ^ 43 - 1 ≤ memoryDebit n ↔ 2 ^ 33 ≤ n % 2 ^ 54 ∧ n % 2 ^ 54 < 2 ^ 53 := by
  have hwrap := (wrapInt64_eq_iff (n := (n : ℤ) * 1024) (m := wrapInt64 (n * 1024))
    (wrapInt64_range _).1 (wrapInt64_range _).2).mp rfl
  obtain ⟨hlower, hupper⟩ := wrapInt64_range ((n : ℤ) * 1024)
  unfold memoryDebit booked
  generalize wrapInt64 ((n : ℤ) * 1024) = wrapped at *
  obtain ⟨turns, hturns⟩ := hwrap
  split <;> split <;> omega

private theorem mebibytes_le_memoryDebit_iff (hsign : w.negative = false)
    (hsuffix : w.suffix = .binary 2 ∨ w.suffix = .binary 3)
    (hfits : w.whole * w.suffix.up < 2 ^ 63) :
    mebibytes w.value ≤ memoryDebit w.scanned ↔
      w.suffix = .binary 2 ∨ w.whole = 0 ∨
        w.fraction * 2 ^ 30 ≤ (2 ^ 20 - 1) * 10 ^ w.places := by
  have hdown : w.suffix.down = 1 := by
    rcases hsuffix with hsuffix | hsuffix <;> rw [hsuffix] <;> rfl
  have hupper := roundUp_le_bytes w hdown
  have hmebibytes := w.mebibytes_value_nonneg hsign
  have hsmall : w.whole < 2 ^ 43 := by
    rcases hsuffix with hsuffix | hsuffix <;> rw [hsuffix] at hfits <;>
      simp only [Suffix.up] at hfits <;> omega
  have hscanned : w.scanned = (w.whole : ℤ) :=
    w.scanned_eq_whole hsign (by simp only [maxInt64]; omega)
  rcases Nat.eq_zero_or_pos w.whole with hzero | hpositive
  · have hdebit : memoryDebit w.scanned = 16 * 1024 := by
      rw [hscanned, hzero]
      rfl
    rw [hdebit, hmebibytes]
    refine iff_of_true ?_ (.inr (.inl hzero))
    rcases hsuffix with hsuffix | hsuffix <;> rw [hsuffix, hzero] at hupper <;>
      simp only [Suffix.up] at hupper <;> omega
  · have hdebit : memoryDebit w.scanned = w.whole * 1024 := by
      rw [hscanned, memoryDebit_small hpositive (by omega)]
    rw [hdebit, hmebibytes]
    rcases hsuffix with hsuffix | hsuffix
    · refine iff_of_true ?_ (.inl hsuffix)
      rw [hsuffix] at hupper
      simp only [Suffix.up] at hupper
      omega
    · have hup : w.suffix.up = 2 ^ 30 := by rw [hsuffix]; rfl
      have hexact : w.num ⌈/⌉ w.den ≤ w.whole * 2 ^ 30 + (2 ^ 20 - 1) ↔
          w.fraction * 2 ^ 30 ≤ (2 ^ 20 - 1) * 10 ^ w.places := by
        have hden : w.den = 10 ^ w.places := by simp [Numeral.den, hdown]
        rw [w.roundUp_le_iff, hden, Numeral.num, hup, Nat.add_mul, Nat.add_mul,
          Nat.mul_right_comm]
        omega
      have hnot : w.suffix ≠ .binary 2 := by rw [hsuffix]; decide
      rw [← hexact]
      rw [hup] at hfits
      simp only [hnot, hpositive.ne', false_or, maxInt64]
      omega

theorem mebibytes_le_iff (hsuffix : w.suffix = .binary 2 ∨ w.suffix = .binary 3) :
    mebibytes w.value ≤ memoryDebit w.scanned ↔ w.MemoryCovered := by
  unfold MemoryCovered
  cases hsign : w.negative with
  | true =>
      have hdebit := memoryDebit_nonneg w.scanned
      have hvalue := mebibytes_value w hsign
      exact iff_of_true (by omega) (.inl rfl)
  | false =>
      simp only [Bool.false_eq_true, false_or]
      split
      · rename_i hfits
        exact w.mebibytes_le_memoryDebit_iff hsign hsuffix hfits
      · rename_i hlarge
        have hdown : w.suffix.down = 1 := by
          rcases hsuffix with hsuffix | hsuffix <;> rw [hsuffix] <;> rfl
        have hlower := bytes_le_roundUp w hdown
        have hcapped : mebibytes w.value = 2 ^ 43 - 1 := by
          rw [w.mebibytes_value_nonneg hsign]
          simp only [maxInt64]
          omega
        rw [hcapped, w.scanned_of_nonneg hsign]
        by_cases hmax : maxInt64 < w.whole
        · rw [if_pos hmax, memoryDebit_zero]
          exact iff_of_false (by omega) fun h => absurd h.1 (by omega)
        · rw [if_neg hmax, wrapped_debit_iff]
          simp only [not_lt.mp hmax, true_and]

end Numeral

/-! ## What `DeleteJob` parses -/

variable {w : Numeral} {text : String}

theorem Numeral.Canonical.cores_le (h : w.Canonical text) (hpositive : 0 < w.thousandths)
    (hcores : 1000 ∣ w.thousandths) : decodeCPU text ≤ max w.value 0 := by
  obtain ⟨m, suffix, rfl, hsuffix, -, hmantissa⟩ := h.mantissa hpositive
  have hle : m * 1000 ≤ w.thousandths := by
    cases hmantissa with
    | milli hparts => exact absurd hcores hparts
    | whole _ hm => exact hm.ge
    | scaled _ _ hm => exact (Nat.mul_le_mul_left m (by decide)).trans hm
  have hfits : m ≤ maxInt64 :=
    Nat.le_of_mul_le_mul_right (hle.trans w.thousandths_le) (by decide)
  rw [decodeCPU_printed _ hsuffix, w.value_eq_thousandths]
  cases hsign : w.negative with
  | false =>
      rw [coresRead_nonneg hsign hfits, w.signed_of_nonneg hsign]
      split <;> omega
  | true =>
      rw [coresRead_negative hsign hfits]
      omega

theorem Numeral.Canonical.megabytes_le (h : w.Canonical text) (hpositive : 0 < w.thousandths)
    (hbinary : w.suffix.isBinary = true) (hwhole : 2 ^ 20 * 1000 ∣ w.thousandths) :
    decodeMemory text ≤ max (mebibytes w.value) 0 := by
  have hcap := w.thousandths_le
  obtain ⟨units, hunits⟩ := hwhole
  have hmebibytes : (w.thousandths + 999) / 1000 / 2 ^ 20 = units := by omega
  simp only [maxInt64] at hcap
  cases h with
  | decimal m power suffix hform => exact absurd ⟨hbinary, by omega, by omega⟩ hform
  | binary m power suffix hform hexact hlargest hsuffix =>
      rw [decodeMemory_printed _ (List.mem_append_right _ (List.mem_of_getElem? hsuffix)),
        w.value_eq_thousandths, mebibytes_signed, hmebibytes]
      have hcases : power = 0 ∨ power = 1 ∨ power = 2 ∨ 3 ≤ power := by omega
      rcases hcases with rfl | rfl | rfl | hlarge
      · exact absurd ⟨units * 1024, by omega⟩ hlargest
      · exact absurd ⟨units, by omega⟩ hlargest
      · obtain rfl : "Mi" = suffix := Option.some.inj hsuffix
        have hm : m = units := by omega
        rw [if_pos rfl, fitted_signed w (by simp only [maxInt64]; omega), hm]
        exact le_max_left _ _
      · obtain ⟨more, rfl⟩ := Nat.exists_eq_add_of_le hlarge
        have hlarger : ["Gi", "Ti", "Pi", "Ei"][more]? = some suffix := by
          rw [← hsuffix, Nat.add_comm]
          rfl
        have hmi : suffix ≠ "Mi" := by
          rintro rfl
          have hmem := List.mem_of_getElem? hlarger
          revert hmem
          decide
        have hscale : 0 < 1024 ^ more := Nat.pow_pos (by decide)
        have hsplit : w.thousandths = m * 1024 ^ more * 2 ^ 30 * 1000 := by
          rw [← hexact, pow_add]
          ring
        have hgrows : m ≤ m * 1024 ^ more := Nat.le_mul_of_pos_right m hscale
        generalize m * 1024 ^ more = scaled at hsplit hgrows
        rw [if_neg hmi, fitted_signed w (by simp only [maxInt64]; omega)]
        cases hsign : w.negative with
        | false =>
            rw [w.signed_of_nonneg hsign, w.signed_of_nonneg hsign,
              wrapInt64_of_fits (by omega) (by omega)]
            omega
        | true =>
            rw [w.signed_of_negative hsign, wrapInt64_of_fits (by omega) (by omega)]
            omega

/-! ## The texts of requests -/

structure WatchedCovered (req : CreateJobRequest) : Prop where
  cores : req.cpuCores = "" ∨ ∃ w, readNumeral req.cpuCores = some w ∧ w.CoresCovered
  memory : req.memoryGB = "" ∨
    ∃ w, readNumeral (podMemoryText req) = some w ∧ w.MemoryCovered

/-- A pod of whole cores and whole mebibytes is read by `DeleteJob` as no larger. -/
structure DeletedCovered (req : CreateJobRequest) : Prop extends WatchedCovered req where
  wholeCores : ∃ w, readNumeral (podCPUText req) = some w ∧ 1000 ∣ w.thousandths
  wholeMebibytes : ∃ w, readNumeral (podMemoryText req) = some w ∧
    2 ^ 20 * 1000 ∣ w.thousandths

private theorem booked_eq_max (n : ℤ) : booked n = max n 0 := by
  unfold booked
  split <;> omega

variable {cpu memory : K.Quantity}

theorem watchedCPU_le_iff (hK : K.Documented) (hcpu : K.parse (podCPUText req) = some cpu) :
    watchedCPU K req ≤ max (requestedCPU req) 0 ↔
      req.cpuCores = "" ∨ ∃ w, readNumeral req.cpuCores = some w ∧ w.CoresCovered := by
  obtain ⟨w, hread, hpod⟩ := podCPUCores_of_read hK hcpu
  have hwatched : watchedCPU K req = w.value := by
    rw [watchedCPU, hcpu]
    exact hpod
  rw [hwatched]
  by_cases hempty : req.cpuCores = ""
  · have htwo : podCPUText req = "2" := by rw [podCPUText, if_pos hempty]
    rw [htwo] at hread
    cases hread
    rw [requestedCPU, hempty]
    exact iff_of_true (by decide) (.inl rfl)
  · have htext : podCPUText req = req.cpuCores := by rw [podCPUText, if_neg hempty]
    rw [htext] at hread
    have hdebit : max (requestedCPU req) 0 = cpuDebit w.scanned := by
      rw [requestedCPU, if_pos hempty, sscanfD_of_read hread, cpuDebit, booked_eq_max]
    rw [hdebit, w.value_le_cpuDebit_iff]
    simp [hread, hempty]

private theorem podMemoryText_suffix {w : Numeral} (hempty : req.memoryGB ≠ "")
    (hread : readNumeral (podMemoryText req) = some w) :
    w.suffix = .binary 2 ∨ w.suffix = .binary 3 := by
  rw [podMemoryText, if_neg hempty] at hread
  rcases withGi_ends req.memoryGB with ⟨-, hgi⟩ | ⟨hmi, hsame⟩
  · exact .inr (Option.some.inj
      (suffix_of_ends hread (List.isSuffixOf_iff_suffix.mp hgi))).symm
  · rw [hsame] at hread
    exact .inl (Option.some.inj
      (suffix_of_ends hread (List.isSuffixOf_iff_suffix.mp hmi))).symm

theorem watchedMemory_le_iff (hK : K.Documented)
    (hmemory : K.parse (podMemoryText req) = some memory) :
    watchedMemory K req ≤ max (requestedMemoryMB req) 0 ↔
      req.memoryGB = "" ∨
        ∃ w, readNumeral (podMemoryText req) = some w ∧ w.MemoryCovered := by
  obtain ⟨w, hread, hpod⟩ := podMemoryMB_of_read hK hmemory
  have hwatched : watchedMemory K req = mebibytes w.value := by
    rw [watchedMemory, hmemory]
    exact hpod
  rw [hwatched]
  by_cases hempty : req.memoryGB = ""
  · have height : podMemoryText req = "8Gi" := by rw [podMemoryText, if_pos hempty]
    rw [height] at hread
    cases hread
    rw [requestedMemoryMB, scannedMemoryGB, hempty]
    exact iff_of_true (by decide) (.inl rfl)
  · have hdebit : max (requestedMemoryMB req) 0 = memoryDebit w.scanned := by
      rw [requestedMemoryMB, scannedMemoryGB_of_read hempty hread, memoryDebit, booked_eq_max]
    rw [hdebit, w.mebibytes_le_iff (podMemoryText_suffix hempty hread)]
    simp [hread, hempty]

private theorem deletedCPU_le (hK : K.Documented) (hprint : K.Canonical)
    (hcpu : K.parse (podCPUText req) = some cpu) {w : Numeral}
    (hread : readNumeral (podCPUText req) = some w) (hcores : 1000 ∣ w.thousandths) :
    deletedCPU K req ≤ max (watchedCPU K req) 0 := by
  obtain ⟨w', hread', hvalue, hzero⟩ := hK.read hcpu
  cases hread.symm.trans hread'
  rw [deletedCPU, watchedCPU, hcpu]
  simp only [Option.elim_some, quantityText, podCPUCores]
  split
  · exact le_max_right _ _
  · rename_i hsome
    have hnum : w.num ≠ 0 := fun hnum => hsome (hzero.mpr hnum)
    rw [hvalue]
    exact (hprint.prints _ w cpu hread hcpu hnum).cores_le
      (Nat.pos_of_ne_zero fun hnone => hnum (w.thousandths_eq_zero.mp hnone)) hcores

private theorem deletedMemory_le (hK : K.Documented) (hprint : K.Canonical)
    (hmemory : K.parse (podMemoryText req) = some memory) {w : Numeral}
    (hread : readNumeral (podMemoryText req) = some w)
    (hwhole : 2 ^ 20 * 1000 ∣ w.thousandths) :
    deletedMemory K req ≤ max (watchedMemory K req) 0 := by
  obtain ⟨w', hread', hvalue, hzero⟩ := hK.read hmemory
  cases hread.symm.trans hread'
  rw [deletedMemory, watchedMemory, hmemory]
  simp only [Option.elim_some, quantityText, podMemoryMB]
  split
  · exact le_max_right _ _
  · rename_i hsome
    have hnum : w.num ≠ 0 := fun hnum => hsome (hzero.mpr hnum)
    rw [hvalue]
    exact (hprint.prints _ w memory hread hmemory hnum).megabytes_le
      (Nat.pos_of_ne_zero fun hnone => hnum (w.thousandths_eq_zero.mp hnone))
      (podMemoryText_binary hread) hwhole

/-- A text that does not parse makes no pod, and nothing to be read back. -/
theorem WatchedCovered.le (h : WatchedCovered req) (hK : K.Documented) :
    watchedCPU K req ≤ max (requestedCPU req) 0 ∧
      watchedMemory K req ≤ max (requestedMemoryMB req) 0 := by
  constructor
  · cases hcpu : K.parse (podCPUText req) with
    | none => simp [watchedCPU, hcpu]
    | some cpu => exact (watchedCPU_le_iff hK hcpu).mpr h.cores
  · cases hmemory : K.parse (podMemoryText req) with
    | none => simp [watchedMemory, hmemory]
    | some memory => exact (watchedMemory_le_iff hK hmemory).mpr h.memory

theorem DeletedCovered.le (h : DeletedCovered req) (hK : K.Documented) (hprint : K.Canonical) :
    deletedCPU K req ≤ max (requestedCPU req) 0 ∧
      deletedMemory K req ≤ max (requestedMemoryMB req) 0 := by
  obtain ⟨hcores, hmegabytes⟩ := h.toWatchedCovered.le hK
  constructor
  · cases hcpu : K.parse (podCPUText req) with
    | none => simp [deletedCPU, hcpu]
    | some cpu =>
        obtain ⟨w, hread, hwhole⟩ := h.wholeCores
        have hle := deletedCPU_le hK hprint hcpu hread hwhole
        omega
  · cases hmemory : K.parse (podMemoryText req) with
    | none => simp [deletedMemory, hmemory]
    | some memory =>
        obtain ⟨w, hread, hwhole⟩ := h.wholeMebibytes
        have hle := deletedMemory_le hK hprint hmemory hread hwhole
        omega

end WorldlandBroker.Job
