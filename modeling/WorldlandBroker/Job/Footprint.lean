import WorldlandBroker.Job.Request
import WorldlandBroker.Job.Numeral
import WorldlandBroker.Provider.Usage

/-!
# The debit of a request and the footprint of its pod

The handler debits what `Sscanf` finds in the request's texts, with its own
defaults; the pod asks for what the texts mean as quantities, with the job
manager's defaults.  The two agree on the GPU count, and on CPU and memory
exactly for the texts described here.
-/

namespace WorldlandBroker.Job

open Foundation Provider

/-! ## CPU -/

def booked (n : ℤ) : ℤ := if 0 < n then n else 0

/--
A number without a sign, and: with a whole part that `Sscanf` takes, either no
suffix and no fraction, or a suffix below the unit and the whole part 1, or the
whole part at the 64-bit maximum without a suffix below the unit; with another
whole part, a quantity that rounds up to the handler's default of 4.
-/
def CPUTextAgrees (w : Numeral) : Prop :=
  w.negative = false ∧
    if w.whole = 0 ∨ maxInt64 < w.whole then
      3 * w.den < w.num ∧ w.num ≤ 4 * w.den
    else if w.suffix.down = 1 then
      w.whole = maxInt64 ∨ w.suffix.up = 1 ∧ w.fraction = 0
    else w.whole = 1

def cpuDebit (scanned : ℤ) : ℤ := booked (if scanned = 0 then 4 else scanned)

private theorem cpuDebit_unscanned {w : Numeral} (hsign : w.negative = false)
    (hwhole : w.whole = 0 ∨ maxInt64 < w.whole) :
    cpuDebit w.scanned = w.value ↔ 3 * w.den < w.num ∧ w.num ≤ 4 * w.den := by
  have hzero : w.scanned = 0 := by
    rw [w.scanned_of_nonneg hsign]
    split <;> omega
  rw [← w.roundUp_eq_four_iff, w.value_of_nonneg hsign, hzero]
  simp only [cpuDebit, booked, maxInt64, if_true]
  omega

private theorem cpuDebit_scanned {w : Numeral} (hsign : w.negative = false)
    (hwhole : 0 < w.whole) (hmax : w.whole ≤ maxInt64) :
    cpuDebit w.scanned = w.value ↔
      if w.suffix.down = 1 then
        w.whole = maxInt64 ∨ w.suffix.up = 1 ∧ w.fraction = 0
      else w.whole = 1 := by
  have hscanned : w.scanned = (w.whole : ℤ) := w.scanned_eq_whole hsign hmax
  have hdebit : cpuDebit w.scanned = (w.whole : ℤ) := by
    rw [hscanned, cpuDebit, booked]
    split <;> split <;> omega
  rw [hdebit, w.value_of_nonneg hsign, Int.natCast_inj]
  split
  · rename_i hdown
    have hge := w.whole_le_roundUp hdown
    rw [← w.roundUp_eq_whole_iff hdown hwhole]
    omega
  · rename_i hdown
    obtain ⟨hle, hsingle⟩ := w.roundUp_of_sub hdown hwhole
    rw [← hsingle]
    omega

theorem cpuDebit_eq_iff (w : Numeral) :
    cpuDebit w.scanned = w.value ↔ CPUTextAgrees w := by
  unfold CPUTextAgrees
  cases hsign : w.negative with
  | false =>
      simp only [true_and]
      split
      · rename_i hwhole
        exact cpuDebit_unscanned hsign hwhole
      · rename_i hwhole
        exact cpuDebit_scanned hsign (by omega) (by omega)
  | true =>
      simp only [Bool.true_eq_false, false_and, iff_false]
      have hscanned := w.scanned_nonpos hsign
      have hvalue := w.value_nonpos hsign
      intro hequal
      by_cases hzero : w.scanned = 0
      · rw [hzero] at hequal
        change (4 : ℤ) = w.value at hequal
        omega
      · have hwhole : 0 < w.whole := by
          by_contra hnone
          have hnone : w.whole = 0 := by omega
          exact hzero (w.scanned_eq_zero hnone)
        have hneg := w.value_neg hsign hwhole
        simp only [cpuDebit, booked, if_neg hzero] at hequal
        split at hequal <;> omega

/-! ## Memory -/

def memoryDebit (scanned : ℤ) : ℤ :=
  booked (if wrapInt64 (scanned * 1024) = 0 then 16 * 1024
    else wrapInt64 (scanned * 1024))

/--
Without a sign, a whole number of gibibytes from 1 up to the 64-bit limit, and
less than a mebibyte, rounded up to bytes, behind the point.
-/
def GibibytesAgree (w : Numeral) : Prop :=
  w.negative = false ∧ 1 ≤ w.whole ∧ w.whole < 2 ^ 33 ∧
    w.fraction * 2 ^ 30 ≤ (2 ^ 20 - 1) * 10 ^ w.places

def mebibytes (value : ℤ) : ℤ := value.tdiv (1024 * 1024)

private theorem memoryDebit_dvd (scanned : ℤ) : memoryDebit scanned % 1024 = 0 := by
  simp only [memoryDebit, booked, wrapInt64, Int.bmod_def]
  split <;> split <;> split <;> omega

theorem memoryDebit_nonneg (scanned : ℤ) : 0 ≤ memoryDebit scanned := by
  simp only [memoryDebit, booked]
  split <;> omega

theorem memoryDebit_zero : memoryDebit 0 = 16 * 1024 := rfl

theorem memoryDebit_small {n : ℕ} (hpositive : 1 ≤ n) (hlt : n < 2 ^ 53) :
    memoryDebit n = n * 1024 := by
  have hwrap : wrapInt64 ((n : ℤ) * 1024) = n * 1024 :=
    wrapInt64_of_fits (by omega) (by omega)
  simp only [memoryDebit, booked, hwrap]
  split <;> split <;> omega

theorem mebibytes_of_nonneg (n : ℕ) : mebibytes n = (n / 2 ^ 20 : ℕ) := by
  rw [mebibytes, Int.tdiv_eq_ediv_of_nonneg (by omega)]
  omega

theorem mebibytes_value (w : Numeral) (hsign : w.negative = true) :
    mebibytes w.value = -(min (w.num ⌈/⌉ w.den) maxInt64 / 2 ^ 20 : ℕ) := by
  rw [← mebibytes_of_nonneg, mebibytes, mebibytes, ← Int.neg_tdiv]
  simp [Numeral.value, Numeral.signed, hsign]

private theorem mebibytes_capped (w : Numeral) (hsign : w.negative = false)
    (hround : maxInt64 ≤ w.num ⌈/⌉ w.den) :
    memoryDebit w.scanned ≠ mebibytes w.value := by
  have hdvd := memoryDebit_dvd w.scanned
  rw [w.value_of_nonneg hsign, min_eq_right hround, mebibytes_of_nonneg]
  simp only [maxInt64]
  omega

theorem bytes_le_roundUp (w : Numeral) (hdown : w.suffix.down = 1) :
    w.whole * w.suffix.up ≤ w.num ⌈/⌉ w.den := by
  have hden : w.den = 10 ^ w.places := by simp [Numeral.den, hdown]
  have hup := w.suffix.up_pos
  have hplaces := w.places_pos
  rcases Nat.eq_zero_or_pos w.whole with hzero | hpositive
  · simp [hzero]
  · have hbytes : 0 < w.whole * w.suffix.up := Nat.mul_pos hpositive hup
    have hlt : (w.whole * w.suffix.up - 1) * w.den < w.num :=
      calc (w.whole * w.suffix.up - 1) * w.den
        _ < w.whole * w.suffix.up * 10 ^ w.places := by
            rw [hden]
            exact Nat.mul_lt_mul_of_pos_right (by omega) hplaces
        _ = w.whole * 10 ^ w.places * w.suffix.up := Nat.mul_right_comm ..
        _ ≤ w.num := Nat.mul_le_mul_right _ (Nat.le_add_right _ _)
    have hround := (w.lt_roundUp_iff _).mpr hlt
    omega

theorem roundUp_le_bytes (w : Numeral) (hdown : w.suffix.down = 1) :
    w.num ⌈/⌉ w.den ≤ (w.whole + 1) * w.suffix.up := by
  have hden : w.den = 10 ^ w.places := by simp [Numeral.den, hdown]
  have hfraction := w.fraction_lt
  rw [w.roundUp_le_iff, hden, Numeral.num]
  calc (w.whole * 10 ^ w.places + w.fraction) * w.suffix.up
    _ ≤ (w.whole + 1) * 10 ^ w.places * w.suffix.up :=
        Nat.mul_le_mul_right _ (by rw [Nat.add_mul]; omega)
    _ = (w.whole + 1) * w.suffix.up * 10 ^ w.places := Nat.mul_right_comm ..

/-- A sign makes the pod ask for less than nothing, which no debit matches. -/
theorem memoryDebit_ne_of_negative (w : Numeral) (hsign : w.negative = true)
    (hdown : w.suffix.down = 1) (hup : 2 ^ 20 ≤ w.suffix.up) :
    memoryDebit w.scanned ≠ mebibytes w.value := by
  have hnonneg := memoryDebit_nonneg w.scanned
  rw [mebibytes_value w hsign]
  rcases Nat.eq_zero_or_pos w.whole with hzero | hpositive
  · rw [w.scanned_eq_zero hzero, memoryDebit_zero]
    omega
  · have hbytes := bytes_le_roundUp w hdown
    have hlow : 1 * w.suffix.up ≤ w.whole * w.suffix.up :=
      Nat.mul_le_mul_right _ hpositive
    simp only [maxInt64]
    omega

private theorem memoryDebit_mebibytes (w : Numeral) (hsuffix : w.suffix = .binary 2) :
    memoryDebit w.scanned ≠ mebibytes w.value := by
  have hdown : w.suffix.down = 1 := by rw [hsuffix]; rfl
  have hup : w.suffix.up = 2 ^ 20 := by rw [hsuffix]; rfl
  cases hsign : w.negative with
  | true => exact memoryDebit_ne_of_negative w hsign hdown hup.ge
  | false =>
      have hlower := bytes_le_roundUp w hdown
      have hupper := roundUp_le_bytes w hdown
      rw [hup] at hlower hupper
      by_cases hlarge : w.whole < 2 ^ 43
      · have hscanned : w.scanned = (w.whole : ℤ) :=
          w.scanned_eq_whole hsign (by simp only [maxInt64]; omega)
        rw [hscanned, w.value_of_nonneg hsign, mebibytes_of_nonneg]
        rcases Nat.eq_zero_or_pos w.whole with hzero | hpositive
        · rw [hzero, Nat.cast_zero, memoryDebit_zero]
          omega
        · rw [memoryDebit_small hpositive (by omega)]
          omega
      · apply mebibytes_capped w hsign
        simp only [maxInt64]
        omega

theorem memoryDebit_gibibytes_iff (w : Numeral)
    (hsuffix : w.suffix = .binary 3) :
    memoryDebit w.scanned = mebibytes w.value ↔ GibibytesAgree w := by
  have hdown : w.suffix.down = 1 := by rw [hsuffix]; rfl
  have hup : w.suffix.up = 2 ^ 30 := by rw [hsuffix]; rfl
  unfold GibibytesAgree
  cases hsign : w.negative with
  | true =>
      have hne := memoryDebit_ne_of_negative w hsign hdown (by omega)
      simp [hne]
  | false =>
      have hlower := bytes_le_roundUp w hdown
      have hupper := roundUp_le_bytes w hdown
      rw [hup] at hlower hupper
      simp only [true_and]
      by_cases hlarge : w.whole < 2 ^ 33
      · have hscanned : w.scanned = (w.whole : ℤ) :=
          w.scanned_eq_whole hsign (by simp only [maxInt64]; omega)
        rw [hscanned, w.value_of_nonneg hsign, mebibytes_of_nonneg]
        rcases Nat.eq_zero_or_pos w.whole with hzero | hpositive
        · rw [hzero, Nat.cast_zero, memoryDebit_zero]
          omega
        · have hexact : w.num ⌈/⌉ w.den ≤ w.whole * 2 ^ 30 + (2 ^ 20 - 1) ↔
              w.fraction * 2 ^ 30 ≤ (2 ^ 20 - 1) * 10 ^ w.places := by
            have hden : w.den = 10 ^ w.places := by simp [Numeral.den, hdown]
            rw [w.roundUp_le_iff, hden, Numeral.num, hup, Nat.add_mul,
              Nat.add_mul, Nat.mul_right_comm]
            omega
          rw [memoryDebit_small hpositive (by omega), ← hexact]
          simp only [maxInt64]
          omega
      · have hcapped := mebibytes_capped w hsign (by simp only [maxInt64]; omega)
        exact iff_of_false hcapped fun h => hlarge h.2.1

/-! ## The memory text -/

private theorem trimSuffix_append (s suffix : String) :
    s.toList = (trimSuffix s suffix).toList ++
      (if hasSuffix s suffix then suffix.toList else []) := by
  unfold trimSuffix
  split
  · rename_i hends
    obtain ⟨front, hfront⟩ := List.isSuffixOf_iff_suffix.mp hends
    rw [← hfront]
    simp
  · simp

private theorem podMemoryText_split {req : CreateJobRequest} (hmemory : req.memoryGB ≠ "") :
    ∃ tail, (podMemoryText req).toList =
        (trimSuffix (trimSuffix req.memoryGB "Gi") "G").toList ++ tail ∧
      (tail = [] ∨ ∃ rest, tail = 'G' :: rest) := by
  have houter := trimSuffix_append req.memoryGB "Gi"
  have hinner := trimSuffix_append (trimSuffix req.memoryGB "Gi") "G"
  have hpod : ∃ added, (podMemoryText req).toList =
      req.memoryGB.toList ++ added ∧ (added = [] ∨ added = ['G', 'i']) := by
    simp only [podMemoryText, if_neg hmemory, withGi]
    split
    · exact ⟨['G', 'i'], by simp, .inr rfl⟩
    · exact ⟨[], by simp, .inl rfl⟩
  obtain ⟨added, hpod, hadded⟩ := hpod
  refine ⟨_, by rw [hpod, houter, hinner, List.append_assoc, List.append_assoc], ?_⟩
  rcases hadded with rfl | rfl
  · split <;> split <;> simp
  · split <;> split <;> simp

theorem scannedMemoryGB_of_read {req : CreateJobRequest} {w : Numeral}
    (hmemory : req.memoryGB ≠ "")
    (hread : readNumeral (podMemoryText req) = some w) :
    scannedMemoryGB req = w.scanned := by
  obtain ⟨tail, hsplit, htail⟩ := podMemoryText_split hmemory
  rw [scannedMemoryGB, if_pos hmemory, sscanfD_eq_headScan,
    ← headScan_append htail, ← hsplit, headScan_of_read hread]
  intro c text htext
  have hhead : (podMemoryText req).toList = c :: (text ++ tail) := by
    rw [hsplit, htext, List.cons_append]
  exact isSpace_head_of_read hread hhead

theorem withGi_ends (text : String) :
    hasSuffix text "Mi" = false ∧ hasSuffix (withGi text) "Gi" = true ∨
      hasSuffix text "Mi" = true ∧ withGi text = text := by
  unfold withGi
  cases hmi : hasSuffix text "Mi" with
  | true => exact .inr ⟨rfl, by simp⟩
  | false =>
      refine .inl ⟨rfl, ?_⟩
      cases hgi : hasSuffix text "Gi" with
      | true => simpa using hgi
      | false => exact List.isSuffixOf_iff_suffix.mpr ⟨text.toList, by simp⟩

/-! ## The ledger and the pod -/

section Ledger

variable {K : QuantityAPI} {spec : SystemSpec} {c c' : ProviderCapacity}
  {req : CreateJobRequest} {gpuModel : String}

def debited (c c' : ProviderCapacity) (gpuType : String) : ℤ × ℤ × ℤ :=
  (c'.inUse gpuType - c.inUse gpuType, c'.inUseCPUCores - c.inUseCPUCores,
    c'.inUseMemoryMB - c.inUseMemoryMB)

def extractPodResourceInfo (pod : Pod K) : ℤ × ℤ × ℤ :=
  (podGPUCount K pod.gpus, podCPUCores K pod.cpu, podMemoryMB K pod.memory)

private theorem debitCPU_booked (spec : SystemSpec) (c : ProviderCapacity) (n : ℤ) :
    inUseScalars (c.debitCPU spec n) =
      ((inUseScalars c).1 + booked n, (inUseScalars c).2) := by
  unfold ProviderCapacity.debitCPU booked
  split
  · rfl
  · rw [add_zero]

private theorem debitMemory_booked (spec : SystemSpec) (c : ProviderCapacity) (n : ℤ) :
    inUseScalars (c.debitMemory spec n) =
      ((inUseScalars c).1, (inUseScalars c).2 + booked n) := by
  unfold ProviderCapacity.debitMemory booked
  split
  · rfl
  · rw [add_zero]

private theorem debited_of_granted {a : ResourceAllocation} (hcount : 0 < a.gpuCount)
    (h : allocateResources spec c a = (.ok (), c')) :
    debited c c' (resolveGPUType spec a.gpuType) =
      (a.gpuCount, booked a.cpuCores, booked a.memoryMB) := by
  have hallocation := allocateResources_allocation spec c a
  rw [h] at hallocation
  have hinUse := hallocation.inUse hcount.le (resolveGPUType spec a.gpuType)
  generalize hresult : ((Except.ok (), c') : Outcome × ProviderCapacity) = r
    at hallocation
  cases hallocation with
  | granted =>
      cases hresult
      have hcpu := debitCPU_booked spec
        ((c.initPools spec (resolveGPUType spec a.gpuType)).debitGPUs
          (resolveGPUType spec a.gpuType) a.gpuCount) a.cpuCores
      rw [debitGPUs_inUse_scalars] at hcpu
      have hmemory := debitMemory_booked spec
        (((c.initPools spec (resolveGPUType spec a.gpuType)).debitGPUs
          (resolveGPUType spec a.gpuType) a.gpuCount).debitCPU spec a.cpuCores)
        a.memoryMB
      rw [hcpu] at hmemory
      simp only [inUseScalars, Prod.mk.injEq] at hmemory
      obtain ⟨hcpu, hmemory⟩ := hmemory
      simp only [moved, if_true] at hinUse
      simp only [debited, Prod.mk.injEq]
      refine ⟨by omega, ?_, ?_⟩
      · rw [hcpu]
        exact add_sub_cancel_left _ _
      · rw [hmemory]
        exact add_sub_cancel_left _ _
  | _ => cases hresult

theorem podCPUCores_of_read (hK : K.Documented) {s : String} {q : K.Quantity}
    (h : K.parse s = some q) :
    ∃ w, readNumeral s = some w ∧ podCPUCores K q = w.value := by
  obtain ⟨w, hread, hvalue, hzero⟩ := hK.read h
  refine ⟨w, hread, ?_⟩
  unfold podCPUCores
  split
  · rename_i hnone
    rw [w.value_of_num_zero (hzero.mp hnone)]
  · exact hvalue

theorem podMemoryMB_of_read (hK : K.Documented) {s : String} {q : K.Quantity}
    (h : K.parse s = some q) :
    ∃ w, readNumeral s = some w ∧ podMemoryMB K q = mebibytes w.value := by
  obtain ⟨w, hread, hvalue, hzero⟩ := hK.read h
  refine ⟨w, hread, ?_⟩
  unfold podMemoryMB
  split
  · rename_i hnone
    rw [w.value_of_num_zero (hzero.mp hnone)]
    rfl
  · rw [hvalue]
    rfl

private theorem podGPUCount_of_read (hK : K.Documented) {n : ℤ} (hpositive : 0 < n)
    (hint : n < 2 ^ 63) {q : K.Quantity} (h : K.parse (decimal n) = some q) :
    podGPUCount K q = n := by
  obtain ⟨w, hread, hvalue, -⟩ := hK.read h
  rw [readNumeral_decimal] at hread
  cases hread
  have hsign : decide (n < 0) = false := decide_eq_false (by omega)
  rw [podGPUCount, hvalue, Numeral.value_of_nonneg _ hsign]
  simp only [Numeral.num, Numeral.den, Suffix.up, Suffix.down, maxInt64]
  simp only [pow_zero, mul_one, add_zero, Int.toNat_zero, neg_zero, ceilDiv_one]
  omega

theorem podGPUCount_request (hK : K.Documented) (hint : req.gpuCount < 2 ^ 63)
    {gpus : K.Quantity} (h : K.parse (podGPUText req) = some gpus) (gpuModel : String) :
    podGPUCount K gpus = (requestAllocation req gpuModel).gpuCount := by
  have hfits : (requestAllocation req gpuModel).gpuCount < 2 ^ 63 := by
    simp only [requestAllocation]
    split <;> omega
  exact podGPUCount_of_read hK (requestAllocation_gpuCount_pos req gpuModel) hfits h

structure TextsAgree (req : CreateJobRequest) : Prop where
  cpu : ∃ w, readNumeral req.cpuCores = some w ∧ CPUTextAgrees w
  memory : req.memoryGB ≠ "" ∧ hasSuffix req.memoryGB "Mi" = false ∧
    ∃ w, readNumeral (podMemoryText req) = some w ∧ GibibytesAgree w

theorem cpu_agrees_iff (hK : K.Documented) {cpu : K.Quantity}
    (hcpu : K.parse (podCPUText req) = some cpu) :
    booked (requestedCPU req) = podCPUCores K cpu ↔
      ∃ w, readNumeral req.cpuCores = some w ∧ CPUTextAgrees w := by
  obtain ⟨w, hread, hpod⟩ := podCPUCores_of_read hK hcpu
  by_cases hempty : req.cpuCores = ""
  · have htwo : podCPUText req = "2" := by rw [podCPUText, if_pos hempty]
    rw [htwo] at hread
    cases hread
    have hnone : readNumeral "" = none := by decide
    rw [hpod, requestedCPU, hempty, hnone]
    refine iff_of_false (by decide) ?_
    rintro ⟨w, hw, -⟩
    contradiction
  · have htext : podCPUText req = req.cpuCores := by
      rw [podCPUText, if_neg hempty]
    rw [htext] at hread
    have hdebit : booked (requestedCPU req) = cpuDebit w.scanned := by
      rw [requestedCPU, if_pos hempty, sscanfD_of_read hread, cpuDebit]
    rw [hdebit, hpod, cpuDebit_eq_iff]
    simp [hread]

theorem memory_agrees_iff (hK : K.Documented) {memory : K.Quantity}
    (hmemory : K.parse (podMemoryText req) = some memory) :
    booked (requestedMemoryMB req) = podMemoryMB K memory ↔
      req.memoryGB ≠ "" ∧ hasSuffix req.memoryGB "Mi" = false ∧
        ∃ w, readNumeral (podMemoryText req) = some w ∧ GibibytesAgree w := by
  obtain ⟨w, hread, hpod⟩ := podMemoryMB_of_read hK hmemory
  by_cases hempty : req.memoryGB = ""
  · have height : podMemoryText req = "8Gi" := by rw [podMemoryText, if_pos hempty]
    rw [height] at hread
    cases hread
    rw [hpod, requestedMemoryMB, scannedMemoryGB, hempty]
    refine iff_of_false (by decide) ?_
    rintro ⟨hnonempty, -⟩
    exact hnonempty rfl
  · have hdebit : booked (requestedMemoryMB req) = memoryDebit w.scanned := by
      rw [requestedMemoryMB, scannedMemoryGB_of_read hempty hread, memoryDebit]
    have htext : podMemoryText req = withGi req.memoryGB := by
      rw [podMemoryText, if_neg hempty]
    have hends (unit : String) (hunit : hasSuffix (withGi req.memoryGB) unit = true) :
        unit.toList <:+ (podMemoryText req).toList := by
      rw [htext]
      exact List.isSuffixOf_iff_suffix.mp hunit
    rw [hdebit, hpod, and_iff_right hempty]
    rcases withGi_ends req.memoryGB with ⟨hnot, hgi⟩ | ⟨hmi, hsame⟩
    · have hsuffix : w.suffix = .binary 3 :=
        (Option.some.inj (suffix_of_ends hread (hends "Gi" hgi))).symm
      rw [memoryDebit_gibibytes_iff w hsuffix, and_iff_right hnot]
      simp [hread]
    · have hsuffix : w.suffix = .binary 2 :=
        (Option.some.inj (suffix_of_ends hread
          (hends "Mi" (by rw [hsame]; exact hmi)))).symm
      simp [memoryDebit_mebibytes w hsuffix, hmi]

variable {uid : ℕ} {user providerID : String} {now : ℤ} {pod : Pod K}

/--
For every request that a provider's ledger grants and whose pod is built, debit
and footprint agree exactly when the request's texts do.
-/
theorem debit_equals_footprint_iff (hK : K.Documented)
    (hint : req.gpuCount < 2 ^ 63)
    (hgranted : allocateResources spec c (requestAllocation req gpuModel) =
      (.ok (), c'))
    (hpod : buildGPUPod K uid user providerID gpuModel req now = some pod) :
    debited c c' (resolveGPUType spec gpuModel) = extractPodResourceInfo pod ↔
      TextsAgree req := by
  obtain ⟨-, -, -, hcpu, hmemory, hgpus⟩ := buildGPUPod_eq_some hpod
  have hcount := requestAllocation_gpuCount_pos req gpuModel
  have hfits : (requestAllocation req gpuModel).gpuCount < 2 ^ 63 := by
    simp only [requestAllocation]
    split <;> omega
  have hdebited := debited_of_granted hcount hgranted
  change debited c c' (resolveGPUType spec gpuModel) =
    ((requestAllocation req gpuModel).gpuCount, booked (requestedCPU req),
      booked (requestedMemoryMB req)) at hdebited
  have hgpu := podGPUCount_of_read hK hcount hfits hgpus
  rw [hdebited, extractPodResourceInfo, hgpu]
  simp only [Prod.mk.injEq, true_and]
  rw [cpu_agrees_iff hK hcpu, memory_agrees_iff hK hmemory]
  exact ⟨fun h => ⟨h.1, h.2⟩, fun h => ⟨h.cpu, h.memory⟩⟩

end Ledger

/-- Two GPUs, eight cores and 16 gibibytes are debited as the pod asks for them. -/
theorem debit_equals_footprint_sample :
    ∃ pod : Pod writtenQuantities,
      buildGPUPod writtenQuantities 0 "alice" "p1" "RTX 4090"
        ⟨"p1", "", 2, "8", "16Gi", "", 24⟩ 0 = some pod ∧
      debited sampleCapacity (allocateResources sampleSpec sampleCapacity
        (requestAllocation ⟨"p1", "", 2, "8", "16Gi", "", 24⟩ "RTX 4090")).2
        "RTX 4090" = extractPodResourceInfo pod := by
  have hbuilt : (buildGPUPod writtenQuantities 0 "alice" "p1" "RTX 4090"
      ⟨"p1", "", 2, "8", "16Gi", "", 24⟩ 0).isSome := by decide
  obtain ⟨pod, hpod⟩ := Option.isSome_iff_exists.mp hbuilt
  have hgranted : allocateResources sampleSpec sampleCapacity
      (requestAllocation ⟨"p1", "", 2, "8", "16Gi", "", 24⟩ "RTX 4090") =
        (.ok (), _) := Prod.ext rfl rfl
  refine ⟨pod, hpod, (debit_equals_footprint_iff writtenQuantities_documented
    (by decide) hgranted hpod).mpr
    ⟨⟨_, rfl, ?_⟩, by decide, by decide, ⟨_, rfl, ?_⟩⟩⟩
  · exact ⟨rfl, by decide⟩
  · exact ⟨rfl, by decide, by decide, by decide⟩

/-- A request without texts is debited 4 cores and 16 GB for a pod of 2 and 8. -/
theorem debit_differs_from_footprint :
    ∃ pod : Pod writtenQuantities, writtenQuantities.Documented ∧
      (allocateResources sampleSpec sampleCapacity
        (requestAllocation ⟨"p1", "", 1, "", "", "", 24⟩ "RTX 4090")).1 = .ok () ∧
      buildGPUPod writtenQuantities 0 "alice" "p1" "RTX 4090"
        ⟨"p1", "", 1, "", "", "", 24⟩ 0 = some pod ∧
      debited sampleCapacity (allocateResources sampleSpec sampleCapacity
        (requestAllocation ⟨"p1", "", 1, "", "", "", 24⟩ "RTX 4090")).2
        "RTX 4090" = (1, 4, 16384) ∧
      extractPodResourceInfo pod = (1, 2, 8192) := by
  have hbuilt : (buildGPUPod writtenQuantities 0 "alice" "p1" "RTX 4090"
      ⟨"p1", "", 1, "", "", "", 24⟩ 0).any
        (fun pod => extractPodResourceInfo pod = (1, 2, 8192)) = true := by decide
  obtain ⟨pod, hpod, hfootprint⟩ := (Option.any_eq_true _ _).mp hbuilt
  exact ⟨pod, writtenQuantities_documented, rfl, hpod, by decide,
    of_decide_eq_true hfootprint⟩

end WorldlandBroker.Job
