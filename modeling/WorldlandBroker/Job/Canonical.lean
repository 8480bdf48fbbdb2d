import WorldlandBroker.Job.Footprint

/-!
# How quantities are printed

Kubernetes keeps a quantity in thousandths, rounded up and capped, and remembers
whether it was written with a binary suffix, a decimal one or an exponent.  The
canonical text loses no precision, has no fraction, and its suffix is as large
as possible; a binary quantity that is below 1024 or no integer is printed as a
decimal one.
-/

namespace WorldlandBroker.Job

open Provider

namespace Suffix

def isBinary : Suffix → Bool
  | binary _ => true
  | decimal _ => false

end Suffix

/-- By the power of 1000 that multiplies a thousandth. -/
def decimalSuffixes : List String := ["m", "", "k", "M", "G", "T", "P", "E"]

def exponentSuffixes : List String := ["e-3", "", "e3", "e6", "e9", "e12", "e15", "e18"]

def binarySuffixes : List String := ["", "Ki", "Mi", "Gi", "Ti", "Pi", "Ei"]

namespace Numeral

def thousandths (w : Numeral) : ℕ := min (w.num * 1000 ⌈/⌉ w.den) (maxInt64 * 1000)

def PrintsBinary (w : Numeral) : Prop :=
  w.suffix.isBinary = true ∧ 1000 ∣ w.thousandths ∧ 1024 * 1000 ≤ w.thousandths

instance (w : Numeral) : Decidable w.PrintsBinary :=
  inferInstanceAs (Decidable (_ ∧ _ ∧ _))

inductive Canonical (w : Numeral) : String → Prop where
  | decimal (mantissa power : ℕ) (suffix : String) (hform : ¬ w.PrintsBinary)
      (hexact : mantissa * 1000 ^ power = w.thousandths) (hlargest : ¬ 1000 ∣ mantissa)
      (hsuffix : decimalSuffixes[power]? = some suffix ∨
        exponentSuffixes[power]? = some suffix) :
      Canonical w (Provider.decimal (w.signed mantissa) ++ suffix)
  | binary (mantissa power : ℕ) (suffix : String) (hform : w.PrintsBinary)
      (hexact : mantissa * 1024 ^ power * 1000 = w.thousandths) (hlargest : ¬ 1024 ∣ mantissa)
      (hsuffix : binarySuffixes[power]? = some suffix) :
      Canonical w (Provider.decimal (w.signed mantissa) ++ suffix)

theorem roundUp_thousandths (w : Numeral) :
    (w.num * 1000 ⌈/⌉ w.den + 999) / 1000 = w.num ⌈/⌉ w.den := by
  refine eq_of_forall_ge_iff fun m => ?_
  have hceil : w.num * 1000 ⌈/⌉ w.den ≤ m * 1000 ↔ w.num * 1000 ≤ m * w.den * 1000 := by
    rw [ceilDiv_le_iff_le_mul w.den_pos, Nat.mul_comm w.den, Nat.mul_right_comm]
  rw [w.roundUp_le_iff]
  omega

theorem value_eq_thousandths (w : Numeral) :
    w.value = w.signed ((w.thousandths + 999) / 1000) := by
  have hround := w.roundUp_thousandths
  rw [value, thousandths, ← hround]
  congr 1
  omega

theorem thousandths_eq_zero (w : Numeral) : w.thousandths = 0 ↔ w.num = 0 := by
  have hceil : w.num * 1000 ⌈/⌉ w.den ≤ 0 ↔ w.num * 1000 ≤ 0 := by
    rw [ceilDiv_le_iff_le_mul w.den_pos, Nat.mul_zero]
  have hcap : 0 < maxInt64 := by decide
  unfold thousandths
  omega

theorem thousandths_le (w : Numeral) : w.thousandths ≤ maxInt64 * 1000 := min_le_right _ _

end Numeral

structure QuantityAPI.Canonical (K : QuantityAPI) : Prop where
  prints : ∀ s w q, readNumeral s = some w → K.parse s = some q → w.num ≠ 0 →
    w.Canonical (K.print q)

/-! ## Quantities that print canonically -/

def stripFactor (base : ℕ) : ℕ → ℕ → ℕ × ℕ
  | 0, n => (n, 0)
  | fuel + 1, n =>
      if base ∣ n then
        let stripped := stripFactor base fuel (n / base)
        (stripped.1, stripped.2 + 1)
      else (n, 0)

private theorem stripFactor_exact (base fuel n : ℕ) :
    (stripFactor base fuel n).1 * base ^ (stripFactor base fuel n).2 = n := by
  induction fuel generalizing n with
  | zero => simp [stripFactor]
  | succ fuel ih =>
      rw [stripFactor]
      split
      · rename_i hfactor
        simp only []
        rw [pow_succ, ← Nat.mul_assoc, ih, Nat.div_mul_cancel hfactor]
      · simp

private theorem stripFactor_largest {base fuel n : ℕ} (hpositive : 0 < n) (hn : n < base ^ fuel) :
    ¬ base ∣ (stripFactor base fuel n).1 := by
  induction fuel generalizing n with
  | zero =>
      rw [pow_zero] at hn
      omega
  | succ fuel ih =>
      rw [stripFactor]
      split
      · rename_i hfactor
        have hbase : 0 < base := Nat.pos_of_dvd_of_pos hfactor hpositive
        exact ih (Nat.div_pos (Nat.le_of_dvd hpositive hfactor) hbase)
          (Nat.div_lt_of_lt_mul (by rwa [pow_succ'] at hn))
      · rename_i hplain
        exact hplain

private theorem stripFactor_lt {base fuel n : ℕ} (hbase : 1 < base) (hpositive : 0 < n)
    (hn : n < base ^ fuel) : (stripFactor base fuel n).2 < fuel := by
  have hexact := stripFactor_exact base fuel n
  have hmantissa : 0 < (stripFactor base fuel n).1 := by
    by_contra hnone
    rw [Nat.eq_zero_of_not_pos hnone, Nat.zero_mul] at hexact
    omega
  by_contra hlarge
  have hpow : base ^ fuel ≤ base ^ (stripFactor base fuel n).2 :=
    Nat.pow_le_pow_right (by omega) (not_lt.mp hlarge)
  have hgrows := Nat.le_mul_of_pos_left (base ^ (stripFactor base fuel n).2) hmantissa
  omega

def Numeral.canonicalText (w : Numeral) : String :=
  if w.PrintsBinary then
    let stripped := stripFactor 1024 7 (w.thousandths / 1000)
    decimal (w.signed stripped.1) ++ (binarySuffixes[stripped.2]?).getD ""
  else
    let stripped := stripFactor 1000 8 w.thousandths
    decimal (w.signed stripped.1) ++ (decimalSuffixes[stripped.2]?).getD ""

theorem Numeral.canonicalText_canonical {w : Numeral} (hnum : w.num ≠ 0) :
    w.Canonical w.canonicalText := by
  have hpositive : 0 < w.thousandths :=
    Nat.pos_of_ne_zero fun hzero => hnum (w.thousandths_eq_zero.mp hzero)
  have hcap := w.thousandths_le
  simp only [maxInt64] at hcap
  unfold canonicalText
  split
  · rename_i hform
    have hunits : w.thousandths / 1000 * 1000 = w.thousandths := Nat.div_mul_cancel hform.2.1
    have hbound : w.thousandths / 1000 < 1024 ^ 7 := by omega
    have hsome : 0 < w.thousandths / 1000 := by omega
    have hpower := stripFactor_lt (by decide) hsome hbound
    refine .binary _ (stripFactor 1024 7 (w.thousandths / 1000)).2 _ hform ?_
      (stripFactor_largest hsome hbound) ?_
    · rw [stripFactor_exact, hunits]
    · rw [List.getElem?_eq_getElem (by exact hpower), Option.getD_some]
  · rename_i hform
    have hbound : w.thousandths < 1000 ^ 8 := by omega
    have hpower := stripFactor_lt (by decide) hpositive hbound
    refine .decimal _ (stripFactor 1000 8 w.thousandths).2 _ hform
      (stripFactor_exact 1000 8 w.thousandths) (stripFactor_largest hpositive hbound) (.inl ?_)
    rw [List.getElem?_eq_getElem (by exact hpower), Option.getD_some]

/-- Quantities that print in decimal form even where they were written with an exponent. -/
def canonicalQuantities : QuantityAPI where
  Quantity := Numeral
  parse := readNumeral
  value := Numeral.value
  isZero w := w.num == 0
  print := Numeral.canonicalText

theorem canonicalQuantities_documented : canonicalQuantities.Documented where
  unreadable _ h := h
  readable _ w h := ⟨w, h, rfl, by simp [canonicalQuantities]⟩

theorem canonicalQuantities_canonical : canonicalQuantities.Canonical where
  prints s w q hread hparse hnum := by
    cases hread.symm.trans hparse
    exact Numeral.canonicalText_canonical hnum

/-! ## Scanning a printed text -/

theorem toList_decimal_signed (n : ℤ) :
    (decimal n).toList =
      if n < 0 then '-' :: Nat.toDigits 10 n.natAbs else Nat.toDigits 10 n.natAbs := by
  rw [decimal, Int.toString_eq_repr, Int.repr_eq_if]
  by_cases hnegative : n < 0
  · have habs : (-n).toNat = n.natAbs := by omega
    rw [if_neg (by omega), if_pos hnegative, String.toList_append, Nat.toList_repr, habs]
    rfl
  · have habs : n.toNat = n.natAbs := by omega
    rw [if_pos (by omega), if_neg hnegative, Nat.toList_repr, habs]

private theorem acceptSign_of_isDigit {c : Char} (hc : c.isDigit = true) (text : List Char) :
    acceptSign (c :: text) = (1, c :: text) := by
  unfold acceptSign
  split
  · rename_i hminus
    cases hminus
    contradiction
  · rename_i hplus
    cases hplus
    contradiction
  · rfl

private theorem takeWhile_digits_append (n : ℕ) {tail : List Char}
    (htail : ∀ c ∈ tail.head?, c.isDigit = false) :
    (Nat.toDigits 10 n ++ tail).takeWhile Char.isDigit = Nat.toDigits 10 n := by
  have hdigits : ∀ c ∈ Nat.toDigits 10 n, c.isDigit = true :=
    fun c hc => isDigit_of_mem_toDigits hc
  have hrest : tail.takeWhile Char.isDigit = [] := by
    cases tail with
    | nil => rfl
    | cons c tail =>
        have hc := htail c rfl
        rw [List.takeWhile_cons, hc]
        rfl
  rw [List.takeWhile_append_of_pos hdigits, hrest, List.append_nil]

theorem toDigits_eq_cons (n : ℕ) : ∃ c text, Nat.toDigits 10 n = c :: text ∧
    c.isDigit = true := by
  cases h : Nat.toDigits 10 n with
  | nil => exact absurd h Nat.toDigits_ne_nil
  | cons c text =>
      refine ⟨c, text, rfl, isDigit_of_mem_toDigits (n := n) ?_⟩
      rw [h]
      exact List.mem_cons_self

/-- `Sscanf` leaves zero where a number does not fit. -/
def fitted (n : ℤ) : ℤ := if inInt64 n then n else 0

theorem sscanfD_decimal_append (n : ℤ) {tail : String}
    (htail : ∀ c ∈ tail.toList.head?, c.isDigit = false) :
    sscanfD (decimal n ++ tail) = fitted n := by
  obtain ⟨c, text, hdigits, hc⟩ := toDigits_eq_cons n.natAbs
  have htake := takeWhile_digits_append n.natAbs htail
  have hlist : (decimal n ++ tail).toList = (decimal n).toList ++ tail.toList :=
    String.toList_append
  rw [toList_decimal_signed] at hlist
  rw [sscanfD_eq_headScan, fitted]
  · rw [headScan, hlist, scanNumber_eq]
    split
    · rename_i hnegative
      have hsign : acceptSign ('-' :: Nat.toDigits 10 n.natAbs ++ tail.toList) =
          (-1, Nat.toDigits 10 n.natAbs ++ tail.toList) := rfl
      have hn : -1 * (n.natAbs : ℤ) = n := by omega
      simp only [hsign, htake, Nat.ofDigitChars_ten_toDigits, hn]
    · rename_i hnonneg
      have hsign : acceptSign (Nat.toDigits 10 n.natAbs ++ tail.toList) =
          (1, Nat.toDigits 10 n.natAbs ++ tail.toList) := by
        rw [hdigits]
        exact acceptSign_of_isDigit hc _
      have hn : 1 * (n.natAbs : ℤ) = n := by omega
      simp only [hsign, htake, Nat.ofDigitChars_ten_toDigits, hn]
  · intro c' text' hhead
    rw [hlist] at hhead
    split at hhead
    · cases hhead
      decide
    · rw [hdigits] at hhead
      cases hhead
      exact isSpace_of_isDigit hc

private theorem sscanfD_decimal (n : ℤ) : sscanfD (decimal n) = fitted n := by
  have hscan := sscanfD_decimal_append n (show ∀ c ∈ "".toList.head?, c.isDigit = false by simp)
  rwa [String.append_empty] at hscan

/-! ## Reading an integer with a suffix -/

private theorem readNumber_toDigits_append (sign : ℤ) (n : ℕ) {c : Char} {text : List Char}
    {suffix : Suffix} (hc : c.isDigit = false) (hpoint : c ≠ '.')
    (hsuffix : readSuffix (c :: text) = some suffix) :
    readNumber sign (Nat.toDigits 10 n ++ c :: text) =
      some ⟨sign < 0, n, 0, 0, by decide, suffix⟩ := by
  have htake : (Nat.toDigits 10 n ++ c :: text).takeWhile Char.isDigit = Nat.toDigits 10 n :=
    takeWhile_digits_append n (by simpa using hc)
  have hdrop : (Nat.toDigits 10 n ++ c :: text).dropWhile Char.isDigit = c :: text := by
    have hsplit := List.takeWhile_append_dropWhile (p := Char.isDigit)
      (l := Nat.toDigits 10 n ++ c :: text)
    rw [htake] at hsplit
    exact List.append_cancel_left hsplit
  have hplain : pointDigits (c :: text) = [] ∧ afterNumber (c :: text) = c :: text := by
    unfold pointDigits afterNumber
    constructor
    · split
      · rename_i hcons
        cases hcons
        exact absurd rfl hpoint
      · rfl
    · split
      · rename_i hcons
        cases hcons
        exact absurd rfl hpoint
      · rfl
  simp only [readNumber, htake, hdrop, hplain, hsuffix, Nat.toDigits_ne_nil, false_and, if_false,
    Nat.ofDigitChars_ten_toDigits, Option.map_some]
  rfl

theorem readNumeral_decimal_append (n : ℤ) {s : String} {c : Char} {text : List Char}
    {suffix : Suffix} (hs : s.toList = c :: text) (hc : c.isDigit = false) (hpoint : c ≠ '.')
    (hsuffix : readSuffix (c :: text) = some suffix) :
    readNumeral (decimal n ++ s) = some ⟨n < 0, n.natAbs, 0, 0, by decide, suffix⟩ := by
  obtain ⟨first, digits, hdigits, hfirst⟩ := toDigits_eq_cons n.natAbs
  rw [readNumeral, String.toList_append, hs, toList_decimal_signed]
  split
  · rename_i hnegative
    rw [decide_eq_true hnegative]
    exact readNumber_toDigits_append (-1) n.natAbs hc hpoint hsuffix
  · rename_i hnonneg
    rw [decide_eq_false hnonneg]
    have hsign : acceptSign (Nat.toDigits 10 n.natAbs ++ c :: text) =
        (1, Nat.toDigits 10 n.natAbs ++ c :: text) := by
      rw [hdigits]
      exact acceptSign_of_isDigit hfirst _
    rw [hsign]
    exact readNumber_toDigits_append 1 n.natAbs hc hpoint hsuffix

/-! ## The end of a printed text -/

theorem getLast_decimal (n : ℤ) : ∃ front c, (decimal n).toList = front ++ [c] ∧
    c.isDigit = true := by
  obtain ⟨digits, c, hdigits⟩ :=
    (List.eq_nil_or_concat (Nat.toDigits 10 n.natAbs)).resolve_left Nat.toDigits_ne_nil
  have hc : c.isDigit = true := by
    refine isDigit_of_mem_toDigits (n := n.natAbs) ?_
    rw [hdigits]
    simp
  rw [toList_decimal_signed, hdigits]
  split
  · exact ⟨'-' :: digits, c, by simp, hc⟩
  · exact ⟨digits, c, by simp, hc⟩

theorem hasSuffix_decimal_append (n : ℤ) (tail : String) {unit : String}
    (hunit : unit.toList.any Char.isDigit = false) :
    hasSuffix (decimal n ++ tail) unit = hasSuffix tail unit := by
  obtain ⟨front, c, hlast, hc⟩ := getLast_decimal n
  rw [Bool.eq_iff_iff, hasSuffix, hasSuffix, List.isSuffixOf_iff_suffix,
    List.isSuffixOf_iff_suffix, String.toList_append]
  constructor
  · intro hends
    rcases Nat.le_total unit.toList.length tail.toList.length with hshort | hlong
    · exact List.suffix_of_suffix_length_le hends (List.suffix_append _ _) hshort
    · obtain ⟨before, hbefore⟩ :=
        List.suffix_of_suffix_length_le (List.suffix_append _ _) hends hlong
      rcases List.eq_nil_or_concat before with rfl | ⟨before, last, rfl⟩
      · rw [← hbefore]
        exact List.suffix_rfl
      · rw [List.concat_eq_append] at hbefore
        obtain ⟨text, htext⟩ := hends
        rw [← hbefore, hlast, ← List.append_assoc, ← List.append_assoc] at htext
        have hsame := (List.append_inj' (List.append_cancel_right htext) rfl).2
        cases hsame
        have hmem : c ∈ unit.toList := by
          rw [← hbefore]
          simp
        exact absurd hc (List.any_eq_false.mp hunit c hmem)
  · intro hends
    exact hends.trans (List.suffix_append _ _)

private theorem trimSuffix_cancel (s t : String) : trimSuffix (s ++ t) t = s := by
  have hends : hasSuffix (s ++ t) t = true := by
    rw [hasSuffix, List.isSuffixOf_iff_suffix, String.toList_append]
    exact List.suffix_append _ _
  rw [trimSuffix, if_pos hends, String.toList_append, List.length_append,
    Nat.add_sub_cancel, List.take_left, String.ofList_toList]

/-! ## What the decoders make of one -/

def coresRead (n : ℤ) : ℤ :=
  if 1000 ≤ fitted n then (fitted n).tdiv 1000 else fitted n

def printedSuffixes : List String := decimalSuffixes ++ exponentSuffixes ++ binarySuffixes

theorem printedSuffixes_head : ∀ suffix ∈ printedSuffixes,
    ∀ c ∈ suffix.toList.head?, c.isDigit = false := by
  have hheads : ∀ suffix ∈ printedSuffixes,
      suffix.toList.head?.any Char.isDigit = false := by decide
  intro suffix hsuffix c hc
  have hhead := hheads suffix hsuffix
  rwa [Option.mem_def.mp hc] at hhead

theorem decimal_append_ne_empty (n : ℤ) (tail : String) : decimal n ++ tail ≠ "" := by
  obtain ⟨front, c, hlast, -⟩ := getLast_decimal n
  intro hempty
  have hlist := congrArg String.toList hempty
  rw [String.toList_append, hlast] at hlist
  simp at hlist

theorem decodeCPU_printed (n : ℤ) {suffix : String} (hsuffix : suffix ∈ printedSuffixes) :
    decodeCPU (decimal n ++ suffix) = coresRead n := by
  have hscan : sscanfD (trimSuffix (decimal n ++ suffix) "m") = fitted n := by
    by_cases hmilli : suffix = "m"
    · rw [hmilli, trimSuffix_cancel, sscanfD_decimal]
    · have hnone : ∀ suffix ∈ printedSuffixes, suffix ≠ "m" →
          hasSuffix suffix "m" = false := by decide
      rw [trimSuffix, hasSuffix_decimal_append n suffix (by decide),
        hnone suffix hsuffix hmilli]
      exact sscanfD_decimal_append n (printedSuffixes_head suffix hsuffix)
  rw [decodeCPU, if_pos (decimal_append_ne_empty n suffix), hscan, coresRead]

/-- Only mebibytes and gibibytes are told apart from gigabytes. -/
theorem decodeMemory_printed (n : ℤ) {suffix : String} (hsuffix : suffix ∈ printedSuffixes) :
    decodeMemory (decimal n ++ suffix) =
      if suffix = "Mi" then fitted n else wrapInt64 (fitted n * 1024) := by
  have hends : ∀ suffix ∈ printedSuffixes,
      (suffix ≠ "Gi" → hasSuffix suffix "Gi" = false) ∧
        (suffix ≠ "Mi" → hasSuffix suffix "Mi" = false) := by decide
  have hscan := sscanfD_decimal_append n (printedSuffixes_head suffix hsuffix)
  rw [decodeMemory, if_pos (decimal_append_ne_empty n suffix),
    hasSuffix_decimal_append n suffix (by decide),
    hasSuffix_decimal_append n suffix (by decide)]
  by_cases hgi : suffix = "Gi"
  · have hunit : hasSuffix "Gi" "Gi" = true := by decide
    rw [hgi, if_pos hunit, trimSuffix_cancel, sscanfD_decimal,
      if_neg (by decide)]
  · rw [(hends suffix hsuffix).1 hgi]
    by_cases hmi : suffix = "Mi"
    · have hunit : hasSuffix "Mi" "Mi" = true := by decide
      rw [hmi, if_neg (by decide), if_pos hunit, trimSuffix_cancel, sscanfD_decimal, if_pos rfl]
    · rw [(hends suffix hsuffix).2 hmi, if_neg (by decide), if_neg (by decide), hscan,
        if_neg hmi]

end WorldlandBroker.Job
