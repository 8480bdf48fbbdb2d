import WorldlandBroker.Job.Quantity
import Mathlib.Algebra.Order.Floor.Div

/-!
# How quantities are written

The grammar Kubernetes documents for `resource.Quantity`: a signed decimal
number and one suffix, binary (`Ki`, `Mi`, ...), decimal (`m`, `k`, ...) or an
exponent of ten.  The value of a quantity is its number rounded up to an
integer, away from zero, and capped at the largest 64-bit integer.
-/

namespace WorldlandBroker.Job

open Provider

def maxInt64 : ℕ := 2 ^ 63 - 1

inductive Suffix where
  | binary (power : ℕ)
  | decimal (exponent : ℤ)
  deriving DecidableEq

namespace Suffix

def up : Suffix → ℕ
  | binary power => 1024 ^ power
  | decimal exponent => 10 ^ exponent.toNat

def down : Suffix → ℕ
  | binary _ => 1
  | decimal exponent => 10 ^ (-exponent).toNat

theorem up_pos (suffix : Suffix) : 0 < suffix.up := by
  cases suffix <;> simp [up]

theorem down_pos (suffix : Suffix) : 0 < suffix.down := by
  cases suffix <;> simp [down]

theorem scale_cases (suffix : Suffix) :
    (suffix.up = 1 ∧ suffix.down = 1) ∨ (10 ≤ suffix.up ∧ suffix.down = 1) ∨
      (suffix.up = 1 ∧ 10 ≤ suffix.down) := by
  cases suffix with
  | binary power =>
      rcases Nat.eq_zero_or_pos power with rfl | hpositive
      · exact .inl ⟨rfl, rfl⟩
      · refine .inr (.inl ⟨?_, rfl⟩)
        have hpow := Nat.pow_le_pow_right (n := 1024) (by decide) hpositive
        simp only [up]
        omega
  | decimal exponent =>
      rcases lt_trichotomy exponent 0 with hnegative | rfl | hpositive
      · refine .inr (.inr ⟨?_, ?_⟩)
        · simp [up, Int.toNat_of_nonpos hnegative.le]
        · have hpow := Nat.pow_le_pow_right (n := 10) (by decide)
            (show 1 ≤ (-exponent).toNat by omega)
          simpa [down] using hpow
      · exact .inl ⟨rfl, rfl⟩
      · refine .inr (.inl ⟨?_, ?_⟩)
        · have hpow := Nat.pow_le_pow_right (n := 10) (by decide)
            (show 1 ≤ exponent.toNat by omega)
          simpa [up] using hpow
        · simp [down, Int.toNat_of_nonpos (neg_nonpos.mpr hpositive.le)]

end Suffix

/-- The digits after the point are kept with their number. -/
structure Numeral where
  negative : Bool
  whole : ℕ
  fraction : ℕ
  places : ℕ
  fraction_lt : fraction < 10 ^ places
  suffix : Suffix
  deriving DecidableEq

namespace Numeral

def num (w : Numeral) : ℕ := (w.whole * 10 ^ w.places + w.fraction) * w.suffix.up

def den (w : Numeral) : ℕ := 10 ^ w.places * w.suffix.down

def signed (w : Numeral) (n : ℕ) : ℤ := if w.negative then -n else n

def value (w : Numeral) : ℤ := w.signed (min (w.num ⌈/⌉ w.den) maxInt64)

theorem den_pos (w : Numeral) : 0 < w.den :=
  Nat.mul_pos (Nat.pow_pos (by decide)) w.suffix.down_pos

end Numeral

/-! ## Reading -/

private theorem ofDigitChars_lt {text : List Char} (h : ∀ c ∈ text, c.isDigit = true) :
    Nat.ofDigitChars 10 text 0 < 10 ^ text.length := by
  induction text using List.reverseRecOn with
  | nil => simp
  | append_singleton text c ih =>
      have hinit := ih fun c' hc' => h c' (List.mem_append_left _ hc')
      have hdigit : c.toNat - '0'.toNat < 10 := by
        have hc := h c (by simp)
        simp only [Char.isDigit, Bool.and_eq_true, decide_eq_true_eq] at hc
        have hupper : c.toNat ≤ '9'.toNat := hc.2
        have hnine : '9'.toNat = 57 := rfl
        have hzero : '0'.toNat = 48 := rfl
        omega
      rw [Nat.ofDigitChars_append, Nat.ofDigitChars_cons, Nat.ofDigitChars_nil,
        List.length_append, List.length_singleton, pow_succ]
      omega

def readExponent (text : List Char) : Option Suffix :=
  let digits := (acceptSign text).2
  if digits ≠ [] ∧ digits.all Char.isDigit then
    some (.decimal ((acceptSign text).1 * (Nat.ofDigitChars 10 digits 0 : ℤ)))
  else none

def readSuffix : List Char → Option Suffix
  | [] => some (.decimal 0)
  | ['n'] => some (.decimal (-9))
  | ['u'] => some (.decimal (-6))
  | ['m'] => some (.decimal (-3))
  | ['k'] => some (.decimal 3)
  | ['M'] => some (.decimal 6)
  | ['G'] => some (.decimal 9)
  | ['T'] => some (.decimal 12)
  | ['P'] => some (.decimal 15)
  | ['E'] => some (.decimal 18)
  | ['K', 'i'] => some (.binary 1)
  | ['M', 'i'] => some (.binary 2)
  | ['G', 'i'] => some (.binary 3)
  | ['T', 'i'] => some (.binary 4)
  | ['P', 'i'] => some (.binary 5)
  | ['E', 'i'] => some (.binary 6)
  | 'e' :: text => readExponent text
  | 'E' :: text => readExponent text
  | _ => none

def pointDigits : List Char → List Char
  | '.' :: text => text.takeWhile Char.isDigit
  | _ => []

def afterNumber : List Char → List Char
  | '.' :: text => text.dropWhile Char.isDigit
  | text => text

private theorem pointDigits_isDigit {text : List Char} :
    ∀ c ∈ pointDigits text, c.isDigit = true := by
  unfold pointDigits
  split
  · intro c hc
    exact List.mem_takeWhile_imp hc
  · simp

def readNumber (sign : ℤ) (text : List Char) : Option Numeral :=
  let digits := text.takeWhile Char.isDigit
  let rest := text.dropWhile Char.isDigit
  if digits = [] ∧ pointDigits rest = [] then none
  else
    (readSuffix (afterNumber rest)).map fun suffix =>
      { negative := sign < 0
        whole := Nat.ofDigitChars 10 digits 0
        fraction := Nat.ofDigitChars 10 (pointDigits rest) 0
        places := (pointDigits rest).length
        fraction_lt := ofDigitChars_lt pointDigits_isDigit
        suffix := suffix }

def readNumeral (s : String) : Option Numeral :=
  readNumber (acceptSign s.toList).1 (acceptSign s.toList).2

/--
The documented behaviour: exactly the grammar parses, and a quantity stands for
its number.
-/
structure QuantityAPI.Documented (K : QuantityAPI) : Prop where
  unreadable : ∀ s, readNumeral s = none → K.parse s = none
  readable : ∀ s w, readNumeral s = some w → ∃ q, K.parse s = some q ∧
    K.value q = w.value ∧ (K.isZero q = true ↔ w.num = 0)

theorem QuantityAPI.Documented.read {K : QuantityAPI} (hK : K.Documented)
    {s : String} {q : K.Quantity} (h : K.parse s = some q) :
    ∃ w, readNumeral s = some w ∧ K.value q = w.value ∧
      (K.isZero q = true ↔ w.num = 0) := by
  cases hread : readNumeral s with
  | none =>
      rw [hK.unreadable s hread] at h
      contradiction
  | some w =>
      obtain ⟨q', hparse, hvalue⟩ := hK.readable s w hread
      rw [h] at hparse
      cases hparse
      exact ⟨w, rfl, hvalue⟩

def writtenQuantities : QuantityAPI where
  Quantity := String × Numeral
  parse s := (readNumeral s).map fun w => (s, w)
  value q := q.2.value
  isZero q := q.2.num == 0
  print q := q.1

theorem writtenQuantities_documented : writtenQuantities.Documented where
  unreadable s h := by simp [writtenQuantities, h]
  readable s w h := ⟨(s, w), by simp [writtenQuantities, h], rfl,
    by simp [writtenQuantities]⟩

/-! ## Printed integers -/

private theorem readNumber_toDigits (sign : ℤ) (n : ℕ) :
    readNumber sign (Nat.toDigits 10 n) =
      some ⟨sign < 0, n, 0, 0, by decide, .decimal 0⟩ := by
  have hdigits : ∀ c ∈ Nat.toDigits 10 n, c.isDigit = true :=
    fun c hc => isDigit_of_mem_toDigits hc
  have htake := List.takeWhile_eq_self_iff.mpr hdigits
  have hdrop := List.dropWhile_eq_nil_iff.mpr hdigits
  simp only [readNumber, htake, hdrop, Nat.toDigits_ne_nil, false_and, if_false,
    Nat.ofDigitChars_ten_toDigits]
  rfl

theorem acceptSign_toDigits (n : ℕ) :
    acceptSign (Nat.toDigits 10 n) = (1, Nat.toDigits 10 n) := by
  have hdigits : ∀ c ∈ Nat.toDigits 10 n, c.isDigit = true :=
    fun c hc => isDigit_of_mem_toDigits hc
  unfold acceptSign
  split
  · rename_i hminus
    rw [hminus] at hdigits
    have hdigit := hdigits '-' (by simp)
    contradiction
  · rename_i hplus
    rw [hplus] at hdigits
    have hdigit := hdigits '+' (by simp)
    contradiction
  · rfl

theorem readNumeral_decimal (n : ℤ) :
    readNumeral (decimal n) =
      some ⟨n < 0, n.natAbs, 0, 0, by decide, .decimal 0⟩ := by
  rw [readNumeral, decimal, Int.toString_eq_repr, Int.repr_eq_if]
  split
  · rename_i hnonneg
    have hsign : decide (n < 0) = false := decide_eq_false (by omega)
    have habs : n.toNat = n.natAbs := by omega
    rw [Nat.toList_repr, acceptSign_toDigits, readNumber_toDigits, habs, hsign]
    rfl
  · rename_i hnegative
    have hsign : decide (n < 0) = true := decide_eq_true (by omega)
    have habs : (-n).toNat = n.natAbs := by omega
    have htext : ("-" ++ (-n).toNat.repr).toList =
        '-' :: Nat.toDigits 10 n.natAbs := by
      rw [String.toList_append, Nat.toList_repr, habs]
      rfl
    rw [htext, hsign]
    exact readNumber_toDigits (-1) n.natAbs

/-! ## Reading and scanning -/

/-- What `%d` makes of a text that starts without a space. -/
def headScan (text : List Char) : ℤ :=
  scanNumber (acceptSign text).1 (acceptSign text).2

def Numeral.scanned (w : Numeral) : ℤ :=
  if inInt64 (w.signed w.whole) then w.signed w.whole else 0

theorem acceptSign_cases (text : List Char) :
    (acceptSign text).1 = -1 ∨ (acceptSign text).1 = 1 := by
  unfold acceptSign
  split
  · exact .inl rfl
  · exact .inr rfl
  · exact .inr rfl

theorem scanNumber_eq (sign : ℤ) (text : List Char) :
    scanNumber sign text =
      let n := sign * (Nat.ofDigitChars 10 (text.takeWhile Char.isDigit) 0 : ℤ)
      if inInt64 n then n else 0 := by
  simp only [scanNumber]
  split
  · rename_i hempty
    rw [List.isEmpty_iff.mp hempty]
    simp
  · rfl

theorem readNumber_eq_some {sign : ℤ} {text : List Char} {w : Numeral}
    (h : readNumber sign text = some w) :
    w.whole = Nat.ofDigitChars 10 (text.takeWhile Char.isDigit) 0 ∧
      w.negative = decide (sign < 0) ∧
      readSuffix (afterNumber (text.dropWhile Char.isDigit)) = some w.suffix ∧
      (text.takeWhile Char.isDigit ≠ [] ∨
        pointDigits (text.dropWhile Char.isDigit) ≠ []) := by
  simp only [readNumber] at h
  split at h
  · contradiction
  · rename_i hsome
    obtain ⟨suffix, hsuffix, rfl⟩ := Option.map_eq_some_iff.mp h
    exact ⟨rfl, rfl, hsuffix, by tauto⟩

theorem headScan_of_read {s : String} {w : Numeral}
    (h : readNumeral s = some w) : headScan s.toList = w.scanned := by
  obtain ⟨hwhole, hnegative, -, -⟩ := readNumber_eq_some h
  rw [headScan, scanNumber_eq, ← hwhole]
  rcases acceptSign_cases s.toList with hsign | hsign
  · simp [hsign, Numeral.scanned, Numeral.signed, hnegative]
  · simp [hsign, Numeral.scanned, Numeral.signed, hnegative]

theorem isSpace_of_isDigit {c : Char} (h : c.isDigit = true) :
    isSpace c = false := by
  simp only [Char.isDigit, Bool.and_eq_true, decide_eq_true_eq] at h
  have hlower : 48 ≤ c.toNat := h.1
  have hupper : c.toNat ≤ 57 := h.2
  simp only [isSpace, Bool.or_eq_false_iff, Bool.and_eq_false_iff,
    decide_eq_false_iff_not]
  omega

private theorem isSpace_head_of_readNumber {sign : ℤ} {c : Char} {text : List Char}
    {w : Numeral} (h : readNumber sign (c :: text) = some w) :
    isSpace c = false := by
  obtain ⟨-, -, -, hdigits⟩ := readNumber_eq_some h
  by_cases hc : c.isDigit = true
  · exact isSpace_of_isDigit hc
  · rw [List.takeWhile_cons_of_neg hc, List.dropWhile_cons_of_neg hc] at hdigits
    rcases hdigits with hdigits | hdigits
    · contradiction
    · unfold pointDigits at hdigits
      split at hdigits
      · rename_i hpoint
        cases hpoint
        decide
      · contradiction

theorem isSpace_head_of_read {s : String} {w : Numeral} {c : Char}
    {text : List Char} (h : readNumeral s = some w) (hs : s.toList = c :: text) :
    isSpace c = false := by
  rw [readNumeral, hs] at h
  unfold acceptSign at h
  split at h
  · rename_i hc
    cases hc
    decide
  · rename_i hc
    cases hc
    decide
  · exact isSpace_head_of_readNumber h

theorem sscanfD_eq_headScan {s : String}
    (hhead : ∀ c text, s.toList = c :: text → isSpace c = false) :
    sscanfD s = headScan s.toList := by
  have hskip : skipSpace s.toList = some s.toList := by
    cases hs : s.toList with
    | nil => rfl
    | cons c text =>
        have hspace := hhead c text hs
        have hline : c ≠ '\n' := by
          rintro rfl
          contradiction
        rw [skipSpace, if_neg hline, hspace]
        rfl
  rw [sscanfD, hskip]
  rfl

theorem sscanfD_of_read {s : String} {w : Numeral}
    (h : readNumeral s = some w) : sscanfD s = w.scanned := by
  rw [sscanfD_eq_headScan fun c text hs => isSpace_head_of_read h hs]
  exact headScan_of_read h

private theorem takeWhile_isDigit_append (text rest : List Char) :
    (text ++ 'G' :: rest).takeWhile Char.isDigit =
      text.takeWhile Char.isDigit := by
  rw [List.takeWhile_append]
  split
  · rename_i hall
    rw [(List.takeWhile_prefix _).eq_of_length hall,
      List.takeWhile_cons_of_neg (by decide), List.append_nil]
  · rfl

private theorem dropWhile_isDigit_append (text rest : List Char) :
    (text ++ 'G' :: rest).dropWhile Char.isDigit =
      text.dropWhile Char.isDigit ++ 'G' :: rest := by
  have hsplit := List.takeWhile_append_dropWhile (p := Char.isDigit)
    (l := text ++ 'G' :: rest)
  have hprefix := List.takeWhile_append_dropWhile (p := Char.isDigit) (l := text)
  rw [takeWhile_isDigit_append] at hsplit
  have hsame : text.takeWhile Char.isDigit ++
      (text ++ 'G' :: rest).dropWhile Char.isDigit =
        text.takeWhile Char.isDigit ++
          (text.dropWhile Char.isDigit ++ 'G' :: rest) := by
    rw [hsplit, ← List.append_assoc, hprefix]
  exact List.append_cancel_left hsame

private theorem acceptSign_append (text rest : List Char) :
    acceptSign (text ++ 'G' :: rest) =
      ((acceptSign text).1, (acceptSign text).2 ++ 'G' :: rest) := by
  cases text with
  | nil => rfl
  | cons c text =>
      by_cases hminus : c = '-'
      · subst hminus
        rfl
      · by_cases hplus : c = '+'
        · subst hplus
          rfl
        · simp [acceptSign, hminus, hplus]

theorem headScan_append {text tail : List Char}
    (htail : tail = [] ∨ ∃ rest, tail = 'G' :: rest) :
    headScan (text ++ tail) = headScan text := by
  rcases htail with rfl | ⟨rest, rfl⟩
  · rw [List.append_nil]
  · rw [headScan, acceptSign_append, scanNumber_eq, takeWhile_isDigit_append,
      headScan, scanNumber_eq]

/-! ## The end of a text -/

private theorem acceptSign_split (text : List Char) :
    ∃ sign, sign ++ (acceptSign text).2 = text ∧ 'i' ∉ sign := by
  unfold acceptSign
  split
  · exact ⟨['-'], rfl, by decide⟩
  · exact ⟨['+'], rfl, by decide⟩
  · exact ⟨[], rfl, by decide⟩

private theorem readExponent_not_ends {text : List Char} {suffix : Suffix}
    (front : List Char) (c : Char) (h : readExponent text = some suffix) :
    ¬ [c, 'i'] <:+ front ++ text := by
  simp only [readExponent] at h
  split at h
  · rename_i hdigits
    obtain ⟨hnonempty, hall⟩ := hdigits
    obtain ⟨sign, hsign, -⟩ := acceptSign_split text
    rintro ⟨before, hbefore⟩
    obtain ⟨digits, last, hlast⟩ := List.eq_nil_or_concat
      (acceptSign text).2 |>.resolve_left hnonempty
    rw [hlast] at hall hsign
    have hdigit : last.isDigit = true := by
      simp only [List.all_eq_true] at hall
      exact hall last (by simp)
    have hsame : (before ++ [c]) ++ ['i'] = (front ++ sign ++ digits) ++ [last] := by
      rw [← hsign] at hbefore
      simpa using hbefore
    obtain ⟨-, hchar⟩ := List.append_inj' hsame rfl
    cases hchar
    contradiction
  · contradiction

/-- The only suffixes that end in an `i` have one letter before it. -/
theorem readSuffix_ends {chars front : List Char} {suffix : Suffix} {c : Char}
    (h : readSuffix chars = some suffix) (hfront : 'i' ∉ front)
    (hends : [c, 'i'] <:+ front ++ chars) : chars = [c, 'i'] := by
  have hpair (c' : Char) (hpair : [c, 'i'] <:+ front ++ [c', 'i']) :
      [c', 'i'] = [c, 'i'] := by
    obtain ⟨before, hbefore⟩ := hpair
    exact (List.append_inj' hbefore rfl).2.symm
  have hsingle (c' : Char) (hne : c' ≠ 'i') : ¬ [c, 'i'] <:+ front ++ [c'] := by
    rintro ⟨before, hbefore⟩
    have hsame : (before ++ [c]) ++ ['i'] = front ++ [c'] := by simpa using hbefore
    obtain ⟨-, hchar⟩ := List.append_inj' hsame rfl
    cases hchar
    exact hne rfl
  unfold readSuffix at h
  split at h
  · rw [List.append_nil] at hends
    exact absurd (hends.subset (by simp)) hfront
  -- One letter cannot end in [c, 'i'], two letters can only be [c, 'i'].
  all_goals first
    | exact hpair _ hends
    | exact absurd hends (hsingle _ (by decide))
    | skip
  · exact absurd (by simpa using hends)
      (readExponent_not_ends (front ++ ['e']) c h)
  · exact absurd (by simpa using hends)
      (readExponent_not_ends (front ++ ['E']) c h)
  · contradiction

private theorem afterNumber_split (text : List Char) :
    ∃ front, text = front ++ afterNumber (text.dropWhile Char.isDigit) ∧
      'i' ∉ front := by
  have hdigits (l : List Char) : 'i' ∉ l.takeWhile Char.isDigit := by
    intro hmem
    have hdigit := List.mem_takeWhile_imp hmem
    contradiction
  have hsplit := List.takeWhile_append_dropWhile (p := Char.isDigit) (l := text)
  generalize hrest : text.dropWhile Char.isDigit = rest at hsplit ⊢
  unfold afterNumber
  split
  · rename_i point
    refine ⟨text.takeWhile Char.isDigit ++ '.' :: point.takeWhile Char.isDigit,
      ?_, ?_⟩
    · rw [List.append_assoc, List.cons_append, List.takeWhile_append_dropWhile,
        hsplit]
    · simp only [List.mem_append, List.mem_cons, not_or]
      exact ⟨hdigits text, by decide, hdigits point⟩
  · exact ⟨text.takeWhile Char.isDigit, hsplit.symm, hdigits text⟩

theorem suffix_of_ends {s : String} {w : Numeral} {c : Char}
    (hread : readNumeral s = some w) (hends : [c, 'i'] <:+ s.toList) :
    readSuffix [c, 'i'] = some w.suffix := by
  obtain ⟨-, -, hsuffix, -⟩ := readNumber_eq_some hread
  obtain ⟨front, hfront, hletter⟩ := afterNumber_split (acceptSign s.toList).2
  obtain ⟨sign, hsign, hplain⟩ := acceptSign_split s.toList
  rw [← hsign, hfront, ← List.append_assoc] at hends
  have hchars := readSuffix_ends hsuffix
    (by simp only [List.mem_append, not_or]; exact ⟨hplain, hletter⟩) hends
  rw [← hchars]
  exact hsuffix

private theorem pointDigits_append (text rest : List Char) :
    pointDigits (text ++ 'G' :: rest) = pointDigits text := by
  cases text with
  | nil => rfl
  | cons c text =>
      by_cases hpoint : c = '.'
      · subst hpoint
        exact takeWhile_isDigit_append text rest
      · simp [pointDigits, hpoint]

private theorem afterNumber_append (text rest : List Char) :
    afterNumber (text ++ 'G' :: rest) = afterNumber text ++ 'G' :: rest := by
  cases text with
  | nil => rfl
  | cons c text =>
      by_cases hpoint : c = '.'
      · subst hpoint
        exact dropWhile_isDigit_append text rest
      · simp [afterNumber, hpoint]

theorem readNumeral_of_append {s : String} {w : Numeral}
    (h : readNumeral (s ++ "Gi") = some w) :
    readNumeral s = some { w with suffix := .decimal 0 } ∧
      w.suffix = .binary 3 := by
  have htext : (s ++ "Gi").toList = s.toList ++ ['G', 'i'] := by simp
  rw [readNumeral, htext, acceptSign_append] at h
  simp only [readNumber, takeWhile_isDigit_append, dropWhile_isDigit_append,
    pointDigits_append, afterNumber_append] at h
  split at h
  · contradiction
  · rename_i hdigits
    obtain ⟨suffix, hsuffix, rfl⟩ := Option.map_eq_some_iff.mp h
    have hchars := readSuffix_ends hsuffix
      (show 'i' ∉ ([] : List Char) by simp)
      ⟨afterNumber ((acceptSign s.toList).2.dropWhile Char.isDigit), rfl⟩
    have hplain : afterNumber ((acceptSign s.toList).2.dropWhile Char.isDigit) =
        [] := List.append_left_eq_self.mp hchars
    rw [hchars] at hsuffix
    refine ⟨?_, (Option.some.inj hsuffix).symm⟩
    rw [readNumeral, readNumber]
    simp only [if_neg hdigits, hplain]
    rfl

/-! ## Rounding up -/

namespace Numeral

variable (w : Numeral)

theorem roundUp_le_iff (n : ℕ) : w.num ⌈/⌉ w.den ≤ n ↔ w.num ≤ n * w.den := by
  rw [ceilDiv_le_iff_le_mul w.den_pos, Nat.mul_comm]

theorem lt_roundUp_iff (n : ℕ) : n < w.num ⌈/⌉ w.den ↔ n * w.den < w.num := by
  rw [← not_le, roundUp_le_iff, not_le]

theorem places_pos : 0 < 10 ^ w.places := Nat.pow_pos (by decide)

theorem whole_le_roundUp (hdown : w.suffix.down = 1) :
    w.whole ≤ w.num ⌈/⌉ w.den := by
  rcases Nat.eq_zero_or_pos w.whole with hzero | hpositive
  · omega
  · have hlt : (w.whole - 1) * w.den < w.num := by
      have hden : w.den = 10 ^ w.places := by simp [den, hdown]
      have hnum : w.whole * 10 ^ w.places ≤ w.num :=
        (Nat.le_add_right _ w.fraction).trans
          (Nat.le_mul_of_pos_right _ w.suffix.up_pos)
      have hstep : (w.whole - 1) * 10 ^ w.places < w.whole * 10 ^ w.places :=
        Nat.mul_lt_mul_of_pos_right (by omega) w.places_pos
      rw [hden]
      omega
    have hround := (w.lt_roundUp_iff _).mpr hlt
    omega

theorem roundUp_eq_whole_iff (hdown : w.suffix.down = 1)
    (hwhole : 0 < w.whole) :
    w.num ⌈/⌉ w.den = w.whole ↔ w.suffix.up = 1 ∧ w.fraction = 0 := by
  have hge := w.whole_le_roundUp hdown
  have hden : w.den = 10 ^ w.places := by simp [den, hdown]
  have hplaces := w.places_pos
  have hpositive : 0 < w.whole * 10 ^ w.places := Nat.mul_pos hwhole hplaces
  rw [le_antisymm_iff, and_iff_left hge, roundUp_le_iff, hden, num]
  constructor
  · intro hle
    rcases w.suffix.scale_cases with ⟨hup, -⟩ | ⟨hup, -⟩ | ⟨-, hsub⟩
    · rw [hup] at hle
      exact ⟨hup, by omega⟩
    · have hscaled : (w.whole * 10 ^ w.places + w.fraction) * 10 ≤
          (w.whole * 10 ^ w.places + w.fraction) * w.suffix.up :=
        Nat.mul_le_mul_left _ hup
      omega
    · omega
  · rintro ⟨hup, hfraction⟩
    rw [hup, hfraction]
    omega

theorem roundUp_of_sub (hdown : w.suffix.down ≠ 1) (hwhole : 0 < w.whole) :
    w.num ⌈/⌉ w.den ≤ w.whole ∧
      (w.num ⌈/⌉ w.den = w.whole ↔ w.whole = 1) := by
  obtain ⟨hup, hten⟩ : w.suffix.up = 1 ∧ 10 ≤ w.suffix.down := by
    rcases w.suffix.scale_cases with ⟨-, hone⟩ | ⟨-, hone⟩ | hsub
    · contradiction
    · contradiction
    · exact hsub
  have hplaces := w.places_pos
  have hfraction := w.fraction_lt
  have hnum : w.num < (w.whole + 1) * 10 ^ w.places := by
    rw [num, hup, Nat.mul_one, Nat.add_mul, Nat.one_mul]
    omega
  have hden : 10 ^ w.places * 10 ≤ w.den := Nat.mul_le_mul_left _ hten
  have hpositive : 0 < w.num := by
    have hfull : 0 < w.whole * 10 ^ w.places := Nat.mul_pos hwhole hplaces
    rw [num, hup]
    omega
  have hone : 1 ≤ w.num ⌈/⌉ w.den := (w.lt_roundUp_iff 0).mpr (by omega)
  by_cases hsingle : w.whole = 1
  · have hle : w.num ⌈/⌉ w.den ≤ 1 := by
      rw [roundUp_le_iff]
      rw [hsingle] at hnum
      omega
    omega
  · have hle : w.num ⌈/⌉ w.den ≤ w.whole - 1 := by
      rw [roundUp_le_iff]
      have hscaled : (w.whole - 1) * (10 ^ w.places * 10) ≤
          (w.whole - 1) * w.den := Nat.mul_le_mul_left _ hden
      obtain ⟨k, hk⟩ : ∃ k, w.whole = k + 2 := ⟨w.whole - 2, by omega⟩
      rw [hk] at hnum hscaled ⊢
      have hbound : (k + 2 + 1) * 10 ^ w.places ≤
          (k + 2 - 1) * (10 ^ w.places * 10) :=
        calc (k + 2 + 1) * 10 ^ w.places
          _ ≤ (k + 1) * 10 * 10 ^ w.places := Nat.mul_le_mul_right _ (by omega)
          _ = (k + 2 - 1) * (10 ^ w.places * 10) := by
              rw [Nat.mul_assoc, Nat.mul_comm 10]
              rfl
      omega
    omega

theorem roundUp_eq_four_iff :
    w.num ⌈/⌉ w.den = 4 ↔ 3 * w.den < w.num ∧ w.num ≤ 4 * w.den := by
  rw [← w.lt_roundUp_iff, ← w.roundUp_le_iff]
  omega

theorem scanned_of_nonneg (hsign : w.negative = false) :
    w.scanned = if maxInt64 < w.whole then 0 else (w.whole : ℤ) := by
  simp only [scanned, signed, hsign, inInt64, Bool.and_eq_true,
    decide_eq_true_eq, Bool.false_eq_true, if_false]
  by_cases hmax : maxInt64 < w.whole
  · rw [if_pos hmax, if_neg]
    simp only [maxInt64] at hmax
    omega
  · rw [if_neg hmax, if_pos]
    simp only [maxInt64] at hmax
    omega

theorem scanned_eq_whole (hsign : w.negative = false) (hmax : w.whole ≤ maxInt64) :
    w.scanned = (w.whole : ℤ) := by
  rw [w.scanned_of_nonneg hsign, if_neg (by omega)]

theorem scanned_eq_zero (hwhole : w.whole = 0) : w.scanned = 0 := by
  simp [scanned, signed, hwhole]

theorem scanned_nonpos (hsign : w.negative = true) : w.scanned ≤ 0 := by
  simp only [scanned, signed, hsign, if_true]
  split <;> omega

theorem value_of_nonneg (hsign : w.negative = false) :
    w.value = (min (w.num ⌈/⌉ w.den) maxInt64 : ℕ) := by
  simp [value, signed, hsign]

theorem value_nonpos (hsign : w.negative = true) : w.value ≤ 0 := by
  simp only [value, signed, hsign, if_true]
  omega

theorem num_pos (hwhole : 0 < w.whole) : 0 < w.num := by
  have hfull : 0 < w.whole * 10 ^ w.places := Nat.mul_pos hwhole w.places_pos
  exact Nat.mul_pos (by omega) w.suffix.up_pos

theorem value_of_num_zero (hzero : w.num = 0) : w.value = 0 := by
  simp [value, signed, hzero]

theorem value_neg (hsign : w.negative = true) (hwhole : 0 < w.whole) :
    w.value < 0 := by
  have hround := (w.lt_roundUp_iff 0).mpr (by simpa using w.num_pos hwhole)
  simp only [value, signed, hsign, if_true, maxInt64]
  omega

end Numeral

end WorldlandBroker.Job
