import WorldlandBroker.Job.Text
import Mathlib.Data.List.TakeWhile

/-!
# Resource quantities

Kubernetes' `resource.Quantity` is code outside the repository.  The model takes
it as a parameter, with the one fact about it that the control plane relies on.
-/

namespace WorldlandBroker.Job

open Provider

/-- `parse` is what `MustParse` panics without; `value` rounds away from zero. -/
structure QuantityAPI where
  Quantity : Type
  parse : String → Option Quantity
  value : Quantity → ℤ
  isZero : Quantity → Bool
  print : Quantity → String

def QuantityAPI.Lawful (K : QuantityAPI) : Prop :=
  ∀ n q, 0 < n → K.parse (decimal n) = some q → K.value q = n

/-! ## Unsigned quantities in thousandths -/

namespace SampleQuantity

/-- The number of thousandths, and whether the suffix was a binary one. -/
structure Amount where
  thousandths : ℕ
  binary : Bool
  deriving DecidableEq

def scale (suffix : List Char) : Option (ℕ × Bool) :=
  match suffix with
  | [] => some (1000, false)
  | ['m'] => some (1, false)
  | ['k'] => some (1000 ^ 2, false)
  | ['M'] => some (1000 ^ 3, false)
  | ['G'] => some (1000 ^ 4, false)
  | ['K', 'i'] => some (1024 * 1000, true)
  | ['M', 'i'] => some (1024 ^ 2 * 1000, true)
  | ['G', 'i'] => some (1024 ^ 3 * 1000, true)
  | _ => none

def parse (s : String) : Option Amount :=
  let digits := s.toList.takeWhile Char.isDigit
  if digits.isEmpty then none
  else
    (scale (s.toList.dropWhile Char.isDigit)).map fun unit =>
      ⟨Nat.ofDigitChars 10 digits 0 * unit.1, unit.2⟩

def value (q : Amount) : ℤ := ((q.thousandths + 999) / 1000 : ℕ)

def print (q : Amount) : String :=
  let units := q.thousandths / 1000
  let text : ℕ × List Char :=
    if q.thousandths % 1000 ≠ 0 then (q.thousandths, ['m'])
    else if units = 0 then (0, [])
    else if q.binary then
      if units % 1024 ^ 3 = 0 then (units / 1024 ^ 3, ['G', 'i'])
      else if units % 1024 ^ 2 = 0 then (units / 1024 ^ 2, ['M', 'i'])
      else if units % 1024 = 0 then (units / 1024, ['K', 'i'])
      else (units, [])
    else if units % 1000 ^ 3 = 0 then (units / 1000 ^ 3, ['G'])
    else if units % 1000 ^ 2 = 0 then (units / 1000 ^ 2, ['M'])
    else if units % 1000 = 0 then (units / 1000, ['k'])
    else (units, [])
  String.ofList (Nat.toDigits 10 text.1 ++ text.2)

end SampleQuantity

def sampleQuantities : QuantityAPI where
  Quantity := SampleQuantity.Amount
  parse := SampleQuantity.parse
  value := SampleQuantity.value
  isZero q := q.thousandths == 0
  print := SampleQuantity.print

private theorem toList_decimal {n : ℤ} (hn : 0 < n) :
    (decimal n).toList = Nat.toDigits 10 n.toNat := by
  rw [decimal, Int.toString_eq_repr, Int.repr_eq_if, if_pos hn.le,
    Nat.toList_repr]

theorem isDigit_of_mem_toDigits {c : Char} {n : ℕ} (h : c ∈ Nat.toDigits 10 n) :
    c.isDigit :=
  Nat.isDigit_of_mem_toDigits (by decide) (by decide) h

namespace SampleQuantity

theorem parse_decimal {n : ℤ} (hn : 0 < n) :
    parse (decimal n) = some ⟨n.toNat * 1000, false⟩ := by
  have hdigits : (decimal n).toList.takeWhile Char.isDigit =
      Nat.toDigits 10 n.toNat := by
    rw [toList_decimal hn]
    exact List.takeWhile_eq_self_iff.mpr fun c hc => isDigit_of_mem_toDigits hc
  have hsuffix : (decimal n).toList.dropWhile Char.isDigit = [] := by
    rw [toList_decimal hn]
    exact List.dropWhile_eq_nil_iff.mpr fun c hc => isDigit_of_mem_toDigits hc
  have hsome : (Nat.toDigits 10 n.toNat).isEmpty = false := by
    rw [List.isEmpty_eq_false_iff]
    exact Nat.toDigits_ne_nil
  simp only [parse, hdigits, hsuffix, hsome, scale, Option.map_some,
    Nat.ofDigitChars_ten_toDigits, Bool.false_eq_true, if_false]

end SampleQuantity

theorem sampleQuantities_lawful : sampleQuantities.Lawful := by
  intro n q hn hq
  change SampleQuantity.parse (decimal n) = some q at hq
  rw [SampleQuantity.parse_decimal hn] at hq
  cases hq
  change (((n.toNat * 1000 + 999) / 1000 : ℕ) : ℤ) = n
  omega

end WorldlandBroker.Job
