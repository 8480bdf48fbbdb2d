import WorldlandBroker.Provider.Types
import Mathlib.Data.Int.Basic

/-!
# Text in job requests

The string functions the job handlers call on request fields and on printed
quantities: suffix trimming and `Sscanf` with the verb `%d`.
-/

namespace WorldlandBroker.Job

def hasSuffix (s suffix : String) : Bool := suffix.toList.isSuffixOf s.toList

def trimSuffix (s suffix : String) : String :=
  if hasSuffix s suffix then
    String.ofList (s.toList.take (s.toList.length - suffix.toList.length))
  else s

def wrapInt64 (n : ℤ) : ℤ := Int.bmod n (2 ^ 64)

def inInt64 (n : ℤ) : Bool := -2 ^ 63 ≤ n && n < 2 ^ 63

theorem wrapInt64_eq_iff {n m : ℤ} (hlow : -2 ^ 63 ≤ m) (hhigh : m < 2 ^ 63) :
    wrapInt64 n = m ↔ 2 ^ 64 ∣ n - m := by
  rw [wrapInt64, Int.bmod_eq_iff (by decide)]
  omega

theorem wrapInt64_of_fits {n : ℤ} (hlower : -2 ^ 63 ≤ n) (hupper : n < 2 ^ 63) :
    wrapInt64 n = n := by
  rw [wrapInt64_eq_iff hlower hupper, sub_self]
  exact dvd_zero _

theorem wrapInt64_range (n : ℤ) : -2 ^ 63 ≤ wrapInt64 n ∧ wrapInt64 n < 2 ^ 63 := by
  have hlower := Int.le_bmod (x := n) (m := 2 ^ 64) (by decide)
  have hupper := Int.bmod_lt (x := n) (m := 2 ^ 64) (by decide)
  unfold wrapInt64
  omega

theorem wrapInt64_of_large {n : ℤ} (h : 2 ^ 63 ≤ n) : wrapInt64 n + 2 ^ 64 ≤ n := by
  obtain ⟨hlower, hupper⟩ := wrapInt64_range n
  have hmod : (2 ^ 64 : ℤ) ∣ n - wrapInt64 n := by
    unfold wrapInt64
    exact Int.dvd_self_sub_bmod
  omega

def isSpace (c : Char) : Bool :=
  let n := c.toNat
  (0x9 ≤ n && n ≤ 0xd) || n = 0x20 || n = 0x85 || n = 0xa0 || n = 0x1680 ||
    (0x2000 ≤ n && n ≤ 0x200a) || n = 0x2028 || n = 0x2029 || n = 0x202f ||
    n = 0x205f || n = 0x3000

/-- A newline is not skipped but ends the scan with an error. -/
def skipSpace : List Char → Option (List Char)
  | [] => some []
  | c :: rest =>
      if c = '\n' then none
      else if isSpace c then skipSpace rest
      else some (c :: rest)

def acceptSign : List Char → ℤ × List Char
  | '-' :: rest => (-1, rest)
  | '+' :: rest => (1, rest)
  | rest => (1, rest)

/-- Without digits, or beyond 64 bits, the scan fails and the target stays zero. -/
def scanNumber (sign : ℤ) (text : List Char) : ℤ :=
  let digits := text.takeWhile Char.isDigit
  if digits.isEmpty then 0
  else
    let n := sign * (Nat.ofDigitChars 10 digits 0 : ℤ)
    if inInt64 n then n else 0

/-- What `fmt.Sscanf(s, "%d", &x)` leaves in an `x` that was zero. -/
def sscanfD (s : String) : ℤ :=
  match skipSpace s.toList with
  | none => 0
  | some text => scanNumber (acceptSign text).1 (acceptSign text).2

example : sscanfD "2500m" = 2500 := by decide

end WorldlandBroker.Job
