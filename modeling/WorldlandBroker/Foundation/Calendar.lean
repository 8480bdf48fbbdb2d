import Mathlib.Data.List.GetD
import Mathlib.Algebra.BigOperators.Group.List.Basic
import Mathlib.Algebra.GroupWithZero.Nat
import Mathlib.Data.Int.Basic

/-!
# The Gregorian calendar

Days are numbered from the first of January of the year 1, years may be zero or
negative, and leap years follow one rule at all times.  A date is found from its
day by estimating the year and walking through the months; the day it was found
from is the day it has.
-/

namespace WorldlandBroker.Foundation

/-! ## Walking through consecutive parts -/

def locate : List ℕ → ℕ → ℕ × ℕ
  | [], n => (0, n)
  | length :: lengths, n =>
      if n < length then (0, n)
      else ((locate lengths (n - length)).1 + 1, (locate lengths (n - length)).2)

theorem locate_spec {lengths : List ℕ} {n : ℕ} (h : n < lengths.sum) :
    (locate lengths n).2 < lengths.getD (locate lengths n).1 0 ∧
      (lengths.take (locate lengths n).1).sum + (locate lengths n).2 = n := by
  induction lengths generalizing n with
  | nil => simp at h
  | cons length lengths ih =>
      rw [List.sum_cons] at h
      rw [locate]
      split
      · rename_i hfirst
        simpa using hfirst
      · rename_i hlater
        obtain ⟨hwithin, hposition⟩ := ih (n := n - length) (by omega)
        refine ⟨by simpa using hwithin, ?_⟩
        rw [List.take_succ_cons, List.sum_cons]
        omega

/-! ## Years and months -/

def isLeap (year : ℤ) : Bool :=
  year % 4 = 0 ∧ (year % 100 ≠ 0 ∨ year % 400 = 0)

def monthLengths (year : ℤ) : List ℕ :=
  [31, if isLeap year then 29 else 28, 31, 30, 31, 30, 31, 31, 30, 31, 30, 31]

def daysBefore (year : ℤ) : ℤ :=
  365 * (year - 1) + (year - 1) / 4 - (year - 1) / 100 + (year - 1) / 400

theorem sum_monthLengths (year : ℤ) :
    (monthLengths year).sum = if isLeap year then 366 else 365 := by
  cases hleap : isLeap year <;> simp [monthLengths, hleap]

theorem daysBefore_succ (year : ℤ) :
    daysBefore (year + 1) = daysBefore year + (monthLengths year).sum := by
  have hcount : ((monthLengths year).sum : ℤ) = if isLeap year then 366 else 365 := by
    rw [sum_monthLengths]
    split <;> rfl
  rw [hcount]
  simp only [daysBefore, isLeap, decide_eq_true_eq]
  split <;> omega

/-- The year of a day, estimated by the mean length of a year and put right. -/
def yearOf (day : ℤ) : ℤ :=
  let year := 400 * day / 146097 + 1
  if day < daysBefore year then year - 1
  else if daysBefore (year + 1) ≤ day then year + 1
  else year

theorem estimate_close {day year : ℤ} (hyear : year = 400 * day / 146097 + 1) :
    daysBefore (year - 1) ≤ day ∧ day < daysBefore (year + 2) := by
  have hlower : 146097 * (year - 1) ≤ 400 * day := by omega
  have hupper : 400 * day < 146097 * year := by omega
  clear hyear
  simp only [daysBefore]
  constructor <;> omega

theorem yearOf_spec (day : ℤ) :
    daysBefore (yearOf day) ≤ day ∧ day < daysBefore (yearOf day + 1) := by
  unfold yearOf
  generalize hyear : 400 * day / 146097 + 1 = year
  obtain ⟨hlower, hupper⟩ := estimate_close hyear.symm
  simp only []
  split
  · rename_i hearlier
    rw [sub_add_cancel]
    exact ⟨hlower, hearlier⟩
  · rename_i hnotEarlier
    split
    · rename_i hlater
      rw [add_assoc]
      exact ⟨hlater, hupper⟩
    · rename_i hnotLater
      exact ⟨Int.not_lt.mp hnotEarlier, Int.not_le.mp hnotLater⟩

/-! ## Dates -/

/-- Months and days are counted from zero; a month that there is not has no days. -/
structure Date where
  year : ℤ
  month : ℕ
  day : ℕ
  valid : day < (monthLengths year).getD month 0

namespace Date

def number (d : Date) : ℤ :=
  daysBefore d.year + ((monthLengths d.year).take d.month).sum + d.day

theorem dayOfYear_lt (number : ℤ) :
    (number - daysBefore (yearOf number)).toNat < (monthLengths (yearOf number)).sum := by
  obtain ⟨hstarted, hended⟩ := yearOf_spec number
  rw [daysBefore_succ] at hended
  omega

def ofNumber (number : ℤ) : Date :=
  let year := yearOf number
  let position := locate (monthLengths year) (number - daysBefore year).toNat
  ⟨year, position.1, position.2, (locate_spec (dayOfYear_lt number)).1⟩

theorem number_ofNumber (n : ℤ) : (ofNumber n).number = n := by
  obtain ⟨hstarted, -⟩ := yearOf_spec n
  have hposition := (locate_spec (dayOfYear_lt n)).2
  simp only [number, ofNumber]
  omega

theorem month_lt (d : Date) : d.month < 12 := by
  by_contra hlate
  have hvalid := d.valid
  rw [List.getD_eq_default _ _ (by simpa [monthLengths] using hlate)] at hvalid
  omega

theorem day_lt (d : Date) : d.day < 31 := by
  have hlengths : ∀ length ∈ monthLengths d.year, length ≤ 31 := by
    cases hleap : isLeap d.year <;> simp [monthLengths, hleap]
  have hmonth : d.month < (monthLengths d.year).length := d.month_lt
  have hvalid := d.valid
  rw [List.getD_eq_getElem _ _ hmonth] at hvalid
  have hlength := hlengths _ (List.getElem_mem hmonth)
  omega

end Date

/-! ## Times -/

structure DateTime where
  date : Date
  hour : ℕ
  minute : ℕ
  second : ℕ
  hour_lt : hour < 24
  minute_lt : minute < 60
  second_lt : second < 60

namespace DateTime

/-- Counted from the start of the year 1. -/
def seconds (t : DateTime) : ℤ :=
  t.date.number * 86400 + t.hour * 3600 + t.minute * 60 + t.second

def ofSeconds (n : ℤ) : DateTime where
  date := Date.ofNumber (n / 86400)
  hour := (n % 86400 / 3600).toNat
  minute := (n % 3600 / 60).toNat
  second := (n % 60).toNat
  hour_lt := by omega
  minute_lt := by omega
  second_lt := by omega

theorem seconds_ofSeconds (n : ℤ) : (ofSeconds n).seconds = n := by
  simp only [seconds, ofSeconds, Date.number_ofNumber]
  omega

end DateTime

end WorldlandBroker.Foundation
