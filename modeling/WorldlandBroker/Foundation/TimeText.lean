import WorldlandBroker.Foundation.Calendar
import Mathlib.Algebra.Order.Group.Unbundled.Int

/-!
# Instants in RFC 3339

An instant is written as the date and time of a zone, to the second, with the
zone's offset to the minute.  Years are meant to have four digits: a later year is
written with more of them, and what is written then does not read.
-/

namespace WorldlandBroker.Foundation

/-! ## Numbers of a fixed width -/

def padded (width n : ℕ) : List Char :=
  List.replicate (width - (Nat.toDigits 10 n).length) '0' ++ Nat.toDigits 10 n

def takeDigits (width : ℕ) (text : List Char) : Option (ℕ × List Char) :=
  if (text.take width).length = width ∧ (text.take width).all Char.isDigit then
    some (Nat.ofDigitChars 10 (text.take width) 0, text.drop width)
  else none

theorem length_padded {width n : ℕ} (hwidth : 0 < width) (h : n < 10 ^ width) :
    (padded width n).length = width := by
  have hlength := (Nat.length_toDigits_le_iff (b := 10) (by decide) hwidth).mpr h
  rw [padded, List.length_append, List.length_replicate]
  omega

theorem isDigit_padded {width n : ℕ} : ∀ c ∈ padded width n, c.isDigit = true := by
  intro c hc
  rcases List.mem_append.mp hc with hzero | hdigit
  · rw [List.eq_of_mem_replicate hzero]
    decide
  · exact Nat.isDigit_of_mem_toDigits (by decide) (by decide) hdigit

theorem takeDigits_padded {width n : ℕ} (hwidth : 0 < width) (h : n < 10 ^ width)
    (rest : List Char) : takeDigits width (padded width n ++ rest) = some (n, rest) := by
  have hlength := length_padded hwidth h
  have htake : (padded width n ++ rest).take width = padded width n := by
    rw [List.take_append_of_le_length hlength.ge, List.take_of_length_le hlength.le]
  have hdrop : (padded width n ++ rest).drop width = rest := by
    rw [List.drop_append_of_le_length hlength.ge, List.drop_of_length_le hlength.le,
      List.nil_append]
  have hdigits : (padded width n).all Char.isDigit = true :=
    List.all_eq_true.mpr isDigit_padded
  rw [takeDigits, htake, hdrop, if_pos ⟨hlength, hdigits⟩, padded, Nat.ofDigitChars_append,
    Nat.ofDigitChars_replicate_zero, Nat.mul_zero, Nat.ofDigitChars_ten_toDigits]

/-! ## Reading -/

def expect (c : Char) : List Char → Option (List Char)
  | first :: rest => if first = c then some rest else none
  | [] => none

@[simp] theorem expect_self (c : Char) (rest : List Char) : expect c (c :: rest) = some rest :=
  if_pos rfl

/-- One digit is enough where the width is not fixed. -/
def getnum (fixed : Bool) (text : List Char) : Option (ℕ × List Char) :=
  match takeDigits 2 text with
  | some read => some read
  | none => if fixed then none else takeDigits 1 text

theorem getnum_padded (fixed : Bool) {n : ℕ} (h : n < 100) (rest : List Char) :
    getnum fixed (padded 2 n ++ rest) = some (n, rest) := by
  rw [getnum, takeDigits_padded (by decide) h]

def nanoseconds (digits : List Char) : ℕ :=
  Nat.ofDigitChars 10 (digits.take 9) 0 * 10 ^ (9 - (digits.take 9).length)

/-- Digits after a point or a comma; the first nine of them count. -/
def readFraction : List Char → ℕ × List Char
  | point :: digit :: rest =>
      if (point = '.' ∨ point = ',') ∧ digit.isDigit then
        (nanoseconds ((digit :: rest).takeWhile Char.isDigit),
          (digit :: rest).dropWhile Char.isDigit)
      else (0, point :: digit :: rest)
  | text => (0, text)

def readSign (c : Char) : Option ℤ :=
  if c = '+' then some 1 else if c = '-' then some (-1) else none

def readSigned : List Char → Option ℤ
  | sign :: rest => do
      let direction ← readSign sign
      let (hours, rest) ← getnum true rest
      let rest ← expect ':' rest
      let (minutes, rest) ← getnum true rest
      if hours ≤ 24 ∧ minutes ≤ 60 ∧ rest = [] then
        some (direction * (hours * 60 + minutes) * 60)
      else none
  | [] => none

def readOffset (text : List Char) : Option ℤ :=
  if text = ['Z'] then some 0 else readSigned text

def dateOf (year : ℤ) (month day : ℕ) : Option Date :=
  if 1 ≤ month ∧ 1 ≤ day then
    if valid : day - 1 < (monthLengths year).getD (month - 1) 0 then
      some ⟨year, month - 1, day - 1, valid⟩
    else none
  else none

def readDate (text : List Char) : Option (Date × List Char) := do
  let (year, rest) ← takeDigits 4 text
  let rest ← expect '-' rest
  let (month, rest) ← getnum true rest
  let rest ← expect '-' rest
  let (day, rest) ← getnum true rest
  let date ← dateOf year month day
  return (date, rest)

def readClock (date : Date) (text : List Char) : Option (DateTime × List Char) := do
  let (hour, rest) ← getnum false text
  let rest ← expect ':' rest
  let (minute, rest) ← getnum true rest
  let rest ← expect ':' rest
  let (second, rest) ← getnum true rest
  if h : hour < 24 ∧ minute < 60 ∧ second < 60 then
    return (⟨date, hour, minute, second, h.1, h.2.1, h.2.2⟩, rest)
  else none

/-- Nanoseconds from the start of the year 1, in Greenwich. -/
def readInstant (text : List Char) : Option ℤ := do
  let (date, rest) ← readDate text
  let rest ← expect 'T' rest
  let (time, rest) ← readClock date rest
  let (nanos, rest) := readFraction rest
  let offset ← readOffset rest
  return (time.seconds - offset) * 10 ^ 9 + nanos

/-! ## Writing -/

/-- Where it is less than a day away from Greenwich, a zone may be anywhere. -/
structure Zone where
  offset : ℤ → ℤ
  above : ∀ t, -86400 < offset t
  below : ∀ t, offset t < 86400

def yearText (year : ℤ) : List Char :=
  if year < 0 then '-' :: padded 4 year.natAbs else padded 4 year.natAbs

def offsetText (offset : ℤ) : List Char :=
  if offset = 0 then ['Z']
  else
    let minutes := offset.tdiv 60
    (if minutes < 0 then '-' else '+') ::
      (padded 2 (minutes.natAbs / 60) ++ ':' :: padded 2 (minutes.natAbs % 60))

def dateText (d : Date) : List Char :=
  yearText d.year ++ '-' :: (padded 2 (d.month + 1) ++ '-' :: padded 2 (d.day + 1))

def clockText (t : DateTime) : List Char :=
  padded 2 t.hour ++ ':' :: (padded 2 t.minute ++ ':' :: padded 2 t.second)

def Zone.localTime (zone : Zone) (instant : ℤ) : DateTime :=
  DateTime.ofSeconds (instant + zone.offset instant)

def Zone.text (zone : Zone) (instant : ℤ) : List Char :=
  dateText (zone.localTime instant).date ++
    'T' :: (clockText (zone.localTime instant) ++ offsetText (zone.offset instant))

/-! ## What is written reads back -/

theorem dateOf_self (d : Date) : dateOf d.year (d.month + 1) (d.day + 1) = some d := by
  have hvalid : d.day + 1 - 1 < (monthLengths d.year).getD (d.month + 1 - 1) 0 := d.valid
  rw [dateOf, if_pos ⟨by omega, by omega⟩, dif_pos hvalid]
  rfl

theorem readDate_dateText {d : Date} (hyear : 0 ≤ d.year ∧ d.year < 10000)
    (rest : List Char) : readDate (dateText d ++ rest) = some (d, rest) := by
  have hnatAbs : (d.year.natAbs : ℤ) = d.year := by omega
  have hmonth := d.month_lt
  have hday := d.day_lt
  simp only [readDate, dateText, yearText, if_neg (not_lt.mpr hyear.1), List.append_assoc,
    List.cons_append, Option.bind_eq_bind]
  rw [takeDigits_padded (by decide) (by omega), Option.bind_some]
  simp only [expect_self, Option.bind_some]
  rw [getnum_padded _ (by omega), Option.bind_some]
  simp only [expect_self, Option.bind_some]
  rw [getnum_padded _ (by omega), Option.bind_some]
  simp only [hnatAbs]
  rw [dateOf_self, Option.bind_some]
  rfl

theorem readClock_clockText (t : DateTime) (rest : List Char) :
    readClock t.date (clockText t ++ rest) = some (t, rest) := by
  have hhour := t.hour_lt
  have hminute := t.minute_lt
  have hsecond := t.second_lt
  simp only [readClock, clockText, List.append_assoc, List.cons_append, Option.bind_eq_bind]
  rw [getnum_padded _ (by omega), Option.bind_some]
  simp only [expect_self, Option.bind_some]
  rw [getnum_padded _ (by omega), Option.bind_some]
  simp only [expect_self, Option.bind_some]
  rw [getnum_padded _ (by omega), Option.bind_some]
  simp only [dif_pos (And.intro hhour (And.intro hminute hsecond))]
  rfl

theorem readFraction_offsetText (offset : ℤ) :
    readFraction (offsetText offset) = (0, offsetText offset) := by
  unfold offsetText
  split
  · rfl
  · simp only []
    cases hhours : padded 2 ((offset.tdiv 60).natAbs / 60) with
    | nil => split <;> simp [readFraction]
    | cons c digits => split <;> simp [readFraction]

theorem readSigned_padded {sign : Char} {direction : ℤ} (hsign : readSign sign = some direction)
    {hours minutes : ℕ} (hhours : hours ≤ 24) (hminutes : minutes ≤ 60) :
    readSigned (sign :: (padded 2 hours ++ ':' :: padded 2 minutes)) =
      some (direction * (hours * 60 + minutes) * 60) := by
  have hend := getnum_padded true (n := minutes) (by omega) []
  rw [List.append_nil] at hend
  simp only [readSigned, hsign, Option.bind_eq_bind, Option.bind_some]
  rw [getnum_padded _ (by omega), Option.bind_some]
  simp only [expect_self, Option.bind_some, hend]
  rw [if_pos ⟨hhours, hminutes, trivial⟩]

theorem readOffset_signed {sign : Char} (hsign : sign ≠ 'Z') (rest : List Char) :
    readOffset (sign :: rest) = readSigned (sign :: rest) := by
  rw [readOffset, if_neg]
  intro hgreenwich
  cases hgreenwich
  exact hsign rfl

theorem readOffset_offsetText {offset : ℤ} (habove : -86400 < offset) (hbelow : offset < 86400) :
    readOffset (offsetText offset) = some (offset.tdiv 60 * 60) := by
  unfold offsetText
  split
  · rename_i hgreenwich
    rw [hgreenwich]
    rfl
  · have hminutes : (offset.tdiv 60).natAbs < 1440 := by
      have hsize : (offset.tdiv 60).natAbs = offset.natAbs / 60 := Int.natAbs_tdiv offset 60
      omega
    simp only []
    split
    · rename_i hwest
      rw [readOffset_signed (by decide), readSigned_padded rfl (by omega) (by omega)]
      congr 1
      omega
    · rename_i heast
      rw [readOffset_signed (by decide), readSigned_padded rfl (by omega) (by omega)]
      congr 1
      omega

/-- In the years of four digits, an instant is read back but for the seconds of its offset. -/
theorem readInstant_text (zone : Zone) {instant : ℤ}
    (hyear : 0 ≤ (zone.localTime instant).date.year ∧
      (zone.localTime instant).date.year < 10000) :
    readInstant (zone.text instant) =
      some ((instant + (zone.offset instant).tmod 60) * 10 ^ 9) := by
  have hoffset := readOffset_offsetText (zone.above instant) (zone.below instant)
  have hseconds : (zone.localTime instant).seconds = instant + zone.offset instant :=
    DateTime.seconds_ofSeconds _
  have hrest : instant + zone.offset instant - (zone.offset instant).tdiv 60 * 60 =
      instant + (zone.offset instant).tmod 60 := by
    have hsplit := Int.tmod_add_mul_tdiv (zone.offset instant) 60
    omega
  simp only [readInstant, Zone.text, Option.bind_eq_bind]
  rw [readDate_dateText hyear, Option.bind_some]
  simp only [expect_self, Option.bind_some]
  rw [readClock_clockText, Option.bind_some]
  simp only [readFraction_offsetText, hoffset, Option.bind_some, hseconds, hrest]
  simp

theorem padded_late {n : ℕ} (h : 10000 ≤ n) :
    ∃ digit digits, (padded 4 n).drop 4 = digit :: digits ∧ digit.isDigit = true := by
  have hlong : ¬ (Nat.toDigits 10 n).length ≤ 4 := by
    rw [Nat.length_toDigits_le_iff (by decide) (by decide)]
    omega
  have hdigits : padded 4 n = Nat.toDigits 10 n := by
    have hwidth : 4 - (Nat.toDigits 10 n).length = 0 := by omega
    rw [padded, hwidth, List.replicate_zero, List.nil_append]
  cases hrest : (padded 4 n).drop 4 with
  | nil =>
      have hlength := congrArg List.length hrest
      rw [List.length_drop, hdigits, List.length_nil] at hlength
      omega
  | cons digit digits =>
      have hmem : digit ∈ (padded 4 n).drop 4 := by simp [hrest]
      exact ⟨digit, digits, rfl, isDigit_padded digit (List.mem_of_mem_drop hmem)⟩

/-- A fifth digit stands where the month is to begin. -/
theorem readDate_late {d : Date} (hyear : 10000 ≤ d.year) (rest : List Char) :
    readDate (dateText d ++ rest) = none := by
  obtain ⟨digit, digits, hdrop, hdigit⟩ := padded_late (n := d.year.natAbs) (by omega)
  have hother : digit ≠ '-' := by
    rintro rfl
    cases hdigit
  have hlength : 4 ≤ (padded 4 d.year.natAbs).length := by
    by_contra hshort
    rw [List.drop_of_length_le (by omega)] at hdrop
    cases hdrop
  simp only [readDate, dateText, yearText, if_neg (show ¬ d.year < 0 by omega),
    List.append_assoc, Option.bind_eq_bind]
  unfold takeDigits
  split
  · simp only [Option.bind_some]
    rw [List.drop_append_of_le_length hlength, hdrop]
    simp [expect, hother]
  · rfl

theorem readInstant_late (zone : Zone) {instant : ℤ}
    (hyear : 10000 ≤ (zone.localTime instant).date.year) :
    readInstant (zone.text instant) = none := by
  simp only [readInstant, Zone.text, readDate_late hyear]
  rfl

end WorldlandBroker.Foundation
