import Recurrence.Text.Basic

/-!
# Calendar dates

A `Date` is a day of the Gregorian calendar, extended backwards, from 0001-01-01 to 9999-12-31.  It
is held as its day number: 0001-01-01 is day 1, and every following day is one more.  Distances,
order and weekdays are arithmetic on day numbers; year, month and day of the month are computed from
them.  The two ends of the calendar are part of the type, so a step past either end is an absent
value and not a date.

0001-01-01 is a Monday, which makes the weekday of a date its day number less one, modulo seven, and
lets weeks that start on Monday be numbered by the quotient.
-/

namespace Recurrence

/-! ## Years and months -/

/-- The year has a 29 February: every fourth year, but of the full centuries only every fourth. -/
def isLeapYear (year : Nat) : Bool :=
  year % 4 == 0 && (year % 100 != 0 || year % 400 == 0)

/-- The lengths of the twelve months. -/
def monthLengths (leap : Bool) : List Nat :=
  [31, if leap then 29 else 28, 31, 30, 31, 30, 31, 31, 30, 31, 30, 31]

/-- The length of month `month` (1 to 12) of a year; 0 for any other number. -/
def daysInMonth (year month : Nat) : Nat :=
  if month = 0 then 0 else (monthLengths (isLeapYear year)).getD (month - 1) 0

/-- The days of a year before the first of its month `month` (1 to 12). -/
def daysBeforeMonth (year month : Nat) : Nat :=
  ((monthLengths (isLeapYear year)).take (month - 1)).foldr (· + ·) 0

/-- The days of the calendar before 1 January of a year. -/
def daysBeforeYear (year : Nat) : Nat :=
  365 * (year - 1) + (year - 1) / 4 - (year - 1) / 100 + (year - 1) / 400

/-- The month and the day of the month at a distance (0 to 365) from 1 January, given the lengths of
the months from month `month` on. -/
def monthAndDay : List Nat → Nat → Nat → Nat × Nat
  | [], month, rest => (month, rest + 1)
  | length :: lengths, month, rest =>
    if rest < length || lengths.isEmpty then (month, rest + 1)
    else monthAndDay lengths (month + 1) (rest - length)

/-! ## Dates -/

/-- The day number of 9999-12-31. -/
def lastDayNumber : Nat := 3652059

/-- A day of the calendar. -/
structure Date where
  /-- The number of the day, counted from 0001-01-01, which is day 1. -/
  dayNumber : Nat
  /-- No date precedes 0001-01-01. -/
  one_le : 1 ≤ dayNumber
  /-- No date follows 9999-12-31. -/
  le_last : dayNumber ≤ lastDayNumber
deriving DecidableEq

namespace Date

theorem ext_dayNumber {d e : Date} (h : d.dayNumber = e.dayNumber) : d = e := by
  cases d; cases e; simp_all

/-- The date with a given day number. -/
def ofDayNumber? (n : Int) : Option Date :=
  if h : 1 ≤ n ∧ n ≤ lastDayNumber then some ⟨n.toNat, by omega, by omega⟩ else none

@[simp] theorem ofDayNumber?_dayNumber (d : Date) : ofDayNumber? d.dayNumber = some d := by
  have lower := d.one_le
  have upper := d.le_last
  rw [ofDayNumber?, dif_pos ⟨by omega, by omega⟩]
  exact congrArg some (ext_dayNumber (Int.toNat_natCast _))

theorem dayNumber_of_ofDayNumber? {n : Nat} {d : Date} (h : ofDayNumber? n = some d) :
    d.dayNumber = n := by
  rw [ofDayNumber?] at h
  split at h
  · simp only [Option.some.injEq] at h
    rw [← h]
    exact Int.toNat_natCast n
  · simp at h

/-- 0001-01-01. -/
def first : Date := ⟨1, by decide, by decide⟩

/-- 9999-12-31. -/
def last : Date := ⟨lastDayNumber, by decide, by decide⟩

/-- 1970-01-01. -/
def epoch : Date := ⟨719163, by decide, by decide⟩

/-! ## Order -/

instance : LE Date := ⟨fun d e => d.dayNumber ≤ e.dayNumber⟩

instance : LT Date := ⟨fun d e => d.dayNumber < e.dayNumber⟩

instance (d e : Date) : Decidable (d ≤ e) := inferInstanceAs (Decidable (d.dayNumber ≤ e.dayNumber))

instance (d e : Date) : Decidable (d < e) := inferInstanceAs (Decidable (d.dayNumber < e.dayNumber))

theorem le_iff {d e : Date} : d ≤ e ↔ d.dayNumber ≤ e.dayNumber := Iff.rfl

theorem lt_iff {d e : Date} : d < e ↔ d.dayNumber < e.dayNumber := Iff.rfl

/-! ## Steps and distances -/

/-- The date `days` later (earlier, if negative); `none` outside the calendar. -/
def addDays? (d : Date) (days : Int) : Option Date :=
  ofDayNumber? (d.dayNumber + days)

/-- The days from `anchor` to `d`; negative if `d` is earlier. -/
def daysSince (d anchor : Date) : Int :=
  (d.dayNumber : Int) - anchor.dayNumber

/-- The day of the week: 0 is Monday, 6 is Sunday. -/
def weekday (d : Date) : Nat :=
  (d.dayNumber - 1) % 7

theorem weekday_lt (d : Date) : d.weekday < 7 := Nat.mod_lt _ (by decide)

/-! ## Year, month and day -/

/-- The year, and the distance from its 1 January.  Full spans of 400, 100, 4 and 1 years are taken
off the days before the date; the last century of 400 years and the last year of four are one day
longer than their fellows, hence the two caps. -/
def yearAndDay (d : Date) : Nat × Nat :=
  let days := d.dayNumber - 1
  let in400 := days % 146097
  let centuries := min (in400 / 36524) 3
  let in100 := in400 - 36524 * centuries
  let in4 := in100 % 1461
  let years := min (in4 / 365) 3
  (400 * (days / 146097) + 100 * centuries + 4 * (in100 / 1461) + years + 1, in4 - 365 * years)

/-- The year, 1 to 9999. -/
def year (d : Date) : Nat :=
  d.yearAndDay.1

/-- The month and the day of the month. -/
def monthDay (d : Date) : Nat × Nat :=
  monthAndDay (monthLengths (isLeapYear d.year)) 1 d.yearAndDay.2

/-- The month, 1 to 12. -/
def month (d : Date) : Nat :=
  d.monthDay.1

/-- The day of the month, 1 to 31. -/
def day (d : Date) : Nat :=
  d.monthDay.2

/-- The length of the month of the date. -/
def monthLength (d : Date) : Nat :=
  daysInMonth d.year d.month

/-- The date with a given year, month and day, if the calendar has it. -/
def ofCivil? (year month day : Nat) : Option Date :=
  if 1 ≤ year ∧ year ≤ 9999 ∧ 1 ≤ month ∧ month ≤ 12 ∧ 1 ≤ day ∧ day ≤ daysInMonth year month then
    ofDayNumber? ((daysBeforeYear year + daysBeforeMonth year month + day : Nat) : Int)
  else none

/-! ## Numbers of weeks and months -/

/-- The number of the week that holds the date; weeks start on Monday. -/
def weekNumber (d : Date) : Nat :=
  (d.dayNumber - 1) / 7

/-- The number of the month that holds the date. -/
def monthNumber (d : Date) : Nat :=
  12 * d.year + d.month

/-! ## Text -/

/-- `YYYY-MM-DD`. -/
def toText (d : Date) : Text :=
  Text.padded 4 d.year ++ ['-'] ++ Text.padded 2 d.month ++ ['-'] ++ Text.padded 2 d.day

/-- The English names of the months. -/
def monthNames : List String :=
  ["January", "February", "March", "April", "May", "June", "July", "August", "September",
    "October", "November", "December"]

/-- The date in words, `Month DD, YYYY`; the year is not padded. -/
def inWords (d : Date) : Text :=
  (monthNames.getD (d.month - 1) "").toList ++ [' '] ++ Text.padded 2 d.day ++ [',', ' ']
    ++ Text.ofNat d.year

end Date

end Recurrence
