import Recurrence.Calendar.Time
import Recurrence.Text.Digit
import Recurrence.Text.Integer

/-!
# The parts of a timestamp

Reading a timestamp collects numbers for the date and parts of the time.  Which number of the date is
the year, the month or the day is settled at the end (`DateNumbers.resolve?`): a month that was named
is the month; a number of three or more digits, or above 100, is the year; a number above 31 can only
be a year and one above 12 no month; and what is left goes month before day before year, except that
a leading year is followed by the month.

What a timestamp leaves out of its date is taken from the day on which it is read; a weekday then
leads on to the next such day.  A year below 100 is taken as it is where it is written with three
digits or more; two digits do not say the century, so that year is the one nearest to that day.
-/

namespace Recurrence.Timestamp

/-- The year that two digits stand for: from fifty years before the present one to less than fifty
after it. -/
def fullYear (today : Date) (n : Nat) : Nat :=
  let year := n + 100 * (today.year / 100)
  if today.year + 50 ≤ year then year - 100
  else if year + 50 < today.year then year + 100
  else year

/-! ## Numbers -/

/-- A number as written, with its fraction digits. -/
structure Numeral where
  /-- The number before the point. -/
  whole : Nat
  /-- The digits after the point. -/
  fraction : List Nat
deriving DecidableEq, Repr

namespace Numeral

/-- The number that a token spells: decimal digits, perhaps with a point among them. -/
def ofToken? (token : Text) : Option Numeral :=
  match Text.cutAt '.' token with
  | none => (Text.readDigits? token).map fun n => ⟨n, []⟩
  | some (before, after) => do
    let whole ← Text.readDigits? before
    let fraction ← after.mapM Text.digitValue?
    if fraction.isEmpty then none else some ⟨whole, fraction⟩

/-- The number has a fraction other than zero. -/
def hasFraction (n : Numeral) : Bool :=
  n.fraction.any (· != 0)

/-- Sixty times the fraction, without the fraction of that. -/
def sixtieths (n : Numeral) : Nat :=
  60 * Text.ofDigits n.fraction / Nat.pow 10 n.fraction.length

end Numeral

/-- The number that a text of digits spells; `none` if it has other characters or too many digits. -/
def wholeNumber? (s : Text) : Option Nat :=
  if Text.digitLimit < s.length then none else Text.readDigits? s

/-! ## The date -/

/-- The numbers that may be year, month or day, in order of appearance. -/
structure DateNumbers where
  /-- The numbers. -/
  values : List Nat
  /-- The place of the number known to be the year. -/
  yearAt : Option Nat
  /-- The place of the number known to be the month. -/
  monthAt : Option Nat
deriving DecidableEq, Repr

namespace DateNumbers

/-- No numbers yet. -/
def empty : DateNumbers := ⟨[], none, none⟩

/-- The numbers with the year behind them; `none` if there is a year already. -/
def pushYear? (d : DateNumbers) (n : Nat) : Option DateNumbers :=
  if d.yearAt.isSome then none
  else some { d with values := d.values ++ [n], yearAt := some d.values.length }

/-- The numbers with a named month behind them; `none` if there is a month already. -/
def pushMonth? (d : DateNumbers) (n : Nat) : Option DateNumbers :=
  if d.monthAt.isSome then none
  else some { d with values := d.values ++ [n], monthAt := some d.values.length }

/-- The numbers with one more of unknown meaning behind them. -/
def push (d : DateNumbers) (n : Nat) : DateNumbers :=
  { d with values := d.values ++ [n] }

/-- The numbers with a text of digits behind them, which is the year if it has more than two. -/
def pushText? (d : DateNumbers) (s : Text) : Option DateNumbers := do
  let n ← wholeNumber? s
  if 2 < s.length then d.pushYear? n else some (d.push n)

/-- The numbers with a numeral behind them, which is the year if it exceeds 100. -/
def pushNumeral? (d : DateNumbers) (n : Numeral) : Option DateNumbers :=
  if 100 < n.whole || (n.whole == 100 && n.hasFraction) then d.pushYear? n.whole
  else some (d.push n.whole)

/-- The numeral could be the day, as far as month and year are known. -/
def couldBeDay (d : DateNumbers) (n : Numeral) : Bool :=
  let length :=
    match d.monthAt with
    | none => 31
    | some m =>
      daysInMonth ((d.yearAt.bind (d.values[·]?)).getD 2000) (d.values.getD m 0)
  1 ≤ n.whole && (n.whole < length || (n.whole == length && !n.hasFraction))

/-- Year, month and day, where they are known. -/
structure Resolved where
  /-- The year. -/
  year : Option Nat
  /-- The month. -/
  month : Option Nat
  /-- The day of the month. -/
  day : Option Nat
deriving DecidableEq, Repr

/-- Three numbers, of which the places of two are known. -/
def resolveThird (values : List Nat) (yearAt monthAt : Nat) : Resolved :=
  ⟨values[yearAt]?, values[monthAt]?, values[3 - yearAt - monthAt]?⟩

/-- Year, month and day among the numbers; `none` if there are more than three. -/
def resolve? (d : DateNumbers) : Option Resolved :=
  match d.values, d.yearAt, d.monthAt with
  | [], _, _ => some ⟨none, none, none⟩
  | [a], some _, _ => some ⟨some a, none, none⟩
  | [a], none, some _ => some ⟨none, some a, none⟩
  | [a], none, none => some (if 31 < a then ⟨some a, none, none⟩ else ⟨none, none, some a⟩)
  | [a, b], some y, some _ =>
    some (if y = 0 then ⟨some a, some b, none⟩ else ⟨some b, some a, none⟩)
  | [a, b], none, some m =>
    let (month, other) := if m = 0 then (a, b) else (b, a)
    some (if 31 < other then ⟨some other, some month, none⟩ else ⟨none, some month, some other⟩)
  | [a, b], _, none =>
    some (if 31 < a then ⟨some a, some b, none⟩
      else if 31 < b then ⟨some b, some a, none⟩
      else ⟨none, some a, some b⟩)
  | [a, b, c], some y, some m => some (resolveThird [a, b, c] y m)
  | [a, b, c], none, some 0 =>
    some (if 31 < b then ⟨some b, some a, some c⟩ else ⟨some c, some a, some b⟩)
  | [a, b, c], none, some 1 =>
    some (if 31 < a then ⟨some a, some b, some c⟩ else ⟨some c, some b, some a⟩)
  | [a, b, c], none, some _ =>
    some (if 31 < b then ⟨some b, some c, some a⟩ else ⟨some a, some c, some b⟩)
  | [a, b, c], yearAt, none =>
    some (if 31 < a || yearAt = some 0 then ⟨some a, some b, some c⟩
      else if 12 < a then ⟨some c, some b, some a⟩
      else ⟨some c, some a, some b⟩)
  | _, _, _ => none

end DateNumbers

/-! ## The whole -/

/-- What has been read so far. -/
structure Parts where
  /-- The numbers of the date. -/
  numbers : DateNumbers
  /-- The weekday, 0 for Monday to 6 for Sunday. -/
  weekday : Option Nat
  /-- The hour. -/
  hour : Option Nat
  /-- The minute. -/
  minute : Option Nat
  /-- The second. -/
  second : Option Nat
  /-- The microsecond. -/
  microsecond : Option Nat
  /-- The abbreviation of a zone. -/
  zoneName : Option Text
  /-- The offset, in seconds. -/
  offset : Option Int
  /-- The next token is a sign that counts the other way. -/
  signReversed : Bool
deriving DecidableEq, Repr

namespace Parts

/-- Nothing yet. -/
def empty : Parts := ⟨.empty, none, none, none, none, none, none, none, false⟩

/-- The largest offset that can be kept, in days. -/
def offsetDayLimit : Int := 999999999

/-- The offset of the whole.  Any name of universal time stands for zero, whatever number comes with
it; another name alone stands for nothing. -/
def utcOffset? (p : Parts) : Option UtcOffset :=
  match p.zoneName with
  | some name =>
    if name == ['U', 'T', 'C'] || name == ['G', 'M', 'T'] || name == ['Z'] || name == ['z'] then
      some .zero
    else p.offset.map UtcOffset.mk
  | none => p.offset.map UtcOffset.mk

/-- The offset can be kept. -/
def hasKeepableOffset (p : Parts) : Bool :=
  match p.utcOffset? with
  | none => true
  | some o => (o.seconds.fdiv 86400).natAbs ≤ offsetDayLimit.toNat

/-- Nothing of a date or a time has been read. -/
def isEmpty (p : Parts) : Bool :=
  p.numbers.values.isEmpty && p.weekday.isNone && p.hour.isNone && p.minute.isNone
    && p.second.isNone && p.microsecond.isNone

/-- A year as the numbers give it, with its century. -/
def yearOf (p : Parts) (today : Date) (n : Nat) : Nat :=
  if n < 100 && p.numbers.yearAt.isNone then fullYear today n else n

/-- The date of the parts, when it is read on a certain day. -/
def date? (p : Parts) (today : Date) : Option Date := do
  let resolved ← p.numbers.resolve?
  let year := (resolved.year.map (p.yearOf today)).getD today.year
  let month := resolved.month.getD today.month
  let day := resolved.day.getD (min today.day (daysInMonth year month))
  let date ← Date.ofCivil? year month day
  match resolved.day, p.weekday with
  | none, some weekday => date.addDays? ((weekday + 7 - date.weekday) % 7 : Nat)
  | _, _ => some date

/-- The date-time of the parts; there must be some.  Missing parts of the time are zero. -/
def dateTime? (p : Parts) (today : Date) : Option DateTime := do
  let date ← p.date? today
  let time ←
    TimeOfDay.ofParts? (p.hour.getD 0) (p.minute.getD 0) (p.second.getD 0) (p.microsecond.getD 0)
  if p.isEmpty || !p.hasKeepableOffset then none else some ⟨date, time, p.utcOffset?⟩

end Parts

end Recurrence.Timestamp
