import Recurrence.Calendar.Span

/-!
# Calendar units

A **unit** is a day, a week (from Monday), a month or a year.  `TimeUnit.number` numbers the units of
one kind in calendar order; `TimeUnit.between?` counts how many units one date lies after another by
looking at the dates that open their units: the days between two Mondays, the span between the first
days of two months or years.
-/

namespace Recurrence

/-- A kind of calendar unit. -/
inductive TimeUnit
  /-- Single days. -/
  | day
  /-- Weeks that start on Monday. -/
  | week
  /-- Calendar months. -/
  | month
  /-- Calendar years. -/
  | year
deriving DecidableEq, Repr

namespace TimeUnit

/-- The English word for one unit. -/
def word : TimeUnit → String
  | .day => "day"
  | .week => "week"
  | .month => "month"
  | .year => "year"

/-- The unit with a given English word. -/
def ofWord? : String → Option TimeUnit
  | "day" => some .day
  | "week" => some .week
  | "month" => some .month
  | "year" => some .year
  | _ => none

/-- The number of the unit that holds a date; consecutive units have consecutive numbers. -/
def number (u : TimeUnit) (d : Date) : Nat :=
  match u with
  | .day => d.dayNumber
  | .week => d.weekNumber
  | .month => d.monthNumber
  | .year => d.year

end TimeUnit

namespace Date

/-- The Monday that opens the week of a date. -/
def monday? (d : Date) : Option Date :=
  d.addDays? (-(d.weekday : Int))

/-- The first date of the month of a date. -/
def firstOfMonth? (d : Date) : Option Date :=
  fit? d.year d.month 1

/-- The first date of the year of a date. -/
def firstOfYear? (d : Date) : Option Date :=
  fit? d.year 1 1

end Date

namespace TimeUnit

/-- Whole units from the unit that holds `anchor` to the unit that holds `d`; negative if `d` lies
in an earlier one. -/
def between? (u : TimeUnit) (anchor d : Date) : Option Int :=
  match u with
  | .day => some (d.daysSince anchor)
  | .week => do
    let monday ← d.monday?
    let opening ← anchor.monday?
    some ((monday.daysSince opening).fdiv 7)
  | .month => do
    let first ← d.firstOfMonth?
    let opening ← anchor.firstOfMonth?
    let span ← Span.between? opening first
    some (12 * span.years + span.months)
  | .year => do
    let first ← d.firstOfYear?
    let opening ← anchor.firstOfYear?
    let span ← Span.between? opening first
    some span.years

end TimeUnit

end Recurrence
