import Recurrence.Calendar.Date

/-!
# Spans of years and months

A **span** is a number of years and a number of months short of twelve, neither of them against the
sign of the other.  A date moves by a span to the same day of another month, or to the last day of
that month if it is too short.  Past the ends of the calendar there is no such date.

The span from one date to another is made of whole months.  As many are tried as the numbers of the
two months lie apart; while the date that they lead to is past the goal, the last of them is not
whole, and one less is tried.
-/

namespace Recurrence

/-- Years and months. -/
structure Span where
  /-- The years. -/
  years : Int
  /-- The months, beside the years. -/
  months : Int
deriving DecidableEq, Repr

/-- The span of a number of months.  Full years are taken off toward zero. -/
def Span.ofMonths (n : Int) : Span :=
  ⟨n.tdiv 12, n.tmod 12⟩

namespace Date

/-- The date with a given day of a month, or the last date of the month if it has no such day. -/
def fit? (year month day : Nat) : Option Date :=
  ofCivil? year month (min day (daysInMonth year month))

/-- The date moved by a span. -/
def move? (d : Date) (s : Span) : Option Date :=
  let year : Int := d.year + s.years
  let month : Int := d.month + s.months
  if 12 < month then fit? (year + 1).toNat (month - 12).toNat d.day
  else if month < 1 then fit? (year - 1).toNat (month + 12).toNat d.day
  else fit? year.toNat month.toNat d.day

end Date

namespace Span

/-- A number of months in a direction. -/
def signed (back : Bool) (n : Nat) : Int :=
  if back then -(n : Int) else n

/-- A date that was reached in a direction is past the goal. -/
def isPast (back : Bool) (reached goal : Date) : Bool :=
  if back then reached < goal else goal < reached

/-- The whole months from a date in the direction of a goal, if there are `n` at most. -/
def wholeMonths? (back : Bool) (anchor goal : Date) : (n : Nat) → Option Nat
  | 0 => some 0
  | n + 1 => do
    let reached ← anchor.move? (.ofMonths (signed back (n + 1)))
    if isPast back reached goal then wholeMonths? back anchor goal n else some (n + 1)

/-- The span from one date to another, back if the other is earlier. -/
def between? (anchor goal : Date) : Option Span := do
  let back := decide (goal < anchor)
  let apart : Int := 12 * ((goal.year : Int) - anchor.year) + ((goal.month : Int) - anchor.month)
  let whole ← wholeMonths? back anchor goal apart.natAbs
  some (.ofMonths (signed back whole))

end Span

end Recurrence
