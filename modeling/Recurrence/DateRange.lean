import Recurrence.Field

/-!
# Date ranges

A date range is closed: it holds both its ends.  It may be inverted, and is empty then.  Ranges are
given as pairs of data, read as date fields; membership can be asked of any datum.
-/

namespace Recurrence

/-- The dates from `first` to `last`. -/
structure DateRange where
  /-- The first date. -/
  first : Date
  /-- The last date. -/
  last : Date
deriving DecidableEq

/-- The calendar date of a datum that is a date or a date-time. -/
def Value.civilDate? : Value → Option Date
  | .date d => some d
  | .dateTime t => some t.date
  | _ => none

namespace DateRange

/-- The range holds no date. -/
def isEmpty (r : DateRange) : Bool :=
  r.last < r.first

/-- The range holds the date. -/
def holds (r : DateRange) (d : Date) : Bool :=
  r.first ≤ d && d ≤ r.last

theorem holds_iff {r : DateRange} {d : Date} : r.holds d ↔ r.first ≤ d ∧ d ≤ r.last := by
  simp [holds]

/-- The range holds the calendar date of a datum; it holds nothing that is neither date nor
date-time. -/
def holdsValue (r : DateRange) (v : Value) : Bool :=
  v.civilDate?.any r.holds

/-- The range between two data. -/
def between (first last : Value) : Except Error DateRange :=
  let first := Field.required "start" Field.date (some first)
  let last := Field.required "end" Field.date (some last)
  match first, last with
  | .ok first, .ok last => .ok ⟨first, last⟩
  | first, last => .error (.invalidFields (Field.faults first ++ Field.faults last))

/-- The range that a list of data makes: there must be two. -/
def ofList : List Value → Except Error DateRange
  | [first, last] => between first last
  | values => .error (.notAPair values.length)

/-- Ranges do not change: to give a field a new value is an error. -/
def assign (field : String) : Error :=
  .invalidFields [⟨field, none, .frozen⟩]

end DateRange

end Recurrence
