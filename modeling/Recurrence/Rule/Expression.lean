import Recurrence.Expression.Evaluate
import Recurrence.Rule.Frequency
import Recurrence.Timestamp.Read

/-!
# The expression of a rule table

A rule table and a start date make an expression: the dates on which the series may recur.  It is
the intersection of up to four **parts**, in this order.

* The start: no date before it.
* The unit: only every so many weeks, months or years, as the interval says, counted
  from the one that holds the start.  Days have no unit part, as their frequency part counts them.
* The frequency: which days of such a unit.
* The end: no date after it.

Without a frequency only the start and the end bound the series.  The start's time of day has no
part in any of this, so a start is a date here.
-/

namespace Recurrence.RuleTable

/-! ## The start and the end -/

/-- The dates from the start on.  The bound is the day before the start, so there must be one. -/
def startPart (start : Date) : Except Error Expression :=
  match start.addDays? (-1) with
  | some boundary => .ok (.leaf (.after (.date boundary)))
  | none => .error .outsideCalendar

/-- The last possible date, if the table has one. -/
def untilDate (t : RuleTable) (today : Date) : Except RuleError (Option Date) :=
  match t.scalar? .until with
  | none => .ok none
  | some value => (Timestamp.parse today (.text value)).map fun last => some last.date

/-- The dates up to the last possible one; no part if there is none. -/
def endPart (t : RuleTable) (today : Date) : Except RuleError (List Expression) :=
  (t.untilDate today).map fun last => (last.map fun d => Expression.leaf (.before (.date d))).toList

/-! ## The frequency -/

/-- The days that some weekday token of the table asks for. -/
def weekdaysPart (t : RuleTable) : Except Error Expression := do
  let days ← (t.valuesOf .byDay).mapM ByDay.parse
  Expression.anyOf (days.map fun day => .leaf day.matcher)

/-- The days that match some number of a key. -/
def numbersPart (t : RuleTable) (key : RuleKey) (matcher : Int → Matcher) :
    Except Error Expression := do
  let numbers ← (t.valuesOf key).mapM fun value => (parseNumber key value).mapError Error.rule
  Expression.anyOf (numbers.map fun n => .leaf (matcher n))

/-- The days of a month that holds occurrences: by weekday, else by number, else the start's day of
the month. -/
def monthlyPart (t : RuleTable) (start : Date) : Except Error Expression :=
  if t.has .byDay then t.weekdaysPart
  else if t.has .byMonthDay then t.numbersPart .byMonthDay .dayOfMonth
  else .ok (.leaf (.dayOfMonthRange start.day start.day))

/-- The days of a year that holds occurrences: those of certain months, else of the start's month,
that have a certain weekday, else the start's day of the month. -/
def yearlyPart (t : RuleTable) (start : Date) : Except Error Expression := do
  let months ←
    if t.has .byMonth then t.numbersPart .byMonth .month else .ok (.leaf (.month start.month))
  let days ←
    if t.has .byDay then t.weekdaysPart else .ok (.leaf (.dayOfMonth start.day))
  Expression.allOf [months, days]

/-- The days that a frequency asks for. -/
def frequencyPart (t : RuleTable) (start : Date) (interval : Interval) :
    Frequency → Except Error Expression
  | .daily => .ok (.leaf (.dayInterval start interval))
  | .weekly => if t.has .byDay then t.weekdaysPart else .ok (.leaf (.weekday start.weekday))
  | .monthly => t.monthlyPart start
  | .yearly => t.yearlyPart start

/-- The units that hold occurrences; no part for days. -/
def unitPart (start : Date) (interval : Interval) (frequency : Frequency) : List Expression :=
  if frequency = .daily then [] else [.leaf (.everyNUnits start interval frequency.unit)]

/-- The parts that come from the frequency; none if the table has no frequency. -/
def recurrenceParts (t : RuleTable) (start : Date) : Outcome (List Expression) := do
  match ← t.frequency with
  | none => pure []
  | some frequency =>
    let interval ← t.interval
    let days ← t.frequencyPart start interval frequency
    pure (unitPart start interval frequency ++ [days])

/-! ## The whole -/

/-- The parts of the expression, in order. -/
def parts (t : RuleTable) (today start : Date) : Outcome (List Expression) := do
  let first ← startPart start
  let recurrence ← t.recurrenceParts start
  let last ← t.endPart today
  pure (first :: recurrence ++ last)

/-- The expression of the table: the intersection of its parts. -/
def expression (t : RuleTable) (today start : Date) : Outcome Expression := do
  let parts ← t.parts today start
  Expression.allOf parts

end Recurrence.RuleTable
