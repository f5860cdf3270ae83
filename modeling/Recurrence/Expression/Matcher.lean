import Recurrence.Calendar.Unit
import Recurrence.Text.Upper
import Recurrence.Value

/-!
# Date matchers

A **matcher** is a predicate on dates, kept as data so that expressions can be compared, shown and
rebuilt.  Intervals are positive by their type.

Matchers are asked about calendar dates, but a date with a time of day may be handed over too, both
as a boundary and as the day in question.  Most matchers then look at the date alone.  A date and a
date-time cannot be ordered or subtracted, however, so `after`, `before` and the matchers that count
days or weeks refuse the mixture; see `Expression/Evaluate`.
-/

namespace Recurrence

/-- A positive number of units. -/
structure Interval where
  /-- The number of units. -/
  count : Nat
  /-- There is at least one. -/
  one_le : 1 ≤ count

theorem Interval.ext_count : ∀ {a b : Interval}, a.count = b.count → a = b
  | ⟨_, _⟩, ⟨_, _⟩, rfl => rfl

instance : DecidableEq Interval := fun a b =>
  decidable_of_iff (a.count = b.count) ⟨Interval.ext_count, congrArg Interval.count⟩

/-- One unit. -/
def Interval.one : Interval := ⟨1, Nat.one_pos⟩

/-- The interval of `n` units, if `n` is positive. -/
def Interval.ofInt? (n : Int) : Option Interval :=
  if h : 1 ≤ n then some ⟨n.toNat, by omega⟩ else none

/-- A predicate on dates. -/
inductive Matcher
  /-- Dates after the boundary. -/
  | after (boundary : Stamp)
  /-- Dates up to the boundary. -/
  | before (boundary : Stamp)
  /-- All dates of every `interval`-th unit, counted from the unit of `anchor`. -/
  | everyNUnits (anchor : Date) (interval : Interval) (unit : TimeUnit)
  /-- Every `interval`-th day, counted from `anchor`. -/
  | dayInterval (anchor : Date) (interval : Interval)
  /-- A weekday, 0 for Monday to 6 for Sunday. -/
  | weekday (number : Int)
  /-- The `ordinal`-th of a weekday in its month; negative ordinals count from the month's end. -/
  | ordinalWeekday (ordinal number : Int)
  /-- A day of the month; negative days count from the month's end. -/
  | dayOfMonth (day : Int)
  /-- The days of the month from `first` to `last`. -/
  | dayOfMonthRange (first last : Int)
  /-- A month, 1 to 12. -/
  | month (number : Int)
deriving DecidableEq

namespace Matcher

/-- A named part of a description. -/
def namedPart (name : String) (value : Text) : Text :=
  name.toList ++ ['='] ++ value

/-- A description made of a name and parts. -/
def describeParts (name : String) (parts : List Text) : Text :=
  name.toList ++ ['('] ++ Value.commaSeparated parts ++ [')']

/-- The description of a unit. -/
def describeUnit (u : TimeUnit) : Text :=
  "<TimeUnit.".toList ++ Text.upper u.word.toList ++ [':', ' '] ++ Text.quoted u.word.toList ++ ['>']

/-- The description of a matcher in messages. -/
def describe : Matcher → Text
  | .after boundary => describeParts "After" [namedPart "boundary" (Value.describeStamp boundary)]
  | .before boundary => describeParts "Before" [namedPart "boundary" (Value.describeStamp boundary)]
  | .everyNUnits anchor interval unit =>
    describeParts "EveryNUnits"
      [namedPart "anchor" (Value.describeDate anchor), namedPart "interval" (Text.ofNat interval.count),
        namedPart "unit" (describeUnit unit)]
  | .dayInterval anchor interval =>
    describeParts "DayInterval"
      [namedPart "anchor" (Value.describeDate anchor), namedPart "interval" (Text.ofNat interval.count)]
  | .weekday number => describeParts "WeekdayOfWeek" [namedPart "weekday" (Text.ofInt number)]
  | .ordinalWeekday ordinal number =>
    describeParts "OrdinalWeekdayOfMonth"
      [namedPart "ordinal" (Text.ofInt ordinal), namedPart "weekday" (Text.ofInt number)]
  | .dayOfMonth day => describeParts "DayOfMonthEquals" [namedPart "day" (Text.ofInt day)]
  | .dayOfMonthRange first last =>
    describeParts "DayOfMonthRange"
      [namedPart "first" (Text.ofInt first), namedPart "last" (Text.ofInt last)]
  | .month number => describeParts "MonthEquals" [namedPart "month" (Text.ofInt number)]

end Matcher

end Recurrence
