import Recurrence.Calendar.Time
import Recurrence.Text.Integer

/-!
# Time zones

A **zone** is the history of a region's offset from universal time: the offset before the first
change, the changes with the instants at which they happened, and what holds after the last one.
That is either a fixed offset or a rule with two yearly changes, into and out of summer time, each on
a weekday of a month at a time of day by the clock then in force.

An instant has one offset.  A reading of the clock may have none, where the clock was put forward, or
two, where it was put back; it then has the offset before the change.

Instants and readings are counted in seconds since 1970-01-01T00:00:00.
-/

namespace Recurrence

/-- A yearly moment: a weekday of a month, at a time of day. -/
structure YearlyMoment where
  /-- The month, 1 to 12. -/
  month : Nat
  /-- Which of that weekday in the month, 1 to 5; 5 is the last one. -/
  week : Nat
  /-- The weekday: 0 is Sunday, 6 is Saturday. -/
  weekday : Nat
  /-- Seconds after midnight; may be negative or more than a day. -/
  time : Int
deriving DecidableEq, Repr

/-- What holds after the last change. -/
inductive ZoneRule
  /-- One offset for good. -/
  | fixed (offset : Int)
  /-- Standard time, and summer time between two yearly moments. -/
  | seasonal (standard summer : Int) (start stop : YearlyMoment)
deriving DecidableEq, Repr

/-- The history of a region's offset. -/
structure Zone where
  /-- The offset before the first change. -/
  before : Int
  /-- The changes in order: the instant of each, and the offset from then on. -/
  changes : List (Int × Int)
  /-- What holds after the last change. -/
  rule : ZoneRule
deriving DecidableEq, Repr

namespace YearlyMoment

/-- The day number of the first of a month. -/
def firstOfMonth (year month : Nat) : Nat :=
  daysBeforeYear year + daysBeforeMonth year month + 1

/-- The day of the month on which the moment falls in a year. -/
def dayOfMonth (m : YearlyMoment) (year : Nat) : Nat :=
  -- Day number 0 counts as a Sunday, so a day number modulo seven is its weekday from Sunday on.
  let first := firstOfMonth year m.month % 7
  let day := (m.weekday + 7 - first) % 7 + 1 + (m.week - 1) * 7
  if daysInMonth year m.month < day then day - 7 else day

/-- The reading of the clock at the moment in a year. -/
def clock (m : YearlyMoment) (year : Nat) : Int :=
  86400 * ((firstOfMonth year m.month + m.dayOfMonth year - 1 : Nat) - (Date.epoch.dayNumber : Int))
    + m.time

end YearlyMoment

/-- An instant lies between two yearly moments; if the second comes first in the year, the span goes
over the new year. -/
def isBetween (start stop t : Int) : Bool :=
  if start < stop then start ≤ t && t < stop else !(stop ≤ t && t < start)

namespace ZoneRule

/-- The offset at an instant that lies in a given year of universal time. -/
def offsetAtInstant (r : ZoneRule) (t : Int) (year : Nat) : Int :=
  match r with
  | .fixed offset => offset
  | .seasonal standard summer start stop =>
    if isBetween (start.clock year - standard) (stop.clock year - summer) t then summer
    else standard

/-- The offset at a reading of the clock in a given year.  Summer time starts late and ends late, so
that a reading that is skipped or repeated has the offset before the change. -/
def offsetAtClock (r : ZoneRule) (t : Int) (year : Nat) : Int :=
  match r with
  | .fixed offset => offset
  | .seasonal standard summer start stop =>
    let shift := summer - standard
    let (from', to') :=
      if 0 ≤ shift then (start.clock year + shift, stop.clock year)
      else (start.clock year, stop.clock year - shift)
    if isBetween from' to' t then summer else standard

end ZoneRule

namespace Zone

/-- The offset among the changes at an instant; `none` after the last change. -/
def changedAtInstant (t : Int) : (current : Int) → List (Int × Int) → Option Int
  | _, [] => none
  | current, (at', offset) :: rest =>
    if t < at' then some current
    else if t = at' && rest.isEmpty then some offset
    else changedAtInstant t offset rest

/-- The offset among the changes at a reading of the clock; `none` after the last change.  A change
shows on the clock when the later of the two readings at its instant has come. -/
def changedAtClock (t : Int) : (current : Int) → List (Int × Int) → Option Int
  | _, [] => none
  | current, (at', offset) :: rest =>
    let wall := at' + max current offset
    if t < wall then some current
    else if t = wall && rest.isEmpty then some offset
    else changedAtClock t offset rest

/-- The offset at an instant that lies in a given year of universal time. -/
def offsetAtInstant (z : Zone) (t : Int) (year : Nat) : Int :=
  (changedAtInstant t z.before z.changes).getD (z.rule.offsetAtInstant t year)

/-- The offset at a reading of the clock in a given year. -/
def offsetAtClock (z : Zone) (t : Int) (year : Nat) : Int :=
  (changedAtClock t z.before z.changes).getD (z.rule.offsetAtClock t year)

/-! ## Zones as text -/

/-- The integers between the blanks of a text. -/
def integers (s : Text) : List Int :=
  (Text.splitOn ' ' s).filterMap fun word => (Text.readInteger word).toOption

/-- Neighbours in pairs. -/
def pairUp : List Int → List (Int × Int)
  | a :: b :: rest => (a, b) :: pairUp rest
  | _ => []

/-- The rule that a list of integers stands for: an offset; or standard time, summer time and the two
moments, each as month, week, weekday and seconds. -/
def ruleOf : List Int → ZoneRule
  | [standard, summer, m, w, d, t, m', w', d', t'] =>
    .seasonal standard summer ⟨m.toNat, w.toNat, d.toNat, t⟩ ⟨m'.toNat, w'.toNat, d'.toNat, t'⟩
  | offset :: _ => .fixed offset
  | [] => .fixed 0

/-- The zone that a text stands for.  The text has three parts between bars: the first offset; the
changes, instant and offset in turn; and the rule. -/
def ofText (s : Text) : Zone :=
  match Text.splitOn '|' s with
  | [first, changes, rule] =>
    ⟨(integers first).headD 0, pairUp (integers changes), ruleOf (integers rule)⟩
  | _ => ⟨0, [], .fixed 0⟩

end Zone

end Recurrence
