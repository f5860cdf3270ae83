import Recurrence.Error

/-!
# Expressions and their evaluation

An **expression** joins matchers by "and" and "or".  Evaluation goes from left to right and stops as
soon as the answer is known, so a part behind the deciding one is never looked at, whatever it is.

A matcher becomes an expression by being wrapped as a `leaf`.  A matcher that was not wrapped can
still end up inside an expression: it is kept as `bare`, and to evaluate it is an error.

`Expression.allOf` and `Expression.anyOf` join any positive number of parts, wrapping the bare
matchers among them.
-/

namespace Recurrence

/-- A combination of matchers. -/
inductive Expression
  /-- A matcher. -/
  | leaf (matcher : Matcher)
  /-- Both parts match. -/
  | and (left right : Expression)
  /-- At least one part matches. -/
  | or (left right : Expression)
  /-- A matcher that was not made an expression. -/
  | bare (matcher : Matcher)
deriving DecidableEq

/-! ## Order and distance of stamps -/

/-- Whole units from one date to another. -/
def TimeUnit.distance (u : TimeUnit) (anchor d : Date) : Except Error Int :=
  match u.between? anchor d with
  | some n => .ok n
  | none => .error .outsideCalendar

namespace Stamp

/-- The two stamps in order: the sign of the first less the second. -/
def compare (a b : Stamp) : Except Error Ordering :=
  match a, b with
  | .date d, .date e => .ok (Ord.compare d.dayNumber e.dayNumber)
  | .dateTime t, .dateTime u =>
    if t.offset.isSome != u.offset.isSome then .error .localAgainstOffset
    else if t.offset == u.offset || (t.hasUsableOffset && u.hasUsableOffset) then
      .ok (Ord.compare t.instant u.instant)
    else .error .unusableOffset
  | _, _ => .error .dateAgainstDateTime

/-- Whole units from `anchor` to a stamp.  A date-time counts days and weeks from a date-time only.
For months and years it stands for the instant of the first of its month or year with its time of
day, and whole units toward it are counted: before the anchor's unit, a time of day past midnight
takes one unit off the distance. -/
def unitsFrom (u : TimeUnit) (anchor : Date) : Stamp → Except Error Int
  | .date d => u.distance anchor d
  | .dateTime t =>
    match u with
    | .day | .week => .error .dateTimeMinusDate
    | .month | .year =>
      if t.offset.isSome then .error .localAgainstOffset
      else
        (u.distance anchor t.date).map fun n =>
          if n < 0 && t.time != .midnight then n + 1 else n

end Stamp

/-! ## Matchers -/

/-- The interval of `n` units; an `n` that is not positive is refused. -/
def Interval.ofInt (n : Int) : Except Error Interval :=
  match ofInt? n with
  | some interval => .ok interval
  | none => .error (.intervalNotPositive n)

theorem Interval.ofInt_eq_ok {n : Int} {k : Interval} : ofInt n = .ok k ↔ (k.count : Int) = n := by
  have hone := k.one_le
  unfold ofInt ofInt?
  by_cases h : 1 ≤ n
  · rw [dif_pos h]
    constructor
    · intro hk
      cases hk
      exact Int.toNat_of_nonneg (by omega)
    · rintro rfl
      rfl
  · rw [dif_neg h]
    constructor
    · intro hk
      cases hk
    · intro hk
      omega

theorem Interval.ofInt_eq_error {n : Int} {err : Error} :
    ofInt n = .error err ↔ n < 1 ∧ err = .intervalNotPositive n := by
  unfold ofInt ofInt?
  by_cases h : 1 ≤ n
  · rw [dif_pos h]
    simp [Int.not_lt.mpr h]
  · rw [dif_neg h]
    simp [Int.not_le.mp h, eq_comm]

/-- Where an ordinal leads to in the month of a date.  A positive one leads from the first of the
month to the first date on the weekday and on from there, a week for each further one; a negative
one leads back in the same way from the last of the month.  That may be out of the month; it is
`none` out of the calendar. -/
def Date.nthWeekday? (d : Date) (weekday : Nat) (ordinal : Int) : Option Date :=
  let weeks : Int := ordinal.natAbs - 1
  if 0 < ordinal then do
    let origin ← fit? d.year d.month 1
    origin.addDays? (7 * weeks + (7 - origin.weekday + weekday : Int) % 7)
  else do
    let origin ← fit? d.year d.month 31
    origin.addDays? (-(7 * weeks + (origin.weekday - weekday : Int) % 7))

/-- The date is the `ordinal`-th of its weekday in its month, counted from the month's end if
`ordinal` is negative. -/
def Date.isNthOfMonth (d : Date) (ordinal : Int) : Bool :=
  ordinal != 0 && d.nthWeekday? d.weekday ordinal == some d

/-- The matcher matches the day. -/
def Matcher.includes (m : Matcher) (day : Stamp) : Except Error Bool :=
  let d := day.civilDate
  match m with
  | .after boundary => (day.compare boundary).map (· == .gt)
  | .before boundary => (day.compare boundary).map (· != .gt)
  | .everyNUnits anchor interval unit =>
    (day.unitsFrom unit anchor).map fun n => n % (interval.count : Int) == 0
  | .dayInterval anchor interval =>
    (day.unitsFrom .day anchor).map fun n => n % (interval.count : Int) == 0
  | .weekday number => .ok ((d.weekday : Int) == number)
  | .ordinalWeekday ordinal number => .ok ((d.weekday : Int) == number && d.isNthOfMonth ordinal)
  | .dayOfMonth n =>
    .ok (if n < 0 then (d.monthLength : Int) + n + 1 == d.day else (d.day : Int) == n)
  | .dayOfMonthRange first last => .ok (first ≤ d.day && (d.day : Int) ≤ last)
  | .month number => .ok ((d.month : Int) == number)

/-! ## Expressions -/

namespace Expression

/-- The expression matches the day. -/
def evaluate : Expression → Stamp → Except Error Bool
  | .leaf m, day => m.includes day
  | .and left right, day =>
    match evaluate left day with
    | .ok true => evaluate right day
    | answer => answer
  | .or left right, day =>
    match evaluate left day with
    | .ok false => evaluate right day
    | answer => answer
  | .bare m, _ => .error (.notAnExpression m)

/-- A part of a combination: a bare matcher becomes a leaf. -/
def wrap : Expression → Expression
  | .bare m => .leaf m
  | e => e

/-- Two parts joined. -/
def join : Connective → Expression → Expression → Expression
  | .and => .and
  | .or => .or

/-- All parts joined, from the left. -/
def combine (c : Connective) : List Expression → Except Error Expression
  | [] => .error (.emptyCombination c)
  | e :: rest => .ok (rest.foldl (fun left right => join c left right.wrap) e.wrap)

/-- The expression that matches where every part does. -/
def allOf (parts : List Expression) : Except Error Expression :=
  combine .and parts

/-- The expression that matches where some part does. -/
def anyOf (parts : List Expression) : Except Error Expression :=
  combine .or parts

end Expression

end Recurrence
