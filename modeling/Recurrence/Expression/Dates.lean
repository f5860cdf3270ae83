import Recurrence.Expression.Evaluate

/-!
# Selecting dates

The dates of a closed interval that satisfy a predicate, in order, up to a limit.  The interval is
walked day by day and the walk ends at the limit, so nothing behind the last selected date is asked
about.  A limit of zero or less selects nothing; a limit of `2 ^ 63` or more is refused.
-/

namespace Recurrence

/-- The number of days of a closed interval. -/
def daysFromTo (first last : Date) : Nat :=
  last.dayNumber + 1 - first.dayNumber

/-- The dates of a closed interval, in order. -/
def datesFromTo (first last : Date) : List Date :=
  (List.range' first.dayNumber (daysFromTo first last)).filterMap fun (n : Nat) => Date.ofDayNumber? n

theorem mem_datesFromTo {first last d : Date} : d ∈ datesFromTo first last ↔ first ≤ d ∧ d ≤ last := by
  simp only [datesFromTo, List.mem_filterMap, List.mem_range'_1, daysFromTo, Date.le_iff]
  constructor
  · rintro ⟨n, ⟨lower, upper⟩, h⟩
    have : d.dayNumber = n := Date.dayNumber_of_ofDayNumber? h
    omega
  · rintro ⟨lower, upper⟩
    exact ⟨d.dayNumber, ⟨lower, by omega⟩, Date.ofDayNumber?_dayNumber d⟩

/-- Walk `days` days from day number `n` on, and add those that satisfy the predicate to `found`,
latest first, until `limit` more are found. -/
def walkDays (p : Date → Except Error Bool) :
    (days n : Nat) → (limit : Option Nat) → (found : List Date) → Except Error (List Date)
  | 0, _, _, found => .ok found
  | _ + 1, _, some 0, found => .ok found
  | days + 1, n, limit, found =>
    match Date.ofDayNumber? n with
    | none => .ok found
    | some d =>
      match p d with
      | .error e => .error e
      | .ok true => walkDays p days (n + 1) (limit.map (· - 1)) (d :: found)
      | .ok false => walkDays p days (n + 1) limit found

/-- The least limit that is refused. -/
def limitBound : Int := Nat.pow 2 63

/-- The first `limit` dates of a closed interval that satisfy a predicate; all of them if there is
no limit. -/
def selectDates (p : Date → Except Error Bool) (first last : Date) (limit : Option Int) :
    Except Error (List Date) :=
  match limit with
  | none => (walkDays p (daysFromTo first last) first.dayNumber none []).map List.reverse
  | some n =>
    if n ≤ 0 then .ok []
    else if limitBound ≤ n then .error .limitTooLarge
    else (walkDays p (daysFromTo first last) first.dayNumber (some n.toNat) []).map List.reverse

/-- The first `limit` dates of a closed interval that satisfy an expression. -/
def Expression.dates (e : Expression) (first last : Date) (limit : Option Int) :
    Except Error (List Date) :=
  selectDates (fun d => e.evaluate (.date d)) first last limit

end Recurrence
