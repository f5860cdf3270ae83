import Recurrence.DateRange
import Recurrence.Expression.Dates

/-!
# Occurrences of a series

The occurrences of a series in a range are the dates there that match its expression.  Three rules
come on top.

* A positive count limits the series, not the answer: the first `count` matches from the start on are
  counted, whatever range is asked about.
* The start belongs to the series even if it does not match.
* Excluded dates never occur, and are counted all the same.
-/

namespace Recurrence

/-- The dates of a range among the matches that count.  Without a positive count all dates of the
range are looked at, also those before the start. -/
def countedMatches (range : DateRange) (e : Expression) (start : Date) (count : Int) :
    Except Error (List Date) :=
  if count ≤ 0 then e.dates range.first range.last none
  else (e.dates start range.last (some count)).map fun dates => dates.filter range.holds

/-- An ascending list of dates with one more, if it does not have it. -/
def insertDate (d : Date) : List Date → List Date
  | [] => [d]
  | e :: rest =>
    if d < e then d :: e :: rest
    else if d = e then e :: rest
    else e :: insertDate d rest

theorem mem_insertDate {d e : Date} {dates : List Date} :
    e ∈ insertDate d dates ↔ e = d ∨ e ∈ dates := by
  induction dates with
  | nil => simp [insertDate]
  | cons first rest ih =>
    simp only [insertDate]
    split
    · simp
    · split
      · next h => simp [h]
      · simp only [List.mem_cons, ih]
        grind

/-- The occurrences in a range, in ascending order. -/
def occurrences (range : DateRange) (e : Expression) (start : Date) (count : Int)
    (excluded : List Date) : Except Error (List Date) := do
  let found ← countedMatches range e start count
  let found := if range.holds start then insertDate start found else found
  .ok (found.filter fun d => !excluded.contains d)

end Recurrence
