import Recurrence.Expression.Evaluate
import Recurrence.Outcome
import Recurrence.Rule.ByDay
import Recurrence.Rule.Table

/-!
# Frequency, interval and count

The three parts of a rule that are a word or a number.  An absent interval is one unit, and so, with
a warning, is one that is not positive.  An absent count is zero, which means that the number of
occurrences is not limited.
-/

namespace Recurrence

/-- How often a series recurs. -/
inductive Frequency
  /-- By days. -/
  | daily
  /-- By weeks. -/
  | weekly
  /-- By months. -/
  | monthly
  /-- By years. -/
  | yearly
deriving DecidableEq, Repr

namespace Frequency

/-- All frequencies. -/
def all : List Frequency := [.daily, .weekly, .monthly, .yearly]

/-- The word for a frequency in a rule. -/
def name : Frequency → Text
  | .daily => ['D', 'A', 'I', 'L', 'Y']
  | .weekly => ['W', 'E', 'E', 'K', 'L', 'Y']
  | .monthly => ['M', 'O', 'N', 'T', 'H', 'L', 'Y']
  | .yearly => ['Y', 'E', 'A', 'R', 'L', 'Y']

/-- The unit that a frequency counts. -/
def unit : Frequency → TimeUnit
  | .daily => .day
  | .weekly => .week
  | .monthly => .month
  | .yearly => .year

/-- The frequency that a text names, whatever its case and the blanks around it. -/
def parse (value : Text) : Except RuleError Frequency :=
  match all.find? fun f => f.name == (Text.strip value).upper with
  | some f => .ok f
  | none => .error (.unsupportedFrequency value)

end Frequency

/-- The integer that a text gives for a key. -/
def parseNumber (key : RuleKey) (value : Text) : Except RuleError Int :=
  match Text.readInteger (Text.strip value) with
  | .ok n => .ok n
  | .error _ => .error (.notAnInteger key value)

namespace RuleTable

/-- The frequency, if the table has one. -/
def frequency (t : RuleTable) : Except RuleError (Option Frequency) :=
  match t.scalar? .freq with
  | none => .ok none
  | some value => (Frequency.parse value).map some

/-- The number of units in the interval: one if it is absent or, with a warning, not positive. -/
def unitCount (t : RuleTable) : Outcome Int :=
  match t.scalar? .interval with
  | none => .ok 1
  | some value => do
    let n ← parseNumber .interval value
    if n < 1 then do
      Outcome.warn (.intervalNotPositive n)
      pure 1
    else pure n

/-- The interval. -/
def interval (t : RuleTable) : Outcome Interval := do
  let n ← t.unitCount
  Interval.ofInt n

/-- The number of occurrences; zero if it is absent. -/
def count (t : RuleTable) : Except RuleError Int :=
  match t.scalar? .count with
  | none => .ok 0
  | some value => parseNumber .count value

end RuleTable

end Recurrence
