import Recurrence.Text.Upper
import Recurrence.Value

/-!
# Rule keys

The parts of a rule are named by keys.  A rule may carry any key, but only seven have a meaning here.
A key is looked up by its **canonical form**: blanks stripped from both ends, then in upper case.
-/

namespace Recurrence

/-- The keys with a meaning. -/
inductive RuleKey
  /-- How often the series recurs. -/
  | freq
  /-- Every how many units it recurs. -/
  | interval
  /-- On which weekdays. -/
  | byDay
  /-- In which months. -/
  | byMonth
  /-- On which days of the month. -/
  | byMonthDay
  /-- The last possible date. -/
  | until
  /-- The number of occurrences. -/
  | count
deriving DecidableEq, Repr

/-- The name of a key, in canonical form. -/
def RuleKey.name : RuleKey → Text
  | .freq => ['F', 'R', 'E', 'Q']
  | .interval => ['I', 'N', 'T', 'E', 'R', 'V', 'A', 'L']
  | .byDay => ['B', 'Y', 'D', 'A', 'Y']
  | .byMonth => ['B', 'Y', 'M', 'O', 'N', 'T', 'H']
  | .byMonthDay => ['B', 'Y', 'M', 'O', 'N', 'T', 'H', 'D', 'A', 'Y']
  | .until => ['U', 'N', 'T', 'I', 'L']
  | .count => ['C', 'O', 'U', 'N', 'T']

/-- All keys with a meaning. -/
def RuleKey.all : List RuleKey :=
  [.freq, .interval, .byDay, .byMonth, .byMonthDay, .until, .count]

/-- The key with a given name. -/
def RuleKey.ofName? (name : Text) : Option RuleKey :=
  RuleKey.all.find? fun k => k.name == name

/-- The canonical form of a key. -/
def canonicalKey (key : Text) : Text :=
  (Text.strip key).upper

/-- What a caller may name an entry by. -/
inductive KeyName
  /-- One of the keys with a meaning. -/
  | known (key : RuleKey)
  /-- Any datum; only a text names an entry. -/
  | given (value : Value)

/-- The canonical form of what a caller names; `none` if it can name no entry. -/
def KeyName.canonical? : KeyName → Option Text
  | .known key => some key.name
  | .given (.text s) => some (canonicalKey s)
  | .given _ => none

/-- The name as messages describe it. -/
def KeyName.describe : KeyName → Text
  | .known key => Text.quoted key.name
  | .given value => value.describe

end Recurrence
