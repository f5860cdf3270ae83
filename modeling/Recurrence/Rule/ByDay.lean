import Recurrence.Error
import Recurrence.Text.Integer

/-!
# Weekdays and weekday tokens

A **weekday token** is a two-letter weekday code, such as `TU`, or a code behind a signed ordinal,
such as `2TU` or `-1FR`.  Tokens are stripped and put in upper case before they are read.  A code
alone means every such weekday, an ordinal the weekday of that number in the month, from the end if
it is negative.
-/

namespace Recurrence

/-- The days of the week. -/
inductive Weekday
  /-- The first day of the week. -/
  | monday
  /-- The second day of the week. -/
  | tuesday
  /-- The third day of the week. -/
  | wednesday
  /-- The fourth day of the week. -/
  | thursday
  /-- The fifth day of the week. -/
  | friday
  /-- The sixth day of the week. -/
  | saturday
  /-- The last day of the week. -/
  | sunday
deriving DecidableEq, Repr

namespace Weekday

/-- All weekdays, from Monday on. -/
def all : List Weekday :=
  [.monday, .tuesday, .wednesday, .thursday, .friday, .saturday, .sunday]

/-- The number of a weekday: 0 is Monday, 6 is Sunday. -/
def number : Weekday → Nat
  | .monday => 0
  | .tuesday => 1
  | .wednesday => 2
  | .thursday => 3
  | .friday => 4
  | .saturday => 5
  | .sunday => 6

/-- The two-letter code of a weekday. -/
def code : Weekday → Text
  | .monday => ['M', 'O']
  | .tuesday => ['T', 'U']
  | .wednesday => ['W', 'E']
  | .thursday => ['T', 'H']
  | .friday => ['F', 'R']
  | .saturday => ['S', 'A']
  | .sunday => ['S', 'U']

/-- The English name of a weekday. -/
def name : Weekday → Text
  | .monday => "Monday".toList
  | .tuesday => "Tuesday".toList
  | .wednesday => "Wednesday".toList
  | .thursday => "Thursday".toList
  | .friday => "Friday".toList
  | .saturday => "Saturday".toList
  | .sunday => "Sunday".toList

/-- The weekday with a given code. -/
def ofCode? (code : Text) : Option Weekday :=
  all.find? fun w => w.code == code

/-- The code of the weekday with a given number. -/
def codeOfNumber (n : Int) : Except RuleError Text :=
  match all.find? fun w => (w.number : Int) == n with
  | some w => .ok w.code
  | none => .error (.unknownWeekdayNumber n)

end Weekday

/-- What a weekday token asks for. -/
inductive ByDay
  /-- Every such weekday. -/
  | every (weekday : Weekday)
  /-- The `ordinal`-th such weekday of the month. -/
  | nth (ordinal : Int) (weekday : Weekday)
deriving DecidableEq, Repr

namespace ByDay

/-- The weekday asked for. -/
def weekday : ByDay → Weekday
  | .every w => w
  | .nth _ w => w

/-- The code of the weekday asked for. -/
def code (day : ByDay) : Except RuleError Text :=
  Weekday.codeOfNumber day.weekday.number

/-- The matcher for what is asked for. -/
def matcher : ByDay → Matcher
  | .every w => .weekday w.number
  | .nth n w => .ordinalWeekday n w.number

/-- An optional sign and the decimal digits after it at the front of a text, and the rest; `none` if
no digit follows. -/
def takeOrdinal? (s : Text) : Option (Bool × List Nat × Text) :=
  let (negative, body) := Text.takeSign s
  let digits := (body.takeWhile Text.isDecimal).filterMap Text.digitValue?
  if digits.isEmpty then none else some (negative, digits, body.dropWhile Text.isDecimal)

/-- A text as one line: without the line break at its end, if there is one; `none` if a line break
comes before. -/
def line? (s : Text) : Option Text :=
  match s.dropWhile (· != '\n') with
  | [] | ['\n'] => some (s.takeWhile (· != '\n'))
  | _ => none

/-- The weekday whose code is all that a line holds. -/
def weekdayOfLine? (s : Text) : Option Weekday :=
  (line? s).bind Weekday.ofCode?

/-- Read a weekday token. -/
def parse (token : Text) : Except Error ByDay :=
  let s := (Text.strip token).upper
  match takeOrdinal? s with
  | none =>
    match weekdayOfLine? s with
    | some w => .ok (.every w)
    | none => .error (.rule (.unknownWeekdayToken token))
  | some (negative, digits, rest) =>
    match weekdayOfLine? rest with
    | none => .error (.rule (.unknownWeekdayToken token))
    | some w =>
      if Text.digitLimit < digits.length then .error (.tooManyDigits digits.length)
      else
        let n : Int := Text.ofDigits digits
        .ok (.nth (if negative then -n else n) w)

end ByDay

end Recurrence
