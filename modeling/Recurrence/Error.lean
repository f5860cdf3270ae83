import Recurrence.Expression.Matcher
import Recurrence.Rule.Key

/-!
# Errors and warnings

A failure is kept as its cause; its wording is a function of the cause.  The causes come in two
layers.

* `RuleError`: the input does not make a rule.  These are the failures that callers are told to
  expect, in three classes: a malformed rule, an unknown weekday, an unreadable date or zone.
* `Error`: everything that can stop an operation.  Besides rule errors these are values out of their
  domain, data of the wrong type, dates outside the calendar, and files that do not parse.

Some operations go on after replacing a value; they say so with a `Warning`.
-/

namespace Recurrence

/-! ## Rule errors -/

/-- The input does not make a rule. -/
inductive RuleError
  /-- A segment of a rule has no `=`. -/
  | missingEquals (segment rule : Text)
  /-- A segment of a rule has nothing but blanks before its first `=`. -/
  | emptyKey (segment rule : Text)
  /-- The frequency is none of the four. -/
  | unsupportedFrequency (value : Text)
  /-- A numeric part is not an integer. -/
  | notAnInteger (key : RuleKey) (value : Text)
  /-- A weekday token does not end in a weekday code. -/
  | unknownWeekdayToken (token : Text)
  /-- No weekday has this number. -/
  | unknownWeekdayNumber (number : Int)
  /-- A datum is not a timestamp that can be read. -/
  | unreadableTimestamp (value : Value)
  /-- No time zone has this name. -/
  | unknownZone (name : Text)

/-- The three classes of rule errors. -/
inductive RuleErrorClass
  /-- A rule text that cannot be interpreted. -/
  | malformedRule
  /-- A weekday that is none of the seven. -/
  | unknownWeekday
  /-- A date, timestamp or zone that cannot be interpreted. -/
  | invalidDate
deriving DecidableEq, Repr

/-- The class of a rule error. -/
def RuleError.errorClass : RuleError → RuleErrorClass
  | .missingEquals .. | .emptyKey .. | .unsupportedFrequency .. | .notAnInteger .. => .malformedRule
  | .unknownWeekdayToken .. | .unknownWeekdayNumber .. => .unknownWeekday
  | .unreadableTimestamp .. | .unknownZone .. => .invalidDate

/-- The wording of a rule error. -/
def RuleError.message : RuleError → Text
  | .missingEquals segment rule =>
    "Rule segment ".toList ++ Text.quoted segment ++ " in ".toList ++ Text.quoted rule
      ++ " has no '='".toList
  | .emptyKey segment rule =>
    "Rule segment ".toList ++ Text.quoted segment ++ " in ".toList ++ Text.quoted rule
      ++ " has an empty key".toList
  | .unsupportedFrequency value => "Unsupported FREQ value: ".toList ++ Text.quoted value
  | .notAnInteger key value =>
    key.name ++ " value ".toList ++ Text.quoted value ++ " is not an integer".toList
  | .unknownWeekdayToken token => "Unknown weekday in BYDAY token ".toList ++ Text.quoted token
  | .unknownWeekdayNumber number =>
    "No weekday code for weekday number ".toList ++ Text.ofInt number
  | .unreadableTimestamp value => "Unable to parse datetime: ".toList ++ value.describe
  | .unknownZone name => "Unknown timezone: ".toList ++ Text.quoted name

/-! ## Invalid fields -/

/-- What is wrong with a field of a record. -/
inductive FieldFault
  /-- A required field is absent. -/
  | missing
  /-- A list is required. -/
  | notList
  /-- A text is required. -/
  | notText
  /-- A date-time is required, and the type of the datum cannot become one. -/
  | notDateTime
  /-- The text is no date-time, nor a date. -/
  | unreadableDateTime
  /-- The number is no instant of the calendar. -/
  | instantOutOfRange
  /-- A date is required, and the type of the datum cannot become one. -/
  | notDate
  /-- The datum is no date, nor a date-time. -/
  | unreadableDate
  /-- The datum is a date-time that is not at midnight. -/
  | notMidnight
  /-- The record cannot be changed. -/
  | frozen
deriving DecidableEq, Repr

/-- A fault and the place where it is: the name of a field, perhaps with a position in its list. -/
structure InvalidField where
  /-- The name of the field. -/
  field : String
  /-- The position in the field's list. -/
  position : Option Nat
  /-- What is wrong there. -/
  fault : FieldFault
deriving DecidableEq, Repr

/-! ## Parts of dates -/

/-- A part of a date-time that is outside its range. -/
inductive DatePartFault
  /-- The year. -/
  | year (year : Nat)
  /-- The month. -/
  | month
  /-- The day, for its month. -/
  | day
  /-- The hour. -/
  | hour
  /-- The minute. -/
  | minute
  /-- The second. -/
  | second
  /-- The offset from universal time. -/
  | offset (seconds : Int)
deriving DecidableEq, Repr

/-- The wording of a fault in a part of a date-time. -/
def DatePartFault.message : DatePartFault → Text
  | .year n => "year ".toList ++ Text.ofNat n ++ " is out of range".toList
  | .month => "month must be in 1..12".toList
  | .day => "day is out of range for month".toList
  | .hour => "hour must be in 0..23".toList
  | .minute => "minute must be in 0..59".toList
  | .second => "second must be in 0..59".toList
  | .offset n =>
    "offset must be a timedelta strictly between -timedelta(hours=24) and timedelta(hours=24), ".toList
      ++ "not ".toList ++ Value.describeDuration n ++ ['.']

/-! ## Errors -/

/-- How an expression joins its two parts. -/
inductive Connective
  /-- Both parts match. -/
  | and
  /-- At least one part matches. -/
  | or
deriving DecidableEq, Repr

/-- The name of a connective. -/
def Connective.name : Connective → String
  | .and => "And"
  | .or => "Or"

/-- Why an operation stopped. -/
inductive Error
  /-- The input does not make a rule. -/
  | rule (error : RuleError)
  /-- An interval is not positive. -/
  | intervalNotPositive (interval : Int)
  /-- Nothing was given to combine. -/
  | emptyCombination (connective : Connective)
  /-- A numeral has too many digits. -/
  | tooManyDigits (count : Nat)
  /-- A limit is too large to count to. -/
  | limitTooLarge
  /-- An offset of a day or more was to be used. -/
  | unusableOffset
  /-- A pair was expected, and this many items given. -/
  | notAPair (count : Nat)
  /-- An integer has too many digits to be written. -/
  | integerTooLong
  /-- A log level that is no level but a text. -/
  | unknownLevel (name : Text)
  /-- A log level that is neither a level nor a text. -/
  | notALevel (description : Text)
  /-- The configuration is not a mapping. -/
  | configNotMapping
  /-- A text that was declared a number is none in this base. -/
  | notNumeral (base : Nat) (value : Text)
  /-- A text that was declared a number with a fraction is none. -/
  | notDecimal (value : Text)
  /-- No character has this number. -/
  | noSuchCharacter (number : Nat)
  /-- A declared date has a part outside its range. -/
  | invalidDatePart (fault : DatePartFault)
  /-- A date and a date-time were to be ordered. -/
  | dateAgainstDateTime
  /-- A local date-time and one with an offset were to be ordered. -/
  | localAgainstOffset
  /-- A date was to be subtracted from a date-time. -/
  | dateTimeMinusDate
  /-- A bare matcher stands where an expression is required. -/
  | notAnExpression (matcher : Matcher)
  /-- An event's start is neither date nor date-time. -/
  | startNotDate (typeName : String)
  /-- A datum that is no collection was to be gone through. -/
  | notIterable (typeName : String)
  /-- No entry has this name. -/
  | noSuchKey (description : Text)
  /-- A datum is not of the type whose operation was asked for. -/
  | noSuchOperation
  /-- A place that does not exist was asked for. -/
  | noSuchPosition
  /-- A date would lie outside the calendar. -/
  | outsideCalendar
  /-- An infinite number was to become an integer. -/
  | infiniteInteger
  /-- Fields of a record are invalid. -/
  | invalidFields (fields : List InvalidField)
  /-- A file is not well-formed JSON. -/
  | malformedJson
  /-- A file is not well-formed YAML. -/
  | malformedYaml
  /-- A directory was to be read as a file. -/
  | isDirectory
  /-- A file name is too long for any file. -/
  | nameTooLong

namespace Error

/-- The error is one that the callers of the rule operations are told to expect. -/
def isRuleError : Error → Bool
  | .rule _ => true
  | _ => false

/-- The wording of an error; the causes that are told apart by their kind alone have none. -/
def message : Error → Text
  | .rule error => error.message
  | .intervalNotPositive interval => "interval must be >= 1, got ".toList ++ Text.ofInt interval
  | .emptyCombination connective =>
    "Cannot combine an empty list of expressions with ".toList ++ connective.name.toList
  | .tooManyDigits count =>
    "Exceeds the limit (4300 digits) for integer string conversion: value has ".toList
      ++ Text.ofNat count
      ++ " digits; use sys.set_int_max_str_digits() to increase the limit".toList
  | .limitTooLarge =>
    "Stop argument for islice() must be None or an integer: 0 <= x <= sys.maxsize.".toList
  | .unusableOffset =>
    "offset must be a timedelta strictly between -timedelta(hours=24) and timedelta(hours=24).".toList
  | .notAPair count =>
    if count < 2 then
      "not enough values to unpack (expected 2, got ".toList ++ Text.ofNat count ++ [')']
    else "too many values to unpack (expected 2)".toList
  | .integerTooLong =>
    "Exceeds the limit (4300 digits) for integer string conversion; use ".toList
      ++ "sys.set_int_max_str_digits() to increase the limit".toList
  | .unknownLevel name => "Unknown level: ".toList ++ Text.quoted name
  | .notALevel description => "Level not an integer or a valid string: ".toList ++ description
  | .configNotMapping => "Config file must contain a mapping at top level".toList
  | .notNumeral base value =>
    "invalid literal for int() with base ".toList ++ Text.ofNat base ++ [':', ' ']
      ++ Text.quoted value
  | .notDecimal value => "could not convert string to float: ".toList ++ Text.quoted value
  | .noSuchCharacter _ => "chr() arg not in range(0x110000)".toList
  | .invalidDatePart fault => fault.message
  | .dateAgainstDateTime => "can't compare datetime.datetime to datetime.date".toList
  | .localAgainstOffset => "can't compare offset-naive and offset-aware datetimes".toList
  | .dateTimeMinusDate =>
    "unsupported operand type(s) for -: 'datetime.datetime' and 'datetime.date'".toList
  | .notAnExpression matcher => "Not an expression: ".toList ++ matcher.describe
  | .startNotDate typeName =>
    "Event start must be a date or datetime, got ".toList ++ typeName.toList
  | .notIterable typeName => ['\''] ++ typeName.toList ++ "' object is not iterable".toList
  | .noSuchKey description => description
  | .noSuchOperation | .noSuchPosition | .outsideCalendar | .infiniteInteger | .invalidFields _
  | .malformedJson | .malformedYaml | .isDirectory | .nameTooLong => []

end Error

/-! ## Texts of values -/

namespace Value

/-- The plain text of a value; an integer in it may have too many digits to be written. -/
def written (v : Value) : Except Error Text :=
  match v.text? with
  | some s => .ok s
  | none => .error .integerTooLong

theorem written_eq_ok {v : Value} {s : Text} : v.written = .ok s ↔ v.text? = some s := by
  unfold written
  cases v.text? <;> simp

theorem written_eq_error {v : Value} {err : Error} :
    v.written = .error err ↔ v.isWritable = false ∧ err = .integerTooLong := by
  unfold written text?
  cases v.isWritable <;> simp [eq_comm]

end Value

/-! ## Warnings -/

/-- A value was replaced, or a failure is about to be passed on. -/
inductive Warning
  /-- The interval of a rule is not positive; one is used. -/
  | intervalNotPositive (interval : Int)
  /-- The window of a configuration is not an integer; the default is used. -/
  | windowNotInteger (value : Value) (default : Int)
  /-- The window of a configuration is too short; the shortest is used. -/
  | windowTooShort (days : Int)
  /-- The window of a configuration is too long; the longest is used. -/
  | windowTooLong (days : Int)
  /-- The zone of a configuration is unknown; the default is used. -/
  | defaultZoneUnknown (name default : Text)
  /-- A configuration file holds something other than a mapping. -/
  | configNotMapping (path : Text) (value : Value)
  /-- The rules of an event do not load. -/
  | rulesNotLoaded (rules : Value) (error : RuleError)

/-- The wording of a warning. -/
def Warning.message : Warning → Text
  | .intervalNotPositive interval =>
    "INTERVAL=".toList ++ Text.ofInt interval ++ " is not positive; using 1".toList
  | .windowNotInteger value default =>
    "Config window_days=".toList ++ value.describe ++ " is not an int; using default ".toList
      ++ Text.ofInt default
  | .windowTooShort days =>
    "window_days ".toList ++ Text.ofInt days ++ " below minimum; coercing to 1".toList
  | .windowTooLong days =>
    "window_days ".toList ++ Text.ofInt days ++ " above maximum; coercing to 3660".toList
  | .defaultZoneUnknown name default =>
    "Config default_timezone=".toList ++ Text.quoted name ++ " is not a known zone; using ".toList
      ++ default
  | .configNotMapping path value =>
    "Config file ".toList ++ path ++ " parsed but top-level is not a mapping: ".toList
      ++ value.describe
  | .rulesNotLoaded rules error =>
    "Failed to load recurrence rules ".toList ++ rules.describe ++ [':', ' '] ++ error.message

end Recurrence
