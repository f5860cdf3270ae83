import Recurrence.Event
import Recurrence.Occurrences
import Recurrence.Phrase
import Recurrence.Rule.Expression

/-!
# The series of an event

A `Series` is all that is derived from one reading of an event: the start, the rule table, its
expression, the count and the exception dates.  Every question is answered from it.

A `TrackedEvent` is an event together with the series last read from it.  The event's fields may be
given new values at any time; that has no effect until the event is read again.  A reading that fails
leaves the series as it was.
-/

namespace Recurrence

/-- What is derived from one reading of an event. -/
structure Series where
  /-- The start of the first occurrence. -/
  start : DateTime
  /-- The rules. -/
  rules : RuleTable
  /-- The dates on which the series may recur. -/
  expression : Expression
  /-- The number of occurrences; not limited if it is not positive. -/
  count : Int
  /-- The occurrences that are left out. -/
  exceptions : List DateTime

/-! ## Reading the fields -/

/-- The members of a datum that can be gone through: the characters of a text, the keys of a mapping,
the members of any other collection. -/
def Value.members? : Value → Option (List Value)
  | .text s => some (s.map fun c => .text [c])
  | .list xs | .set xs | .tuple xs => some xs
  | .map entries => some (entries.map Prod.fst)
  | .bytes octets => some (octets.map fun (n : Nat) => .int n)
  | _ => none

namespace EventData

/-- The members of a field; a field that is not given has none. -/
def members (v : Value) : Except Error (List Value) :=
  if !v.isGiven then .ok []
  else
    match v.members? with
    | some xs => .ok xs
    | none => .error (.notIterable v.typeName)

/-- The start as a date-time; a date starts at midnight. -/
def startTime (e : EventData) : Except Error DateTime :=
  match e.start with
  | .dateTime t => .ok t
  | .date d => .ok (.ofDate d)
  | v => .error (.startNotDate v.typeName)

/-- The keys and values of a member of the rules, which must be a text. -/
def readRule : Value → Except Error (List (Text × RuleValue))
  | .text s => (RuleTable.readRule s).mapError .rule
  | _ => .error .noSuchOperation

/-- The table of the rules. -/
def ruleTable (e : EventData) : Except Error RuleTable := do
  let rules ← members e.rules
  let pairs ← rules.mapM readRule
  .ok (RuleTable.ofPairs pairs.flatten)

/-- The exception dates. -/
def exceptionTimes (e : EventData) (today : Date) : Except Error (List DateTime) := do
  let timestamps ← members e.exceptions
  timestamps.mapM fun v => (Timestamp.parse today v).mapError Error.rule

/-- The series, read without a word about failure. -/
def read (e : EventData) (today : Date) : Outcome Series := do
  let start ← e.startTime
  let rules ← e.ruleTable
  let exceptions ← e.exceptionTimes today
  let expression ← rules.expression today start.date
  let count ← rules.count
  pure ⟨start, rules, expression, count, exceptions⟩

/-- A failed reading with a warning added if it was a rule error. -/
def withWarning (e : EventData) (x : Outcome Series) : Outcome Series :=
  match x.result with
  | .error (.rule error) => ⟨x.result, x.warnings ++ [.rulesNotLoaded e.rules error]⟩
  | _ => x

/-- The series of the event, when it is read on a certain day. -/
def series (e : EventData) (today : Date) : Outcome Series :=
  e.withWarning (e.read today)

end EventData

/-! ## Questions -/

namespace Series

/-- The dates that are left out. -/
def excluded (s : Series) : List Date :=
  s.exceptions.map DateTime.date

/-- The occurrences in a range. -/
def dates (s : Series) (range : DateRange) : Except Error (List Date) :=
  occurrences range s.expression s.start.date s.count s.excluded

/-- The canonical rule. -/
def serialize (s : Series) : Text :=
  s.rules.serialize

/-- The frequency, if the rules have one. -/
def frequency (s : Series) : Except RuleError (Option Frequency) :=
  s.rules.frequency

/-- The interval. -/
def interval (s : Series) : Outcome Interval :=
  s.rules.interval

/-- The parts of the expression. -/
def parts (s : Series) (today : Date) : Outcome (List Expression) :=
  s.rules.parts today s.start.date

/-- The rules in words. -/
def phraseIn (s : Series) (today : Date) (zone : Text) : Outcome Text :=
  s.rules.phraseIn today zone

/-- The exception dates in ISO format. -/
def exceptionTexts (s : Series) : Except Error (List Text) :=
  s.exceptions.mapM fun t =>
    match t.toText? with
    | some text => .ok text
    | none => .error .unusableOffset

/-- The description of a series: its canonical rule. -/
def describe (s : Series) : Text :=
  "RRuleParser(".toList ++ Text.quoted s.serialize ++ [')']

end Series

/-! ## Tracking an event -/

/-- A field of an event. -/
inductive EventField
  /-- The start. -/
  | start
  /-- The rules. -/
  | rules
  /-- The exception dates. -/
  | exceptions
deriving DecidableEq, Repr

/-- The event after a field is given a new value. -/
def EventData.assign (e : EventData) (field : EventField) (v : Value) : EventData :=
  match field with
  | .start => { e with start := v }
  | .rules => { e with rules := v }
  | .exceptions => { e with exceptions := v }

/-- An event with the series last read from it. -/
structure TrackedEvent where
  /-- The fields as they are now. -/
  event : EventData
  /-- The series as it was read last. -/
  series : Series

namespace TrackedEvent

/-- An event read for the first time. -/
def ofEvent (e : EventData) (today : Date) : Outcome TrackedEvent := do
  let series ← e.series today
  pure ⟨e, series⟩

/-- A field is given a new value. -/
def assign (x : TrackedEvent) (field : EventField) (v : Value) : TrackedEvent :=
  { x with event := x.event.assign field v }

/-- The event is read again: what comes of it, and what is tracked from then on. -/
def reload (x : TrackedEvent) (today : Date) : Outcome Series × TrackedEvent :=
  let outcome := x.event.series today
  match outcome.result with
  | .ok series => (outcome, { x with series := series })
  | .error _ => (outcome, x)

end TrackedEvent

end Recurrence
