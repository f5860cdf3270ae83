import Recurrence.Field

/-!
# Events

An event has a start, recurrence rules and exception dates.  `EventData` are the fields as they come,
each any datum.  An `Event` is what they make if they are valid: a date-time and two lists of texts.
The texts are not read here, so a valid event may still carry rules that are malformed.
-/

namespace Recurrence

/-- The fields of an event, whatever they hold. -/
structure EventData where
  /-- The start of the first occurrence. -/
  start : Value
  /-- The rules. -/
  rules : Value
  /-- The timestamps of occurrences that are left out. -/
  exceptions : Value

/-- A valid event. -/
structure Event where
  /-- The start of the first occurrence. -/
  start : DateTime
  /-- The rules. -/
  rules : List Text
  /-- The timestamps of occurrences that are left out. -/
  exceptions : List Text

namespace Event

/-- The event that some fields make; an absent list is empty. -/
def ofFields (start rules exceptions : Option Value) : Except Error Event :=
  let start := Field.required "start" Field.dateTime start
  let rules := Field.texts "recurrence_rules" rules
  let exceptions := Field.texts "exception_dates" exceptions
  match start, rules, exceptions with
  | .ok start, .ok rules, .ok exceptions => .ok ⟨start, rules, exceptions⟩
  | start, rules, exceptions =>
    .error (.invalidFields
      (Field.faults start ++ Field.faults rules ++ Field.faults exceptions))

/-- The fields of a valid event. -/
def data (e : Event) : EventData :=
  ⟨.dateTime e.start, .list (e.rules.map .text), .list (e.exceptions.map .text)⟩

end Event

end Recurrence
