import Recurrence.Calendar.Instant
import Recurrence.Error

/-!
# Fields of records

A record is made from data of any type, and each field says what it takes.

* A date-time field takes dates and date-times; texts in ISO format, with or without a time of day;
  and numbers, which are instants.
* A date field takes the same, but a time of day other than midnight is a fault.  A date-time handed
  over as such is not held to that: its time is dropped.
* A field of texts takes lists of texts.

What a field does not take gives a fault; a record reports the faults of all its fields.
-/

namespace Recurrence.Field

/-! ## Date-times and dates -/

/-- The date-time that a text spells: in ISO format, or as an instant. -/
def dateTimeOfText? (s : Text) : Option DateTime :=
  match DateTime.ofIso? s with
  | some t => some t
  | none => (InstantNumeral.ofText? s).bind DateTime.ofNumeral?

/-- The date that a text spells: in ISO format, or as the midnight that begins it. -/
def dateOfText? (s : Text) : Option Date :=
  match Date.ofIso? s with
  | some d => some d
  | none => (InstantNumeral.ofText? s).bind Date.ofNumeral?

/-- An instant that a number stands for. -/
def instant (t : Option DateTime) (fault : FieldFault) : Except FieldFault DateTime :=
  match t with
  | some t => .ok t
  | none => .error fault

/-- The date-time that a number stands for.  An integer too large for a floating-point number is not
taken for a number. -/
def dateTimeOfNumber (v : Value) (wrongType outOfRange : FieldFault) :
    Except FieldFault DateTime :=
  match v with
  | .int n =>
    match Binary64.ofInt n with
    | .finite .. => instant (DateTime.ofNumber? n 0) outOfRange
    | _ => .error wrongType
  | .float x => instant (DateTime.ofFloat? x) outOfRange
  | _ => .error wrongType

/-- A date-time field. -/
def dateTime (v : Value) : Except FieldFault DateTime :=
  match v with
  | .dateTime t => .ok t
  | .date d => .ok (.ofDate d)
  | .text s =>
    match dateTimeOfText? s with
    | some t => .ok t
    | none => instant ((dateOfText? s).map DateTime.ofDate) .unreadableDateTime
  | v => dateTimeOfNumber v .notDateTime .instantOutOfRange

/-- The date of a date-time at midnight. -/
def dateAtMidnight (t : DateTime) : Except FieldFault Date :=
  if t.time = .midnight then .ok t.date else .error .notMidnight

/-- A date field. -/
def date (v : Value) : Except FieldFault Date :=
  match v with
  | .dateTime t => .ok t.date
  | .date d => .ok d
  | .text s =>
    match dateOfText? s with
    | some d => .ok d
    | none => do dateAtMidnight (← instant (dateTimeOfText? s) .unreadableDate)
  | v => do dateAtMidnight (← dateTimeOfNumber v .notDate .unreadableDate)

/-! ## Lists of texts -/

/-- The texts of a list, and the positions of the members that are none. -/
def textsFrom : (position : Nat) → List Value → List Text × List Nat
  | _, [] => ([], [])
  | i, .text s :: rest => ((s :: (textsFrom (i + 1) rest).1), (textsFrom (i + 1) rest).2)
  | i, _ :: rest => ((textsFrom (i + 1) rest).1, i :: (textsFrom (i + 1) rest).2)

/-- A field of texts; an absent one is empty. -/
def texts (name : String) (v : Option Value) : Except (List InvalidField) (List Text) :=
  match v with
  | none => .ok []
  | some (.list xs) =>
    match textsFrom 0 xs with
    | (texts, []) => .ok texts
    | (_, positions) => .error (positions.map fun i => ⟨name, some i, .notText⟩)
  | some _ => .error [⟨name, none, .notList⟩]

/-! ## Whole records -/

/-- A required field, read by `read`. -/
def required {α : Type} (name : String) (read : Value → Except FieldFault α) (v : Option Value) :
    Except (List InvalidField) α :=
  match v with
  | none => .error [⟨name, none, .missing⟩]
  | some v => (read v).mapError fun fault => [⟨name, none, fault⟩]

/-- The faults of a field. -/
def faults {α : Type} : Except (List InvalidField) α → List InvalidField
  | .ok _ => []
  | .error fields => fields

end Recurrence.Field
