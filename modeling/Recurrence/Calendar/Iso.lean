import Recurrence.Calendar.Time
import Recurrence.Text.Integer

/-!
# Reading ISO 8601 dates and date-times

The extended format with full precision: `YYYY-MM-DD`, and for a date-time a separator, `HH:MM`, and
optionally `:SS`, a fraction of a second, and an offset `Z`, `+HH:MM` or `+HHMM` of less than a day.
All digits are ASCII digits.  A fraction may follow a point or a comma; digits after the sixth are
dropped.
-/

namespace Recurrence

/-- Exactly `count` ASCII digits, as a number, and the rest. -/
def takeDigits? (count : Nat) (s : Text) : Option (Nat × Text) :=
  let ds := s.take count
  if ds.length = count && ds.all Text.isAsciiDigit then
    (Text.readDigits? ds).map fun n => (n, s.drop count)
  else none

/-- One given character, and the rest. -/
def takeChar? (c : Char) : Text → Option Text
  | d :: rest => if d = c then some rest else none
  | [] => none

/-- A date `YYYY-MM-DD` at the front of a text, and the rest. -/
def takeIsoDate? (s : Text) : Option (Date × Text) := do
  let (year, s) ← takeDigits? 4 s
  let s ← takeChar? '-' s
  let (month, s) ← takeDigits? 2 s
  let s ← takeChar? '-' s
  let (day, s) ← takeDigits? 2 s
  let d ← Date.ofCivil? year month day
  some (d, s)

/-- A fraction of a second at the front of a text, in microseconds, and the rest. -/
def takeFraction? (s : Text) : Option (Nat × Text) := do
  let ds := s.takeWhile Text.isAsciiDigit
  let n ← Text.readDigits? ((ds ++ List.replicate 6 '0').take 6)
  if ds.isEmpty then none else some (n, s.dropWhile Text.isAsciiDigit)

/-- A time of day at the front of a text, and the rest. -/
def takeIsoTime? (s : Text) : Option (TimeOfDay × Text) := do
  let (hour, s) ← takeDigits? 2 s
  let s ← takeChar? ':' s
  let (minute, s) ← takeDigits? 2 s
  match takeChar? ':' s with
  | none =>
    let t ← TimeOfDay.ofParts? hour minute 0 0
    some (t, s)
  | some s =>
    let (second, s) ← takeDigits? 2 s
    let (micro, s) ←
      match s with
      | '.' :: rest => takeFraction? rest
      | ',' :: rest => takeFraction? rest
      | _ => some (0, s)
    let t ← TimeOfDay.ofParts? hour minute second micro
    some (t, s)

/-- An offset that makes up the whole text; the empty text is no offset. -/
def readIsoOffset? : Text → Option (Option UtcOffset)
  | [] => some none
  | ['Z'] => some (some .zero)
  | ['z'] => some (some .zero)
  | sign :: s => do
    let (hours, s) ← takeDigits? 2 s
    let (minutes, s) ← takeDigits? 2 ((takeChar? ':' s).getD s)
    let total : Int := 3600 * hours + 60 * minutes
    if !s.isEmpty || 60 ≤ minutes || 86400 ≤ total then none
    else if sign = '+' then some (some ⟨total⟩)
    else if sign = '-' || sign = '−' then some (some ⟨-total⟩)
    else none

/-- The date that a text spells as `YYYY-MM-DD`. -/
def Date.ofIso? (s : Text) : Option Date :=
  match takeIsoDate? s with
  | some (d, []) => some d
  | _ => none

/-- The date-time that a text spells.  Between date and time stands `T`, `t`, a blank or `_`. -/
def DateTime.ofIso? (s : Text) : Option DateTime := do
  let (date, s) ← takeIsoDate? s
  match s with
  | sep :: s =>
    if sep = 'T' || sep = 't' || sep = ' ' || sep = '_' then
      let (time, s) ← takeIsoTime? s
      let offset ← readIsoOffset? s
      some ⟨date, time, offset⟩
    else none
  | [] => none

/-- The stamp that a text spells: a date-time if it has a `T`, otherwise a date. -/
def Stamp.ofIso? (s : Text) : Option Stamp :=
  if s.contains 'T' then (DateTime.ofIso? s).map .dateTime else (Date.ofIso? s).map .date

end Recurrence
