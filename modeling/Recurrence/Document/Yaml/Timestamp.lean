import Recurrence.Document.Yaml.Character

/-!
# Timestamps as they are written

A timestamp is a date, `YYYY-M-D`, and perhaps a time of day, `H:MM:SS` with a fraction and an offset,
behind a `T` or blanks.  Here its parts are told apart by their form; whether there is such a date
is another matter.
-/

namespace Recurrence.Yaml

/-- A decimal digit. -/
def isDigit (c : Char) : Bool :=
  '0' ≤ c && c ≤ '9'

/-- Exactly `count` digits at the front of a text, and the rest. -/
def takeDigits? (count : Nat) (s : Text) : Option (Text × Text) :=
  let digits := s.take count
  if digits.length = count && digits.all isDigit then some (digits, s.drop count) else none

/-- One or two digits at the front of a text, and the rest. -/
def takeOneOrTwo? (s : Text) : Option (Text × Text) :=
  match takeDigits? 2 s with
  | some found => some found
  | none => takeDigits? 1 s

/-- A given character, and the rest. -/
def takeChar? (c : Char) : Text → Option Text
  | d :: rest => if c = d then some rest else none
  | [] => none

/-- An offset from universal time, as it is written. -/
inductive WrittenOffset
  /-- Universal time. -/
  | universal
  /-- Hours and minutes behind a sign. -/
  | signed (negative : Bool) (hours minutes : Text)

/-- A time of day, as it is written. -/
structure WrittenTime where
  /-- The hour. -/
  hour : Text
  /-- The minute. -/
  minute : Text
  /-- The second. -/
  second : Text
  /-- The fraction of the second. -/
  fraction : Text
  /-- The offset. -/
  offset : Option WrittenOffset

/-- A date, perhaps with a time of day, as it is written. -/
structure WrittenTimestamp where
  /-- The year. -/
  year : Text
  /-- The month. -/
  month : Text
  /-- The day. -/
  day : Text
  /-- The time of day. -/
  time : Option WrittenTime

/-- The offset that a text is, behind blanks. -/
def writtenOffset? (s : Text) : Option (Option WrittenOffset) :=
  match s with
  | [] => some none
  | s =>
    match s.dropWhile isSpace with
    | ['Z'] => some (some .universal)
    | sign :: s =>
      if sign = '-' || sign = '+' then do
        let (hours, s) ← takeOneOrTwo? s
        match s with
        | [] => some (some (.signed (sign = '-') hours []))
        | s => do
          let s ← takeChar? ':' s
          let (minutes, s) ← takeDigits? 2 s
          if s.isEmpty then some (some (.signed (sign = '-') hours minutes)) else none
      else none
    | [] => none

/-- The time of day that a text is. -/
def writtenTime? (s : Text) : Option WrittenTime := do
  let (hour, s) ← takeOneOrTwo? s
  let s ← takeChar? ':' s
  let (minute, s) ← takeDigits? 2 s
  let s ← takeChar? ':' s
  let (second, s) ← takeDigits? 2 s
  let (fraction, s) :=
    match s with
    | '.' :: s => (s.takeWhile isDigit, s.dropWhile isDigit)
    | s => ([], s)
  let offset ← writtenOffset? s
  some ⟨hour, minute, second, fraction, offset⟩

/-- What stands between a date and a time of day is taken away: a letter, or blanks. -/
def dropTimeMark? : Text → Option Text
  | c :: rest =>
    if c = 'T' || c = 't' then some rest
    else if isSpace c then some (rest.dropWhile isSpace)
    else none
  | [] => none

/-- The timestamp that a text is. -/
def writtenTimestamp? (s : Text) : Option WrittenTimestamp := do
  let (year, s) ← takeDigits? 4 s
  let s ← takeChar? '-' s
  let (month, s) ← takeOneOrTwo? s
  let s ← takeChar? '-' s
  let (day, s) ← takeOneOrTwo? s
  match s with
  | [] => some ⟨year, month, day, none⟩
  | s =>
    let s ← dropTimeMark? s
    let time ← writtenTime? s
    some ⟨year, month, day, some time⟩

end Recurrence.Yaml
