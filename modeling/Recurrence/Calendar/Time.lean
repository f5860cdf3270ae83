import Recurrence.Calendar.Date

/-!
# Times of day, offsets and date-times

A `DateTime` is a date with a time of day, in microseconds, and perhaps an offset from universal
time.  Without an offset it is local: it is read as the clock of whatever place it is used for.

A written offset may be of any size.  One of 24 hours or more is kept as written and does no harm
until the offset is used: shown, compared or converted.
-/

namespace Recurrence

/-- A time of day. -/
structure TimeOfDay where
  /-- The hour, 0 to 23. -/
  hour : Fin 24
  /-- The minute, 0 to 59. -/
  minute : Fin 60
  /-- The second, 0 to 59. -/
  second : Fin 60
  /-- The microsecond, 0 to 999999. -/
  microsecond : Fin 1000000
deriving DecidableEq

namespace TimeOfDay

/-- 00:00:00. -/
def midnight : TimeOfDay := ⟨0, 0, 0, 0⟩

/-- The time with these parts, if each is in its range. -/
def ofParts? (hour minute second microsecond : Nat) : Option TimeOfDay :=
  if h : hour < 24 ∧ minute < 60 ∧ second < 60 ∧ microsecond < 1000000 then
    some ⟨⟨hour, h.1⟩, ⟨minute, h.2.1⟩, ⟨second, h.2.2.1⟩, ⟨microsecond, h.2.2.2⟩⟩
  else none

/-- The seconds since midnight. -/
def seconds (t : TimeOfDay) : Nat :=
  3600 * t.hour.val + 60 * t.minute.val + t.second.val

/-- The time a number of seconds after midnight, within the day. -/
def ofSeconds (seconds : Nat) (microsecond : Fin 1000000) : TimeOfDay :=
  ⟨⟨seconds / 3600 % 24, Nat.mod_lt _ (by decide)⟩, ⟨seconds / 60 % 60, Nat.mod_lt _ (by decide)⟩,
    ⟨seconds % 60, Nat.mod_lt _ (by decide)⟩, microsecond⟩

/-- `HH:MM:SS`, and six digits after a point unless the microseconds are zero. -/
def toText (t : TimeOfDay) : Text :=
  Text.padded 2 t.hour ++ [':'] ++ Text.padded 2 t.minute ++ [':'] ++ Text.padded 2 t.second
    ++ (if t.microsecond.val = 0 then [] else '.' :: Text.padded 6 t.microsecond)

end TimeOfDay

/-- An offset from universal time. -/
structure UtcOffset where
  /-- Seconds ahead of universal time; negative behind it. -/
  seconds : Int
deriving DecidableEq

namespace UtcOffset

/-- Universal time itself. -/
def zero : UtcOffset := ⟨0⟩

/-- The offset is shorter than a day and can be used. -/
def isUsable (o : UtcOffset) : Bool :=
  o.seconds.natAbs < 86400

/-- `+HH:MM`, with `:SS` unless the seconds are zero. -/
def toText (o : UtcOffset) : Text :=
  let n := o.seconds.natAbs
  (if o.seconds < 0 then ['-'] else ['+']) ++ Text.padded 2 (n / 3600) ++ [':']
    ++ Text.padded 2 (n / 60 % 60) ++ (if n % 60 = 0 then [] else ':' :: Text.padded 2 (n % 60))

end UtcOffset

/-- A date with a time of day and perhaps an offset. -/
structure DateTime where
  /-- The date, by the clock of the offset. -/
  date : Date
  /-- The time of day, by the clock of the offset. -/
  time : TimeOfDay
  /-- The offset; `none` for a local date-time. -/
  offset : Option UtcOffset
deriving DecidableEq

namespace DateTime

/-- Midnight of a date, local. -/
def ofDate (d : Date) : DateTime := ⟨d, .midnight, none⟩

/-- The offset of the date-time, if it has one, can be used. -/
def hasUsableOffset (t : DateTime) : Bool :=
  match t.offset with
  | none => true
  | some o => o.isUsable

/-- The seconds since 0000-12-31T00:00:00 by the clock of the date-time. -/
def clockSeconds (t : DateTime) : Int :=
  86400 * (t.date.dayNumber : Int) + t.time.seconds

/-- The date-time at a reading of the clock, in seconds as `clockSeconds` counts them. -/
def ofClock? (seconds : Int) (microsecond : Fin 1000000) (offset : Option UtcOffset) :
    Option DateTime :=
  (Date.ofDayNumber? (seconds.fdiv 86400)).map fun date =>
    ⟨date, .ofSeconds (seconds.fmod 86400).toNat microsecond, offset⟩

/-- The microseconds since 0000-12-31T00:00:00, of universal time if there is an offset and of the
local clock otherwise. -/
def instant (t : DateTime) : Int :=
  1000000 * (t.clockSeconds - (t.offset.map UtcOffset.seconds).getD 0) + t.time.microsecond.val

/-- `YYYY-MM-DDTHH:MM:SS`, with microseconds and offset where there are any; `none` if the offset is
not usable. -/
def toText? (t : DateTime) : Option Text :=
  if t.hasUsableOffset then
    some (t.date.toText ++ ['T'] ++ t.time.toText ++ (t.offset.map UtcOffset.toText).getD [])
  else none

end DateTime

/-- A date, or a date with a time of day, where the calendar can do with either. -/
inductive Stamp
  /-- A date alone. -/
  | date (d : Date)
  /-- A date with a time of day. -/
  | dateTime (t : DateTime)
deriving DecidableEq

namespace Stamp

/-- The calendar date, whatever the time and the offset. -/
def civilDate : Stamp → Date
  | .date d => d
  | .dateTime t => t.date

/-- The date-time, a date alone being taken at midnight. -/
def atMidnight : Stamp → DateTime
  | .date d => .ofDate d
  | .dateTime t => t

end Stamp

end Recurrence
