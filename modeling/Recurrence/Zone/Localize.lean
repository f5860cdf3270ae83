import Recurrence.Zone.Find

/-!
# Date-times in a zone

A local date-time put into a zone keeps its reading of the clock and gets the offset that the zone
has there.  A date-time with an offset is the same instant on the clock of the zone; this fails if
the offset is not usable, or if the instant, in universal time or on the zone's clock, lies outside
the calendar.
-/

namespace Recurrence

/-- Seconds since 1970-01-01T00:00:00 by the clock of a date-time. -/
def DateTime.secondsSinceEpoch (t : DateTime) : Int :=
  t.clockSeconds - (DateTime.ofDate .epoch).clockSeconds

namespace Zone

/-- A local date-time with the offset of the zone. -/
def place (z : Zone) (t : DateTime) : DateTime :=
  { t with offset := some ⟨z.offsetAtClock t.secondsSinceEpoch t.date.year⟩ }

/-- The instant of a date-time with an offset, by the clock of the zone. -/
def convert (z : Zone) (t : DateTime) (offset : UtcOffset) : Except Error DateTime :=
  if !offset.isUsable then .error .unusableOffset
  else
    match DateTime.ofClock? (t.clockSeconds - offset.seconds) t.time.microsecond (some .zero) with
    | none => .error .outsideCalendar
    | some universal =>
      let o := z.offsetAtInstant universal.secondsSinceEpoch universal.date.year
      match DateTime.ofClock? (universal.clockSeconds + o) t.time.microsecond (some ⟨o⟩) with
      | none => .error .outsideCalendar
      | some local' => .ok local'

/-- A date-time expressed in the zone. -/
def localize (z : Zone) (t : DateTime) : Except Error DateTime :=
  match t.offset with
  | none => .ok (z.place t)
  | some offset => z.convert t offset

end Zone

end Recurrence
