import Recurrence.Proofs.Outcome
import Recurrence.Zone.Localize

/-! # The date that the clock of a zone shows

A date-time without an offset shows its own date in any zone.  One with an offset is an
instant, and shows the date of what the clock of the zone reads at that instant
(`Zone.Shows`).  A date-time that is put into the zone has that date
(`Zone.shows_iff_of_localize`).  It cannot be put there if its offset is a day or more,
or if the instant lies outside the calendar, in universal time or by the clock of the
zone; in no other case (`Zone.localize_eq_error`).
-/
namespace Recurrence

/-! ## Readings of a clock -/

/-- The seconds are a reading of the clock on some date. -/
def IsOnCalendar (seconds : Int) : Prop :=
  86400 ≤ seconds ∧ seconds < 86400 * (lastDayNumber + 1)

/-- The seconds are a reading of the clock on the date: from its midnight to the next. -/
def Date.IsAt (d : Date) (seconds : Int) : Prop :=
  86400 * (d.dayNumber : Int) ≤ seconds ∧ seconds < 86400 * (d.dayNumber + 1)

theorem Date.IsAt.unique {d e : Date} {seconds : Int} (h : d.IsAt seconds) (h' : e.IsAt seconds) :
    d = e := by
  unfold IsAt at h h'
  exact Date.ext_dayNumber (by omega)

namespace DateTime
variable {seconds : Int} {microsecond : Fin 1000000} {offset : Option UtcOffset} {t : DateTime}

theorem ofClock?_eq_none : ofClock? seconds microsecond offset = none ↔ ¬IsOnCalendar seconds := by
  rw [ofClock?, Option.map_eq_none_iff, Date.ofDayNumber?,
    Int.fdiv_eq_ediv_of_nonneg _ (by decide), IsOnCalendar, dite_eq_right_iff]
  simp only [reduceCtorEq, imp_false]
  omega

/-- The date-time at a reading of the clock is on the date of the reading. -/
theorem isAt_of_ofClock? (h : ofClock? seconds microsecond offset = some t) :
    t.date.IsAt seconds := by
  obtain ⟨date, hdate, rfl⟩ := Option.map_eq_some_iff.mp h
  rw [Date.ofDayNumber?, Int.fdiv_eq_ediv_of_nonneg _ (by decide)] at hdate
  obtain ⟨hday, hdate⟩ := Option.dite_none_right_eq_some.mp hdate
  cases hdate
  show 86400 * ((seconds / 86400).toNat : Int) ≤ seconds ∧
    seconds < 86400 * ((seconds / 86400).toNat + 1)
  omega

/-- The clock of the date-time at a reading reads just this. -/
theorem clockSeconds_of_ofClock? (h : ofClock? seconds microsecond offset = some t) :
    t.clockSeconds = seconds := by
  have hday := isAt_of_ofClock? h
  obtain ⟨date, -, rfl⟩ := Option.map_eq_some_iff.mp h
  unfold Date.IsAt at hday
  show 86400 * (date.dayNumber : Int) +
    (TimeOfDay.ofSeconds (seconds.fmod 86400).toNat microsecond).seconds = seconds
  have hsecond : (TimeOfDay.ofSeconds (seconds.fmod 86400).toNat microsecond).seconds =
      (seconds % 86400).toNat := by
    rw [Int.fmod_eq_emod_of_nonneg _ (by decide)]
    show 3600 * (_ / 3600 % 24) + 60 * (_ / 60 % 60) + _ % 60 = _
    omega
  rw [hsecond]
  dsimp only at hday
  omega

end DateTime

namespace Zone
variable {z : Zone} {name : Text} {last shown : DateTime} {o : UtcOffset} {err : Error}

/-! ## The date by the clock of a zone -/

/-- The clock of the zone shows the date at a date-time.  The offset of the zone at an instant is
that of its seconds since 1970 and its year in universal time. -/
inductive Shows (z : Zone) (last : DateTime) : Date → Prop
  /-- Without an offset the date-time is read by the clock of the zone. -/
  | own : last.offset = none → Shows z last last.date
  /-- With an offset it is an instant: `seconds` in universal time, on a certain day there. -/
  | converted (o : UtcOffset) (seconds : Int) (day d : Date) : last.offset = some o →
      seconds = last.clockSeconds - o.seconds → day.IsAt seconds →
      d.IsAt (seconds +
        z.offsetAtInstant (seconds - 86400 * (Date.epoch.dayNumber : Int)) day.year) →
      Shows z last d

/-- The clock of the zone at an instant of universal time. -/
def clockAt (z : Zone) (universal : DateTime) : Int :=
  universal.clockSeconds + z.offsetAtInstant universal.secondsSinceEpoch universal.date.year

theorem exists_isAt_of_convert (h : z.convert last o = .ok shown) :
    ∃ day : Date, day.IsAt (last.clockSeconds - o.seconds) ∧
      shown.date.IsAt (last.clockSeconds - o.seconds + z.offsetAtInstant
        (last.clockSeconds - o.seconds - 86400 * (Date.epoch.dayNumber : Int)) day.year) := by
  unfold convert at h
  split at h
  · cases h
  · split at h
    · cases h
    · rename_i universal huniversal
      dsimp only at h
      split at h
      · cases h
      · rename_i shown' hshown
        cases h
        refine ⟨universal.date, DateTime.isAt_of_ofClock? huniversal, ?_⟩
        have hclock := DateTime.isAt_of_ofClock? hshown
        rw [DateTime.secondsSinceEpoch, DateTime.clockSeconds_of_ofClock? huniversal] at hclock
        exact hclock

/-- **A date-time that is put into a zone has the date that the clock of the zone shows.** -/
theorem shows_iff_of_localize {d : Date} (h : z.localize last = .ok shown) :
    z.Shows last d ↔ shown.date = d := by
  unfold localize at h
  cases hoffset : last.offset with
  | none =>
    rw [hoffset] at h
    cases h
    constructor
    · rintro (_ | ⟨o, -, -, -, ho⟩)
      · rfl
      · cases hoffset.symm.trans ho
    · rintro rfl
      exact .own hoffset
  | some o =>
    rw [hoffset] at h
    obtain ⟨day, hday, hshown⟩ := exists_isAt_of_convert h
    constructor
    · rintro (hnone | ⟨o', _, day', d, ho, rfl, hday', hd⟩)
      · cases hoffset.symm.trans hnone
      · cases hoffset.symm.trans ho
        cases hday.unique hday'
        exact hshown.unique hd
    · rintro rfl
      exact .converted o _ day _ hoffset rfl hday hshown

/-! ## Date-times without a date in a zone -/

/-- The date-time, of that offset, has no reading of the clock of the zone, for this reason. -/
inductive Refuses (z : Zone) (last : DateTime) (o : UtcOffset) : Error → Prop
  /-- The offset is a day or more. -/
  | offset : o.isUsable = false → Refuses z last o .unusableOffset
  /-- The instant is outside the calendar in universal time. -/
  | universal : o.isUsable = true → ¬IsOnCalendar (last.clockSeconds - o.seconds) →
      Refuses z last o .outsideCalendar
  /-- The instant is outside the calendar by the clock of the zone. -/
  | clock (universal : DateTime) : o.isUsable = true →
      DateTime.ofClock? (last.clockSeconds - o.seconds) last.time.microsecond (some .zero) =
        some universal →
      ¬IsOnCalendar (z.clockAt universal) → Refuses z last o .outsideCalendar

theorem refuses_of_convert (h : z.convert last o = .error err) : z.Refuses last o err := by
  unfold convert at h
  split at h
  · rename_i hlong
    cases h
    exact .offset (by simpa using hlong)
  · rename_i husable
    have husable : o.isUsable = true := by simpa using husable
    split at h
    · rename_i hnone
      cases h
      exact .universal husable (DateTime.ofClock?_eq_none.mp hnone)
    · rename_i universal huniversal
      dsimp only at h
      split at h
      · rename_i hnone
        cases h
        exact .clock universal husable huniversal (DateTime.ofClock?_eq_none.mp hnone)
      · cases h

theorem Refuses.convert_eq (h : z.Refuses last o err) : z.convert last o = .error err := by
  rw [convert]
  cases h with
  | offset hlong =>
    rw [hlong]
    rfl
  | universal husable hout =>
    rw [husable, DateTime.ofClock?_eq_none.mpr hout]
    rfl
  | clock universal husable huniversal hout =>
    have hnone : DateTime.ofClock?
        (universal.clockSeconds + z.offsetAtInstant universal.secondsSinceEpoch universal.date.year)
        last.time.microsecond
        (some ⟨z.offsetAtInstant universal.secondsSinceEpoch universal.date.year⟩) = none :=
      DateTime.ofClock?_eq_none.mpr hout
    rw [husable, huniversal]
    dsimp only
    rw [hnone]
    rfl

/-- The errors of a refusal are no rule errors. -/
theorem Refuses.isRuleError_eq (h : z.Refuses last o err) : err.isRuleError = false := by
  cases h <;> rfl

/-- **A date-time can be put into the zone unless it has an offset and is refused.** -/
theorem localize_eq_error :
    z.localize last = .error err ↔ ∃ o, last.offset = some o ∧ z.Refuses last o err := by
  unfold localize
  cases last.offset with
  | none => simp
  | some o =>
    simp only [Option.some.injEq, exists_eq_left']
    exact ⟨refuses_of_convert, Refuses.convert_eq⟩

theorem resolve_eq_ok : resolve name = .ok z ↔ find name = .ok z := by
  unfold resolve
  rcases find name with (_ | _ | _) | zone <;> simp

/-- An error about a name is a rule error, or the name is an area or too long. -/
theorem resolve_eq_error :
    resolve name = .error err ↔ find name = .error .unknown ∧ err = .rule (.unknownZone name) ∨
      find name = .error .area ∧ err = .isDirectory ∨
      find name = .error .tooLong ∧ err = .nameTooLong := by
  unfold resolve
  rcases find name with (_ | _ | _) | zone <;> simp [eq_comm]

end Zone

end Recurrence
