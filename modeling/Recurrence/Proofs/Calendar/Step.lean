import Recurrence.Proofs.Calendar.Civil
import Recurrence.Proofs.Calendar.Run

/-! # Steps through the calendar

Units are numbered in calendar order: a date in a unit with a lower number is an
earlier date (`TimeUnit.lt_of_number_lt`).  A date with a given year, month and day
of the month is that very date (`Date.ofCivil?_eq_some`), and there is none where the
month has no such day.
-/
namespace Recurrence

namespace Date

theorem ofCivil?_eq_some {y m k : Nat} {d : Date} :
    ofCivil? y m k = some d ↔ d.year = y ∧ d.month = m ∧ d.day = k := by
  constructor
  · intro h
    unfold ofCivil? at h
    split at h
    · rename_i hcivil
      obtain ⟨hy, -, h1, h12, hk, hkm⟩ := hcivil
      exact civil_unique hy h1 h12 hk hkm (dayNumber_of_ofDayNumber? h)
    · cases h
  · rintro ⟨rfl, rfl, rfl⟩
    rw [ofCivil?, if_pos ⟨d.one_le_year, d.year_le, d.one_le_month, d.month_le, d.one_le_day, d.day_le⟩]
    have hday := d.dayNumber_eq
    unfold daysBeforeItsMonth at hday
    rw [← hday, ofDayNumber?_dayNumber]

/-- The calendar has every day of every month of its years. -/
theorem exists_ofCivil? {y m k : Nat} (hy : 1 ≤ y) (hlast : y ≤ 9999) (h1 : 1 ≤ m) (h12 : m ≤ 12)
    (hk : 1 ≤ k) (hkm : k ≤ daysInMonth y m) : ∃ d, ofCivil? y m k = some d := by
  have hmonth := daysBeforeMonth_succ y h1 h12
  have hyear := daysBeforeMonth_mono y (m := m + 1) (n := 13) (by omega) (by omega) (Nat.le_refl _)
  rw [daysBeforeMonth_thirteen] at hyear
  have hnext := daysBeforeYear_succ hy
  have hend := daysBeforeYear_mono (y := y + 1) (z := 10000) (by omega) (by omega)
  have hcalendar : daysBeforeYear 10000 = lastDayNumber := rfl
  refine ⟨⟨daysBeforeYear y + daysBeforeMonth y m + k, by omega, by omega⟩, ?_⟩
  rw [ofCivil?, if_pos ⟨hy, hlast, h1, h12, hk, hkm⟩]
  exact ofDayNumber?_dayNumber ⟨_, _, _⟩

theorem eq_of_civil {d e : Date} (hyear : d.year = e.year) (hmonth : d.month = e.month)
    (hday : d.day = e.day) : d = e :=
  Option.some.inj ((ofCivil?_eq_some.mpr ⟨hyear, hmonth, hday⟩).symm.trans
    (ofCivil?_eq_some.mpr ⟨rfl, rfl, rfl⟩))

theorem lt_of_year_lt {d e : Date} (h : d.year < e.year) : d < e := by
  obtain ⟨hd1, hd, hlt⟩ := d.dayNumber_eq_yearAndDay
  obtain ⟨-, he, -⟩ := e.dayNumber_eq_yearAndDay
  have hnext := daysBeforeYear_succ hd1
  have hmono := daysBeforeYear_mono (by omega) (show d.year + 1 ≤ e.year from h)
  exact lt_iff.mpr (by omega)

theorem lt_of_month_lt {d e : Date} (hyear : d.year = e.year) (h : d.month < e.month) : d < e := by
  have hd := d.dayNumber_eq
  have he := e.dayNumber_eq
  unfold daysBeforeItsMonth at hd he
  rw [← hyear] at he
  have hday : d.day ≤ daysInMonth d.year d.month := d.day_le
  have hpos := e.one_le_day
  have hnext := daysBeforeMonth_succ d.year d.one_le_month d.month_le
  have hmono := daysBeforeMonth_mono d.year (m := d.month + 1) (n := e.month) (by omega) h
    (by have := e.month_le; omega)
  exact lt_iff.mpr (by omega)

end Date

namespace TimeUnit

/-- Units are numbered in calendar order. -/
theorem lt_of_number_lt (u : TimeUnit) {d e : Date} (h : u.number d < u.number e) : d < e := by
  cases u with
  | day => exact h
  | week =>
    have hweek : (d.dayNumber - 1) / 7 < (e.dayNumber - 1) / 7 := h
    exact Date.lt_iff.mpr (by omega)
  | month =>
    have hmonth : 12 * d.year + d.month < 12 * e.year + e.month := h
    have hd := d.one_le_month
    have he := e.month_le
    rcases Nat.lt_or_ge d.year e.year with hyear | hyear
    · exact Date.lt_of_year_lt hyear
    · exact Date.lt_of_month_lt (by omega) (by omega)
  | year => exact Date.lt_of_year_lt h

theorem number_mono (u : TimeUnit) {d e : Date} (h : d ≤ e) : u.number d ≤ u.number e :=
  Nat.le_of_not_lt fun hlt => Date.not_le.mpr (u.lt_of_number_lt hlt) h

/-- There are no more units than days. -/
theorem number_le_last (u : TimeUnit) (d : Date) : u.number d ≤ lastDayNumber := by
  have hlast := d.le_last
  cases u with
  | day => exact hlast
  | week =>
    show (d.dayNumber - 1) / 7 ≤ _
    omega
  | month =>
    have hyear := d.year_le
    have hmonth := d.month_le
    show 12 * d.year + d.month ≤ 3652059
    omega
  | year =>
    have hyear := d.year_le
    show d.year ≤ 3652059
    omega

end TimeUnit

end Recurrence
