import Recurrence.Calendar.Date

/-! # Year, month and day of a date

`Date` computes the year, the month and the day of the month from a day number,
by taking off spans of 400, 100, 4 and 1 years and then whole months.  The
calendar is described the other way about: a date is so many days after the
years and months before it (`daysBeforeYear`, `daysBeforeMonth`).  The two agree
(`Date.dayNumber_eq`), and a day number has one such description only
(`Date.civil_unique`), so the dates of a month are a run of consecutive day
numbers (`Date.monthNumber_eq_iff`), and the day after has the next day number, over
the ends of months and years (`Date.isDayAfter_of_dayNumber`).
-/
namespace Recurrence

/-! ## Lengths of years and months -/

/-- The length of a year. -/
def daysInYear (year : Nat) : Nat := if isLeapYear year then 366 else 365

theorem isLeapYear_iff (year : Nat) :
    isLeapYear year = true ↔ year % 4 = 0 ∧ (year % 100 ≠ 0 ∨ year % 400 = 0) := by
  simp [isLeapYear]

/-- A span of `n` years is passed whenever the count of years becomes a multiple
of `n`. -/
theorem succ_div_of_mod (year n : Nat) :
    (year + 1) / n = year / n + if (year + 1) % n = 0 then 1 else 0 := by
  rw [Nat.succ_div]
  simp only [Nat.dvd_iff_mod_eq_zero]

theorem daysBeforeYear_succ {year : Nat} (h : 1 ≤ year) :
    daysBeforeYear (year + 1) = daysBeforeYear year + daysInYear year := by
  obtain ⟨y, rfl⟩ : ∃ y, year = y + 1 := ⟨year - 1, by omega⟩
  have h100 : y / 100 ≤ 365 * y := by omega
  simp only [daysBeforeYear, daysInYear, isLeapYear_iff, Nat.add_sub_cancel,
    succ_div_of_mod y]
  have h4 : (y + 1) % 100 = 0 → (y + 1) % 4 = 0 := by omega
  have h400 : (y + 1) % 400 = 0 → (y + 1) % 100 = 0 := by omega
  grind

theorem daysBeforeYear_mono {y z : Nat} (hy : 1 ≤ y) (h : y ≤ z) :
    daysBeforeYear y ≤ daysBeforeYear z := by
  -- Year by year, up to the later one.
  obtain ⟨d, rfl⟩ := Nat.exists_eq_add_of_le h
  clear h
  induction d with
  | zero => exact Nat.le_refl _
  | succ d ih =>
    rw [← Nat.add_assoc, daysBeforeYear_succ (by omega)]
    exact Nat.le_trans ih (Nat.le_add_right ..)

theorem daysBeforeMonth_succ (year : Nat) {month : Nat} (h1 : 1 ≤ month) (h12 : month ≤ 12) :
    daysBeforeMonth year (month + 1) = daysBeforeMonth year month + daysInMonth year month := by
  have table : ∀ leap : Bool, ∀ m : Fin 12,
      ((monthLengths leap).take (m + 1)).foldr (· + ·) 0 =
        ((monthLengths leap).take m).foldr (· + ·) 0 + (monthLengths leap).getD m 0 := by
    decide
  have hm : month - 1 < 12 := by omega
  have hrow := table (isLeapYear year) ⟨month - 1, hm⟩
  simp only [Nat.sub_add_cancel h1] at hrow
  rw [daysBeforeMonth, daysBeforeMonth, daysInMonth, if_neg (by omega), Nat.add_sub_cancel]
  exact hrow

theorem daysInMonth_bounds (year : Nat) {month : Nat} (h1 : 1 ≤ month) (h12 : month ≤ 12) :
    28 ≤ daysInMonth year month ∧ daysInMonth year month ≤ 31 := by
  have table : ∀ leap : Bool, ∀ m : Fin 12,
      28 ≤ (monthLengths leap).getD m 0 ∧ (monthLengths leap).getD m 0 ≤ 31 := by
    decide
  rw [daysInMonth, if_neg (by omega)]
  exact table (isLeapYear year) ⟨month - 1, by omega⟩

theorem daysBeforeMonth_thirteen (year : Nat) : daysBeforeMonth year 13 = daysInYear year := by
  unfold daysBeforeMonth daysInYear
  cases isLeapYear year <;> rfl

theorem daysBeforeMonth_mono (year : Nat) {m n : Nat} (h1 : 1 ≤ m) (h : m ≤ n) (h13 : n ≤ 13) :
    daysBeforeMonth year m ≤ daysBeforeMonth year n := by
  obtain ⟨d, rfl⟩ := Nat.exists_eq_add_of_le h
  clear h
  induction d with
  | zero => exact Nat.le_refl _
  | succ d ih =>
    rw [← Nat.add_assoc, daysBeforeMonth_succ year (by omega) (by omega)]
    exact Nat.le_trans (ih (by omega)) (Nat.le_add_right ..)

/-! ## From a day number to year, month and day -/

/-- Walking along the lengths of the months stops inside a month. -/
theorem monthAndDay_spec (lengths : List Nat) (month rest : Nat)
    (h : rest < lengths.foldr (· + ·) 0) :
    ∃ i < lengths.length, (monthAndDay lengths month rest).1 = month + i ∧
      rest + 1 = (lengths.take i).foldr (· + ·) 0 + (monthAndDay lengths month rest).2 ∧
      1 ≤ (monthAndDay lengths month rest).2 ∧
      (monthAndDay lengths month rest).2 ≤ lengths.getD i 0 := by
  induction lengths generalizing month rest with
  | nil => exact absurd h (Nat.not_lt_zero _)
  | cons length lengths ih =>
    by_cases hrest : rest < length
    · have hstop : monthAndDay (length :: lengths) month rest = (month, rest + 1) := by
        simp [monthAndDay, hrest]
      rw [hstop]
      exact ⟨0, Nat.zero_lt_succ _, rfl, by simp, Nat.le_add_left 1 rest, hrest⟩
    · have hsum : rest < length + lengths.foldr (· + ·) 0 := h
      have hne : lengths.isEmpty = false := by
        cases lengths with
        | nil => exact absurd hsum (by simpa using hrest)
        | cons => rfl
      have hgo : monthAndDay (length :: lengths) month rest =
          monthAndDay lengths (month + 1) (rest - length) := by
        simp [monthAndDay, hrest, hne]
      obtain ⟨i, hi, hmonth, hsplit, hpos, hle⟩ := ih (month + 1) (rest - length) (by omega)
      rw [hgo]
      refine ⟨i + 1, Nat.succ_lt_succ hi, by omega, ?_, hpos, hle⟩
      rw [List.take_succ_cons, List.foldr_cons]
      omega

namespace Date

/-- Taking off full spans, at most `cap` of them, leaves less than a span unless
the cap is reached. -/
theorem min_div_bounds (n cap span : Nat) (h : 0 < span) :
    min (n / span) cap ≤ cap ∧ span * min (n / span) cap ≤ n ∧
      (min (n / span) cap < cap → n < span * min (n / span) cap + span) := by
  have hle : span * (n / span) ≤ n := Nat.mul_div_le n span
  have hlt : n < span * (n / span) + span := Nat.lt_mul_div_self_add h
  rcases Nat.le_total (n / span) cap with hcap | hcap
  · rw [Nat.min_eq_left hcap]
    exact ⟨hcap, hle, fun _ => hlt⟩
  · rw [Nat.min_eq_right hcap]
    exact ⟨Nat.le_refl _, Nat.le_trans (Nat.mul_le_mul_left span hcap) hle,
      fun hc => absurd hc (Nat.lt_irrefl _)⟩

/-- The days before a year, by the spans of 400, 100, 4 and 1 years before it. -/
theorem days_of_spans (a c q r : Nat) :
    365 * (400 * a + 100 * c + 4 * q + r + 1 - 1) + (100 * a + 25 * c + q) - (4 * a + c) + a =
      146097 * a + 36524 * c + 1461 * q + 365 * r := by
  omega

/-- The year and the distance from its 1 January make up the day number. -/
theorem dayNumber_eq_yearAndDay (d : Date) :
    1 ≤ d.year ∧ d.dayNumber = daysBeforeYear d.year + d.yearAndDay.2 + 1 ∧
      d.yearAndDay.2 < daysInYear d.year := by
  have hpos := d.one_le
  unfold year yearAndDay daysBeforeYear daysInYear
  simp only [isLeapYear_iff]
  obtain ⟨hc3, hcle, hclt⟩ :=
    min_div_bounds ((d.dayNumber - 1) % 146097) 3 36524 (by decide)
  -- With names for the quotients and remainders all that is left is linear.
  have hm := Nat.mod_lt (d.dayNumber - 1) (y := 146097) (by decide)
  have hdays := Nat.div_add_mod (d.dayNumber - 1) 146097
  generalize (d.dayNumber - 1) / 146097 = a at *
  generalize (d.dayNumber - 1) % 146097 = m at *
  generalize min (m / 36524) 3 = c at *
  have hn : m = 36524 * c + (m - 36524 * c) := by omega
  have hn4 := Nat.mod_lt (m - 36524 * c) (y := 1461) (by decide)
  have hnq := Nat.div_add_mod (m - 36524 * c) 1461
  obtain ⟨hr3, hrle, hrlt⟩ := min_div_bounds ((m - 36524 * c) % 1461) 3 365 (by decide)
  generalize (m - 36524 * c) / 1461 = q at *
  generalize (m - 36524 * c) % 1461 = k at *
  generalize min (k / 365) 3 = r at *
  have hq : q ≤ 24 ∧ (q = 24 → c < 3 → k < 1460) := by omega
  have h4 : (400 * a + 100 * c + 4 * q + r + 1 - 1) / 4 = 100 * a + 25 * c + q := by omega
  have h100 : (400 * a + 100 * c + 4 * q + r + 1 - 1) / 100 = 4 * a + c := by omega
  have h400 : (400 * a + 100 * c + 4 * q + r + 1 - 1) / 400 = a := by omega
  simp only [h4, h100, h400]
  clear h4 h100 h400
  refine ⟨Nat.le_add_left 1 _, by rw [days_of_spans]; omega, ?_⟩
  -- Only the last of four years can have a 366th day, and it is a leap year then.
  rcases Nat.lt_or_ge (k - 365 * r) 365 with hk | hk
  · split <;> omega
  · have hr : r = 3 := by omega
    have hleap : (400 * a + 100 * c + 4 * q + r + 1) % 4 = 0 ∧
        ((400 * a + 100 * c + 4 * q + r + 1) % 100 ≠ 0 ∨
          (400 * a + 100 * c + 4 * q + r + 1) % 400 = 0) := by omega
    rw [if_pos hleap]
    omega

theorem one_le_year (d : Date) : 1 ≤ d.year :=
  d.dayNumber_eq_yearAndDay.1

/-- The month and the day of the month make up the distance from 1 January. -/
theorem monthDay_spec (d : Date) :
    1 ≤ d.month ∧ d.month ≤ 12 ∧ 1 ≤ d.day ∧ d.day ≤ d.monthLength ∧
      d.yearAndDay.2 + 1 = daysBeforeMonth d.year d.month + d.day := by
  have hrest : d.yearAndDay.2 < (monthLengths (isLeapYear d.year)).foldr (· + ·) 0 := by
    have hlt := d.dayNumber_eq_yearAndDay.2.2
    rwa [← daysBeforeMonth_thirteen] at hlt
  obtain ⟨i, hi, hmonth, hsplit, hpos, hle⟩ :=
    monthAndDay_spec (monthLengths (isLeapYear d.year)) 1 d.yearAndDay.2 hrest
  change d.month = 1 + i at hmonth
  change d.yearAndDay.2 + 1 = _ + d.day at hsplit
  have hi12 : i < 12 := hi
  have hm : d.month - 1 = i := by omega
  refine ⟨by omega, by omega, hpos, ?_, ?_⟩
  · rw [monthLength, daysInMonth, if_neg (by omega), hm]
    exact hle
  · rw [daysBeforeMonth, hm]
    exact hsplit

theorem one_le_month (d : Date) : 1 ≤ d.month := d.monthDay_spec.1

theorem month_le (d : Date) : d.month ≤ 12 := d.monthDay_spec.2.1

theorem one_le_day (d : Date) : 1 ≤ d.day := d.monthDay_spec.2.2.1

theorem day_le (d : Date) : d.day ≤ d.monthLength := d.monthDay_spec.2.2.2.1

/-- The days of the calendar before the first of the month of a date. -/
def daysBeforeItsMonth (d : Date) : Nat :=
  daysBeforeYear d.year + daysBeforeMonth d.year d.month

/-- **A date lies as many days after the years and months before it as its day of
the month says.** -/
theorem dayNumber_eq (d : Date) : d.dayNumber = d.daysBeforeItsMonth + d.day := by
  have hyear := d.dayNumber_eq_yearAndDay.2.1
  have hmonth := d.monthDay_spec.2.2.2.2
  unfold daysBeforeItsMonth
  omega

/-! ## One description for each date -/

/-- Years do not overlap: a day number within a year belongs to that year. -/
theorem year_eq_of_bounds {d : Date} {y : Nat} (hy : 1 ≤ y) (hlo : daysBeforeYear y < d.dayNumber)
    (hhi : d.dayNumber ≤ daysBeforeYear (y + 1)) : d.year = y := by
  obtain ⟨hpos, hday, hlt⟩ := d.dayNumber_eq_yearAndDay
  have hnext := daysBeforeYear_succ hpos
  rcases Nat.lt_trichotomy d.year y with h | h | h
  · have := daysBeforeYear_mono (by omega) (show d.year + 1 ≤ y from h)
    omega
  · exact h
  · have := daysBeforeYear_mono (by omega) (show y + 1 ≤ d.year from h)
    omega

/-- Months of a year do not overlap either. -/
theorem month_eq_of_bounds {d : Date} {m : Nat} (h1 : 1 ≤ m) (h12 : m ≤ 12)
    (hlo : daysBeforeYear d.year + daysBeforeMonth d.year m < d.dayNumber)
    (hhi : d.dayNumber ≤ daysBeforeYear d.year + daysBeforeMonth d.year (m + 1)) :
    d.month = m := by
  have hday := d.dayNumber_eq
  unfold daysBeforeItsMonth at hday
  have hpos := d.one_le_day
  have hle : d.day ≤ daysInMonth d.year d.month := d.day_le
  have hnext := daysBeforeMonth_succ d.year d.one_le_month d.month_le
  rcases Nat.lt_trichotomy d.month m with h | h | h
  · have := daysBeforeMonth_mono d.year (m := d.month + 1) (n := m) (by omega) h (by omega)
    omega
  · exact h
  · have := daysBeforeMonth_mono d.year (m := m + 1) (n := d.month) (by omega) h
      (by have := d.month_le; omega)
    omega

/-- **The description is unique**: whatever year, month and day of the month make
up a day number, they are those of its date. -/
theorem civil_unique {d : Date} {y m k : Nat} (hy : 1 ≤ y) (h1 : 1 ≤ m) (h12 : m ≤ 12)
    (hk : 1 ≤ k) (hkm : k ≤ daysInMonth y m)
    (hd : d.dayNumber = daysBeforeYear y + daysBeforeMonth y m + k) :
    d.year = y ∧ d.month = m ∧ d.day = k := by
  have hnext := daysBeforeMonth_succ y h1 h12
  have hend : daysBeforeMonth y (m + 1) ≤ daysInYear y := by
    rw [← daysBeforeMonth_thirteen]
    exact daysBeforeMonth_mono y (by omega) (by omega) (Nat.le_refl _)
  have hyear : d.year = y := by
    apply year_eq_of_bounds hy
    · omega
    · rw [daysBeforeYear_succ hy]
      omega
  subst hyear
  have hmonth : d.month = m := month_eq_of_bounds h1 h12 (by omega) (by omega)
  subst hmonth
  have hday := d.dayNumber_eq
  unfold daysBeforeItsMonth at hday
  exact ⟨rfl, rfl, by omega⟩

/-! ## Months as runs of dates -/

theorem year_le (d : Date) : d.year ≤ 9999 := by
  obtain ⟨hpos, hday, -⟩ := d.dayNumber_eq_yearAndDay
  have hlast : daysBeforeYear 10000 = lastDayNumber := rfl
  have hd := d.le_last
  rcases Nat.lt_or_ge 9999 d.year with h | h
  · have := daysBeforeYear_mono (by decide) (show 10000 ≤ d.year from h)
    omega
  · exact h

/-- The calendar ends with a month. -/
theorem monthEnd_le (d : Date) : d.daysBeforeItsMonth + d.monthLength ≤ lastDayNumber := by
  have hmonth := daysBeforeMonth_succ d.year d.one_le_month d.month_le
  have hyear := daysBeforeYear_succ d.one_le_year
  have hend := daysBeforeMonth_mono d.year (m := d.month + 1) (n := 13) (by omega)
    (by have := d.month_le; omega) (Nat.le_refl _)
  rw [daysBeforeMonth_thirteen] at hend
  have hlast := daysBeforeYear_mono (y := d.year + 1) (z := 10000) (by omega)
    (by have := d.year_le; omega)
  have hcalendar : daysBeforeYear 10000 = lastDayNumber := rfl
  show daysBeforeYear d.year + daysBeforeMonth d.year d.month + daysInMonth d.year d.month ≤ _
  omega

theorem monthNumber_eq_iff_year_month {d e : Date} :
    e.monthNumber = d.monthNumber ↔ e.year = d.year ∧ e.month = d.month := by
  have := d.one_le_month
  have := d.month_le
  have := e.one_le_month
  have := e.month_le
  unfold monthNumber
  omega

/-- The dates of a month are those whose day numbers run from its first to its
last day. -/
theorem monthNumber_eq_iff {d e : Date} :
    e.monthNumber = d.monthNumber ↔
      d.daysBeforeItsMonth < e.dayNumber ∧ e.dayNumber ≤ d.daysBeforeItsMonth + d.monthLength := by
  rw [monthNumber_eq_iff_year_month]
  constructor
  · rintro ⟨hyear, hmonth⟩
    have hday := e.dayNumber_eq
    have hpos := e.one_le_day
    have hle := e.day_le
    simp only [daysBeforeItsMonth, monthLength, hyear, hmonth] at hday hle ⊢
    omega
  · rintro ⟨hlo, hhi⟩
    obtain ⟨hy, hm, -⟩ := civil_unique (d := e) (k := e.dayNumber - d.daysBeforeItsMonth)
      d.one_le_year d.one_le_month d.month_le (by omega)
      (by show _ ≤ d.monthLength; omega)
      (by show _ = d.daysBeforeItsMonth + _; omega)
    exact ⟨hy, hm⟩

/-! ## The day after -/

/-- The second date is the day after the first: the next day of the same month, or, after the last
day of a month, the first day of the next month of the year, or of the next year. -/
inductive IsDayAfter (d e : Date) : Prop
  /-- The month goes on. -/
  | sameMonth : e.year = d.year → e.month = d.month → e.day = d.day + 1 → IsDayAfter d e
  /-- The month ends, and the year goes on. -/
  | nextMonth : d.day = d.monthLength → e.year = d.year → e.month = d.month + 1 → e.day = 1 →
      IsDayAfter d e
  /-- The year ends. -/
  | nextYear : d.month = 12 → d.day = 31 → e.year = d.year + 1 → e.month = 1 → e.day = 1 →
      IsDayAfter d e

theorem daysInMonth_twelve (year : Nat) : daysInMonth year 12 = 31 := by
  unfold daysInMonth
  cases isLeapYear year <;> rfl

/-- **The next day number is that of the day after.** -/
theorem isDayAfter_of_dayNumber {d e : Date} (h : e.dayNumber = d.dayNumber + 1) :
    d.IsDayAfter e := by
  have hday := d.dayNumber_eq
  have hle := d.day_le
  have hmonth := daysBeforeMonth_succ d.year d.one_le_month d.month_le
  unfold daysBeforeItsMonth at hday
  -- The number after is described as a day of the same month, or else as the first of the
  -- month, or of the year, that begins where this one ends.
  rcases Nat.lt_or_eq_of_le hle with hinside | hend
  · obtain ⟨hy, hm, hk⟩ := civil_unique (d := e) (k := d.day + 1) d.one_le_year d.one_le_month
      d.month_le (Nat.succ_pos _) hinside (by omega)
    exact .sameMonth hy hm hk
  · have hlength : d.day = daysInMonth d.year d.month := hend
    rcases Nat.lt_or_eq_of_le d.month_le with hearlier | hdecember
    · have hlong : 28 ≤ daysInMonth d.year (d.month + 1) :=
        (daysInMonth_bounds d.year (Nat.succ_pos d.month) hearlier).1
      obtain ⟨hy, hm, hk⟩ := civil_unique (d := e) (m := d.month + 1) (k := 1) d.one_le_year
        (Nat.succ_pos _) hearlier (Nat.le_refl 1) (by omega) (by omega)
      exact .nextMonth hend hy hm hk
    · have hyear := daysBeforeYear_succ d.one_le_year
      have hlong : 28 ≤ daysInMonth (d.year + 1) 1 :=
        (daysInMonth_bounds (d.year + 1) (by decide) (by decide)).1
      have hfirst : daysBeforeMonth (d.year + 1) 1 = 0 := rfl
      rw [hdecember, daysBeforeMonth_thirteen] at hmonth
      rw [hdecember] at hday hlength
      obtain ⟨hy, hm, hk⟩ := civil_unique (d := e) (y := d.year + 1) (m := 1) (k := 1)
        (Nat.succ_pos _) (by decide) (by decide) (by decide) (by omega) (by omega)
      exact .nextYear hdecember (hlength.trans (daysInMonth_twelve d.year)) hy hm hk

end Date

end Recurrence
