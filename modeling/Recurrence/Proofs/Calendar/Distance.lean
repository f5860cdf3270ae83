import Recurrence.Expression.Evaluate
import Recurrence.Proofs.Calendar.Step

/-! # Distances in units

A distance is measured with steps that may fail at the ends of the calendar, and with
quotients that are cut toward zero.  Between dates that open a week, a month or a year
neither does harm: the Monday of a week, the first of a month and the first of a year
are always there, and between two firsts the span is whole (`Span.between?_of_day_eq_one`).
So every distance exists, in either direction, and is the difference of the numbers of
the two units (`TimeUnit.between?_eq`).
-/
namespace Recurrence

/-! ## Spans -/

namespace Span

/-- The years and months of a span make up its months. -/
theorem total_ofMonths (n : Int) : 12 * (ofMonths n).years + (ofMonths n).months = n :=
  Int.mul_tdiv_add_tmod n 12

theorem months_ofMonths_bounds (n : Int) : -12 < (ofMonths n).months ∧ (ofMonths n).months < 12 :=
  ⟨Int.lt_tmod_of_pos n (by decide), Int.tmod_lt_of_pos n (by decide)⟩

theorem years_ofMonths_mul (n : Int) : (ofMonths (12 * n)).years = n :=
  Int.mul_tdiv_cancel_left n (by decide)

end Span

namespace Date

theorem one_le_daysInMonth (y : Nat) {m : Nat} (h1 : 1 ≤ m) (h12 : m ≤ 12) :
    1 ≤ daysInMonth y m :=
  Nat.le_trans (by decide) (daysInMonth_bounds y h1 h12).1

/-- A month has a first day, so a step to it is never cut short. -/
theorem fit?_one {y m : Nat} (h1 : 1 ≤ m) (h12 : m ≤ 12) : fit? y m 1 = ofCivil? y m 1 := by
  rw [fit?, Nat.min_eq_left (one_le_daysInMonth y h1 h12)]

theorem exists_fit?_one {y m : Nat} (hy : 1 ≤ y) (hlast : y ≤ 9999) (h1 : 1 ≤ m) (h12 : m ≤ 12) :
    ∃ d, fit? y m 1 = some d ∧ d.year = y ∧ d.month = m ∧ d.day = 1 := by
  obtain ⟨d, hd⟩ := exists_ofCivil? hy hlast h1 h12 (Nat.le_refl 1) (one_le_daysInMonth y h1 h12)
  exact ⟨d, (fit?_one h1 h12).trans hd, ofCivil?_eq_some.mp hd⟩

/-- A move by months leads to the month with the number that is as much higher, or lower. -/
theorem move?_ofMonths {d : Date} {n : Int} {y m : Nat} (h1 : 1 ≤ m) (h12 : m ≤ 12)
    (h : (12 * y + m : Int) = 12 * d.year + d.month + n) :
    d.move? (.ofMonths n) = fit? y m d.day := by
  have htotal := Span.total_ofMonths n
  have hbounds := Span.months_ofMonths_bounds n
  have hmonth := d.one_le_month
  have hmonth' := d.month_le
  unfold move?
  generalize (Span.ofMonths n).years = years at *
  generalize (Span.ofMonths n).months = months at *
  dsimp only
  split
  · rw [show (d.year + years + 1).toNat = y by omega,
      show (d.month + months - 12).toNat = m by omega]
  · split
    · rw [show (d.year + years - 1).toNat = y by omega,
        show (d.month + months + 12).toNat = m by omega]
    · rw [show (d.year + years).toNat = y by omega, show (d.month + months).toNat = m by omega]

/-- The first dates of two months are in the order of the months. -/
theorem lt_iff_monthNumber_lt {d e : Date} (hd : d.day = 1) (he : e.day = 1) :
    d < e ↔ d.monthNumber < e.monthNumber := by
  constructor
  · intro hlt
    rcases Nat.lt_trichotomy d.monthNumber e.monthNumber with h | h | h
    · exact h
    · obtain ⟨hyear, hmonth⟩ := monthNumber_eq_iff_year_month.mp h
      exact absurd (eq_of_civil hyear hmonth (hd.trans he.symm)) (ne_of_lt hlt)
    · exact absurd (TimeUnit.lt_of_number_lt .month h) (Nat.lt_asymm hlt)
  · exact TimeUnit.lt_of_number_lt .month

end Date

/-- The number of months between two dates, with the sign of the direction. -/
theorem Span.signed_natAbs {back : Bool} {n : Int} (h : back = true ↔ n < 0) :
    signed back n.natAbs = n := by
  unfold signed
  split
  · have := h.mp ‹_›
    omega
  · have := mt h.mpr ‹_›
    omega

/-- **Between the first dates of two months the span is whole**, in either direction. -/
theorem Span.between?_of_day_eq_one {anchor goal : Date} (hanchor : anchor.day = 1)
    (hgoal : goal.day = 1) :
    between? anchor goal = some (.ofMonths ((goal.monthNumber : Int) - anchor.monthNumber)) := by
  have hapart : 12 * ((goal.year : Int) - anchor.year) + ((goal.month : Int) - anchor.month) =
      (goal.monthNumber : Int) - anchor.monthNumber := by
    unfold Date.monthNumber
    omega
  have hback : decide (goal < anchor) = true ↔
      (goal.monthNumber : Int) - anchor.monthNumber < 0 := by
    rw [decide_eq_true_iff, Date.lt_iff_monthNumber_lt hgoal hanchor]
    omega
  rw [between?, hapart]
  generalize hn : (goal.monthNumber : Int) - anchor.monthNumber = n at hapart hback
  have hsigned := signed_natAbs hback
  have hmove : anchor.move? (.ofMonths n) = some goal := by
    rw [Date.move?_ofMonths (y := goal.year) (m := goal.month) goal.one_le_month goal.month_le
      (by omega), hanchor, Date.fit?_one goal.one_le_month goal.month_le]
    exact Date.ofCivil?_eq_some.mpr ⟨rfl, rfl, hgoal⟩
  -- The first attempt leads to the goal itself, so no month is taken off.
  have hwhole : wholeMonths? (decide (goal < anchor)) anchor goal n.natAbs = some n.natAbs := by
    rcases hcount : n.natAbs with _ | count
    · rfl
    · rw [hcount] at hsigned
      rw [wholeMonths?, hsigned, hmove]
      simp [isPast, Date.lt_irrefl]
  rw [hwhole]
  exact congrArg (fun m => some (ofMonths m)) hsigned

/-! ## Units -/

namespace Date

/-- The Monday of a week belongs to the calendar, which begins on a Monday. -/
theorem exists_monday? (d : Date) :
    ∃ m, d.monday? = some m ∧ (m.dayNumber : Int) = 7 * d.weekNumber + 1 := by
  have hpos := d.one_le
  have hlast := d.le_last
  have hweek : 7 * d.weekNumber + d.weekday + 1 = d.dayNumber := by
    unfold weekNumber weekday
    omega
  refine ⟨⟨7 * d.weekNumber + 1, by omega, by omega⟩, addDays?_eq_some.mpr ?_, by simp⟩
  show ((7 * d.weekNumber + 1 : Nat) : Int) = d.dayNumber + -(d.weekday : Int)
  omega

theorem exists_firstOfMonth? (d : Date) :
    ∃ e, d.firstOfMonth? = some e ∧ e.monthNumber = d.monthNumber ∧ e.day = 1 := by
  obtain ⟨e, he, hyear, hmonth, hday⟩ :=
    exists_fit?_one d.one_le_year d.year_le d.one_le_month d.month_le
  exact ⟨e, he, monthNumber_eq_iff_year_month.mpr ⟨hyear, hmonth⟩, hday⟩

theorem exists_firstOfYear? (d : Date) :
    ∃ e, d.firstOfYear? = some e ∧ e.monthNumber = 12 * d.year + 1 ∧ e.day = 1 := by
  obtain ⟨e, he, hyear, hmonth, hday⟩ :=
    exists_fit?_one d.one_le_year d.year_le (Nat.le_refl 1) (by decide)
  exact ⟨e, he, by rw [monthNumber, hyear, hmonth], hday⟩

end Date

namespace TimeUnit

/-- **A distance is the difference of the numbers of the two units**, so it always exists. -/
theorem between?_eq (u : TimeUnit) (anchor d : Date) :
    u.between? anchor d = some ((u.number d : Int) - u.number anchor) := by
  cases u with
  | day => rfl
  | week =>
    obtain ⟨monday, hmonday, hnumber⟩ := d.exists_monday?
    obtain ⟨opening, hopening, hnumber'⟩ := anchor.exists_monday?
    have hdays : monday.daysSince opening =
        7 * ((d.weekNumber : Int) - anchor.weekNumber) := by
      unfold Date.daysSince
      omega
    simp only [between?, hmonday, hopening, hdays, Option.bind_eq_bind, Option.bind_some]
    exact congrArg some (Int.mul_fdiv_cancel_left _ (by decide))
  | month =>
    obtain ⟨e, he, hnumber, hday⟩ := d.exists_firstOfMonth?
    obtain ⟨opening, hopening, hnumber', hday'⟩ := anchor.exists_firstOfMonth?
    simp only [between?, he, hopening, Span.between?_of_day_eq_one hday' hday,
      Option.bind_eq_bind, Option.bind_some, Span.total_ofMonths, hnumber, hnumber']
    rfl
  | year =>
    obtain ⟨e, he, hnumber, hday⟩ := d.exists_firstOfYear?
    obtain ⟨opening, hopening, hnumber', hday'⟩ := anchor.exists_firstOfYear?
    have hmonths : (e.monthNumber : Int) - opening.monthNumber =
        12 * ((d.year : Int) - anchor.year) := by
      omega
    simp only [between?, he, hopening, Span.between?_of_day_eq_one hday' hday,
      Option.bind_eq_bind, Option.bind_some, hmonths, Span.years_ofMonths_mul]
    rfl

theorem distance_eq (u : TimeUnit) (anchor d : Date) :
    u.distance anchor d = .ok ((u.number d : Int) - u.number anchor) := by
  rw [distance, between?_eq]

end TimeUnit

/-- On dates, a matcher of every so many units looks at the distance from its anchor. -/
theorem Matcher.includes_everyNUnits (anchor : Date) (interval : Interval) (u : TimeUnit)
    (d : Date) : (everyNUnits anchor interval u).includes (.date d) =
      .ok (((u.number d : Int) - u.number anchor) % interval.count == 0) := by
  rw [includes, Stamp.unitsFrom, TimeUnit.distance_eq]
  rfl

/-- **Distances are differences of unit numbers**, on either side of the anchor and up to both ends
of the calendar: they change sign with the order of the dates, and add up over a date between.  So
every `k` units after an anchor means a number of units that `k` divides, and all days of one unit
get one answer. -/
theorem TimeUnit.distances_are_number_differences (u : TimeUnit) (anchor d : Date) :
    u.between? anchor d = some ((u.number d : Int) - u.number anchor) ∧
    u.between? d anchor = (u.between? anchor d).map (-·) ∧
    (∀ via, u.between? anchor d =
      (u.between? anchor via).bind fun m => (u.between? via d).map (m + ·)) ∧
    ∀ interval : Interval, ∃ matched,
      (Matcher.everyNUnits anchor interval u).includes (.date d) = .ok matched ∧
      (matched = true ↔ (interval.count : Int) ∣ (u.number d : Int) - u.number anchor) ∧
      ∀ e, u.number e = u.number d →
        (Matcher.everyNUnits anchor interval u).includes (.date e) = .ok matched := by
  refine ⟨u.between?_eq anchor d, ?_, fun via => ?_, fun interval =>
    ⟨_, Matcher.includes_everyNUnits anchor interval u d, ?_, fun e he => ?_⟩⟩
  · rw [between?_eq, between?_eq, Option.map_some, Int.neg_sub]
  · simp only [between?_eq, Option.bind_some, Option.map_some]
    exact congrArg some (by omega)
  · rw [beq_iff_eq]
    exact Int.dvd_iff_emod_eq_zero.symm
  · rw [Matcher.includes_everyNUnits, he]

/-- Seen from the last week of the calendar, every fifth week: the week that begins on 2024-12-30
is matched, and with it 2025-01-01. -/
theorem TimeUnit.distances_are_number_differences_newYear :
    ∃ monday newYear : Date, monday.toText = "2024-12-30".toList ∧
      newYear.toText = "2025-01-01".toList ∧
      TimeUnit.week.number newYear = TimeUnit.week.number monday ∧
      TimeUnit.week.between? .last monday = some (-416115) ∧
      (Matcher.everyNUnits .last ⟨5, by decide⟩ .week).includes (.date newYear) = .ok true := by
  let monday : Date := ⟨739250, by decide, by decide⟩
  let newYear : Date := ⟨739252, by decide, by decide⟩
  have hweek : TimeUnit.week.number newYear = TimeUnit.week.number monday := by decide
  have hweeks : (TimeUnit.week.number monday : Int) - TimeUnit.week.number .last = -416115 := by
    decide
  obtain ⟨hbetween, -, -, hevery⟩ := TimeUnit.distances_are_number_differences .week .last monday
  rw [hweeks] at hbetween
  obtain ⟨matched, -, hmatched, hsame⟩ := hevery ⟨5, by decide⟩
  refine ⟨monday, newYear, by decide, by decide, hweek, hbetween, ?_⟩
  rw [hsame newYear hweek, hmatched.mpr (hweeks ▸ by decide)]

end Recurrence
