import Recurrence.Proofs.Calendar.Distance

/-! # Weekdays of a month

A month has each weekday four or five times.  `weekdaysOfMonth` lists those dates,
and `Date.IsNthWeekday` says which place a date takes among them, counted from
either end.  `Date.isNthOfMonth` answers the same by a leap from the first or the last
of the month (`Date.isNthOfMonth_iff`): seven days earlier or later is the same
weekday, so the weeks that fit before and after the date within its month tell both
its place and the ordinals that lead to it.
-/
namespace Recurrence

/-! ## Places among the weekdays of a month -/

/-- The dates of the month with number `month` that fall on a weekday, in order. -/
def weekdaysOfMonth (month weekday : Nat) : List Date :=
  (datesFromTo .first .last).filter fun d => d.monthNumber = month && d.weekday = weekday

namespace Date

/-- The date is the `n`-th of its weekday in its month, counted from the last one
backwards if `n` is negative.  No date is the zeroth. -/
def IsNthWeekday (d : Date) (n : Int) : Prop :=
  (0 < n ∧ (weekdaysOfMonth d.monthNumber d.weekday)[n.toNat - 1]? = some d) ∨
    (n < 0 ∧ (weekdaysOfMonth d.monthNumber d.weekday).reverse[(-n).toNat - 1]? = some d)

theorem mem_weekdaysOfMonth {month weekday : Nat} {d : Date} :
    d ∈ weekdaysOfMonth month weekday ↔ d.monthNumber = month ∧ d.weekday = weekday := by
  have hall : d ∈ datesFromTo .first .last := mem_datesFromTo.mpr ⟨d.one_le, d.le_last⟩
  simp [weekdaysOfMonth, hall]

/-- The weeks that lie between the first date of the month on the weekday of `d`
and `d`. -/
def weeksBefore (d : Date) : Nat := (d.day - 1) / 7

/-- The weeks that lie between `d` and the last date of the month on its weekday. -/
def weeksAfter (d : Date) : Nat := (d.monthLength - d.day) / 7

/-- The weekdays of a month lie a week apart, around any one of them. -/
theorem map_dayNumber_weekdaysOfMonth (d : Date) :
    (weekdaysOfMonth d.monthNumber d.weekday).map dayNumber =
      (List.range (d.weeksBefore + d.weeksAfter + 1)).map
        fun i => d.dayNumber - 7 * d.weeksBefore + 7 * i := by
  have hday := d.dayNumber_eq
  have hpos := d.one_le_day
  have hle := d.day_le
  have hend := d.monthEnd_le
  apply List.Pairwise.eq_of_mem_iff (r := (· < ·))
  · exact List.pairwise_map.mpr ((pairwise_datesFromTo _ _).filter _)
  · exact List.pairwise_map.mpr (List.pairwise_lt_range.imp fun h => by omega)
  · intro n
    simp only [List.mem_map, mem_weekdaysOfMonth, monthNumber_eq_iff, List.mem_range]
    constructor
    · rintro ⟨e, ⟨⟨hlo, hhi⟩, hweekday⟩, rfl⟩
      have hmod : e.dayNumber % 7 = d.dayNumber % 7 := by
        have := e.one_le
        have := d.one_le
        unfold weekday at hweekday
        omega
      refine ⟨(e.dayNumber - (d.dayNumber - 7 * d.weeksBefore)) / 7, ?_, ?_⟩
      · unfold weeksBefore weeksAfter
        omega
      · unfold weeksBefore
        omega
    · rintro ⟨i, hi, rfl⟩
      unfold weeksBefore weeksAfter at *
      refine ⟨⟨d.dayNumber - 7 * ((d.day - 1) / 7) + 7 * i, by omega, by omega⟩, ⟨?_, ?_⟩, rfl⟩
      · constructor
        · show d.daysBeforeItsMonth < d.dayNumber - 7 * ((d.day - 1) / 7) + 7 * i
          omega
        · show d.dayNumber - 7 * ((d.day - 1) / 7) + 7 * i ≤ _
          omega
      · show (d.dayNumber - 7 * ((d.day - 1) / 7) + 7 * i - 1) % 7 = (d.dayNumber - 1) % 7
        omega

theorem length_weekdaysOfMonth (d : Date) :
    (weekdaysOfMonth d.monthNumber d.weekday).length = d.weeksBefore + d.weeksAfter + 1 := by
  have h := congrArg List.length d.map_dayNumber_weekdaysOfMonth
  simpa using h

/-- The place of a date among the weekdays of its month. -/
theorem getElem?_weekdaysOfMonth (d : Date) (i : Nat) :
    (weekdaysOfMonth d.monthNumber d.weekday)[i]? = some d ↔ i = d.weeksBefore := by
  have hrow : (weekdaysOfMonth d.monthNumber d.weekday)[i]? = some d ↔
      ((weekdaysOfMonth d.monthNumber d.weekday).map dayNumber)[i]? = some d.dayNumber := by
    rw [List.getElem?_map, Option.map_eq_some_iff]
    constructor
    · intro h
      exact ⟨d, h, rfl⟩
    · rintro ⟨e, he, hde⟩
      rw [he, dayNumber_injective hde]
  have hbefore : 7 * d.weeksBefore < d.dayNumber := by
    have := d.dayNumber_eq
    have := d.one_le_day
    unfold weeksBefore
    omega
  rw [hrow, map_dayNumber_weekdaysOfMonth, List.getElem?_map, Option.map_eq_some_iff]
  constructor
  · rintro ⟨j, hj, hd⟩
    obtain ⟨_, rfl⟩ := List.getElem?_eq_some_iff.mp hj
    rw [List.getElem_range] at hd
    omega
  · rintro rfl
    exact ⟨d.weeksBefore, List.getElem?_range (by omega), by omega⟩

/-! ## Where ordinals lead -/

/-- A day of the month of a date, or the last of that month, is so many days behind
the months before it. -/
theorem exists_fit?_dayNumber (d : Date) {k : Nat} (hk : 1 ≤ k) :
    ∃ e, fit? d.year d.month k = some e ∧
      e.dayNumber = d.daysBeforeItsMonth + min k d.monthLength := by
  have hfit : 1 ≤ min k d.monthLength :=
    Nat.le_min.mpr ⟨hk, one_le_daysInMonth d.year d.one_le_month d.month_le⟩
  obtain ⟨e, he⟩ := exists_ofCivil? d.one_le_year d.year_le d.one_le_month d.month_le hfit
    (Nat.min_le_right k d.monthLength)
  obtain ⟨hyear, hmonth, hday⟩ := ofCivil?_eq_some.mp he
  refine ⟨e, he, ?_⟩
  rw [e.dayNumber_eq, hday]
  simp only [daysBeforeItsMonth, hyear, hmonth]

/-- From the first of the month, an ordinal leads past the weeks before a date. -/
theorem isNthOfMonth_of_pos (d : Date) {n : Int} (h : 0 < n) :
    d.isNthOfMonth n = true ↔ n = d.weeksBefore + 1 := by
  obtain ⟨origin, horigin, hfirst⟩ := d.exists_fit?_dayNumber (Nat.le_refl 1)
  have hday := d.dayNumber_eq
  have hpos := d.one_le_day
  have hle := d.day_le
  rw [isNthOfMonth, Bool.and_eq_true, bne_iff_ne, beq_iff_eq, and_iff_right (by omega),
    nthWeekday?, if_pos h, horigin]
  show origin.addDays? _ = some d ↔ _
  rw [addDays?_eq_some]
  unfold weekday weeksBefore
  omega

/-- From the last of the month, a negative ordinal leads past the weeks after a date. -/
theorem isNthOfMonth_of_neg (d : Date) {n : Int} (h : n < 0) :
    d.isNthOfMonth n = true ↔ -n = d.weeksAfter + 1 := by
  obtain ⟨origin, horigin, hlast⟩ := d.exists_fit?_dayNumber (k := 31) (by decide)
  have hday := d.dayNumber_eq
  have hpos := d.one_le_day
  have hle := d.day_le
  have hlength : d.monthLength ≤ 31 := (daysInMonth_bounds d.year d.one_le_month d.month_le).2
  rw [isNthOfMonth, Bool.and_eq_true, bne_iff_ne, beq_iff_eq, and_iff_right (by omega),
    nthWeekday?, if_neg (by omega), horigin]
  show origin.addDays? _ = some d ↔ _
  rw [addDays?_eq_some]
  unfold weekday weeksAfter
  omega

theorem isNthOfMonth_zero (d : Date) : d.isNthOfMonth 0 = false := rfl

/-- **The date that an ordinal leads to is the one with that place among the weekdays
of the month.** -/
theorem isNthOfMonth_iff (d : Date) (n : Int) : d.isNthOfMonth n = true ↔ d.IsNthWeekday n := by
  have hreverse : ∀ j, (weekdaysOfMonth d.monthNumber d.weekday).reverse[j]? = some d ↔
      j = d.weeksAfter := by
    intro j
    rcases Nat.lt_or_ge j (weekdaysOfMonth d.monthNumber d.weekday).length with h | h
    · rw [List.getElem?_reverse h, getElem?_weekdaysOfMonth]
      rw [length_weekdaysOfMonth] at h ⊢
      omega
    · rw [List.getElem?_eq_none (by simpa using h)]
      rw [length_weekdaysOfMonth] at h
      constructor
      · intro hnone
        cases hnone
      · intro hj
        omega
  unfold IsNthWeekday
  rw [getElem?_weekdaysOfMonth, hreverse]
  rcases Int.lt_trichotomy n 0 with h | rfl | h
  · rw [isNthOfMonth_of_neg d h]
    omega
  · rw [isNthOfMonth_zero]
    constructor
    · intro hzero
      cases hzero
    · intro hzero
      omega
  · rw [isNthOfMonth_of_pos d h]
    omega

/-! ## The months of the calendar -/

theorem length_weekdaysOfMonth_eq (d : Date) :
    (weekdaysOfMonth d.monthNumber d.weekday).length = 4 ∨
      (weekdaysOfMonth d.monthNumber d.weekday).length = 5 := by
  have hpos := d.one_le_day
  have hle := d.day_le
  have hlength : 28 ≤ d.monthLength ∧ d.monthLength ≤ 31 :=
    daysInMonth_bounds d.year d.one_le_month d.month_le
  rw [length_weekdaysOfMonth]
  unfold weeksBefore weeksAfter
  omega

/-- The first seven days of a month have all weekdays. -/
theorem exists_weekday {year month weekday : Nat} (hyear : 1 ≤ year ∧ year ≤ 9999)
    (hmonth : 1 ≤ month ∧ month ≤ 12) (hweekday : weekday ≤ 6) :
    ∃ d : Date, d.year = year ∧ d.month = month ∧ d.weekday = weekday := by
  have hlength := (daysInMonth_bounds year hmonth.1 hmonth.2).1
  obtain ⟨origin, horigin⟩ := exists_ofCivil? hyear.1 hyear.2 hmonth.1 hmonth.2 (Nat.le_refl 1)
    (one_le_daysInMonth year hmonth.1 hmonth.2)
  obtain ⟨rfl, rfl, hfirst⟩ := ofCivil?_eq_some.mp horigin
  obtain ⟨d, hd⟩ := exists_ofCivil? hyear.1 hyear.2 hmonth.1 hmonth.2
    (k := 1 + (weekday + 7 - origin.weekday) % 7) (by omega) (by omega)
  obtain ⟨hyear', hmonth', hday⟩ := ofCivil?_eq_some.mp hd
  refine ⟨d, hyear', hmonth', ?_⟩
  have hnumber := d.dayNumber_eq
  have horigin' := origin.dayNumber_eq
  simp only [daysBeforeItsMonth, hyear', hmonth', hday] at hnumber
  simp only [daysBeforeItsMonth, hfirst] at horigin'
  unfold Date.weekday at *
  omega

end Date

/-! ## Ordinals as matchers -/

namespace Matcher

/-- A date answers to two ordinals of its weekday: its place from the first such date
of the month on, and its place from the last one back. -/
theorem includes_ordinalWeekday {month weekday i : Nat} {d : Date}
    (h : (weekdaysOfMonth month weekday)[i]? = some d) (n : Int) :
    (ordinalWeekday n weekday).includes (.date d) =
      .ok (decide (n = i + 1 ∨ n = i - (weekdaysOfMonth month weekday).length)) := by
  obtain ⟨rfl, rfl⟩ := Date.mem_weekdaysOfMonth.mp (List.mem_of_getElem? h)
  have hplace := (d.getElem?_weekdaysOfMonth i).mp h
  have hlength := d.length_weekdaysOfMonth
  have hself : ((d.weekday : Int) == d.weekday) = true := beq_self_eq_true _
  rw [includes, Stamp.civilDate, hself, Bool.true_and]
  refine congrArg Except.ok (Bool.eq_iff_iff.mpr ?_)
  rw [decide_eq_true_iff]
  rcases Int.lt_trichotomy n 0 with hn | rfl | hn
  · rw [d.isNthOfMonth_of_neg hn]
    omega
  · rw [d.isNthOfMonth_zero]
    constructor
    · intro hzero
      cases hzero
    · intro hzero
      omega
  · rw [d.isNthOfMonth_of_pos hn]
    omega

theorem includes_ordinalWeekday_of_ne {weekday : Nat} {d : Date} (h : d.weekday ≠ weekday)
    (n : Int) : (ordinalWeekday n weekday).includes (.date d) = .ok false := by
  have hne : ((d.weekday : Int) == weekday) = false :=
    beq_eq_false_iff_ne.mpr fun heq => h (Int.ofNat_inj.mp heq)
  rw [includes, Stamp.civilDate, hne, Bool.false_and]

/-- A date of the month is on another weekday, or has a place among the dates on the
weekday. -/
theorem includes_ordinalWeekday_cases {month : Nat} (weekday : Nat) {d : Date}
    (h : d.monthNumber = month) :
    (d ∉ weekdaysOfMonth month weekday ∧
      ∀ n, (ordinalWeekday n weekday).includes (.date d) = .ok false) ∨
    ∃ i : Nat, (weekdaysOfMonth month weekday)[i]? = some d ∧
      ∀ n, (ordinalWeekday n weekday).includes (.date d) =
        .ok (decide (n = i + 1 ∨ n = i - (weekdaysOfMonth month weekday).length)) := by
  by_cases hd : d.weekday = weekday
  · obtain ⟨i, hi⟩ := List.mem_iff_getElem?.mp (Date.mem_weekdaysOfMonth.mpr ⟨h, hd⟩)
    exact .inr ⟨i, hi, includes_ordinalWeekday hi⟩
  · exact .inl ⟨fun hmem => hd (Date.mem_weekdaysOfMonth.mp hmem).2,
      includes_ordinalWeekday_of_ne hd⟩

/-- **An ordinal weekday selects one day of a month, or none.**  A month has four or five dates on
a weekday.  The ordinals from one on select them in order, those from minus one down select the
same dates from the last one back, and no other ordinal selects a day of the month.  None of this
can fail, whatever the ordinal. -/
theorem ordinalWeekday_selects_one_day {year month weekday : Nat} (hyear : 1 ≤ year ∧ year ≤ 9999)
    (hmonth : 1 ≤ month ∧ month ≤ 12) (hweekday : weekday ≤ 6) :
    ∃ days : List Date, days.Pairwise (· < ·) ∧
      (∀ d, d ∈ days ↔ d.year = year ∧ d.month = month ∧ d.weekday = weekday) ∧
      (days.length = 4 ∨ days.length = 5) ∧
      (∀ (n : Int) (d : Date), d.year = year → d.month = month →
        ∃ b, (ordinalWeekday n weekday).includes (.date d) = .ok b) ∧
      (∀ n : Int, 1 ≤ n → n ≤ days.length → ∃ nth, days[(n - 1).toNat]? = some nth ∧
        ∀ d : Date, d.year = year → d.month = month →
          ((ordinalWeekday n weekday).includes (.date d) = .ok true ↔ d = nth)) ∧
      (∀ n : Int, -days.length ≤ n → n ≤ -1 → ∀ d : Date, d.year = year → d.month = month →
        (ordinalWeekday n weekday).includes (.date d) =
          (ordinalWeekday (days.length + 1 + n) weekday).includes (.date d)) ∧
      ∀ n : Int, n < -days.length ∨ n = 0 ∨ days.length < n →
        ∀ d : Date, d.year = year → d.month = month →
          (ordinalWeekday n weekday).includes (.date d) = .ok false := by
  obtain ⟨member, rfl, rfl, rfl⟩ := Date.exists_weekday hyear hmonth hweekday
  have hmonth : ∀ {d : Date}, d.year = member.year → d.month = member.month →
      d.monthNumber = member.monthNumber :=
    fun hy hm => Date.monthNumber_eq_iff_year_month.mpr ⟨hy, hm⟩
  have hsorted : (weekdaysOfMonth member.monthNumber member.weekday).Pairwise (· < ·) :=
    (pairwise_datesFromTo _ _).filter _
  refine ⟨weekdaysOfMonth member.monthNumber member.weekday, hsorted, fun d => ?_,
    member.length_weekdaysOfMonth_eq, fun n d hy hm => ?_, fun n hone hle => ?_,
    fun n hlow hhigh d hy hm => ?_, fun n hn d hy hm => ?_⟩
  · rw [Date.mem_weekdaysOfMonth, Date.monthNumber_eq_iff_year_month, and_assoc]
  · rcases includes_ordinalWeekday_cases member.weekday (hmonth hy hm) with
      ⟨-, hno⟩ | ⟨i, -, hplace⟩
    · exact ⟨_, hno n⟩
    · exact ⟨_, hplace n⟩
  · have hlt : (n - 1).toNat < (weekdaysOfMonth member.monthNumber member.weekday).length := by
      omega
    refine ⟨_, List.getElem?_eq_getElem hlt, fun d hy hm => ?_⟩
    rcases includes_ordinalWeekday_cases member.weekday (hmonth hy hm) with
      ⟨hnot, hno⟩ | ⟨i, hd, hplace⟩
    · rw [hno n]
      constructor
      · intro hyes
        cases hyes
      · rintro rfl
        exact absurd (List.getElem_mem hlt) hnot
    · obtain ⟨hi, rfl⟩ := List.getElem?_eq_some_iff.mp hd
      -- No date has two places.
      have hnodup := hsorted.imp Date.ne_of_lt
      rw [hplace n, Except.ok.injEq, decide_eq_true_iff, List.Nodup.getElem_inj_iff hnodup]
      omega
  · rcases includes_ordinalWeekday_cases member.weekday (hmonth hy hm) with
      ⟨-, hno⟩ | ⟨i, hd, hplace⟩
    · rw [hno, hno]
    · have hi := (List.getElem?_eq_some_iff.mp hd).1
      rw [hplace, hplace]
      refine congrArg Except.ok (decide_eq_decide.mpr ?_)
      omega
  · rcases includes_ordinalWeekday_cases member.weekday (hmonth hy hm) with
      ⟨-, hno⟩ | ⟨i, hd, hplace⟩
    · exact hno n
    · have hi := (List.getElem?_eq_some_iff.mp hd).1
      rw [hplace]
      refine congrArg Except.ok (decide_eq_false ?_)
      omega

/-- The calendar ends on the fifth Friday of a month: the fifth ordinal and minus one both lead
to 9999-12-31, and an ordinal beyond all calendars leads nowhere. -/
theorem ordinalWeekday_selects_lastFriday :
    (ordinalWeekday 5 4).includes (.date .last) = .ok true ∧
      (ordinalWeekday (-1) 4).includes (.date .last) = .ok true ∧
      (ordinalWeekday 1000000000000000000000000000000 4).includes (.date .last) = .ok false := by
  have hyear : Date.last.year = 9999 := by decide
  have hmonth : Date.last.month = 12 := by decide
  obtain ⟨days, hsorted, hmem, -, -, hfirst, hlast, hnone⟩ :=
    ordinalWeekday_selects_one_day (show 1 ≤ 9999 ∧ 9999 ≤ 9999 by decide)
      (show 1 ≤ 12 ∧ 12 ≤ 12 by decide) (show 4 ≤ 6 by decide)
  have hdays : days = weekdaysOfMonth Date.last.monthNumber Date.last.weekday := by
    refine List.Pairwise.eq_of_mem_iff hsorted ((pairwise_datesFromTo _ _).filter _) fun d => ?_
    rw [hmem, Date.mem_weekdaysOfMonth, Date.monthNumber_eq_iff_year_month, hyear, hmonth,
      and_assoc]
    rfl
  have hlength : days.length = 5 := by
    rw [hdays, Date.length_weekdaysOfMonth]
    decide
  have hfifth : days[4]? = some .last := by
    rw [hdays, Date.getElem?_weekdaysOfMonth]
    decide
  rw [hlength] at hfirst hlast hnone
  obtain ⟨nth, hnth, hselects⟩ := hfirst 5 (by decide) (by decide)
  cases hfifth.symm.trans hnth
  have hyes := (hselects .last hyear hmonth).mpr rfl
  exact ⟨hyes, (hlast (-1) (by decide) (by decide) .last hyear hmonth).trans hyes,
    hnone _ (by decide) .last hyear hmonth⟩

end Matcher

end Recurrence
