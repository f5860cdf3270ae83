import Recurrence.Proofs.Rule.Steps
import Recurrence.Proofs.Series.Whole

/-! # The dates of a series by steps

The dates of a series are found by looking at every day and asking whether the
expression of its rules is true there.  For rules with nothing but a frequency, an
interval and a count the same dates are reached by steps: both lists ascend and have
the same members (`RuleTable.IsPlain.matchesFrom_eq`), so a count takes the same
first dates of each, and a range the same part (`Series.dates_eq_steps`).
-/
namespace Recurrence
variable {today : Date}

namespace RuleTable.IsPlain
variable {t : RuleTable} {f : Frequency} {interval : Interval} {count : Int} {start : Date}
  {e : Expression}

/-- Enough steps to pass the end of the calendar reach every match, and nothing else. -/
theorem matchesFrom_eq (h : t.IsPlain f interval count)
    (built : (t.expression today start).result = .ok e) {steps : Nat}
    (hsteps : lastDayNumber < steps) :
    e.matchesFrom start = f.stepsFrom start interval.count steps := by
  refine (e.pairwise_matchesFrom start).eq_of_mem_iff
    (f.pairwise_stepsFrom start interval.one_le steps) ?_
  intro d
  rw [Expression.mem_matchesFrom, Expression.matchesOn_iff, (means_expression built).evaluate_iff,
    Frequency.mem_stepsFrom interval.one_le hsteps, h.exists_step?_iff_recurs]
  exact and_iff_right_of_imp Recurs.notBefore

/-- The start is reached without a step, so nothing has to be put in front. -/
theorem seriesDates_eq (h : t.IsPlain f interval count)
    (built : (t.expression today start).result = .ok e) {steps : Nat}
    (hsteps : lastDayNumber < steps) :
    seriesDates e start count =
      takeAtMost (countLimit count) (f.stepsFrom start interval.count steps) := by
  have hstart : t.Recurs today start start :=
    (h.exists_step?_iff_recurs start start).mp ⟨0, f.step?_zero start interval.count⟩
  have hyes : e.matchesOn start = true :=
    Expression.matchesOn_iff.mpr (((means_expression built).evaluate_iff start).mpr hstart)
  rw [seriesDates, if_pos hyes, h.matchesFrom_eq built hsteps]

end RuleTable.IsPlain

namespace Series

/-- **Looking at every day finds what stepping reaches.**  Take an event whose rules
have a frequency, an interval and perhaps a count, and nothing else that is read, and
which has no exceptions; let its start not be the first date of the calendar.  It is
read, and in every range its dates are those of the steps that lie there, of the
first so many dates reached if there is a positive count.  Any number of steps will
do that is greater than the number of days of the calendar. -/
theorem dates_eq_steps {event : EventData} {start : DateTime} {t : RuleTable} {f : Frequency}
    {interval : Interval} {count : Int} (hstart : event.startTime = .ok start)
    (hrules : event.ruleTable = .ok t) (hexceptions : event.exceptionTimes today = .ok [])
    (plain : t.IsPlain f interval count) (later : Date.first < start.date)
    (hcount : count < limitBound) :
    ∃ s : Series, (event.series today).result = .ok s ∧
      ∀ (range : DateRange) (steps : Nat), lastDayNumber < steps →
        s.dates range = .ok ((takeAtMost (countLimit count)
          (f.stepsFrom start.date interval.count steps)).filter range.holds) := by
  obtain ⟨e, built⟩ := plain.exists_expression later
  have accepted : (event.series today).result = .ok ⟨start, t, e, count, []⟩ :=
    EventData.series_eq_ok.mpr ⟨hstart, hrules, hexceptions, built, plain.count⟩
  refine ⟨_, accepted, fun range steps hsteps => ?_⟩
  rw [dates_eq_datesIn accepted, RuleTable.datesIn_eq_seriesDates built plain.count hcount,
    plain.seriesDates_eq built hsteps]
  simp

set_option maxRecDepth 100000 in
/-- On the 31st of every month from 2025-01-31 on, three times: February and April
have none. -/
theorem dates_eq_steps_monthly :
    ∃ (s : Series) (dates : List Date),
      ((EventData.mk (.dateTime (.ofDate ⟨739282, by decide, by decide⟩))
        (.list [.text "FREQ=MONTHLY;COUNT=3".toList]) (.list [])).series .epoch).result = .ok s ∧
      s.dates ⟨⟨739282, by decide, by decide⟩, ⟨739410, by decide, by decide⟩⟩ = .ok dates ∧
      dates.map Date.dayNumber = [739282, 739341, 739402] ∧
      dates = (takeAtMost (countLimit 3)
        (Frequency.monthly.stepsFrom ⟨739282, by decide, by decide⟩ 1 4000000)).filter
          (DateRange.holds ⟨⟨739282, by decide, by decide⟩, ⟨739410, by decide, by decide⟩⟩) := by
  have plain : RuleTable.IsPlain
      ⟨[("FREQ".toList, .single "MONTHLY".toList), ("COUNT".toList, .single ['3'])]⟩
      .monthly .one 3 := ⟨by rfl, by rfl, by rfl, by rfl, by rfl, by rfl, by rfl⟩
  have hrules : (EventData.mk (.dateTime (.ofDate ⟨739282, by decide, by decide⟩))
      (.list [.text "FREQ=MONTHLY;COUNT=3".toList]) (.list [])).ruleTable =
      .ok ⟨[("FREQ".toList, .single "MONTHLY".toList), ("COUNT".toList, .single ['3'])]⟩ := by rfl
  obtain ⟨s, accepted, hdates⟩ := dates_eq_steps rfl hrules rfl plain (by decide) (by decide)
  have hreturned := hdates ⟨⟨739282, by decide, by decide⟩, ⟨739410, by decide, by decide⟩⟩
    4000000 (by decide)
  obtain ⟨same, dates, haccepted, hscan, hdays⟩ : ∃ (s : Series) (dates : List Date),
      ((EventData.mk (.dateTime (.ofDate ⟨739282, by decide, by decide⟩))
        (.list [.text "FREQ=MONTHLY;COUNT=3".toList]) (.list [])).series .epoch).result = .ok s ∧
      s.dates ⟨⟨739282, by decide, by decide⟩, ⟨739410, by decide, by decide⟩⟩ = .ok dates ∧
      dates.map Date.dayNumber = [739282, 739341, 739402] := ⟨_, _, by rfl, by rfl, by rfl⟩
  cases accepted.symm.trans haccepted
  exact ⟨s, dates, accepted, hscan, hdays, Except.ok.inj (hscan.symm.trans hreturned)⟩

end Series

end Recurrence
