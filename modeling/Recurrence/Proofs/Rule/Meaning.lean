import Recurrence.Proofs.Expression.Meaning
import Recurrence.Proofs.Outcome
import Recurrence.Rule.Expression

/-! # What a rule table means on the calendar

`RuleTable.Recurs` says, in terms of the calendar alone, on which dates a series
with some rules and a start may recur: not before the start, not after the end, and
in every `k`-th unit of the frequency on the days that the other keys ask for.  It
reads the texts of the table and the numbers of days, weeks, months and years; it
knows no matchers and no expressions.

Each part of the expression of a table means one clause of it, so the expression
means all of it (`RuleTable.means_expression`), whatever the table.
-/
namespace Recurrence

/-- What a weekday token asks for: a weekday, and with an ordinal also a place
among the dates of the month on that weekday. -/
def ByDay.HoldsOn : ByDay → Date → Prop
  | .every w, d => d.weekday = w.number
  | .nth n w, d => d.weekday = w.number ∧ d.IsNthWeekday n

namespace RuleTable

/-- Some weekday token of the table asks for the date. -/
def AsksForWeekday (t : RuleTable) (d : Date) : Prop :=
  ∃ token ∈ t.valuesOf .byDay, ∃ day, ByDay.parse token = .ok day ∧ day.HoldsOn d

/-- Some value of a key is an integer with the property. -/
def AsksForNumber (t : RuleTable) (key : RuleKey) (P : Int → Prop) : Prop :=
  ∃ value ∈ t.valuesOf key, ∃ n, parseNumber key value = .ok n ∧ P n

/-- The interval of the table is `k`: one if it is absent or below one. -/
def HasInterval (t : RuleTable) (k : Int) : Prop :=
  match t.scalar? .interval with
  | none => k = 1
  | some value => ∃ n, parseNumber .interval value = .ok n ∧ k = max n 1

/-- The dates that a frequency asks for in every `k`-th of its units from the start
on. -/
def FrequencyAsks (t : RuleTable) (start : Date) (k : Int) (d : Date) : Frequency → Prop
  | .daily => k ∣ (d.dayNumber : Int) - start.dayNumber
  | .weekly =>
    k ∣ (d.weekNumber : Int) - start.weekNumber ∧
      if t.has .byDay then t.AsksForWeekday d else d.weekday = start.weekday
  | .monthly =>
    k ∣ (d.monthNumber : Int) - start.monthNumber ∧
      if t.has .byDay then t.AsksForWeekday d
      else if t.has .byMonthDay then t.AsksForNumber .byMonthDay d.IsMonthDay
      else d.day = start.day
  | .yearly =>
    k ∣ (d.year : Int) - start.year ∧
      (if t.has .byMonth then t.AsksForNumber .byMonth ((d.month : Int) = ·)
        else d.month = start.month) ∧
      if t.has .byDay then t.AsksForWeekday d else d.day = start.day

/-- A series with these rules and this start may recur on the date. -/
structure Recurs (t : RuleTable) (today start d : Date) : Prop where
  /-- The date is not before the start. -/
  notBefore : start ≤ d
  /-- With a last possible date, the date is not after it. -/
  notAfter : ∀ text, t.scalar? .until = some text →
    ∃ last, Timestamp.parse today (.text text) = .ok last ∧ d ≤ last.date
  /-- With a frequency, the frequency asks for the date. -/
  asked : ∀ word, t.scalar? .freq = some word →
    ∃ f k, Frequency.parse word = .ok f ∧ t.HasInterval k ∧ t.FrequencyAsks start k d f

theorem HasInterval.unique {t : RuleTable} {k l : Int} (hk : t.HasInterval k)
    (hl : t.HasInterval l) : k = l := by
  unfold HasInterval at hk hl
  cases hvalue : t.scalar? .interval with
  | none =>
    simp only [hvalue] at hk hl
    rw [hk, hl]
  | some value =>
    simp only [hvalue] at hk hl
    obtain ⟨n, hn, rfl⟩ := hk
    obtain ⟨m, hm, rfl⟩ := hl
    rw [hn] at hm
    cases hm
    rfl

/-! ## The start and the end -/

theorem means_startPart {start : Date} {e : Expression} (h : startPart start = .ok e) :
    e.Means (start ≤ ·) := by
  unfold startPart at h
  split at h
  · rename_i boundary hboundary
    cases h
    refine (Expression.means_leaf (Matcher.means_after boundary)).congr fun d => ?_
    have hday := Date.addDays?_eq_some.mp hboundary
    rw [Date.lt_iff, Date.le_iff]
    omega
  · cases h

theorem means_endPart {t : RuleTable} {today : Date} {parts : List Expression}
    (h : t.endPart today = .ok parts) :
    Expression.MeanInOrder .and parts fun d => ∀ text, t.scalar? .until = some text →
      ∃ last, Timestamp.parse today (.text text) = .ok last ∧ d ≤ last.date := by
  obtain ⟨bound, hbound, hparts⟩ := except_map_eq_ok.mp h
  subst hparts
  unfold untilDate at hbound
  split at hbound
  · rename_i hnone
    cases hbound
    exact Expression.meanInOrder_and_nil.congr fun d => by simp [hnone]
  · rename_i text htext
    obtain ⟨last, hlast, rfl⟩ := except_map_eq_ok.mp hbound
    refine (Expression.meanInOrder_and_cons
      (Expression.means_leaf (Matcher.means_before last.date))
      Expression.meanInOrder_and_nil).congr fun d => ?_
    simp [htext, hlast]

/-! ## The days of a unit -/

theorem means_byDay (day : ByDay) : (Expression.leaf day.matcher).Means day.HoldsOn := by
  cases day with
  | every w => exact Expression.means_leaf (Matcher.means_weekday w.number)
  | nth n w => exact Expression.means_leaf (Matcher.means_ordinalWeekday n w.number)

theorem means_weekdaysPart {t : RuleTable} {e : Expression} (h : t.weekdaysPart = .ok e) :
    e.Means t.AsksForWeekday := by
  obtain ⟨days, hdays, he⟩ := except_bind_eq_ok.mp h
  refine (Expression.means_of_combine he (Expression.meanInOrder_or_map means_byDay days)).congr
    fun d => ?_
  exact exists_mem_of_mapM_eq_ok hdays (·.HoldsOn d)

theorem means_numbersPart {t : RuleTable} {key : RuleKey} {matcher : Int → Matcher}
    {P : Date → Int → Prop} {e : Expression} (h : t.numbersPart key matcher = .ok e)
    (hm : ∀ n, (matcher n).Means (P · n)) :
    e.Means fun d => t.AsksForNumber key (P d) := by
  obtain ⟨numbers, hnumbers, he⟩ := except_bind_eq_ok.mp h
  refine (Expression.means_of_combine he
    (Expression.meanInOrder_or_map (fun n => Expression.means_leaf (hm n)) numbers)).congr
    fun d => ?_
  rw [exists_mem_of_mapM_eq_ok hnumbers (P d)]
  simp only [mapError_eq_ok]
  rfl

theorem means_monthlyPart {t : RuleTable} {start : Date} {e : Expression}
    (h : t.monthlyPart start = .ok e) :
    e.Means fun d =>
      if t.has .byDay then t.AsksForWeekday d
      else if t.has .byMonthDay then t.AsksForNumber .byMonthDay d.IsMonthDay
      else d.day = start.day := by
  unfold monthlyPart at h
  split at h
  · rename_i hby
    exact (means_weekdaysPart h).congr fun d => by rw [if_pos hby]
  · rename_i hby
    split at h
    · rename_i hnumber
      exact (means_numbersPart h Matcher.means_dayOfMonth).congr fun d => by
        rw [if_neg hby, if_pos hnumber]
    · rename_i hnumber
      cases h
      exact (Expression.means_leaf (Matcher.means_dayOfMonthRange start.day)).congr fun d => by
        rw [if_neg hby, if_neg hnumber]

/-- The months and the days of a year are read one after the other. -/
theorem yearlyPart_eq (t : RuleTable) (start : Date) :
    t.yearlyPart start =
      (if t.has .byMonth then t.numbersPart .byMonth .month
        else .ok (.leaf (.month start.month))) >>= fun months =>
      (if t.has .byDay then t.weekdaysPart
        else .ok (.leaf (.dayOfMonth start.day))) >>= fun days =>
      Expression.allOf [months, days] := by
  unfold yearlyPart
  by_cases hmonth : t.has .byMonth <;> by_cases hday : t.has .byDay <;> simp [hmonth, hday]

theorem means_yearlyPart {t : RuleTable} {start : Date} {e : Expression}
    (h : t.yearlyPart start = .ok e) :
    e.Means fun d =>
      (if t.has .byMonth then t.AsksForNumber .byMonth ((d.month : Int) = ·)
        else d.month = start.month) ∧
      if t.has .byDay then t.AsksForWeekday d else d.day = start.day := by
  rw [yearlyPart_eq] at h
  obtain ⟨months, hmonths, h⟩ := except_bind_eq_ok.mp h
  obtain ⟨days, hdays, he⟩ := except_bind_eq_ok.mp h
  have hm : months.Means fun d =>
      if t.has .byMonth then t.AsksForNumber .byMonth ((d.month : Int) = ·)
      else d.month = start.month := by
    split at hmonths
    · rename_i hby
      exact (means_numbersPart hmonths Matcher.means_month).congr fun d => by rw [if_pos hby]
    · rename_i hby
      cases hmonths
      exact (Expression.means_leaf (Matcher.means_month start.month)).congr fun d => by
        rw [if_neg hby, Int.ofNat_inj]
  have hd : days.Means fun d =>
      if t.has .byDay then t.AsksForWeekday d else d.day = start.day := by
    split at hdays
    · rename_i hby
      exact (means_weekdaysPart hdays).congr fun d => by rw [if_pos hby]
    · rename_i hby
      cases hdays
      refine (Expression.means_leaf (Matcher.means_dayOfMonth start.day)).congr fun d => ?_
      rw [if_neg hby]
      unfold Date.IsMonthDay
      omega
  exact (Expression.means_of_combine he (Expression.meanInOrder_and_cons hm
    (Expression.meanInOrder_and_cons hd Expression.meanInOrder_and_nil))).congr fun d => by
      simp only [and_true]

/-! ## The frequency -/

/-- The number of units that is read is the interval of the table. -/
theorem result_unitCount_eq_ok {t : RuleTable} {k : Int} :
    t.unitCount.result = .ok k ↔ t.HasInterval k := by
  unfold unitCount HasInterval
  cases t.scalar? .interval with
  | none =>
    constructor
    · intro h
      cases h
      rfl
    · rintro rfl
      rfl
  | some value =>
    have hread : ∀ n : Int,
        (if n < 1 then Outcome.warn (.intervalNotPositive n) >>= fun _ => pure 1
          else (pure n : Outcome Int)).result = .ok (max n 1) := by
      intro n
      split
      · rw [Int.max_eq_right (by omega)]
        rfl
      · rw [Int.max_eq_left (by omega)]
        rfl
    refine Outcome.result_bind_eq_ok.trans (exists_congr fun n => ?_)
    rw [Outcome.result_liftM_rule, mapError_eq_ok, hread, Except.ok.injEq, eq_comm (a := k)]

theorem HasInterval.one_le {t : RuleTable} {k : Int} (h : t.HasInterval k) : 1 ≤ k := by
  unfold HasInterval at h
  cases hvalue : t.scalar? .interval with
  | none =>
    simp only [hvalue] at h
    omega
  | some value =>
    simp only [hvalue] at h
    obtain ⟨n, -, rfl⟩ := h
    exact Int.le_max_right n 1

/-- The interval that is read is the interval of the table. -/
theorem hasInterval_of_interval {t : RuleTable} {interval : Interval}
    (h : t.interval.result = .ok interval) : t.HasInterval interval.count := by
  obtain ⟨n, hn, h⟩ := Outcome.result_bind_eq_ok.mp h
  rw [Interval.ofInt_eq_ok.mp h]
  exact result_unitCount_eq_ok.mp hn

theorem means_frequencyPart {t : RuleTable} {start : Date} {interval : Interval} {f : Frequency}
    {e : Expression} (h : t.frequencyPart start interval f = .ok e) :
    Expression.MeanInOrder .and (unitPart start interval f ++ [e])
      fun d => t.FrequencyAsks start interval.count d f := by
  have join : ∀ {u : TimeUnit} {P : Date → Prop}, e.Means P →
      Expression.MeanInOrder .and [.leaf (.everyNUnits start interval u), e] fun d =>
        (interval.count : Int) ∣ (u.number d : Int) - u.number start ∧ P d := by
    intro u P he
    exact (Expression.meanInOrder_and_cons
      (Expression.means_leaf (Matcher.means_everyNUnits start interval u))
      (Expression.meanInOrder_and_cons he Expression.meanInOrder_and_nil)).congr fun d => by
        rw [and_true]
  cases f with
  | daily =>
    cases h
    exact (Expression.meanInOrder_and_cons
      (Expression.means_leaf (Matcher.means_dayInterval start interval))
      Expression.meanInOrder_and_nil).congr fun d => by rw [and_true]; rfl
  | weekly =>
    refine join (u := .week) ?_
    change (if t.has .byDay then t.weekdaysPart else .ok (.leaf (.weekday start.weekday))) = _ at h
    split at h
    · rename_i hby
      exact (means_weekdaysPart h).congr fun d => by rw [if_pos hby]
    · rename_i hby
      cases h
      exact (Expression.means_leaf (Matcher.means_weekday start.weekday)).congr fun d => by
        rw [if_neg hby]
  | monthly => exact join (u := .month) (means_monthlyPart h)
  | yearly => exact join (u := .year) (means_yearlyPart h)

theorem means_recurrenceParts {t : RuleTable} {start : Date} {parts : List Expression}
    (h : (t.recurrenceParts start).result = .ok parts) :
    Expression.MeanInOrder .and parts fun d => ∀ word, t.scalar? .freq = some word →
      ∃ f k, Frequency.parse word = .ok f ∧ t.HasInterval k ∧ t.FrequencyAsks start k d f := by
  obtain ⟨found, hfound, h⟩ := Outcome.result_bind_eq_ok.mp h
  rw [Outcome.result_liftM_rule, mapError_eq_ok] at hfound
  unfold RuleTable.frequency at hfound
  split at hfound
  · rename_i hnone
    cases hfound
    cases h
    exact Expression.meanInOrder_and_nil.congr fun d => by simp [hnone]
  · rename_i word hword
    obtain ⟨f, hf, rfl⟩ := except_map_eq_ok.mp hfound
    obtain ⟨interval, hinterval, h⟩ := Outcome.result_bind_eq_ok.mp h
    obtain ⟨days, hdays, h⟩ := Outcome.result_bind_eq_ok.mp h
    cases h
    refine (means_frequencyPart hdays).congr fun d => ?_
    constructor
    -- The table has one frequency and one interval, whoever reads them.
    · intro hasks other hother
      rw [hword] at hother
      cases hother
      exact ⟨f, interval.count, hf, hasInterval_of_interval hinterval, hasks⟩
    · intro hall
      obtain ⟨g, k, hg, hk, hasks⟩ := hall word hword
      rw [hf] at hg
      cases hg
      rwa [hk.unique (hasInterval_of_interval hinterval)] at hasks

/-! ## The whole -/

theorem means_parts {t : RuleTable} {today start : Date} {parts : List Expression}
    (h : (t.parts today start).result = .ok parts) :
    Expression.MeanInOrder .and parts (t.Recurs today start) := by
  obtain ⟨first, hfirst, h⟩ := Outcome.result_bind_eq_ok.mp h
  obtain ⟨recurrence, hrecurrence, h⟩ := Outcome.result_bind_eq_ok.mp h
  obtain ⟨last, hlast, h⟩ := Outcome.result_bind_eq_ok.mp h
  cases h
  rw [Outcome.result_liftM_rule, mapError_eq_ok] at hlast
  refine (Expression.meanInOrder_and_append
    (Expression.meanInOrder_and_cons (means_startPart hfirst) (means_recurrenceParts hrecurrence))
    (means_endPart hlast)).congr fun d => ?_
  constructor
  · rintro ⟨⟨hstart, hasked⟩, hend⟩
    exact ⟨hstart, hend, hasked⟩
  · rintro ⟨hstart, hend, hasked⟩
    exact ⟨⟨hstart, hasked⟩, hend⟩

/-- The expression of a table means that the series may recur. -/
theorem means_expression {t : RuleTable} {today start : Date} {e : Expression}
    (h : (t.expression today start).result = .ok e) : e.Means (t.Recurs today start) := by
  obtain ⟨parts, hparts, he⟩ := Outcome.result_bind_eq_ok.mp h
  exact Expression.means_of_combine he (means_parts hparts)

/-- **The calendar meaning of a rule table.**  Whatever the table and the start, the
expression built from them can be evaluated on every date of the calendar, and it
is true on exactly the dates on which the series may recur. -/
theorem evaluate_expression_iff_recurs {t : RuleTable} {today : Date} {start : DateTime}
    {e : Expression} (built : (t.expression today start.date).result = .ok e) (d : Date) :
    (∃ b, e.evaluate (.date d) = .ok b) ∧
      (e.evaluate (.date d) = .ok true ↔ t.Recurs today start.date d) :=
  ⟨(means_expression built).exists_evaluate d, (means_expression built).evaluate_iff d⟩

set_option maxRecDepth 100000 in
/-- Every other month from 2025-01-14 on, on the last Friday and the second Tuesday:
2025-03-28 is such a Friday. -/
theorem recurs_lastFriday :
    ∃ e : Expression,
      (expression ⟨[("FREQ".toList, .single "MONTHLY".toList),
          ("INTERVAL".toList, .single ['2']),
          ("BYDAY".toList, .list ["-1FR".toList, "2TU".toList]),
          ("UNTIL".toList, .single "20251231".toList)]⟩
        .epoch (DateTime.ofDate ⟨739265, by decide, by decide⟩).date).result = .ok e ∧
      Recurs ⟨[("FREQ".toList, .single "MONTHLY".toList),
          ("INTERVAL".toList, .single ['2']),
          ("BYDAY".toList, .list ["-1FR".toList, "2TU".toList]),
          ("UNTIL".toList, .single "20251231".toList)]⟩
        .epoch (DateTime.ofDate ⟨739265, by decide, by decide⟩).date
        ⟨739338, by decide, by decide⟩ :=
  ⟨_, by rfl, (evaluate_expression_iff_recurs (by rfl) _).2.mp (by rfl)⟩

end RuleTable

end Recurrence
