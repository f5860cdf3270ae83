import Recurrence.Proofs.Rule.Failure

/-! # Built expressions are well formed

Not every expression can be evaluated on dates: one with a bare matcher in it cannot,
nor one that compares with a date-time.  The expressions made from rule tables have
neither (`RuleTable.isWellFormed_expression`).  All their matchers are about dates,
their numbers of weekdays lie between Monday's and Sunday's, and their intervals are
the one of the table, so evaluation gives an answer on every date of the calendar
(`Expression.IsWellFormed.exists_evaluate`).
-/
namespace Recurrence
variable {units : Int → Prop}

/-- The matcher is about dates: it compares with dates, counts in units of a permitted
number, and knows seven weekdays. -/
inductive Matcher.IsWellFormed (units : Int → Prop) : Matcher → Prop
  /-- The dates after a date. -/
  | after (boundary : Date) : IsWellFormed units (.after (.date boundary))
  /-- The dates up to a date. -/
  | before (boundary : Date) : IsWellFormed units (.before (.date boundary))
  /-- Every so many units. -/
  | everyNUnits {anchor : Date} {interval : Interval} {u : TimeUnit} :
      units interval.count → IsWellFormed units (.everyNUnits anchor interval u)
  /-- Every so many days. -/
  | dayInterval {anchor : Date} {interval : Interval} :
      units interval.count → IsWellFormed units (.dayInterval anchor interval)
  /-- A weekday. -/
  | weekday {number : Int} : 0 ≤ number → number ≤ 6 → IsWellFormed units (.weekday number)
  /-- A weekday of a certain number in its month. -/
  | ordinalWeekday (ordinal : Int) {number : Int} : 0 ≤ number → number ≤ 6 →
      IsWellFormed units (.ordinalWeekday ordinal number)
  /-- A day of the month. -/
  | dayOfMonth (n : Int) : IsWellFormed units (.dayOfMonth n)
  /-- The days of the month between two. -/
  | dayOfMonthRange (first last : Int) : IsWellFormed units (.dayOfMonthRange first last)
  /-- A month. -/
  | month (number : Int) : IsWellFormed units (.month number)

/-- A combination of wrapped matchers that are well formed. -/
inductive Expression.IsWellFormed (units : Int → Prop) : Expression → Prop
  /-- A matcher. -/
  | leaf {m : Matcher} : m.IsWellFormed units → IsWellFormed units (.leaf m)
  /-- Both parts. -/
  | and {left right : Expression} : IsWellFormed units left → IsWellFormed units right →
      IsWellFormed units (.and left right)
  /-- One of the parts. -/
  | or {left right : Expression} : IsWellFormed units left → IsWellFormed units right →
      IsWellFormed units (.or left right)

/-! ## Evaluation -/

theorem Matcher.IsWellFormed.exists_includes {m : Matcher} (h : m.IsWellFormed units) (d : Date) :
    ∃ b, m.includes (.date d) = .ok b := by
  cases h with
  | everyNUnits => exact ⟨_, includes_everyNUnits ..⟩
  | dayInterval => exact ⟨_, includes_everyNUnits _ _ .day d⟩
  | after | before | weekday | ordinalWeekday | dayOfMonth | dayOfMonthRange | month =>
    exact ⟨_, rfl⟩

namespace Expression

/-- **Well-formed expressions evaluate without error on every date.** -/
theorem IsWellFormed.exists_evaluate {e : Expression} (h : e.IsWellFormed units) (d : Date) :
    ∃ b, e.evaluate (.date d) = .ok b := by
  induction h with
  | leaf hm => exact hm.exists_includes d
  -- The right part is evaluated only where the left one does not decide.
  | and _ _ ihleft ihright =>
    obtain ⟨a, ha⟩ := ihleft
    rw [evaluate, ha]
    cases a with
    | true => exact ihright
    | false => exact ⟨false, rfl⟩
  | or _ _ ihleft ihright =>
    obtain ⟨a, ha⟩ := ihleft
    rw [evaluate, ha]
    cases a with
    | true => exact ⟨true, rfl⟩
    | false => exact ihright

/-! ## Combinations -/

theorem IsWellFormed.wrap_eq {e : Expression} (h : e.IsWellFormed units) : e.wrap = e := by
  cases h with
  | leaf | and | or => rfl

theorem IsWellFormed.join {left right : Expression} (c : Connective)
    (hleft : left.IsWellFormed units) (hright : right.IsWellFormed units) :
    (join c left right).IsWellFormed units := by
  cases c with
  | and => exact .and hleft hright
  | or => exact .or hleft hright

theorem isWellFormed_combine {c : Connective} {parts : List Expression} {e : Expression}
    (hparts : ∀ part ∈ parts, part.IsWellFormed units) (h : combine c parts = .ok e) :
    e.IsWellFormed units := by
  cases parts with
  | nil => cases h
  | cons first rest =>
    cases h
    -- Along the fold: what is joined so far is well formed, and so is the next part.
    refine List.foldlRecOn rest _ ?_ fun left hleft right hright => ?_
    · have hfirst := hparts first List.mem_cons_self
      rwa [hfirst.wrap_eq]
    · have hright := hparts right (List.mem_cons_of_mem first hright)
      rw [hright.wrap_eq]
      exact hleft.join c hright

end Expression

/-! ## Weekdays -/

theorem Weekday.number_le (w : Weekday) : w.number ≤ 6 := by
  cases w <;> decide

theorem ByDay.isWellFormed_matcher (day : ByDay) : day.matcher.IsWellFormed units := by
  cases day with
  | every w => exact .weekday (Int.natCast_nonneg _) (Int.ofNat_le.mpr w.number_le)
  | nth n w => exact .ordinalWeekday n (Int.natCast_nonneg _) (Int.ofNat_le.mpr w.number_le)

theorem Date.isWellFormed_weekday (d : Date) :
    (Expression.leaf (.weekday d.weekday)).IsWellFormed units :=
  .leaf (.weekday (Int.natCast_nonneg _) (Int.ofNat_le.mpr (Nat.le_of_lt_succ d.weekday_lt)))

namespace RuleTable
variable {t : RuleTable} {today start : Date} {e : Expression}

/-! ## The parts -/

theorem isWellFormed_startPart (h : startPart start = .ok e) : e.IsWellFormed units := by
  unfold startPart at h
  split at h
  · cases h
    exact .leaf (.after _)
  · cases h

theorem isWellFormed_endPart {parts : List Expression} (h : t.endPart today = .ok parts) :
    ∀ part ∈ parts, part.IsWellFormed units := by
  obtain ⟨bound, -, rfl⟩ := except_map_eq_ok.mp h
  intro part hpart
  obtain ⟨last, -, rfl⟩ := Option.map_eq_some_iff.mp (Option.mem_toList.mp hpart)
  exact .leaf (.before _)

theorem isWellFormed_weekdaysPart (h : t.weekdaysPart = .ok e) : e.IsWellFormed units := by
  obtain ⟨days, -, h⟩ := except_bind_eq_ok.mp h
  refine Expression.isWellFormed_combine (fun part hpart => ?_) h
  obtain ⟨day, -, rfl⟩ := List.mem_map.mp hpart
  exact .leaf day.isWellFormed_matcher

theorem isWellFormed_numbersPart {key : RuleKey} {matcher : Int → Matcher}
    (hmatcher : ∀ n, (matcher n).IsWellFormed units) (h : t.numbersPart key matcher = .ok e) :
    e.IsWellFormed units := by
  obtain ⟨numbers, -, h⟩ := except_bind_eq_ok.mp h
  refine Expression.isWellFormed_combine (fun part hpart => ?_) h
  obtain ⟨n, -, rfl⟩ := List.mem_map.mp hpart
  exact .leaf (hmatcher n)

theorem isWellFormed_monthlyPart (h : t.monthlyPart start = .ok e) : e.IsWellFormed units := by
  unfold monthlyPart at h
  split_ifs at h
  · exact isWellFormed_weekdaysPart h
  · exact isWellFormed_numbersPart .dayOfMonth h
  · cases h
    exact .leaf (.dayOfMonthRange _ _)

theorem isWellFormed_yearlyPart (h : t.yearlyPart start = .ok e) : e.IsWellFormed units := by
  rw [yearlyPart_eq] at h
  obtain ⟨months, hmonths, h⟩ := except_bind_eq_ok.mp h
  obtain ⟨days, hdays, h⟩ := except_bind_eq_ok.mp h
  have hm : months.IsWellFormed units := by
    split_ifs at hmonths
    · exact isWellFormed_numbersPart .month hmonths
    · cases hmonths
      exact .leaf (.month _)
  have hd : days.IsWellFormed units := by
    split_ifs at hdays
    · exact isWellFormed_weekdaysPart hdays
    · cases hdays
      exact .leaf (.dayOfMonth _)
  refine Expression.isWellFormed_combine (fun part hpart => ?_) h
  rcases List.mem_pair.mp hpart with rfl | rfl
  · exact hm
  · exact hd

theorem isWellFormed_frequencyPart {interval : Interval} {f : Frequency}
    (hunits : units interval.count) (h : t.frequencyPart start interval f = .ok e) :
    e.IsWellFormed units := by
  cases f with
  | daily =>
    cases h
    exact .leaf (.dayInterval hunits)
  | weekly =>
    unfold frequencyPart at h
    split_ifs at h
    · exact isWellFormed_weekdaysPart h
    · cases h
      exact start.isWellFormed_weekday
  | monthly => exact isWellFormed_monthlyPart h
  | yearly => exact isWellFormed_yearlyPart h

theorem isWellFormed_unitPart {interval : Interval} {f : Frequency}
    (hunits : units interval.count) :
    ∀ part ∈ unitPart start interval f, part.IsWellFormed units := by
  intro part hpart
  unfold unitPart at hpart
  split_ifs at hpart
  · cases hpart
  · rw [List.mem_singleton.mp hpart]
    exact .leaf (.everyNUnits hunits)

theorem isWellFormed_recurrenceParts {parts : List Expression}
    (hunits : ∀ k, t.HasInterval k → units k) (h : (t.recurrenceParts start).result = .ok parts) :
    ∀ part ∈ parts, part.IsWellFormed units := by
  obtain ⟨found, -, h⟩ := Outcome.result_bind_eq_ok.mp h
  cases found with
  | none =>
    cases h
    exact fun part hpart => nomatch hpart
  | some f =>
    obtain ⟨interval, hinterval, h⟩ := Outcome.result_bind_eq_ok.mp h
    obtain ⟨days, hdays, h⟩ := Outcome.result_bind_eq_ok.mp h
    cases h
    -- One interval is read, and both the unit and the days count by it.
    have hcount := hunits _ (hasInterval_of_interval hinterval)
    intro part hpart
    rcases List.mem_append.mp hpart with hpart | hpart
    · exact isWellFormed_unitPart hcount part hpart
    · rw [List.mem_singleton.mp hpart]
      exact isWellFormed_frequencyPart hcount hdays

/-! ## The whole -/

theorem isWellFormed_parts {parts : List Expression} (hunits : ∀ k, t.HasInterval k → units k)
    (h : (t.parts today start).result = .ok parts) : ∀ part ∈ parts, part.IsWellFormed units := by
  obtain ⟨first, hfirst, h⟩ := Outcome.result_bind_eq_ok.mp h
  obtain ⟨recurrence, hrecurrence, h⟩ := Outcome.result_bind_eq_ok.mp h
  obtain ⟨last, hlast, h⟩ := Outcome.result_bind_eq_ok.mp h
  cases h
  rw [Outcome.result_liftM_rule, mapError_eq_ok] at hlast
  intro part hpart
  rcases List.mem_append.mp hpart with hpart | hpart
  · rcases List.mem_cons.mp hpart with rfl | hpart
    · exact isWellFormed_startPart hfirst
    · exact isWellFormed_recurrenceParts hunits hrecurrence part hpart
  · exact isWellFormed_endPart hlast part hpart

/-- **The expression of a table is well formed**, with the interval of the table. -/
theorem isWellFormed_expression (hunits : ∀ k, t.HasInterval k → units k)
    (h : (t.expression today start).result = .ok e) : e.IsWellFormed units := by
  obtain ⟨parts, hparts, h⟩ := Outcome.result_bind_eq_ok.mp h
  exact Expression.isWellFormed_combine (isWellFormed_parts hunits hparts) h

/-- A build from rules that were read has something to combine wherever it combines. -/
theorem IsRead.ne_emptyCombination {err : Error} (read : t.IsRead) (h : t.Fault today start err)
    (c : Connective) : err ≠ .emptyCombination c := by
  cases h with
  | emptyList key has hnil => exact absurd hnil (read.valuesOf_ne_nil has)
  | firstDate | frequency | interval | number | weekday | ordinal | ending =>
    rintro ⟨⟩

theorem Fault.ne_intervalNotPositive {err : Error} (h : t.Fault today start err) (n : Int) :
    err ≠ .intervalNotPositive n := by
  cases h <;> rintro ⟨⟩

/-- **What is built from rules that were read never fails.**  If it is built, its matchers are
wrapped and about dates, its intervals are that of the table and at least one, its weekdays lie
between 0 and 6, and it evaluates to an answer on every date of the calendar.  If it is not built,
the error is neither that of an interval below one nor that of a combination of nothing. -/
theorem expression_is_total {rules : List Text} {t : RuleTable} (read : parse rules = .ok t)
    (start : DateTime) :
    (∀ e, (t.expression today start.date).result = .ok e →
      e.IsWellFormed (fun k => 1 ≤ k ∧ t.HasInterval k) ∧
        ∀ d, ∃ b, e.evaluate (.date d) = .ok b) ∧
    ∀ err, (t.expression today start.date).result = .error err →
      (∀ n, err ≠ .intervalNotPositive n) ∧ ∀ c, err ≠ .emptyCombination c := by
  constructor
  · intro e built
    have hformed : e.IsWellFormed (fun k => 1 ≤ k ∧ t.HasInterval k) :=
      isWellFormed_expression (fun k hk => ⟨hk.one_le, hk⟩) built
    exact ⟨hformed, hformed.exists_evaluate⟩
  · intro err failed
    have hfault := fault_of_expression failed
    exact ⟨hfault.ne_intervalNotPositive, (isRead_of_parse read).ne_emptyCombination hfault⟩

set_option maxRecDepth 100000 in
/-- An interval below one, a month that does not exist and an ordinal beyond every month: the
expression has one for its interval, and an answer on the last date of the calendar.  A list of two
empty tokens is refused, and not for being empty. -/
theorem expression_is_total_lastDate :
    (∃ t e, parse ["FREQ=YEARLY;INTERVAL=-3".toList, "BYMONTH=12,13;BYDAY=-1FR,99MO".toList] =
        .ok t ∧
      (t.expression .epoch (DateTime.ofDate ⟨2, by decide, by decide⟩).date).result = .ok e ∧
      e.IsWellFormed (fun k => 1 ≤ k ∧ t.HasInterval k) ∧
      ∃ b, e.evaluate (.date .last) = .ok b) ∧
    ∃ t err, parse ["FREQ=WEEKLY;BYDAY=,".toList] = .ok t ∧
      (t.expression .epoch (DateTime.ofDate ⟨2, by decide, by decide⟩).date).result = .error err ∧
      ∀ c, err ≠ .emptyCombination c := by
  obtain ⟨t, e, ht, he⟩ : ∃ t e,
      parse ["FREQ=YEARLY;INTERVAL=-3".toList, "BYMONTH=12,13;BYDAY=-1FR,99MO".toList] = .ok t ∧
      (t.expression .epoch (DateTime.ofDate ⟨2, by decide, by decide⟩).date).result = .ok e :=
    ⟨_, _, by rfl, by rfl⟩
  obtain ⟨u, err, hu, herr⟩ : ∃ u err, parse ["FREQ=WEEKLY;BYDAY=,".toList] = .ok u ∧
      (u.expression .epoch (DateTime.ofDate ⟨2, by decide, by decide⟩).date).result = .error err :=
    ⟨_, _, by rfl, by rfl⟩
  obtain ⟨hformed, htotal⟩ := (expression_is_total ht _).1 e he
  exact ⟨⟨t, e, ht, he, hformed, htotal .last⟩,
    u, err, hu, herr, ((expression_is_total hu _).2 err herr).2⟩

end RuleTable

end Recurrence
