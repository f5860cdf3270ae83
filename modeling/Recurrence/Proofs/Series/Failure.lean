import Recurrence.Proofs.Rule.Failure
import Recurrence.Proofs.Series.Reading

/-! # How reading an event fails

The texts of an event are read in turn: rules, exceptions, expression, count.  Nearly
all that may be wrong with them is a rule error.  There are two exceptions
(`EventData.series_ofTexts_cases`).  The first date of the calendar has no day before
it, so a series cannot start there; and the ordinal of a weekday token is not
converted if it has too many digits.
-/
namespace Recurrence

theorem Stamp.date_atMidnight (s : Stamp) : s.atMidnight.date = s.civilDate := by
  cases s <;> rfl

/-- A date or a date-time as a datum. -/
def Value.ofStamp : Stamp → Value
  | .date d => .date d
  | .dateTime t => .dateTime t

namespace EventData

/-- The event with a date or a date-time as its start, and texts as its rules and exceptions. -/
def ofTexts (start : Stamp) (rules exceptions : List Text) : EventData :=
  ⟨.ofStamp start, .list (rules.map .text), .list (exceptions.map .text)⟩

variable {today : Date} (start : Stamp) (rules exceptions : List Text)

/-! ## The fields -/

theorem startTime_ofTexts :
    (ofTexts start rules exceptions).startTime = .ok start.atMidnight := by
  cases start <;> rfl

theorem ruleTable_ofTexts :
    (ofTexts start rules exceptions).ruleTable = (RuleTable.parse rules).mapError .rule := by
  have hread : (rules.map Value.text).mapM readRule =
      (rules.mapM RuleTable.readRule).mapError .rule := by
    rw [← mapM_mapError, List.mapM_map]
    rfl
  rw [ruleTable, ofTexts, members_list, RuleTable.parse]
  change (rules.map Value.text).mapM readRule >>= _ = _
  rw [hread]
  cases rules.mapM RuleTable.readRule <;> rfl

theorem exceptionTimes_ofTexts :
    (ofTexts start rules exceptions).exceptionTimes today =
      (exceptions.mapM fun s => Timestamp.parse today (.text s)).mapError .rule := by
  rw [← mapM_mapError, exceptionTimes, ofTexts, members_list]
  exact List.mapM_map

/-! ## The event -/

/-- A reading fails with a rule error, or by a fault that keeps the rules from having an
expression. -/
theorem error_of_series_ofTexts {err : Error}
    (h : ((ofTexts start rules exceptions).series today).result = .error err) :
    (∃ r, err = .rule r) ∨
      ∃ t, RuleTable.parse rules = .ok t ∧ t.Fault today start.civilDate err := by
  rw [result_series] at h
  rcases Outcome.result_bind_eq_error.mp h with hstart | ⟨time, hstart, h⟩
  · cases (startTime_ofTexts start rules exceptions).symm.trans hstart
  cases (startTime_ofTexts start rules exceptions).symm.trans hstart
  rcases Outcome.result_bind_eq_error.mp h with hrules | ⟨t, hrules, h⟩
  · obtain ⟨r, -, rfl⟩ :=
      mapError_eq_error.mp ((ruleTable_ofTexts start rules exceptions).symm.trans hrules)
    exact .inl ⟨r, rfl⟩
  have hparse := mapError_eq_ok.mp ((ruleTable_ofTexts start rules exceptions).symm.trans hrules)
  rcases Outcome.result_bind_eq_error.mp h with hexceptions | ⟨times, -, h⟩
  · obtain ⟨r, -, rfl⟩ :=
      mapError_eq_error.mp ((exceptionTimes_ofTexts start rules exceptions).symm.trans hexceptions)
    exact .inl ⟨r, rfl⟩
  rcases Outcome.result_bind_eq_error.mp h with hexpression | ⟨e, -, h⟩
  · rw [Stamp.date_atMidnight] at hexpression
    exact .inr ⟨t, hparse, RuleTable.fault_of_expression hexpression⟩
  rcases Outcome.result_bind_eq_error.mp h with hcount | ⟨n, -, h⟩
  · obtain ⟨r, -, rfl⟩ := mapError_eq_error.mp hcount
    exact .inl ⟨r, rfl⟩
  · cases h

/-- **An event of texts is read, or fails with a rule error, but for two cases.**  One is
a start on the first date of the calendar.  The other is a weekday token among the
rules whose ordinal has more digits than are converted. -/
theorem series_ofTexts_cases :
    (∃ s, ((ofTexts start rules exceptions).series today).result = .ok s) ∨
      (∃ r, ((ofTexts start rules exceptions).series today).result = .error (.rule r)) ∨
      (start.civilDate = .first ∧
        ((ofTexts start rules exceptions).series today).result = .error .outsideCalendar) ∨
      ∃ t, RuleTable.parse rules = .ok t ∧ ∃ token ∈ t.valuesOf .byDay,
        Text.digitLimit < ByDay.ordinalLength token ∧
        ((ofTexts start rules exceptions).series today).result =
          .error (.tooManyDigits (ByDay.ordinalLength token)) := by
  rcases h : ((ofTexts start rules exceptions).series today).result with err | s
  · right
    rcases error_of_series_ofTexts start rules exceptions h with ⟨r, rfl⟩ | ⟨t, hparse, hfault⟩
    · exact .inl ⟨r, rfl⟩
    · cases hfault with
      | firstDate hfirst => exact .inr (.inl ⟨hfirst, rfl⟩)
      | ordinal token hmem hlong => exact .inr (.inr ⟨t, hparse, token, hmem, hlong, rfl⟩)
      | emptyList key has hnil =>
        exact absurd hnil ((RuleTable.isRead_of_parse hparse).valuesOf_ne_nil has)
      | frequency | interval | number | weekday | ending => exact .inl ⟨_, rfl⟩
  · exact .inl ⟨s, rfl⟩

set_option maxRecDepth 100000 in
/-- A daily series cannot start on 0001-01-01, and the error is no rule error. -/
theorem series_ofTexts_firstDate :
    ∃ err, ((ofTexts (.date .first) ["FREQ=DAILY".toList] []).series .epoch).result = .error err ∧
      err.isRuleError = false :=
  ⟨_, by rfl, by rfl⟩

end EventData

end Recurrence
