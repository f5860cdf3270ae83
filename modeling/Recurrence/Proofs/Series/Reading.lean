import Recurrence.Proofs.Rule.Meaning
import Recurrence.Series

/-! # What a reading of an event gives

An event is read successfully if and only if its fields are, and the series then
holds what they say: nothing of it is left from an earlier reading
(`EventData.series_eq_ok`).
-/
namespace Recurrence
variable {today : Date}

namespace EventData

theorem members_list (xs : List Value) : members (.list xs) = .ok xs := by
  cases xs <;> rfl

/-- The warning about a failed reading does not change what comes of it. -/
theorem result_series (e : EventData) : (e.series today).result = (e.read today).result := by
  unfold series withWarning
  split <;> rfl

/-- A successful reading gives every part of the series from the fields of the
event. -/
theorem series_eq_ok {e : EventData} {s : Series} :
    (e.series today).result = .ok s ↔
      e.startTime = .ok s.start ∧ e.ruleTable = .ok s.rules ∧
      e.exceptionTimes today = .ok s.exceptions ∧
      (s.rules.expression today s.start.date).result = .ok s.expression ∧
      s.rules.count = .ok s.count := by
  rw [result_series]
  constructor
  · intro h
    obtain ⟨start, hstart, h⟩ := Outcome.result_bind_eq_ok.mp h
    obtain ⟨rules, hrules, h⟩ := Outcome.result_bind_eq_ok.mp h
    obtain ⟨exceptions, hexceptions, h⟩ := Outcome.result_bind_eq_ok.mp h
    obtain ⟨expression, hexpression, h⟩ := Outcome.result_bind_eq_ok.mp h
    obtain ⟨count, hcount, h⟩ := Outcome.result_bind_eq_ok.mp h
    cases h
    exact ⟨hstart, hrules, hexceptions, hexpression, mapError_eq_ok.mp hcount⟩
  · rintro ⟨hstart, hrules, hexceptions, hexpression, hcount⟩
    exact Outcome.result_bind_eq_ok.mpr ⟨_, hstart,
      Outcome.result_bind_eq_ok.mpr ⟨_, hrules,
      Outcome.result_bind_eq_ok.mpr ⟨_, hexceptions,
      Outcome.result_bind_eq_ok.mpr ⟨_, hexpression,
      Outcome.result_bind_eq_ok.mpr ⟨_, mapError_eq_ok.mpr hcount, rfl⟩⟩⟩⟩⟩

end EventData

namespace Series

/-- The expression of a series that was read means that the series may recur. -/
theorem means_expression {e : EventData} {s : Series} (h : (e.series today).result = .ok s) :
    s.expression.Means (s.rules.Recurs today s.start.date) :=
  RuleTable.means_expression (EventData.series_eq_ok.mp h).2.2.2.1

end Series

end Recurrence
