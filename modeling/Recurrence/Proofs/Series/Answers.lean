import Recurrence.Proofs.Occurrences
import Recurrence.Proofs.Phrase
import Recurrence.Proofs.Series.Tracking

/-! # Which questions an event answers

An event that was read has an expression, so all that the expression is made of has
been checked, and most questions are answered whatever the rules.  The others go back
to keys that the frequency may not have read: the interval if there is no frequency,
the weekdays if there is none or it is daily (`TrackedEvent.answer_of_ofEvent`).  What
is refused there is refused with a rule error.
-/
namespace Recurrence

namespace Series
variable {today : Date} {e : EventData} {s : Series} {err : Error}

theorem isChecked_rules (h : (e.series today).result = .ok s) : s.rules.IsChecked today :=
  RuleTable.isChecked_of_expression (EventData.series_eq_ok.mp h).2.2.2.1

/-- The count alone decides whether the dates of a range can be found. -/
theorem exists_dates (h : (e.series today).result = .ok s) (hcount : s.count < limitBound)
    (range : DateRange) : ∃ dates, s.dates range = .ok dates :=
  occurrences_total (means_expression h).exists_evaluate hcount range s.start.date s.excluded

/-- With a frequency the interval has been checked. -/
theorem result_interval_eq_error (h : (e.series today).result = .ok s) :
    s.interval.result = .error err ↔
      s.frequency = .ok none ∧ ∃ value, s.rules.scalar? .interval = some value ∧
        parseNumber .interval value = .error (.notAnInteger .interval value) ∧
        err = .rule (.notAnInteger .interval value) := by
  rw [interval, RuleTable.result_interval_eq_error]
  constructor
  · intro hvalue
    refine ⟨?_, hvalue⟩
    obtain ⟨_ | f, hf⟩ := (isChecked_rules h).frequency
    · exact hf
    · obtain ⟨k, hk⟩ := (isChecked_rules h).interval f hf
      cases hk.symm.trans (RuleTable.result_interval_eq_error.mpr hvalue)
  · exact And.right

end Series

namespace TrackedEvent

/-- A question that is answered from one operation fails as the operation does. -/
theorem result_map_eq_error {α : Type} {x : Outcome α} {f : α → Answer} {err : Error} :
    (x >>= fun a => pure (f a)).result = .error err ↔ x.result = .error err := by
  rw [Outcome.result_bind_eq_error]
  simp

/-- **An event that was read answers but for what its frequency did not read.**  The
canonical rule, the expression and its parts, the rules, frequency, count and
exceptions can always be had, and the dates of any range if the count can be counted
to.  The interval is refused only if there is no frequency and it is no integer.  Take
a zone into which the end can be put, and weekday tokens with no ordinal that is too
long.  Then the phrase is refused only if the frequency is daily or absent and there
is a token without a weekday, and the error names the first of them. -/
theorem answer_of_ofEvent {today : Date} {e : EventData} {x : TrackedEvent}
    (read : (ofEvent e today).result = .ok x) :
    (∀ q ∈ [.canonicalRule, .expression, .parts, .rules, .frequency, .count, .exceptions],
      ∃ a, (x.answer today q).result = .ok a) ∧
    (∀ ends range, DateRange.ofList ends = .ok range → x.series.count < limitBound →
      ∃ a, (x.answer today (.dates ends)).result = .ok a) ∧
    (∀ err, (x.answer today .interval).result = .error err ↔
      x.series.frequency = .ok none ∧ ∃ value, x.series.rules.scalar? .interval = some value ∧
        parseNumber .interval value = .error (.notAnInteger .interval value) ∧
        err = .rule (.notAnInteger .interval value)) ∧
    ∀ name zone, Zone.resolve name = .ok zone → x.series.rules.EndsIn today zone →
      (∀ token ∈ x.series.rules.valuesOf .byDay, ByDay.ordinalLength token ≤ Text.digitLimit) →
      ∀ err, (x.answer today (.phrase name)).result = .error err ↔
        (x.series.frequency = .ok none ∨ x.series.frequency = .ok (some .daily)) ∧
          ∃ token, ByDay.IsFirstUnknown (x.series.rules.valuesOf .byDay) token ∧
            err = .rule (.unknownWeekdayToken token) := by
  have hreading := ofEvent_eq_ok.mp read
  have hchecked := Series.isChecked_rules hreading.series
  refine ⟨?_, ?_, ?_, ?_⟩
  · obtain ⟨parts, hparts, -⟩ := hreading.parts
    obtain ⟨f, hf⟩ := hchecked.frequency
    have hfrequency : (x.answer today .frequency).result = .ok (.frequency f) :=
      Outcome.result_bind_eq_ok.mpr ⟨f, mapError_eq_ok.mpr hf, rfl⟩
    have hanswer : (x.answer today .parts).result = .ok (.parts parts) :=
      Outcome.result_bind_eq_ok.mpr ⟨parts, hparts, rfl⟩
    simp only [List.forall_mem_cons]
    exact ⟨⟨_, rfl⟩, ⟨_, rfl⟩, ⟨_, hanswer⟩, ⟨_, rfl⟩, ⟨_, hfrequency⟩, ⟨_, rfl⟩, ⟨_, rfl⟩,
      fun _ hq => nomatch hq⟩
  · intro ends range hrange hcount
    obtain ⟨dates, hdates⟩ := Series.exists_dates hreading.series hcount range
    exact ⟨.dates dates, Outcome.result_bind_eq_ok.mpr ⟨range, hrange,
      Outcome.result_bind_eq_ok.mpr ⟨dates, hdates, rfl⟩⟩⟩
  · intro err
    exact result_map_eq_error.trans (Series.result_interval_eq_error hreading.series)
  · intro name zone hzone hends hshort err
    have hphrase : (x.series.phraseIn today name).result =
        (x.series.rules.phrase today zone).result :=
      Outcome.result_bind_of_eq_ok hzone _
    exact result_map_eq_error.trans
      (hphrase ▸ RuleTable.result_phrase_eq_error hchecked hends hshort)

set_option maxRecDepth 100000 in
/-- Tuesdays until the end of January 2025, from 2025-01-06 on: the dates of a range, the interval and
the phrase for universal time can be had. -/
theorem answer_of_ofEvent_tuesdays :
    ∃ x : TrackedEvent,
      (ofEvent ⟨.dateTime (.ofDate ⟨739257, by decide, by decide⟩),
        .list [.text "FREQ=WEEKLY;BYDAY=TU;UNTIL=20250131T120000Z".toList], .list []⟩
        .epoch).result = .ok x ∧
      (∃ a, (x.answer .epoch .frequency).result = .ok a) ∧
      (∃ a, (x.answer .epoch (.dates [.date ⟨739252, by decide, by decide⟩,
        .date ⟨739282, by decide, by decide⟩])).result = .ok a) ∧
      (∀ err, (x.answer .epoch .interval).result ≠ .error err) ∧
      ∀ err, (x.answer .epoch (.phrase "UTC".toList)).result ≠ .error err := by
  obtain ⟨x, hx, hfrequency, htokens, hend, hcount⟩ : ∃ x : TrackedEvent,
      (ofEvent ⟨.dateTime (.ofDate ⟨739257, by decide, by decide⟩),
        .list [.text "FREQ=WEEKLY;BYDAY=TU;UNTIL=20250131T120000Z".toList], .list []⟩
        .epoch).result = .ok x ∧
      x.series.frequency = .ok (some .weekly) ∧ x.series.rules.valuesOf .byDay = ["TU".toList] ∧
      x.series.rules.scalar? .until = some "20250131T120000Z".toList ∧ x.series.count = 0 :=
    ⟨_, by rfl, by rfl, by rfl, by rfl, by rfl⟩
  obtain ⟨last, zone, hlast, hzone, hshown⟩ : ∃ last zone,
      Timestamp.parse .epoch (.text "20250131T120000Z".toList) = .ok last ∧
      Zone.resolve "UTC".toList = .ok zone ∧ ∃ shown, zone.localize last = .ok shown :=
    ⟨_, _, by rfl, by rfl, _, by rfl⟩
  have hends : x.series.rules.EndsIn .epoch zone := by
    intro value time hvalue htime
    cases hend.symm.trans hvalue
    cases hlast.symm.trans htime
    exact hshown
  have hshort : ∀ token ∈ x.series.rules.valuesOf .byDay,
      ByDay.ordinalLength token ≤ Text.digitLimit := by
    rw [htokens]
    decide
  obtain ⟨hsettled, hdates, hinterval, hphrase⟩ := answer_of_ofEvent hx
  refine ⟨x, hx, hsettled .frequency (by simp), hdates _ _ (by rfl) (by rw [hcount]; decide),
    fun err herr => ?_, fun err herr => ?_⟩
  · cases hfrequency.symm.trans ((hinterval err).mp herr).1
  · rcases ((hphrase _ zone hzone hends hshort err).mp herr).1 with hnone | hdaily
    · cases hfrequency.symm.trans hnone
    · cases hfrequency.symm.trans hdaily

set_option maxRecDepth 100000 in
/-- A daily series does not read its weekdays.  With a weekday that is unknown it is read all the
same, and has no phrase. -/
theorem answer_of_ofEvent_dailyWithWeekday :
    ∃ x : TrackedEvent,
      (ofEvent ⟨.dateTime (.ofDate ⟨739257, by decide, by decide⟩),
        .list [.text "FREQ=DAILY;BYDAY=ZZ".toList], .list []⟩ .epoch).result = .ok x ∧
      (x.answer .epoch (.phrase "UTC".toList)).result =
        .error (.rule (.unknownWeekdayToken "ZZ".toList)) :=
  ⟨_, by rfl, by rfl⟩

end TrackedEvent

end Recurrence
