import Recurrence.Proofs.Series.Reading
import Recurrence.Proofs.Timestamp.Spelling

/-! # One more exception date

Exception dates take effect at the very end: the occurrences are counted, the start is
put back, and then the dates that are left out are taken away.  So a further exception
takes away its own day and nothing else (`occurrences_of_mem_iff`), and as the text of
a day is read as that day (`Timestamp.Spelling.parse_text`), an event with one more
exception differs from the event in nothing but that day.
-/
namespace Recurrence
variable {today : Date}

/-- With one more date left out, that date is missing from the occurrences. -/
theorem occurrences_of_mem_iff {excluded more : List Date} {d : Date}
    (h : ∀ e, e ∈ more ↔ e = d ∨ e ∈ excluded) (range : DateRange) (e : Expression) (start : Date)
    (count : Int) :
    occurrences range e start count more =
      (occurrences range e start count excluded).map (·.filter (· ≠ d)) := by
  have hkeep : ∀ x, (!more.contains x) = (decide (x ≠ d) && !excluded.contains x) := by
    intro x
    rw [Bool.eq_iff_iff]
    simp [h]
  rw [occurrences, occurrences]
  rcases countedMatches range e start count with err | found
  · rfl
  · simp only [Except.map, hkeep, ← List.filter_filter]
    rfl

theorem Timestamp.Spelling.parse_text (f : Spelling) (d : Date) :
    parse today (.text (f.text d)) = .ok ⟨d, f.time, f.offset⟩ := by
  simp only [parse, read?_text]

namespace EventData
variable {e : EventData}

theorem exceptionTimes_eq {xs : List Value} (h : members e.exceptions = .ok xs) :
    e.exceptionTimes today = xs.mapM fun v => (Timestamp.parse today v).mapError Error.rule := by
  rw [exceptionTimes, h]
  rfl

/-- The dates left out are those of the timestamps among the exceptions. -/
theorem mem_excluded {s : Series} {xs : List Value} {d : Date} (h : (e.series today).result = .ok s)
    (hxs : members e.exceptions = .ok xs) :
    d ∈ s.excluded ↔ ∃ v ∈ xs, ∃ t, Timestamp.parse today v = .ok t ∧ t.date = d := by
  have htimes := (series_eq_ok.mp h).2.2.1
  rw [exceptionTimes_eq hxs] at htimes
  rw [Series.excluded, List.mem_map, exists_mem_of_mapM_eq_ok htimes]
  simp only [mapError_eq_ok]

/-- Exceptions that can be read leave the rest of an event as it was. -/
theorem exists_series_of_exceptions {s : Series} {ys : List Value}
    (h : (e.series today).result = .ok s)
    (hys : ∀ v ∈ ys, ∃ t, Timestamp.parse today v = .ok t) :
    ∃ times,
      ({ e with exceptions := .list ys }.series today).result =
        .ok { s with exceptions := times } := by
  obtain ⟨hstart, hrules, -, hexpression, hcount⟩ := series_eq_ok.mp h
  obtain ⟨times, htimes⟩ := exists_mapM_eq_ok fun v hv =>
    (hys v hv).imp fun _ ht => mapError_eq_ok.mpr ht
  refine ⟨times, series_eq_ok.mpr ⟨hstart, hrules, ?_, hexpression, hcount⟩⟩
  rw [exceptionTimes_eq (members_list ys)]
  exact htimes

/-- **A further exception takes away its own day.**  Take an event that was read and the text of a
day, in any spelling, and put it among the exceptions, in any place and any number of times.  The
event is read again, with the same start, rules, expression and count, and its dates in any range
are those of the event without that day. -/
theorem dates_of_further_exception {s : Series} {xs ys : List Value}
    (h : (e.series today).result = .ok s)
    (hxs : members e.exceptions = .ok xs) (f : Timestamp.Spelling) (d : Date)
    (hys : ∀ v, v ∈ ys ↔ v = .text (f.text d) ∨ v ∈ xs) :
    ∃ s', ({ e with exceptions := .list ys }.series today).result = .ok s' ∧
      s'.start = s.start ∧ s'.rules = s.rules ∧ s'.expression = s.expression ∧
      s'.count = s.count ∧
      ∀ range, s'.dates range = (s.dates range).map (·.filter (· ≠ d)) := by
  have htimes := (series_eq_ok.mp h).2.2.1
  rw [exceptionTimes_eq hxs] at htimes
  have hread : ∀ v ∈ ys, ∃ t, Timestamp.parse today v = .ok t := by
    intro v hv
    rcases (hys v).mp hv with rfl | hv
    · exact ⟨_, f.parse_text d⟩
    · -- The others were read before.
      obtain ⟨t, ht⟩ := exists_eq_ok_of_mem htimes hv
      exact ⟨t, mapError_eq_ok.mp ht⟩
  obtain ⟨times, hseries⟩ := exists_series_of_exceptions h hread
  refine ⟨_, hseries, rfl, rfl, rfl, rfl, fun range => occurrences_of_mem_iff (fun x => ?_) ..⟩
  rw [mem_excluded hseries (members_list ys), mem_excluded h hxs]
  simp only [hys, or_and_right, exists_or, exists_eq_left, f.parse_text, Except.ok.injEq]
  simp [eq_comm]

set_option maxRecDepth 100000 in
/-- Four days are counted from 2025-06-23 on, and the second is left out.  The last is left out as
well, given twice, late in the evening and with an offset: no other day comes in its place. -/
theorem dates_of_further_exception_lastCounted :
    ∃ s s' : Series,
      ((EventData.mk (.date ⟨739425, by decide, by decide⟩)
        (.list [.text "FREQ=DAILY;COUNT=4".toList])
        (.list [.text "20250624".toList])).series .epoch).result = .ok s ∧
      ((EventData.mk (.date ⟨739425, by decide, by decide⟩)
        (.list [.text "FREQ=DAILY;COUNT=4".toList])
        (.list [.text "2025-06-26T23:59:59-08:00".toList, .text "20250624".toList,
          .text "2025-06-26T23:59:59-08:00".toList])).series .epoch).result = .ok s' ∧
      (s.dates ⟨.epoch, .last⟩).map (·.map Date.dayNumber) = .ok [739425, 739427, 739428] ∧
      (s'.dates ⟨.epoch, .last⟩).map (·.map Date.dayNumber) = .ok [739425, 739427] := by
  let e := EventData.mk (.date ⟨739425, by decide, by decide⟩)
    (.list [.text "FREQ=DAILY;COUNT=4".toList]) (.list [.text "20250624".toList])
  let d : Date := ⟨739428, by decide, by decide⟩
  let f : Timestamp.Spelling := .dateTime 23 59 59 (some ⟨true, 8, 0⟩)
  have htext : f.text d = "2025-06-26T23:59:59-08:00".toList := by decide
  obtain ⟨s, hs, hdates⟩ : ∃ s, (e.series .epoch).result = .ok s ∧ s.dates ⟨.epoch, .last⟩ =
      .ok [⟨739425, by decide, by decide⟩, ⟨739427, by decide, by decide⟩, d] := ⟨_, by rfl, by rfl⟩
  have htwice : ∀ v : Value, v ∈ [.text (f.text d), .text "20250624".toList, .text (f.text d)] ↔
      v = .text (f.text d) ∨ v ∈ [.text "20250624".toList] := by
    intro v
    simp only [List.mem_cons, List.not_mem_nil]
    tauto
  obtain ⟨s', hs', -, -, -, -, hdates'⟩ := dates_of_further_exception hs (by rfl) f d htwice
  rw [htext] at hs'
  refine ⟨s, s', hs, hs', by rw [hdates]; rfl, ?_⟩
  rw [hdates', hdates]
  rfl

end EventData

end Recurrence
