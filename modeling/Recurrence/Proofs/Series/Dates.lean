import Recurrence.Proofs.Occurrences
import Recurrence.Proofs.Series.Reading

/-! # The dates of a series

The occurrences of a series in a range are the part of one fixed set of dates that
lies there.  So a range gives what any larger one gives, cut down to it, and two
ranges side by side give together what the range they make up gives
(`dates_window`).  The count caps the matches of the rules; the start is in the
series as well, match or not (`length_dates`).
-/
namespace Recurrence
variable {today : Date}

/-! ## Windows -/

/-- An ascending list of dates from `a` to `c` is cut in two after any date
between. -/
theorem filter_holds_append {a b c next : Date} (hnext : b.addDays? 1 = some next)
    {dates : List Date} (hsorted : dates.Pairwise (· < ·))
    (hholds : ∀ d ∈ dates, DateRange.holds ⟨a, c⟩ d) :
    dates.filter (DateRange.holds ⟨a, b⟩) ++ dates.filter (DateRange.holds ⟨next, c⟩) = dates := by
  have hday := Date.addDays?_eq_some.mp hnext
  refine List.Pairwise.eq_of_mem_iff (List.pairwise_append.mpr
    ⟨hsorted.filter _, hsorted.filter _, fun d hd f hf => ?_⟩) hsorted fun d => ?_
  · have hdb : d.dayNumber ≤ b.dayNumber := (DateRange.holds_iff.mp (List.mem_filter.mp hd).2).2
    have hnf : next.dayNumber ≤ f.dayNumber := (DateRange.holds_iff.mp (List.mem_filter.mp hf).2).1
    exact Date.lt_iff.mpr (by omega)
  · rw [List.mem_append, List.mem_filter, List.mem_filter, ← and_or_left]
    refine and_iff_left_of_imp fun hd => ?_
    have hac := DateRange.holds_iff.mp (hholds d hd)
    simp only [DateRange.holds_iff, Date.le_iff] at hac ⊢
    omega

namespace Series

/-- A series that was read has dates in every range, or its count is refused in
every range. -/
theorem dates_total_or_limitTooLarge {e : EventData} {s : Series}
    (h : (e.series today).result = .ok s) :
    (∀ range, ∃ dates, s.dates range = .ok dates) ∨
      ∀ range, s.dates range = .error .limitTooLarge := by
  rcases Int.lt_or_le s.count limitBound with hcount | hcount
  · exact Or.inl fun range =>
      occurrences_total (means_expression h).exists_evaluate hcount range _ _
  · exact Or.inr fun range => occurrences_limitTooLarge hcount range _ _ _

theorem dates_filter {e : EventData} {s : Series} (h : (e.series today).result = .ok s)
    {inner outer : DateRange} (hsub : ∀ d, inner.holds d → outer.holds d) :
    s.dates inner = (s.dates outer).map fun dates => dates.filter inner.holds := by
  rcases dates_total_or_limitTooLarge h with htotal | hrefused
  · obtain ⟨xs, hx⟩ := htotal inner
    obtain ⟨ys, hy⟩ := htotal outer
    rw [hx, hy, occurrences_filter hsub hx hy]
    rfl
  · rw [hrefused inner, hrefused outer]
    rfl

/-- **The dates of a series do not depend on the range asked about.**  Whatever the
event, a range gives what a larger one gives, cut down to it, and it fails where the
larger one fails; and two ranges, one beginning on the day after the other ends,
give one after the other what the range from the first to the last of them gives. -/
theorem dates_window {e : EventData} {s : Series} (accepted : (e.series today).result = .ok s) :
    (∀ inner outer : DateRange, (∀ d, inner.holds d → outer.holds d) →
      s.dates inner = (s.dates outer).map fun dates => dates.filter inner.holds) ∧
    ∀ a b c : Date, a ≤ b → b < c → ∃ next, b.addDays? 1 = some next ∧
      s.dates ⟨a, c⟩ = (do
        let before ← s.dates ⟨a, b⟩
        let after ← s.dates ⟨next, c⟩
        .ok (before ++ after)) := by
  refine ⟨fun inner outer hsub => dates_filter accepted hsub, fun a b c hab hbc => ?_⟩
  -- There is a day after `b`, as `c` is later.
  have hle := Date.lt_iff.mp hbc
  obtain ⟨next, hnext⟩ : ∃ next, b.addDays? 1 = some next :=
    ⟨⟨b.dayNumber + 1, by omega, by have := c.le_last; omega⟩, Date.addDays?_eq_some.mpr rfl⟩
  have hday := Date.addDays?_eq_some.mp hnext
  refine ⟨next, hnext, ?_⟩
  have hbefore : s.dates ⟨a, b⟩ =
      (s.dates ⟨a, c⟩).map fun dates => dates.filter (DateRange.holds ⟨a, b⟩) := by
    refine dates_filter accepted fun d => ?_
    simp only [DateRange.holds_iff, Date.le_iff]
    omega
  have hafter : s.dates ⟨next, c⟩ =
      (s.dates ⟨a, c⟩).map fun dates => dates.filter (DateRange.holds ⟨next, c⟩) := by
    refine dates_filter accepted fun d => ?_
    simp only [DateRange.holds_iff, Date.le_iff] at hab ⊢
    omega
  rw [hbefore, hafter]
  cases hwhole : s.dates ⟨a, c⟩ with
  | error err => rfl
  | ok dates =>
    have hholds : ∀ d ∈ dates, DateRange.holds ⟨a, c⟩ d :=
      fun d hd => ((mem_occurrences hwhole d).mp hd).1
    have hsplit := filter_holds_append hnext (pairwise_occurrences hwhole) hholds
    exact congrArg Except.ok hsplit.symm

set_option maxRecDepth 100000 in
/-- What a series from Monday 2025-01-06 on, of three Tuesdays without the second of
them, has from 8 January on is what it has then in all of January. -/
theorem dates_window_tuesdays :
    ∃ s : Series,
      ((EventData.mk (.dateTime (.ofDate ⟨739257, by decide, by decide⟩))
        (.list [.text "FREQ=WEEKLY;BYDAY=TU;COUNT=3".toList])
        (.list [.text "2025-01-14".toList])).series .epoch).result = .ok s ∧
      s.dates ⟨⟨739259, by decide, by decide⟩, ⟨739282, by decide, by decide⟩⟩ =
        (s.dates ⟨⟨739252, by decide, by decide⟩, ⟨739282, by decide, by decide⟩⟩).map
          fun dates => dates.filter
            (DateRange.holds ⟨⟨739259, by decide, by decide⟩, ⟨739282, by decide, by decide⟩⟩) := by
  obtain ⟨s, accepted⟩ : ∃ s : Series,
      ((EventData.mk (.dateTime (.ofDate ⟨739257, by decide, by decide⟩))
        (.list [.text "FREQ=WEEKLY;BYDAY=TU;COUNT=3".toList])
        (.list [.text "2025-01-14".toList])).series .epoch).result = .ok s := ⟨_, by rfl⟩
  refine ⟨s, accepted, (dates_window accepted).1 _ _ fun d => ?_⟩
  simp only [DateRange.holds_iff, Date.le_iff]
  omega

/-! ## The count -/

/-- **The count caps the matches.**  A series of rules with a positive count `n` has
in no range more than `n` dates, unless the start is among them and does not match
the rules: it is in the series on top of the `n` matches then, and they are one more.
All other dates match. -/
theorem length_dates {e : EventData} {s : Series} {n : Int} {range : DateRange}
    {dates : List Date} (accepted : (e.series today).result = .ok s)
    (counted : s.rules.count = .ok n)
    (positive : 0 < n) (returned : s.dates range = .ok dates) :
    (∀ d ∈ dates, d ≠ s.start.date → s.rules.Recurs today s.start.date d) ∧
      ((dates.length : Int) ≤ n ∨
        ((dates.length : Int) = n + 1 ∧ s.start.date ∈ dates ∧
          ¬ s.rules.Recurs today s.start.date s.start.date)) := by
  have hcount : s.count = n := by
    have h := (EventData.series_eq_ok.mp accepted).2.2.2.2
    rw [counted] at h
    cases h
    rfl
  have hmatch := (means_expression accepted).evaluate_iff
  constructor
  · intro d hd hne
    have hcounted := (((mem_occurrences returned d).mp hd).2.1).resolve_right hne
    exact (hmatch d).mp hcounted.evaluate
  · rw [← hmatch, ← hcount]
    exact length_occurrences returned (by omega)

set_option maxRecDepth 100000 in
/-- The start, a Monday, and the one Tuesday that counts are two dates. -/
theorem length_dates_exceeds_count :
    ∃ (s : Series) (dates : List Date),
      ((EventData.mk (.dateTime (.ofDate ⟨739257, by decide, by decide⟩))
        (.list [.text "FREQ=WEEKLY;BYDAY=TU;COUNT=1".toList]) (.list [])).series
        .epoch).result = .ok s ∧
      s.rules.count = .ok 1 ∧
      s.dates ⟨⟨739252, by decide, by decide⟩, ⟨739265, by decide, by decide⟩⟩ = .ok dates ∧
      ¬ (dates.length : Int) ≤ 1 :=
  ⟨_, _, by rfl, by rfl, by rfl, by decide⟩

set_option maxRecDepth 100000 in
/-- A start that matches is one of the dates that count. -/
theorem length_dates_mondays :
    ∃ (s : Series) (dates : List Date),
      ((EventData.mk (.dateTime (.ofDate ⟨739257, by decide, by decide⟩))
        (.list [.text "FREQ=WEEKLY;BYDAY=MO;COUNT=2".toList]) (.list [])).series
        .epoch).result = .ok s ∧
      s.rules.count = .ok 2 ∧
      s.dates ⟨⟨739252, by decide, by decide⟩, ⟨739282, by decide, by decide⟩⟩ = .ok dates ∧
      (∀ d ∈ dates, d ≠ s.start.date → s.rules.Recurs .epoch s.start.date d) ∧
      ((dates.length : Int) ≤ 2 ∨
        ((dates.length : Int) = 2 + 1 ∧ s.start.date ∈ dates ∧
          ¬ s.rules.Recurs .epoch s.start.date s.start.date)) := by
  obtain ⟨s, dates, accepted, counted, returned⟩ : ∃ (s : Series) (dates : List Date),
      ((EventData.mk (.dateTime (.ofDate ⟨739257, by decide, by decide⟩))
        (.list [.text "FREQ=WEEKLY;BYDAY=MO;COUNT=2".toList]) (.list [])).series
        .epoch).result = .ok s ∧
      s.rules.count = .ok 2 ∧
      s.dates ⟨⟨739252, by decide, by decide⟩, ⟨739282, by decide, by decide⟩⟩ = .ok dates :=
    ⟨_, _, by rfl, by rfl, by rfl⟩
  exact ⟨s, dates, accepted, counted, returned,
    length_dates accepted counted (by decide) returned⟩

end Series

end Recurrence
