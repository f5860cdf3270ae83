import Recurrence.Proofs.Occurrences
import Recurrence.Proofs.Series.Reading

/-! # A series as one list of dates

A range only looks at a series.  The series itself is one ascending list,
`seriesDates`: the start, then the matches after it that count.  If the expression
is true on no date before the start, the occurrences in a range are the members of
that list that lie in the range and are not excluded (`occurrences_eq_ok`), with a
count and without one.  The expression of a rule table is such an expression, so
this holds of the series of any table (`RuleTable.datesIn_eq_seriesDates`).
-/
namespace Recurrence

/-- The limit that a count sets.  A count that is not positive sets none. -/
def countLimit (count : Int) : Option Nat :=
  if count ≤ 0 then none else some count.toNat

theorem countLimit_natCast {n : Nat} (h : 0 < n) : countLimit n = some n := by
  rw [countLimit, if_neg (by omega), Int.toNat_natCast]

theorem takeAtMost_prefix (limit : Option Nat) (dates : List Date) :
    takeAtMost limit dates <+: dates := by
  cases limit with
  | none => exact List.prefix_refl _
  | some n => exact List.take_prefix n dates

/-! ## Matches from the start on -/

namespace Expression

/-- There are no more matches up to some date than days to look at. -/
theorem length_filter_matchesOn_le (e : Expression) (start final : Date) :
    ((datesFromTo start final).filter e.matchesOn).length ≤ daysFromTo start final :=
  calc ((datesFromTo start final).filter e.matchesOn).length
      ≤ (datesFromTo start final).length := List.length_filter_le ..
    _ ≤ (List.range' start.dayNumber (daysFromTo start final)).length :=
        List.length_filterMap_le ..
    _ = daysFromTo start final := List.length_range'

/-- Without a limit all matches count, and they lie from the start on. -/
theorem isCounted_iff_mem {e : Expression} {start : Date}
    (hfrom : ∀ d, e.evaluate (.date d) = .ok true → start ≤ d) (count : Int) (d : Date) :
    IsCounted e start count d ↔ d ∈ takeAtMost (countLimit count) (e.matchesFrom start) := by
  unfold IsCounted countLimit
  split
  · rw [← matchesOn_iff]
    exact ⟨fun h => mem_matchesFrom.mpr ⟨hfrom d (matchesOn_iff.mp h), h⟩,
      fun h => (mem_matchesFrom.mp h).2⟩
  · exact Iff.rfl

end Expression

/-! ## The whole series -/

/-- The dates of a series in ascending order: the matches from the start on that
count, and the start before them if it is no match. -/
def seriesDates (e : Expression) (start : Date) (count : Int) : List Date :=
  if e.matchesOn start then takeAtMost (countLimit count) (e.matchesFrom start)
  else start :: takeAtMost (countLimit count) (e.matchesFrom start)

section
variable {e : Expression} {start : Date}

theorem pairwise_seriesDates (e : Expression) (start : Date) (count : Int) :
    (seriesDates e start count).Pairwise (· < ·) := by
  have hsub : takeAtMost (countLimit count) (e.matchesFrom start) <+: e.matchesFrom start :=
    takeAtMost_prefix ..
  have hsorted := (e.pairwise_matchesFrom start).sublist hsub.sublist
  unfold seriesDates
  split
  · exact hsorted
  · rename_i hno
    refine List.pairwise_cons.mpr ⟨fun d hd => ?_, hsorted⟩
    obtain ⟨hle, hyes⟩ := Expression.mem_matchesFrom.mp (hsub.mem hd)
    have hne : start.dayNumber ≠ d.dayNumber := fun heq => hno (Date.ext_dayNumber heq ▸ hyes)
    rw [Date.le_iff] at hle
    exact Date.lt_iff.mpr (by omega)

/-- A start that is a match is the first match, and counts. -/
theorem start_mem_takeAtMost (h : e.matchesOn start = true) (count : Int) :
    start ∈ takeAtMost (countLimit count) (e.matchesFrom start) := by
  unfold countLimit
  split
  · exact Expression.mem_matchesFrom.mpr ⟨Nat.le_refl _, h⟩
  · exact Expression.start_mem_firstMatches (Expression.matchesOn_iff.mp h) (by omega)

theorem mem_seriesDates (hfrom : ∀ d, e.evaluate (.date d) = .ok true → start ≤ d)
    (count : Int) (d : Date) :
    d ∈ seriesDates e start count ↔ IsCounted e start count d ∨ d = start := by
  rw [Expression.isCounted_iff_mem hfrom, seriesDates]
  split
  · rename_i hyes
    refine (or_iff_left_of_imp ?_).symm
    rintro rfl
    exact start_mem_takeAtMost hyes count
  · rw [List.mem_cons]
    exact or_comm

/-- **The occurrences in a range are the dates of the series that lie there**, in
order and without the excluded ones. -/
theorem occurrences_eq_ok (hfrom : ∀ d, e.evaluate (.date d) = .ok true → start ≤ d)
    {range : DateRange} {count : Int} {excluded dates : List Date}
    (h : occurrences range e start count excluded = .ok dates) :
    dates = (seriesDates e start count).filter fun d => range.holds d && !excluded.contains d := by
  -- Both ascend, so they are equal if they have the same members.
  refine (pairwise_occurrences h).eq_of_mem_iff ((pairwise_seriesDates e start count).filter _) ?_
  intro d
  rw [mem_occurrences h, List.mem_filter, mem_seriesDates hfrom]
  simp only [Bool.and_eq_true, Bool.not_eq_true', List.contains_eq_mem, decide_eq_false_iff_not]
  exact and_left_comm

/-- With an expression that can be evaluated on every date and a count that is not
refused, a range has occurrences, and they are those of the series. -/
theorem occurrences_eq_seriesDates (he : ∀ d, ∃ b, e.evaluate (.date d) = .ok b)
    (hfrom : ∀ d, e.evaluate (.date d) = .ok true → start ≤ d) {count : Int}
    (hcount : count < limitBound) (range : DateRange) (excluded : List Date) :
    occurrences range e start count excluded =
      .ok ((seriesDates e start count).filter fun d => range.holds d && !excluded.contains d) := by
  obtain ⟨dates, hdates⟩ := occurrences_total he hcount range start excluded
  rw [hdates, occurrences_eq_ok hfrom hdates]

end

/-! ## The series of some rules -/

namespace RuleTable

/-- The dates in a range of the series that some rules and a start make, without the
dates of some exceptions. -/
def datesIn (t : RuleTable) (today : Date) (start : DateTime) (range : DateRange)
    (exceptions : List Stamp) : Outcome (List Date) := do
  let expression ← t.expression today start.date
  let count ← t.count
  occurrences range expression start.date count (exceptions.map Stamp.civilDate)

/-- **The dates in a range are those of the whole series that lie there.** -/
theorem datesIn_eq_seriesDates {t : RuleTable} {today : Date} {start : DateTime} {e : Expression}
    {count : Int} (built : (t.expression today start.date).result = .ok e)
    (counted : t.count = .ok count) (hcount : count < limitBound) (range : DateRange)
    (exceptions : List Stamp) :
    (t.datesIn today start range exceptions).result =
      .ok ((seriesDates e start.date count).filter fun d =>
        range.holds d && !(exceptions.map Stamp.civilDate).contains d) := by
  have hmeans := means_expression built
  refine Outcome.result_bind_eq_ok.mpr ⟨e, built,
    Outcome.result_bind_eq_ok.mpr ⟨count, mapError_eq_ok.mpr counted, ?_⟩⟩
  exact occurrences_eq_seriesDates hmeans.exists_evaluate
    (fun d hd => ((hmeans.evaluate_iff d).mp hd).notBefore) hcount range _

end RuleTable

/-- The dates of a series that was read from an event are those that its rules make. -/
theorem Series.dates_eq_datesIn {today : Date} {e : EventData} {s : Series}
    (h : (e.series today).result = .ok s) (range : DateRange) :
    s.dates range = (s.rules.datesIn today s.start range (s.exceptions.map .dateTime)).result := by
  obtain ⟨-, -, -, hbuilt, hcount⟩ := EventData.series_eq_ok.mp h
  have hliftCount : (liftM s.rules.count : Outcome Int).result = .ok s.count :=
    mapError_eq_ok.mpr hcount
  have hexcluded : (s.exceptions.map Stamp.dateTime).map Stamp.civilDate = s.excluded :=
    List.map_map
  rw [RuleTable.datesIn, Outcome.result_bind_of_eq_ok hbuilt,
    Outcome.result_bind_of_eq_ok hliftCount, hexcluded]
  rfl

end Recurrence
