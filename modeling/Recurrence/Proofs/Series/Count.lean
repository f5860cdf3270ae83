import Recurrence.Proofs.Rule.Keys
import Recurrence.Proofs.Series.Whole

/-! # What a count does to a series

A count leaves the expression of a rule table as it is, so it only cuts the list of
matches: the series with one more occurrence has at most one more date, at its end
(`seriesDates_succ`), and the series without a count continues the one with it
(`seriesDates_unlimited`).  Ranges and exceptions keep that order
(`RuleTable.datesIn_insert_count`).
-/
namespace Recurrence

section
variable (e : Expression) (start : Date) {n : Nat}

/-- One more match is the next one, if there is another. -/
theorem seriesDates_succ (h : 0 < n) :
    seriesDates e start (n + 1 : Nat) =
      seriesDates e start n ++ (e.matchesFrom start)[n]?.toList := by
  have htake : takeAtMost (countLimit (n + 1 : Nat)) (e.matchesFrom start) =
      takeAtMost (countLimit n) (e.matchesFrom start) ++ (e.matchesFrom start)[n]?.toList := by
    rw [countLimit_natCast h, countLimit_natCast (Nat.succ_pos n)]
    exact List.take_add_one
  unfold seriesDates
  split
  · exact htake
  · rw [htake, List.cons_append]

/-- Without a count the other matches follow. -/
theorem seriesDates_unlimited (h : 0 < n) :
    seriesDates e start 0 = seriesDates e start n ++ (e.matchesFrom start).drop n := by
  have htake : takeAtMost (countLimit 0) (e.matchesFrom start) =
      takeAtMost (countLimit n) (e.matchesFrom start) ++ (e.matchesFrom start).drop n := by
    rw [countLimit_natCast h]
    exact (List.take_append_drop n _).symm
  unfold seriesDates
  split
  · exact htake
  · rw [htake, List.cons_append]

/-- With a count of as many days as lie before a date, the matches that are cut off
come after that date. -/
theorem lt_of_mem_drop_matchesFrom {final d : Date} (h : daysFromTo start final ≤ n)
    (hd : d ∈ (e.matchesFrom start).drop n) : final < d := by
  obtain ⟨later, hlater, hafter⟩ := e.matchesFrom_until start final
  rw [hlater, List.drop_append, List.drop_eq_nil_of_le
    (Nat.le_trans (e.length_filter_matchesOn_le start final) h), List.nil_append] at hd
  exact hafter d (List.mem_of_mem_drop hd)

end

namespace RuleTable

theorem count_insert_count (t : RuleTable) {value : RuleValue} {n : Int}
    (h : parseNumber .count value.joined = .ok n) :
    (t.insert RuleKey.count.name value).count = .ok n := by
  rw [count, scalar?, get?_insert, if_pos rfl]
  exact h

/-- **A count only cuts the tail.**  Take rules without a count that make an
expression, and any range and exceptions.  All counts, whatever their text, give
prefixes of the dates without one; one more adds at most one date, at the end; and
a count of as many days as there are from the start to the last of the range, both
included, cuts nothing. -/
theorem datesIn_insert_count {t : RuleTable} {today : Date} {start : DateTime} {e : Expression}
    (absent : t.get? .count = none) (built : (t.expression today start.date).result = .ok e)
    (range : DateRange) (exceptions : List Stamp) :
    ∃ (all : List Date) (limited : Nat → List Date),
      (t.datesIn today start range exceptions).result = .ok all ∧
      (∀ (n : Nat) (value : RuleValue), 0 < n → (n : Int) < limitBound →
        parseNumber .count value.joined = .ok (n : Int) →
        ((t.insert RuleKey.count.name value).datesIn today start range exceptions).result =
          .ok (limited n)) ∧
      ∀ n, 0 < n →
        limited n <+: limited (n + 1) ∧ limited n <+: all ∧
        (limited (n + 1)).length ≤ (limited n).length + 1 ∧
        (daysFromTo start.date range.last ≤ n → limited n = all) := by
  have hzero : t.count = .ok 0 := by rw [count, scalar?, absent]; rfl
  refine ⟨_, fun n => (seriesDates e start.date n).filter fun d =>
      range.holds d && !(exceptions.map Stamp.civilDate).contains d,
    datesIn_eq_seriesDates built hzero (by decide) range exceptions, ?_, ?_⟩
  · intro n value _ hn hvalue
    have hbuilt :
        ((t.insert RuleKey.count.name value).expression today start.date).result = .ok e := by
      rw [expression_insert_count]
      exact built
    exact datesIn_eq_seriesDates hbuilt (t.count_insert_count hvalue) hn range exceptions
  · intro n hn
    simp only [seriesDates_succ e start.date hn, seriesDates_unlimited e start.date hn,
      List.filter_append]
    refine ⟨List.prefix_append .., List.prefix_append .., ?_, fun hdays => ?_⟩
    · rw [List.length_append]
      refine Nat.add_le_add_left (Nat.le_trans (List.length_filter_le ..) ?_) _
      cases (e.matchesFrom start.date)[n]? <;> simp
    · -- What is cut off lies behind the range.
      refine (List.append_right_eq_self.mpr (List.filter_eq_nil_iff.mpr fun d hd hkeep => ?_)).symm
      have hle := (DateRange.holds_iff.mp (Bool.and_eq_true_iff.mp hkeep).1).2
      exact Date.not_le.mpr (lt_of_mem_drop_matchesFrom e start.date hdays hd) hle

set_option maxRecDepth 100000 in
/-- Tuesdays from Monday 2025-01-06 on, in January and without the 14th: two of them
are a prefix of three and of all, and 26 counts are enough for the whole month. -/
theorem datesIn_insert_count_tuesdays :
    ∃ (all : List Date) (limited : Nat → List Date),
      (datesIn ⟨[("FREQ".toList, .single "WEEKLY".toList), ("BYDAY".toList, .single "TU".toList)]⟩
        .epoch (.ofDate ⟨739257, by decide, by decide⟩)
        ⟨⟨739252, by decide, by decide⟩, ⟨739282, by decide, by decide⟩⟩
        [.date ⟨739265, by decide, by decide⟩]).result = .ok all ∧
      ((insert ⟨[("FREQ".toList, .single "WEEKLY".toList), ("BYDAY".toList, .single "TU".toList)]⟩
        RuleKey.count.name (.single ['2'])).datesIn
        .epoch (.ofDate ⟨739257, by decide, by decide⟩)
        ⟨⟨739252, by decide, by decide⟩, ⟨739282, by decide, by decide⟩⟩
        [.date ⟨739265, by decide, by decide⟩]).result = .ok (limited 2) ∧
      limited 2 <+: limited 3 ∧ limited 2 <+: all ∧
      (limited 3).length ≤ (limited 2).length + 1 ∧ limited 26 = all := by
  obtain ⟨e, built⟩ : ∃ e : Expression,
      (expression ⟨[("FREQ".toList, .single "WEEKLY".toList),
          ("BYDAY".toList, .single "TU".toList)]⟩
        .epoch (DateTime.ofDate ⟨739257, by decide, by decide⟩).date).result = .ok e := ⟨_, by rfl⟩
  obtain ⟨all, limited, hall, hlimited, hcut⟩ := datesIn_insert_count (by rfl) built
    ⟨⟨739252, by decide, by decide⟩, ⟨739282, by decide, by decide⟩⟩
    [.date ⟨739265, by decide, by decide⟩]
  obtain ⟨hnext, htail, hlength, -⟩ := hcut 2 (by decide)
  obtain ⟨-, -, -, hwhole⟩ := hcut 26 (by decide)
  exact ⟨all, limited, hall, hlimited 2 (.single ['2']) (by decide) (by decide) (by rfl),
    hnext, htail, hlength, hwhole (by decide)⟩

end RuleTable

end Recurrence
