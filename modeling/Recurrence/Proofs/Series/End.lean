import Mathlib.Tactic.Tauto
import Recurrence.Proofs.Rule.Keys
import Recurrence.Proofs.Series.Whole

/-! # What an end does to a series

An end is one more part of the expression of some rules, the last one: the
expression with it is true on the dates up to the end on which the expression
without it is (`Expression.evaluate_upTo`).  These are the first of all its dates,
so it makes no difference whether a count is taken before the end or after it
(`Expression.firstMatches_upTo`).  The start is in the series for its own sake and
outlives an end before it.  So with an end a range has the dates that it has
without, as far as they are not after the end or are the start
(`RuleTable.datesIn_insert_until`).
-/
namespace Recurrence

/-! ## Matches up to an end -/

/-- Suppose that a member with some property has only such members before it.  Then the first `n`
of the members with the property are those of the first `n` members that have it. -/
theorem take_filter_of_pairwise {α : Type} {p : α → Bool} {xs : List α}
    (h : xs.Pairwise fun x y => p y = true → p x = true) (n : Nat) :
    (xs.filter p).take n = (xs.take n).filter p := by
  induction xs generalizing n with
  | nil => simp
  | cons x rest ih =>
    obtain ⟨hx, hrest⟩ := List.pairwise_cons.mp h
    cases n with
    | zero => rfl
    | succ n =>
      by_cases hp : p x = true
      · rw [List.filter_cons_of_pos hp, List.take_succ_cons, List.take_succ_cons,
          List.filter_cons_of_pos hp, ih hrest n]
      · -- After a member without the property no other has it.
        have hnone : rest.filter p = [] :=
          List.filter_eq_nil_iff.mpr fun y hy hpy => hp (hx y hy hpy)
        rw [List.take_succ_cons, List.filter_cons_of_neg hp, List.filter_cons_of_neg hp,
          ← ih hrest n, hnone, List.take_nil, List.take_nil]

namespace Expression

/-- The expression with an end. -/
def upTo (e : Expression) (final : Date) : Expression :=
  .and e (.leaf (.before (.date final)))

theorem evaluate_upTo (e : Expression) (final d : Date) :
    (e.upTo final).evaluate (.date d) =
      (e.evaluate (.date d)).map fun b => b && decide (d ≤ final) := by
  obtain ⟨b, hb, hle⟩ := Matcher.means_before final d
  have hend : (leaf (.before (.date final))).evaluate (.date d) = .ok (decide (d ≤ final)) := by
    rw [evaluate, hb, Bool.eq_iff_iff.mpr (hle.trans decide_eq_true_iff.symm)]
  rw [upTo, evaluate]
  rcases e.evaluate (.date d) with err | (_ | _)
  · rfl
  · rfl
  · exact hend

theorem matchesOn_upTo (e : Expression) (final d : Date) :
    (e.upTo final).matchesOn d = (e.matchesOn d && decide (d ≤ final)) := by
  rw [matchesOn, matchesOn, saysYes, saysYes, evaluate_upTo]
  rcases e.evaluate (.date d) with err | b <;> rfl

/-- **To bound and to count can be exchanged.** -/
theorem firstMatches_upTo (e : Expression) (final start : Date) (n : Nat) :
    (e.upTo final).firstMatches start n =
      (e.firstMatches start n).filter fun d => d ≤ final := by
  have hfilter : (datesFromTo start .last).filter (e.upTo final).matchesOn =
      (e.matchesFrom start).filter fun d => d ≤ final := by
    rw [matchesFrom, List.filter_filter]
    exact List.filter_congr fun d _ => by rw [matchesOn_upTo, Bool.and_comm]
  rw [firstMatches, hfilter]
  refine take_filter_of_pairwise ((e.pairwise_matchesFrom start).imp fun hlt hle => ?_) n
  rw [decide_eq_true_iff] at hle ⊢
  exact Nat.le_trans (Date.le_of_lt hlt) hle

theorem isCounted_upTo {e : Expression} {start final : Date} {count : Int} {d : Date} :
    IsCounted (e.upTo final) start count d ↔ IsCounted e start count d ∧ d ≤ final := by
  unfold IsCounted
  split
  · rw [← matchesOn_iff, ← matchesOn_iff, matchesOn_upTo, Bool.and_eq_true, decide_eq_true_iff]
  · rw [firstMatches_upTo, List.mem_filter, decide_eq_true_iff]

end Expression

/-! ## Occurrences up to an end -/

theorem occurrences_upTo_of_eq_ok {e : Expression} {start final : Date} {range : DateRange}
    {count : Int} {excluded xs ys : List Date}
    (hx : occurrences range e start count excluded = .ok xs)
    (hy : occurrences range (e.upTo final) start count excluded = .ok ys) :
    ys = xs.filter fun d => d ≤ final ∨ d = start := by
  -- Both ascend, so they are equal if they have the same members.
  refine (pairwise_occurrences hy).eq_of_mem_iff ((pairwise_occurrences hx).filter _) ?_
  intro d
  rw [List.mem_filter, mem_occurrences hy, mem_occurrences hx, Expression.isCounted_upTo,
    decide_eq_true_iff]
  tauto

/-- An end leaves the dates up to it and the start, and fails where there is a failure without. -/
theorem occurrences_upTo {e : Expression} (he : ∀ d, ∃ b, e.evaluate (.date d) = .ok b)
    (range : DateRange) (start final : Date) (count : Int) (excluded : List Date) :
    occurrences range (e.upTo final) start count excluded =
      (occurrences range e start count excluded).map fun dates =>
        dates.filter fun d => d ≤ final ∨ d = start := by
  rcases Int.lt_or_le count limitBound with hcount | hcount
  · have hend : ∀ d, ∃ b, (e.upTo final).evaluate (.date d) = .ok b := by
      intro d
      obtain ⟨b, hb⟩ := he d
      exact ⟨_, by rw [Expression.evaluate_upTo, hb]; rfl⟩
    obtain ⟨xs, hx⟩ := occurrences_total he hcount range start excluded
    obtain ⟨ys, hy⟩ := occurrences_total hend hcount range start excluded
    rw [hx, hy, occurrences_upTo_of_eq_ok hx hy]
    rfl
  · rw [occurrences_limitTooLarge hcount, occurrences_limitTooLarge hcount]
    rfl

/-! ## Rules with an end -/

/-- A last part joins the expression of the parts before it. -/
theorem Expression.allOf_concat (first : Expression) (rest : List Expression) (part : Expression) :
    allOf (first :: (rest ++ [part])) = (allOf (first :: rest)).map fun e => .and e part.wrap := by
  rw [allOf, allOf, combine, combine, List.foldl_concat]
  rfl

namespace RuleTable
variable {t : RuleTable} {today : Date} {value : RuleValue} {last : DateTime}

theorem expression_eq_of_endPart {ending : List Expression} (h : t.endPart today = .ok ending)
    (start : Date) :
    t.expression today start =
      liftM (startPart start) >>= fun first =>
      t.recurrenceParts start >>= fun recurrence =>
      liftM (Expression.allOf (first :: (recurrence ++ ending))) := by
  rw [expression, parts, h]
  simp only [bind_assoc, Outcome.liftM_ok_bind, pure_bind]
  rfl

theorem endPart_of_absent (h : t.get? .until = none) : t.endPart today = .ok [] := by
  rw [endPart, untilDate, scalar?, h]
  rfl

theorem endPart_insert_until (parsed : Timestamp.parse today (.text value.joined) = .ok last) :
    (t.insert RuleKey.until.name value).endPart today =
      .ok [.leaf (.before (.date last.date))] := by
  rw [endPart, untilDate, scalar?, get?_insert, if_pos rfl, Option.map_some]
  simp only [parsed]
  rfl

theorem recurrenceParts_insert_until (t : RuleTable) (value : RuleValue) (start : Date) :
    (t.insert RuleKey.until.name value).recurrenceParts start = t.recurrenceParts start := by
  have hother : ∀ key, key ≠ .until →
      t.get? key = (t.insert RuleKey.until.name value).get? key := by
    intro key hkey
    rw [get?_insert, if_neg hkey]
  refine (recurrenceParts_congr (hother _ (by decide)) (fun f _ => ⟨hother _ (by decide), ?_⟩)
    start).symm
  intro key hkey
  rcases Frequency.mem_keysRead hkey with rfl | rfl | rfl <;> exact hother _ (by decide)

/-- To give a table an end adds it to the expression, and changes nothing else. -/
theorem expression_insert_until (absent : t.get? .until = none)
    (parsed : Timestamp.parse today (.text value.joined) = .ok last) (start : Date) :
    (t.insert RuleKey.until.name value).expression today start =
      t.expression today start >>= fun e => pure (e.upTo last.date) := by
  rw [expression_eq_of_endPart (endPart_insert_until parsed),
    expression_eq_of_endPart (endPart_of_absent absent), recurrenceParts_insert_until]
  simp only [bind_assoc, List.append_nil]
  refine bind_congr fun first => bind_congr fun recurrence => ?_
  rw [Expression.allOf_concat]
  rfl

theorem count_insert_until (t : RuleTable) (value : RuleValue) :
    (t.insert RuleKey.until.name value).count = t.count := by
  rw [count, count, scalar?, scalar?, get?_insert, if_neg (by decide)]

/-- **An end only truncates.**  Take rules without an end, with or without a frequency
and with any count, and any start, range and exceptions.  With an end, whatever its
text, the range has the dates that it has without, as far as they are not after the
end or are the start; and where there is a failure or a warning without the end,
there is the same with it. -/
theorem datesIn_insert_until (absent : t.get? .until = none)
    (parsed : Timestamp.parse today (.text value.joined) = .ok last) (start : DateTime)
    (range : DateRange) (exceptions : List Stamp) :
    (t.insert RuleKey.until.name value).datesIn today start range exceptions = (do
      let dates ← t.datesIn today start range exceptions
      pure (dates.filter fun d => d ≤ last.date ∨ d = start.date)) := by
  rw [datesIn, datesIn, expression_insert_until absent parsed, count_insert_until]
  simp only [bind_assoc, pure_bind]
  -- The expression is one that was built, so it can be evaluated on every date.
  refine Outcome.bind_congr_of_result fun e built => bind_congr fun count => ?_
  rw [occurrences_upTo (means_expression built).exists_evaluate]
  rcases occurrences range e start.date count (exceptions.map Stamp.civilDate) with err | dates
  · rfl
  · rfl

set_option maxRecDepth 100000 in
/-- Three Tuesdays are counted from Monday 2025-01-06 on.  With an end on the second of them, the
start and two Tuesdays are left. -/
theorem datesIn_insert_until_tuesdays :
    ∃ dates : List Date,
      (datesIn ⟨[("FREQ".toList, .single "WEEKLY".toList), ("BYDAY".toList, .single "TU".toList),
          ("COUNT".toList, .single ['3'])]⟩ .epoch (.ofDate ⟨739257, by decide, by decide⟩)
        ⟨⟨739252, by decide, by decide⟩, ⟨739282, by decide, by decide⟩⟩ []).result = .ok dates ∧
      dates.map Date.dayNumber = [739257, 739258, 739265, 739272] ∧
      ((insert ⟨[("FREQ".toList, .single "WEEKLY".toList), ("BYDAY".toList, .single "TU".toList),
          ("COUNT".toList, .single ['3'])]⟩ RuleKey.until.name
          (.single "20250114T235959Z".toList)).datesIn .epoch
        (.ofDate ⟨739257, by decide, by decide⟩)
        ⟨⟨739252, by decide, by decide⟩, ⟨739282, by decide, by decide⟩⟩ []).result =
        .ok (dates.filter fun d =>
          d ≤ ⟨739265, by decide, by decide⟩ ∨ d = ⟨739257, by decide, by decide⟩) := by
  have absent : get? ⟨[("FREQ".toList, .single "WEEKLY".toList),
      ("BYDAY".toList, .single "TU".toList), ("COUNT".toList, .single ['3'])]⟩ .until = none := by rfl
  have parsed : Timestamp.parse .epoch (.text (RuleValue.single "20250114T235959Z".toList).joined) =
      .ok ⟨⟨739265, by decide, by decide⟩, ⟨23, 59, 59, 0⟩, some .zero⟩ := by rfl
  have truncated := datesIn_insert_until absent parsed (.ofDate ⟨739257, by decide, by decide⟩)
    ⟨⟨739252, by decide, by decide⟩, ⟨739282, by decide, by decide⟩⟩ []
  obtain ⟨dates, returned, days⟩ : ∃ dates : List Date,
      (datesIn ⟨[("FREQ".toList, .single "WEEKLY".toList), ("BYDAY".toList, .single "TU".toList),
          ("COUNT".toList, .single ['3'])]⟩ .epoch (.ofDate ⟨739257, by decide, by decide⟩)
        ⟨⟨739252, by decide, by decide⟩, ⟨739282, by decide, by decide⟩⟩ []).result = .ok dates ∧
      dates.map Date.dayNumber = [739257, 739258, 739265, 739272] := ⟨_, by rfl, by rfl⟩
  exact ⟨dates, returned, days,
    (congrArg Outcome.result truncated).trans (Outcome.result_bind_of_eq_ok returned _)⟩

end RuleTable

end Recurrence
