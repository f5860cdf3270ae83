import Recurrence.Proofs.Rule.Entries
import Recurrence.Proofs.Rule.Keys

/-! # What an expression does not depend on

An expression is made of few of the keys of a table (`RuleTable.keysRead`) and of the
calendar date of the start.  So the other keys, well formed or not, the order of the
entries, and the start's time of day and offset have no say in it: neither in the
expression, nor in the error if there is none, nor in the warnings
(`RuleTable.expression_eq_of_keysRead`).
-/
namespace Recurrence.RuleTable
variable {t u : RuleTable} {today : Date}

/-- The order of the entries has no part in look-up. -/
theorem find?_eq_of_perm (h : t.entries.Perm u.entries) (distinct : u.keys.Nodup) (key : Text) :
    t.find? key = u.find? key := by
  have distinct' : t.keys.Nodup := (h.map Prod.fst).nodup_iff.mpr distinct
  refine Option.ext fun value => ?_
  rw [find?_eq_some_iff distinct', find?_eq_some_iff distinct, h.mem_iff]

/-- **An expression is made of the keys that are read and the date of the start.**  Take
two tables that have the same values, or none, for the keys that are read from the
first, and two starts on the same date.  They make the same expression with the same
warnings, or fail with the same error.  That stays so if the second table is given any
key that is not read, or, its keys being distinct, if its entries change places. -/
theorem expression_eq_of_keysRead {start other : DateTime} (sameDate : start.date = other.date)
    (agree : ∀ key ∈ t.keysRead, t.get? key = u.get? key) :
    t.expression today start.date = u.expression today other.date ∧
      (∀ (key : Text) (value : RuleValue), (∀ k ∈ t.keysRead, canonicalKey key ≠ k.name) →
        t.expression today start.date = (u.insert key value).expression today other.date) ∧
      ∀ v : RuleTable, v.entries.Perm u.entries → u.keys.Nodup →
        t.expression today start.date = v.expression today other.date := by
  rw [← sameDate]
  refine ⟨expression_congr agree _, fun key value hkey => expression_congr (fun k hk => ?_) _,
    fun v hperm distinct => expression_congr (fun k hk => ?_) _⟩
  · rw [agree k hk, get?_insert_of_ne u (hkey k hk)]
  · rw [agree k hk, get?, get?, find?_eq_of_perm hperm distinct]

set_option maxRecDepth 100000 in
/-- Every second Tuesday of the month, from 2025-01-06 on: days of the month that are no numbers, a
count, an unknown key, another order, and a start at another time of day with an offset change
nothing. -/
theorem expression_eq_secondTuesday :
    ∃ e : Expression,
      (expression ⟨[("FREQ".toList, .single "MONTHLY".toList), ("BYDAY".toList, .single "2TU".toList),
          ("BYMONTHDAY".toList, .single ['x']), ("COUNT".toList, .single ['3'])]⟩
        .epoch (DateTime.ofDate ⟨739257, by decide, by decide⟩).date).result = .ok e ∧
      (expression ⟨[("X-NOTE".toList, .single ['?']), ("BYDAY".toList, .single "2TU".toList),
          ("FREQ".toList, .single "MONTHLY".toList)]⟩
        .epoch (DateTime.mk ⟨739257, by decide, by decide⟩ ⟨23, 30, 0, 0⟩
          (some ⟨18000⟩)).date).result = .ok e := by
  have agree : ∀ key ∈ keysRead ⟨[("FREQ".toList, .single "MONTHLY".toList),
        ("BYDAY".toList, .single "2TU".toList), ("BYMONTHDAY".toList, .single ['x']),
        ("COUNT".toList, .single ['3'])]⟩,
      get? ⟨[("FREQ".toList, .single "MONTHLY".toList), ("BYDAY".toList, .single "2TU".toList),
        ("BYMONTHDAY".toList, .single ['x']), ("COUNT".toList, .single ['3'])]⟩ key =
      get? ⟨[("X-NOTE".toList, .single ['?']), ("BYDAY".toList, .single "2TU".toList),
        ("FREQ".toList, .single "MONTHLY".toList)]⟩ key := by decide
  have sameDate : (DateTime.ofDate ⟨739257, by decide, by decide⟩).date =
      (DateTime.mk ⟨739257, by decide, by decide⟩ ⟨23, 30, 0, 0⟩ (some ⟨18000⟩)).date := rfl
  have same := (@expression_eq_of_keysRead _ _ .epoch _ _ sameDate agree).1
  obtain ⟨e, built⟩ : ∃ e : Expression,
      (expression ⟨[("FREQ".toList, .single "MONTHLY".toList), ("BYDAY".toList, .single "2TU".toList),
          ("BYMONTHDAY".toList, .single ['x']), ("COUNT".toList, .single ['3'])]⟩
        .epoch (DateTime.ofDate ⟨739257, by decide, by decide⟩).date).result = .ok e := ⟨_, by rfl⟩
  exact ⟨e, built, same ▸ built⟩

end Recurrence.RuleTable
