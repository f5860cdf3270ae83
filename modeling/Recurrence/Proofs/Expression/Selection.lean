import Recurrence.Expression.Dates
import Recurrence.Proofs.Calendar.Civil
import Recurrence.Proofs.Calendar.Run
import Recurrence.Proofs.Outcome

/-! # What a selection of dates finds

The walk of `selectDates` goes day by day, keeps the dates found latest first, and
stops at its limit or at a failure.  If it comes to an end without a failure, it has
found a prefix of the dates of the interval on which the predicate says yes
(`selectDates_eq_ok`): the limit cuts the list of matches, not the interval.  An
expression that evaluates on every date gives no failure, so its selections are known
for every interval and every limit (`Expression.dates_filter_in_order`).
-/
namespace Recurrence

/-- The predicate answers yes; a failure is no yes. -/
def saysYes (p : Date → Except Error Bool) (d : Date) : Bool :=
  match p d with
  | .ok b => b
  | .error _ => false

theorem saysYes_iff {p : Date → Except Error Bool} {d : Date} :
    saysYes p d = true ↔ p d = .ok true := by
  unfold saysYes
  split <;> simp_all

/-- The first `limit` of some dates; all of them if there is no limit. -/
def takeAtMost (limit : Option Nat) (dates : List Date) : List Date :=
  match limit with
  | none => dates
  | some n => dates.take n

theorem takeAtMost_nil (limit : Option Nat) : takeAtMost limit [] = [] := by
  cases limit <;> simp [takeAtMost]

/-- The first of some dates is taken if the limit is not reached yet. -/
theorem takeAtMost_cons {limit : Option Nat} (h : limit ≠ some 0) (d : Date) (dates : List Date) :
    takeAtMost limit (d :: dates) = d :: takeAtMost (limit.map (· - 1)) dates := by
  rcases limit with _ | _ | n
  · rfl
  · exact absurd rfl h
  · rfl

/-! ## The walk -/

/-- The walk adds the first matches of the days before it to what was found. -/
theorem walkDays_eq_ok {p : Date → Except Error Bool} {days n : Nat} {limit : Option Nat}
    {found out : List Date} (hn : 1 ≤ n) (h : walkDays p days n limit found = .ok out) :
    out = (takeAtMost limit ((datesFrom n days).filter (saysYes p))).reverse ++ found := by
  -- Along the walk: it ends in the first three cases, and goes on in the last two.
  fun_induction walkDays p days n limit found with
  | case1 =>
    cases h
    simp [datesFrom_zero, takeAtMost_nil]
  | case2 =>
    cases h
    simp [takeAtMost]
  | case3 n limit found days _ hd =>
    cases h
    simp [datesFrom_eq_nil hn hd, takeAtMost_nil]
  | case4 => cases h
  | case5 n limit found days hlimit d hd hp ih =>
    have hyes : saysYes p d = true := saysYes_iff.mpr hp
    rw [ih (by omega) h, datesFrom_cons hd, List.filter_cons_of_pos hyes,
      takeAtMost_cons (fun hzero => hlimit hzero)]
    simp
  | case6 n limit found days _ d hd hp ih =>
    have hno : ¬ saysYes p d = true := by
      rw [saysYes_iff, hp]
      intro hyes
      cases hyes
    rw [ih (by omega) h, datesFrom_cons hd, List.filter_cons_of_neg hno]

/-- The walk fails only where the predicate does. -/
theorem walkDays_total {p : Date → Except Error Bool} (hp : ∀ d, ∃ b, p d = .ok b)
    (days n : Nat) (limit : Option Nat) (found : List Date) :
    ∃ out, walkDays p days n limit found = .ok out := by
  fun_induction walkDays p days n limit found with
  | case1 => exact ⟨_, rfl⟩
  | case2 => exact ⟨_, rfl⟩
  | case3 => exact ⟨_, rfl⟩
  | case4 _ _ _ _ _ d _ e he =>
    obtain ⟨b, hb⟩ := hp d
    rw [he] at hb
    cases hb
  | case5 _ _ _ _ _ _ _ _ ih => exact ih
  | case6 _ _ _ _ _ _ _ _ ih => exact ih

/-! ## Selections -/

/-- **A selection is the first matches of its interval**, in order.  A limit below
zero is a limit of zero. -/
theorem selectDates_eq_ok {p : Date → Except Error Bool} {first last : Date} {limit : Option Int}
    {dates : List Date} (h : selectDates p first last limit = .ok dates) :
    dates = takeAtMost (limit.map Int.toNat) ((datesFromTo first last).filter (saysYes p)) := by
  have walk : ∀ {bound : Option Nat},
      (walkDays p (daysFromTo first last) first.dayNumber bound []).map List.reverse = .ok dates →
      dates = takeAtMost bound ((datesFromTo first last).filter (saysYes p)) := by
    intro bound hwalk
    obtain ⟨out, hout, rfl⟩ := except_map_eq_ok.mp hwalk
    rw [walkDays_eq_ok first.one_le hout, List.append_nil, List.reverse_reverse]
    rfl
  unfold selectDates at h
  split at h
  · exact walk h
  · rename_i n
    split at h
    · rename_i hn
      cases h
      simp [takeAtMost, Int.toNat_eq_zero.mpr hn]
    · split at h
      · cases h
      · exact walk h

/-- With a predicate that never fails, a selection fails only at a limit that is
refused. -/
theorem selectDates_total {p : Date → Except Error Bool} (hp : ∀ d, ∃ b, p d = .ok b)
    (first last : Date) {limit : Option Int} (hlimit : ∀ n, limit = some n → n < limitBound) :
    ∃ dates, selectDates p first last limit = .ok dates := by
  unfold selectDates
  split
  · obtain ⟨out, hout⟩ := walkDays_total hp (daysFromTo first last) first.dayNumber none []
    exact ⟨out.reverse, except_map_eq_ok.mpr ⟨out, hout, rfl⟩⟩
  · rename_i n
    split
    · exact ⟨[], rfl⟩
    · rw [if_neg (Int.not_le.mpr (hlimit n rfl))]
      obtain ⟨out, hout⟩ :=
        walkDays_total hp (daysFromTo first last) first.dayNumber (some n.toNat) []
      exact ⟨out.reverse, except_map_eq_ok.mpr ⟨out, hout, rfl⟩⟩

namespace Expression

/-- The expression is true on the date. -/
def matchesOn (e : Expression) (d : Date) : Bool :=
  saysYes (fun d => e.evaluate (.date d)) d

theorem matchesOn_iff {e : Expression} {d : Date} :
    e.matchesOn d = true ↔ e.evaluate (.date d) = .ok true :=
  saysYes_iff

/-- The dates of an interval on which an expression is true, up to a limit. -/
theorem dates_eq_ok {e : Expression} {first last : Date} {limit : Option Int} {dates : List Date}
    (h : e.dates first last limit = .ok dates) :
    dates = takeAtMost (limit.map Int.toNat) ((datesFromTo first last).filter e.matchesOn) :=
  selectDates_eq_ok h

/-! ## Expressions that never fail -/

theorem dates_of_total {e : Expression} (total : ∀ d, ∃ b, e.evaluate (.date d) = .ok b)
    (first last : Date) {limit : Option Int} (hlimit : ∀ n, limit = some n → n < limitBound) :
    e.dates first last limit =
      .ok (takeAtMost (limit.map Int.toNat) ((datesFromTo first last).filter e.matchesOn)) := by
  obtain ⟨dates, hdates⟩ := selectDates_total total first last hlimit
  rw [← dates_eq_ok hdates]
  exact hdates

theorem dates_some_of_total {e : Expression} (total : ∀ d, ∃ b, e.evaluate (.date d) = .ok b)
    (first last : Date) {n : Int} (hn : n < limitBound) :
    e.dates first last (some n) =
      .ok (((datesFromTo first last).filter e.matchesOn).take n.toNat) :=
  dates_of_total total first last (by rintro _ ⟨⟩; exact hn)

/-- **A selection filters the days of its interval in order, up to its limit.**  The days of an
interval are its dates, ascending and each the day after the one before; there are none if the
interval ends before it begins.  An expression that evaluates on every date selects those on which
it is true, in order: all of them without a limit, and else as many of the first as the limit says,
which are none for a limit that is not positive.  So a selection with a lower limit begins the one
with a higher. -/
theorem dates_filter_in_order {e : Expression} (total : ∀ d, ∃ b, e.evaluate (.date d) = .ok b)
    (first last : Date) :
    ((∀ d, d ∈ datesFromTo first last ↔ first ≤ d ∧ d ≤ last) ∧
      (datesFromTo first last).Pairwise (· < ·) ∧
      (datesFromTo first last).IsChain Date.IsDayAfter ∧
      (last < first → datesFromTo first last = [])) ∧
    ∃ found : List Date, found.Pairwise (· < ·) ∧
      (∀ d, d ∈ found ↔ first ≤ d ∧ d ≤ last ∧ e.evaluate (.date d) = .ok true) ∧
      e.dates first last none = .ok found ∧
      (∀ n < limitBound, e.dates first last (some n) = .ok (found.take n.toNat)) ∧
      (∀ n ≤ 0, e.dates first last (some n) = .ok []) ∧
      ∀ m n, m ≤ n → n < limitBound → ∃ xs ys,
        e.dates first last (some m) = .ok xs ∧ e.dates first last (some n) = .ok ys ∧ xs <+: ys := by
  refine ⟨⟨fun d => mem_datesFromTo, pairwise_datesFromTo first last, ?_, datesFromTo_eq_nil⟩,
    (datesFromTo first last).filter e.matchesOn, (pairwise_datesFromTo first last).filter _,
    fun d => ?_, ?_, fun n => dates_some_of_total total first last, fun n hn => ?_,
    fun m n hmn hn => ?_⟩
  · exact (isChain_datesFromTo first last).imp fun _ _ => Date.isDayAfter_of_dayNumber
  · rw [List.mem_filter, mem_datesFromTo, matchesOn_iff, and_assoc]
  · exact dates_of_total total first last fun n hn => nomatch hn
  · rw [dates_some_of_total total first last (Int.lt_of_le_of_lt hn (by decide)),
      Int.toNat_eq_zero.mpr hn, List.take_zero]
  · refine ⟨_, _, dates_some_of_total total first last (Int.lt_of_le_of_lt hmn hn),
      dates_some_of_total total first last hn, ?_⟩
    exact List.take_prefix_take_left (Int.toNat_le_toNat hmn)

/-- The Fridays from 9999-12-12 to the end of the calendar, the last of which is its last date:
the first of them alone begins the first two. -/
theorem dates_filter_in_order_lastFriday :
    (∀ d, ∃ b, (leaf (.weekday 4)).evaluate (.date d) = .ok b) ∧
      ∃ found, Date.last ∈ found ∧
        (leaf (.weekday 4)).dates ⟨3652040, by decide, by decide⟩ .last none = .ok found ∧
        ∃ xs ys,
          (leaf (.weekday 4)).dates ⟨3652040, by decide, by decide⟩ .last (some 1) = .ok xs ∧
          (leaf (.weekday 4)).dates ⟨3652040, by decide, by decide⟩ .last (some 2) = .ok ys ∧
          xs <+: ys := by
  have total : ∀ d, ∃ b, (leaf (.weekday 4)).evaluate (.date d) = .ok b := fun d => ⟨_, rfl⟩
  obtain ⟨-, found, -, hmem, hall, -, -, hprefix⟩ :=
    dates_filter_in_order total ⟨3652040, by decide, by decide⟩ .last
  have hlast : Date.last ∈ found := (hmem .last).mpr ⟨by decide, by decide, by rfl⟩
  exact ⟨total, found, hlast, hall, hprefix 1 2 (by decide) (by decide)⟩

end Expression

end Recurrence
