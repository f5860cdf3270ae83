import Mathlib.Data.List.Chain
import Mathlib.Data.List.Sort
import Recurrence.Expression.Dates

/-! # Runs of dates

`datesFromTo first last` is the run of dates from one date to another: ascending,
each date once, with no day number left out (`isChain_datesFromTo`).  A run grows at
its end when its last date is put off, so runs that start on one date are prefixes of
each other (`datesFromTo_prefix`).

An ascending list is determined by what it holds; two of them are proved equal by
comparing members (`List.Pairwise.eq_of_mem_iff`, through the instances below).
-/
namespace Recurrence

namespace Date

theorem lt_irrefl (d : Date) : ¬ d < d := Nat.lt_irrefl d.dayNumber

theorem le_of_lt {d e : Date} (h : d < e) : d ≤ e := Nat.le_of_lt (lt_iff.mp h)

theorem not_le {d e : Date} : ¬ d ≤ e ↔ e < d := Nat.not_le

theorem ne_of_lt {d e : Date} (h : d < e) : d ≠ e := fun he => lt_irrefl e (he ▸ h)

instance : Std.Irrefl (α := Date) (· < ·) := ⟨lt_irrefl⟩

instance : Std.Antisymm (α := Date) (· < ·) :=
  ⟨fun _ _ h h' => absurd h' (Nat.lt_asymm h)⟩

theorem dayNumber_injective : Function.Injective dayNumber := fun _ _ => ext_dayNumber

theorem ofDayNumber?_eq_some {n : Int} {d : Date} :
    ofDayNumber? n = some d ↔ (d.dayNumber : Int) = n := by
  constructor
  · intro h
    unfold ofDayNumber? at h
    split at h
    · rename_i hn
      cases h
      exact Int.toNat_of_nonneg (by omega)
    · cases h
  · rintro rfl
    exact ofDayNumber?_dayNumber d

theorem addDays?_eq_some {d e : Date} {days : Int} :
    d.addDays? days = some e ↔ (e.dayNumber : Int) = d.dayNumber + days :=
  ofDayNumber?_eq_some

end Date

/-! ## Day numbers of a run -/

/-- The dates with `days` day numbers from `n` on, as far as the calendar goes. -/
def datesFrom (n days : Nat) : List Date :=
  (List.range' n days).filterMap fun (k : Nat) => Date.ofDayNumber? k

theorem datesFromTo_eq (first last : Date) :
    datesFromTo first last = datesFrom first.dayNumber (daysFromTo first last) := rfl

theorem mem_datesFrom {n days : Nat} {d : Date} :
    d ∈ datesFrom n days ↔ n ≤ d.dayNumber ∧ d.dayNumber < n + days := by
  simp only [datesFrom, List.mem_filterMap, List.mem_range'_1, Date.ofDayNumber?_eq_some]
  constructor
  · rintro ⟨k, hk, hd⟩
    omega
  · intro h
    exact ⟨d.dayNumber, h, rfl⟩

theorem datesFrom_zero (n : Nat) : datesFrom n 0 = [] := rfl

theorem datesFrom_cons {n : Nat} {d : Date} (h : Date.ofDayNumber? n = some d) (days : Nat) :
    datesFrom n (days + 1) = d :: datesFrom (n + 1) days := by
  simp [datesFrom, List.range'_succ, h]

/-- Behind the end of the calendar there are no dates. -/
theorem datesFrom_eq_nil {n : Nat} (hn : 1 ≤ n) (h : Date.ofDayNumber? n = none) (days : Nat) :
    datesFrom n days = [] := by
  rw [List.eq_nil_iff_forall_not_mem]
  intro d hd
  have hlast := d.le_last
  have hle := (mem_datesFrom.mp hd).1
  unfold Date.ofDayNumber? at h
  rw [dif_pos ⟨by omega, by omega⟩] at h
  cases h

theorem datesFrom_append (n a b : Nat) :
    datesFrom n (a + b) = datesFrom n a ++ datesFrom (n + a) b := by
  rw [datesFrom, ← List.range'_append_1, List.filterMap_append]
  rfl

theorem pairwise_datesFrom (n days : Nat) : (datesFrom n days).Pairwise (· < ·) := by
  refine List.Pairwise.filterMap _ ?_ (List.pairwise_lt_range' (s := n) (n := days))
  intro a b hab d hd e he
  rw [Date.ofDayNumber?_eq_some] at hd he
  exact Date.lt_iff.mpr (by omega)

theorem datesFromTo_eq_nil {first last : Date} (h : last < first) :
    datesFromTo first last = [] := by
  rw [List.eq_nil_iff_forall_not_mem]
  intro d hd
  obtain ⟨hfirst, hlast⟩ := mem_datesFromTo.mp hd
  exact Date.not_le.mpr h (Nat.le_trans hfirst hlast)

theorem pairwise_datesFromTo (first last : Date) : (datesFromTo first last).Pairwise (· < ·) :=
  pairwise_datesFrom ..

theorem dayNumber_of_head?_datesFrom {n days : Nat} {d : Date} (hn : 1 ≤ n)
    (h : (datesFrom n days).head? = some d) : d.dayNumber = n := by
  cases days with
  | zero => cases h
  | succ days =>
    cases hfirst : Date.ofDayNumber? n with
    | none =>
      rw [datesFrom_eq_nil hn hfirst] at h
      cases h
    | some e =>
      rw [datesFrom_cons hfirst] at h
      cases h
      exact Date.dayNumber_of_ofDayNumber? hfirst

/-- A run leaves no day number out. -/
theorem isChain_datesFrom {n : Nat} (hn : 1 ≤ n) (days : Nat) :
    (datesFrom n days).IsChain fun d e => e.dayNumber = d.dayNumber + 1 := by
  induction days generalizing n with
  | zero => exact .nil
  | succ days ih =>
    cases hfirst : Date.ofDayNumber? n with
    | none =>
      rw [datesFrom_eq_nil hn hfirst]
      exact .nil
    | some d =>
      rw [datesFrom_cons hfirst, List.isChain_cons]
      refine ⟨fun e he => ?_, ih (Nat.le_succ_of_le hn)⟩
      rw [dayNumber_of_head?_datesFrom (Nat.le_succ_of_le hn) he,
        Date.dayNumber_of_ofDayNumber? hfirst]

theorem isChain_datesFromTo (first last : Date) :
    (datesFromTo first last).IsChain fun d e => e.dayNumber = d.dayNumber + 1 :=
  isChain_datesFrom first.one_le _

/-- A run to a later date continues the run to an earlier one, with later dates. -/
theorem datesFromTo_prefix (first : Date) {last final : Date} (h : last ≤ final) :
    ∃ rest, datesFromTo first final = datesFromTo first last ++ rest ∧ ∀ d ∈ rest, last < d := by
  have hdays : daysFromTo first last ≤ daysFromTo first final := by
    have := Date.le_iff.mp h
    unfold daysFromTo
    omega
  obtain ⟨more, hmore⟩ := Nat.exists_eq_add_of_le hdays
  refine ⟨datesFrom (first.dayNumber + daysFromTo first last) more, ?_, ?_⟩
  · rw [datesFromTo_eq, hmore, datesFrom_append]
    rfl
  · intro d hd
    have hd' := (mem_datesFrom.mp hd).1
    unfold daysFromTo at hd'
    exact Date.lt_iff.mpr (by omega)

end Recurrence
