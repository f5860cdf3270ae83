import Recurrence.Proofs.Calendar.Distance
import Recurrence.Proofs.Calendar.Weekday

/-! # What an expression means on dates

An expression *means* a property of dates if on every date it evaluates, without
error, to whether the date has the property (`Expression.Means`).  Matchers mean
what they are named for, in terms of the calendar alone; a combination is
evaluated from left to right until the answer is known
(`Expression.evaluate_combine`), so it means that all, or some, of its parts'
properties hold.
-/
namespace Recurrence

/-- On every date the matcher answers whether the date has the property. -/
def Matcher.Means (m : Matcher) (P : Date → Prop) : Prop :=
  ∀ d, ∃ b, m.includes (.date d) = .ok b ∧ (b = true ↔ P d)

/-! ## Matchers -/

namespace Matcher

theorem means_after (boundary : Date) : (after (.date boundary)).Means (boundary < ·) := by
  intro d
  refine ⟨_, rfl, ?_⟩
  rw [beq_iff_eq, Nat.compare_eq_gt]
  exact Date.lt_iff.symm

theorem means_before (boundary : Date) : (before (.date boundary)).Means (· ≤ boundary) := by
  intro d
  refine ⟨_, rfl, ?_⟩
  rw [bne_iff_ne, ne_eq, Nat.compare_eq_gt, Nat.not_lt]
  exact Date.le_iff.symm

/-- The unit of the date is a multiple of the interval away from that of the
anchor. -/
theorem means_everyNUnits (anchor : Date) (interval : Interval) (u : TimeUnit) :
    (everyNUnits anchor interval u).Means fun d =>
      (interval.count : Int) ∣ (u.number d : Int) - u.number anchor := by
  intro d
  refine ⟨_, includes_everyNUnits anchor interval u d, ?_⟩
  rw [beq_iff_eq]
  exact Int.dvd_iff_emod_eq_zero.symm

theorem means_dayInterval (anchor : Date) (interval : Interval) :
    (dayInterval anchor interval).Means fun d =>
      (interval.count : Int) ∣ (d.dayNumber : Int) - anchor.dayNumber :=
  means_everyNUnits anchor interval .day

theorem means_weekday (number : Nat) : (weekday number).Means fun d => d.weekday = number := by
  intro d
  refine ⟨_, rfl, ?_⟩
  rw [beq_iff_eq]
  exact Int.ofNat_inj

theorem means_ordinalWeekday (ordinal : Int) (number : Nat) :
    (ordinalWeekday ordinal number).Means fun d =>
      d.weekday = number ∧ d.IsNthWeekday ordinal := by
  intro d
  refine ⟨_, rfl, ?_⟩
  rw [Bool.and_eq_true, beq_iff_eq, Date.isNthOfMonth_iff]
  exact and_congr_left' Int.ofNat_inj

end Matcher

/-- The day of the month has the number `n`, counted from the month's end if `n` is
negative. -/
def Date.IsMonthDay (d : Date) (n : Int) : Prop :=
  (0 ≤ n ∧ (d.day : Int) = n) ∨ (n < 0 ∧ (d.day : Int) = d.monthLength + 1 + n)

namespace Matcher

theorem means_dayOfMonth (n : Int) : (dayOfMonth n).Means (·.IsMonthDay n) := by
  intro d
  refine ⟨_, rfl, ?_⟩
  unfold Date.IsMonthDay
  show (if n < 0 then (d.monthLength : Int) + n + 1 == d.day else (d.day : Int) == n) = true ↔ _
  split
  · rw [beq_iff_eq]
    omega
  · rw [beq_iff_eq]
    omega

theorem means_dayOfMonthRange (day : Nat) :
    (dayOfMonthRange day day).Means fun d => d.day = day := by
  intro d
  refine ⟨_, rfl, ?_⟩
  show (decide ((day : Int) ≤ d.day) && decide ((d.day : Int) ≤ day)) = true ↔ _
  rw [Bool.and_eq_true, decide_eq_true_eq, decide_eq_true_eq]
  omega

theorem means_month (number : Int) : (month number).Means fun d => (d.month : Int) = number := by
  intro d
  exact ⟨_, rfl, beq_iff_eq⟩

end Matcher

/-! ## Combinations -/

namespace Expression

/-- On every date the expression evaluates to whether the date has the property. -/
def Means (e : Expression) (P : Date → Prop) : Prop :=
  ∀ d, ∃ b, e.evaluate (.date d) = .ok b ∧ (b = true ↔ P d)

theorem Means.exists_evaluate {e : Expression} {P : Date → Prop} (h : e.Means P) (d : Date) :
    ∃ b, e.evaluate (.date d) = .ok b := by
  obtain ⟨b, hb, -⟩ := h d
  exact ⟨b, hb⟩

theorem Means.evaluate_iff {e : Expression} {P : Date → Prop} (h : e.Means P) (d : Date) :
    e.evaluate (.date d) = .ok true ↔ P d := by
  obtain ⟨b, hb, hP⟩ := h d
  rw [← hP, hb, Except.ok.injEq]

theorem means_leaf {m : Matcher} {P : Date → Prop} (h : m.Means P) : (leaf m).Means P := h

theorem Means.congr {e : Expression} {P Q : Date → Prop} (h : e.Means P)
    (hPQ : ∀ d, P d ↔ Q d) : e.Means Q := by
  intro d
  obtain ⟨b, hb, hP⟩ := h d
  exact ⟨b, hb, hP.trans (hPQ d)⟩

/-- The answer of a part that does not decide a combination. -/
def undecided : Connective → Bool
  | .and => true
  | .or => false

/-- The parts evaluated one after the other until one of them decides, or fails. -/
def evaluateInOrder (c : Connective) : List Expression → Stamp → Except Error Bool
  | [], _ => .ok (undecided c)
  | e :: rest, day =>
    match e.wrap.evaluate day with
    | .error err => .error err
    | .ok b => if b = undecided c then evaluateInOrder c rest day else .ok b

theorem evaluateInOrder_append (c : Connective) (xs ys : List Expression) (day : Stamp) :
    evaluateInOrder c (xs ++ ys) day =
      match evaluateInOrder c xs day with
      | .error err => .error err
      | .ok b => if b = undecided c then evaluateInOrder c ys day else .ok b := by
  induction xs with
  | nil => simp [evaluateInOrder]
  | cons e xs ih =>
    rw [List.cons_append, evaluateInOrder, evaluateInOrder, ih]
    rcases e.wrap.evaluate day with err | b
    · rfl
    · by_cases hb : b = undecided c <;> simp [hb]

theorem evaluate_join (c : Connective) (left right : Expression) (day : Stamp) :
    (join c left right).evaluate day =
      match left.evaluate day with
      | .error err => .error err
      | .ok b => if b = undecided c then right.evaluate day else .ok b := by
  cases c with
  | and => rcases h : left.evaluate day with err | (_ | _) <;> simp [join, evaluate, h, undecided]
  | or => rcases h : left.evaluate day with err | (_ | _) <;> simp [join, evaluate, h, undecided]

/-- The tree leans to the left, yet its parts are evaluated from the first on. -/
theorem evaluate_foldl_join (c : Connective) (first : Expression) (rest : List Expression)
    (day : Stamp) :
    (rest.foldl (fun left right => join c left right.wrap) first).evaluate day =
      match first.evaluate day with
      | .error err => .error err
      | .ok b => if b = undecided c then evaluateInOrder c rest day else .ok b := by
  induction rest generalizing first with
  | nil =>
    rw [List.foldl_nil]
    rcases first.evaluate day with err | b
    · rfl
    · by_cases hb : b = undecided c <;> simp [evaluateInOrder, hb]
  | cons e rest ih =>
    rw [List.foldl_cons, ih, evaluate_join]
    rcases first.evaluate day with err | b
    · rfl
    · by_cases hb : b = undecided c <;> simp [evaluateInOrder, hb]

/-- **A combination evaluates its parts in order**, and stops at the first one that
decides or fails. -/
theorem evaluate_combine {c : Connective} {parts : List Expression} {e : Expression}
    (h : combine c parts = .ok e) (day : Stamp) :
    e.evaluate day = evaluateInOrder c parts day := by
  cases parts with
  | nil => cases h
  | cons first rest =>
    cases h
    exact evaluate_foldl_join c first.wrap rest day

/-! ## Parts in order -/

/-- On every date the parts, evaluated in order, answer whether the date has the
property. -/
def MeanInOrder (c : Connective) (parts : List Expression) (P : Date → Prop) : Prop :=
  ∀ d, ∃ b, evaluateInOrder c parts (.date d) = .ok b ∧ (b = true ↔ P d)

theorem MeanInOrder.congr {c : Connective} {parts : List Expression} {P Q : Date → Prop}
    (h : MeanInOrder c parts P) (hPQ : ∀ d, P d ↔ Q d) : MeanInOrder c parts Q := by
  intro d
  obtain ⟨b, hb, hP⟩ := h d
  exact ⟨b, hb, hP.trans (hPQ d)⟩

theorem means_of_combine {c : Connective} {parts : List Expression} {e : Expression}
    {P : Date → Prop} (he : combine c parts = .ok e) (h : MeanInOrder c parts P) : e.Means P := by
  intro d
  rw [evaluate_combine he]
  exact h d

/-- A part that means something is no bare matcher, so it is combined as it is. -/
theorem Means.wrap {e : Expression} {P : Date → Prop} (h : e.Means P) : e.wrap = e := by
  cases e with
  | bare m =>
    obtain ⟨b, hb, -⟩ := h .first
    cases hb
  | leaf | and | or => rfl

theorem meanInOrder_and_nil : MeanInOrder .and [] fun _ => True :=
  fun _ => ⟨true, rfl, by simp⟩

theorem meanInOrder_and_cons {e : Expression} {rest : List Expression} {P Q : Date → Prop}
    (h : e.Means P) (hrest : MeanInOrder .and rest Q) :
    MeanInOrder .and (e :: rest) fun d => P d ∧ Q d := by
  intro d
  obtain ⟨b, hb, hP⟩ := h d
  obtain ⟨b', hb', hQ⟩ := hrest d
  refine ⟨b && b', ?_, by rw [Bool.and_eq_true, hP, hQ]⟩
  rw [evaluateInOrder, h.wrap, hb]
  cases b with
  | true => exact hb'
  | false => rfl

theorem meanInOrder_or_cons {e : Expression} {rest : List Expression} {P Q : Date → Prop}
    (h : e.Means P) (hrest : MeanInOrder .or rest Q) :
    MeanInOrder .or (e :: rest) fun d => P d ∨ Q d := by
  intro d
  obtain ⟨b, hb, hP⟩ := h d
  obtain ⟨b', hb', hQ⟩ := hrest d
  refine ⟨b || b', ?_, by rw [Bool.or_eq_true, hP, hQ]⟩
  rw [evaluateInOrder, h.wrap, hb]
  cases b with
  | true => rfl
  | false => exact hb'

theorem meanInOrder_and_append {xs ys : List Expression} {P Q : Date → Prop}
    (hx : MeanInOrder .and xs P) (hy : MeanInOrder .and ys Q) :
    MeanInOrder .and (xs ++ ys) fun d => P d ∧ Q d := by
  intro d
  obtain ⟨b, hb, hP⟩ := hx d
  obtain ⟨b', hb', hQ⟩ := hy d
  refine ⟨b && b', ?_, by rw [Bool.and_eq_true, hP, hQ]⟩
  rw [evaluateInOrder_append, hb]
  cases b with
  | true => exact hb'
  | false => rfl

/-- Some of a list of parts. -/
theorem meanInOrder_or_map {α : Type} {part : α → Expression} {P : α → Date → Prop}
    (h : ∀ x, (part x).Means (P x)) (xs : List α) :
    MeanInOrder .or (xs.map part) fun d => ∃ x ∈ xs, P x d := by
  induction xs with
  | nil => exact fun _ => ⟨false, rfl, by simp⟩
  | cons x xs ih =>
    refine (meanInOrder_or_cons (h x) ih).congr fun d => ?_
    simp

end Expression

end Recurrence
