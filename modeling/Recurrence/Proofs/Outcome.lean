import Mathlib.Data.List.Forall2
import Recurrence.Outcome

/-! # Chains of operations

An operation that may fail succeeds only if each of its steps does, and fails with
the error of one of them.  These lemmas take a chain apart into its steps, if it
succeeds (`_eq_ok`) and if it fails (`_eq_error`): `Except` chains, `Outcome`
chains, and one operation over all members of a list.  Outcomes, with their
warnings, obey the laws of a monad.
-/
namespace Recurrence

section Except
variable {ε ε' α β : Type}

theorem except_bind_eq_ok {x : Except ε α} {f : α → Except ε β} {b : β} :
    (x >>= f) = .ok b ↔ ∃ a, x = .ok a ∧ f a = .ok b := by
  cases x with
  | error e =>
    constructor
    · intro h
      cases h
    · rintro ⟨a, h, _⟩
      cases h
  | ok a =>
    constructor
    · intro h
      exact ⟨a, rfl, h⟩
    · rintro ⟨a', h, hf⟩
      cases h
      exact hf

/-- A chain fails with the error of its first step, or of the rest. -/
theorem except_bind_eq_error {x : Except ε α} {f : α → Except ε β} {err : ε} :
    (x >>= f) = .error err ↔ x = .error err ∨ ∃ a, x = .ok a ∧ f a = .error err := by
  cases x with
  | error e => simp [bind, Except.bind]
  | ok a => simp [bind, Except.bind]

theorem mapError_eq_error {f : ε → ε'} {x : Except ε α} {err : ε'} :
    x.mapError f = .error err ↔ ∃ e, x = .error e ∧ f e = err := by
  cases x <;> simp [Except.mapError]

theorem except_map_eq_error {f : α → β} {x : Except ε α} {err : ε} :
    x.map f = .error err ↔ x = .error err := by
  cases x <;> simp [Except.map]

/-- An operation that has one error to fail with fails with that one. -/
theorem except_eq_error_iff {x : Except ε α} {refusal err : ε}
    (h : ∀ {err}, x = .error err → err = refusal) :
    x = .error err ↔ x = .error refusal ∧ err = refusal := by
  constructor
  · intro hx
    obtain rfl := h hx
    exact ⟨hx, rfl⟩
  · rintro ⟨hx, rfl⟩
    exact hx

theorem mapError_eq_ok {f : ε → ε'} {x : Except ε α} {a : α} :
    x.mapError f = .ok a ↔ x = .ok a := by
  cases x <;> simp [Except.mapError]

theorem except_map_eq_ok {f : α → β} {x : Except ε α} {b : β} :
    x.map f = .ok b ↔ ∃ a, x = .ok a ∧ f a = b := by
  cases x <;> simp [Except.map]

/-- An operation succeeds on all members of a list if and only if it does on each
of them, and then its results are theirs, in order. -/
theorem mapM_eq_ok {f : α → Except ε β} {xs : List α} {ys : List β} :
    xs.mapM f = .ok ys ↔ List.Forall₂ (fun x y => f x = .ok y) xs ys := by
  induction xs generalizing ys with
  | nil =>
    rw [List.mapM_nil, List.forall₂_nil_left_iff]
    constructor
    · intro h
      cases h
      rfl
    · rintro rfl
      rfl
  | cons x xs ih =>
    simp only [List.mapM_cons, except_bind_eq_ok, List.forall₂_cons_left_iff]
    constructor
    · rintro ⟨y, hy, rest, hrest, hys⟩
      cases hys
      exact ⟨y, rest, hy, ih.mp hrest, rfl⟩
    · rintro ⟨y, rest, hy, hrest, rfl⟩
      exact ⟨y, hy, rest, ih.mpr hrest, rfl⟩

/-- An operation that succeeds on a list succeeds on every member. -/
theorem exists_eq_ok_of_mem {f : α → Except ε β} {xs : List α} {ys : List β}
    (h : xs.mapM f = .ok ys) {x : α} (hx : x ∈ xs) : ∃ y, f x = .ok y := by
  have hall := mapM_eq_ok.mp h
  clear h
  induction hall with
  | nil => cases hx
  | cons hxy _ ih =>
    rcases List.mem_cons.mp hx with rfl | hx
    · exact ⟨_, hxy⟩
    · exact ih hx

/-- An operation that succeeds on every member succeeds on the list. -/
theorem exists_mapM_eq_ok {f : α → Except ε β} {xs : List α}
    (h : ∀ x ∈ xs, ∃ y, f x = .ok y) : ∃ ys, xs.mapM f = .ok ys := by
  simp only [mapM_eq_ok]
  induction xs with
  | nil => exact ⟨[], .nil⟩
  | cons x xs ih =>
    obtain ⟨y, hy⟩ := h x List.mem_cons_self
    obtain ⟨ys, hys⟩ := ih fun z hz => h z (List.mem_cons_of_mem x hz)
    exact ⟨y :: ys, .cons hy hys⟩

/-- The results are those of the members. -/
theorem exists_mem_of_mapM_eq_ok {f : α → Except ε β} {xs : List α} {ys : List β}
    (h : xs.mapM f = .ok ys) (P : β → Prop) :
    (∃ y ∈ ys, P y) ↔ ∃ x ∈ xs, ∃ y, f x = .ok y ∧ P y := by
  have hall := mapM_eq_ok.mp h
  clear h
  induction hall with
  | nil => simp
  | cons hxy _ ih => simp [ih, hxy]

/-- An operation over a list fails with the error of the first member on which it fails. -/
theorem mapM_eq_error {f : α → Except ε β} {xs : List α} {err : ε} :
    xs.mapM f = .error err ↔
      ∃ before x after, xs = before ++ x :: after ∧ (∀ y ∈ before, ∃ b, f y = .ok b) ∧
        f x = .error err := by
  induction xs with
  | nil => simp [pure, Except.pure]
  | cons x xs ih =>
    rw [List.mapM_cons, except_bind_eq_error]
    constructor
    · rintro (hx | ⟨b, hb, hrest⟩)
      · exact ⟨[], x, xs, rfl, by simp, hx⟩
      · have hrest : xs.mapM f = .error err := by
          rcases except_bind_eq_error.mp hrest with h | ⟨bs, -, h⟩
          · exact h
          · cases h
        obtain ⟨before, y, after, rfl, hbefore, hy⟩ := ih.mp hrest
        refine ⟨x :: before, y, after, rfl, fun z hz => ?_, hy⟩
        rcases List.mem_cons.mp hz with rfl | hz
        · exact ⟨b, hb⟩
        · exact hbefore z hz
    · rintro ⟨before, y, after, hxs, hbefore, hy⟩
      cases before with
      | nil =>
        cases hxs
        exact .inl hy
      | cons z before =>
        cases hxs
        obtain ⟨b, hb⟩ := hbefore x List.mem_cons_self
        refine .inr ⟨b, hb, except_bind_eq_error.mpr (.inl (ih.mpr ?_))⟩
        exact ⟨before, y, after, rfl, fun z hz => hbefore z (List.mem_cons_of_mem x hz), hy⟩

/-- To give the errors of an operation another form gives those of a whole list that form. -/
theorem mapM_mapError (g : ε → ε') (f : α → Except ε β) (xs : List α) :
    (xs.mapM fun x => (f x).mapError g) = (xs.mapM f).mapError g := by
  induction xs with
  | nil => rfl
  | cons x xs ih =>
    rw [List.mapM_cons, List.mapM_cons, ih]
    cases f x with
    | error err => rfl
    | ok y => cases xs.mapM f <;> rfl

end Except

namespace Outcome
variable {α β : Type}

protected theorem id_map (x : Outcome α) : id <$> x = x := by
  rcases x with ⟨_ | a, ws⟩ <;> simp [Functor.map, andThen, ok]

protected theorem bind_assoc {γ : Type} (x : Outcome α) (f : α → Outcome β) (g : β → Outcome γ) :
    x >>= f >>= g = x >>= fun a => f a >>= g := by
  rcases x with ⟨_ | a, ws⟩
  · rfl
  · rcases h : f a with ⟨_ | b, vs⟩ <;> simp [bind_def, andThen, h]

instance : LawfulMonad Outcome :=
  LawfulMonad.mk' Outcome Outcome.id_map (fun a f => ok_andThen a f) Outcome.bind_assoc

theorem result_bind_eq_error {x : Outcome α} {f : α → Outcome β} {err : Error} :
    (x >>= f).result = .error err ↔
      x.result = .error err ∨ ∃ a, x.result = .ok a ∧ (f a).result = .error err := by
  cases h : x.result <;> simp [bind_def, andThen, h]

/-- Chains are the same if they go on alike from the value of their first step. -/
theorem bind_congr_of_result {x : Outcome α} {f g : α → Outcome β}
    (h : ∀ a, x.result = .ok a → f a = g a) : x >>= f = x >>= g := by
  rcases hx : x.result with err | a
  · simp only [bind_def, andThen, hx]
  · simp only [bind_def, andThen, hx, h a hx]

theorem result_bind_eq_ok {x : Outcome α} {f : α → Outcome β} {b : β} :
    (x >>= f).result = .ok b ↔ ∃ a, x.result = .ok a ∧ (f a).result = .ok b :=
  result_andThen_eq_ok

@[simp] theorem result_liftM_rule (x : Except RuleError α) :
    (liftM x : Outcome α).result = x.mapError .rule := rfl

/-- What comes of a chain whose first step succeeds is what comes of the rest. -/
theorem result_bind_of_eq_ok {x : Outcome α} {a : α} (h : x.result = .ok a) (f : α → Outcome β) :
    (x >>= f).result = (f a).result := by
  rw [bind_def, andThen, h]

/-- A step that succeeds without a warning hands its value on. -/
theorem liftM_ok_bind (a : α) (f : α → Outcome β) :
    (liftM (.ok a : Except RuleError α) : Outcome α) >>= f = f a :=
  ok_andThen a f

end Outcome

end Recurrence
