import Recurrence.Error

/-!
# Outcomes

An operation of the library may fail, and it may warn whether it fails or not.  An `Outcome` holds
both: the value or the error, and the warnings in the order in which they arose.  Operations are
chained in sequence; the first error ends the chain and keeps the warnings raised before it.
-/

namespace Recurrence

/-- The value or error of an operation, with its warnings. -/
structure Outcome (α : Type) where
  /-- The value, or why there is none. -/
  result : Except Error α
  /-- The warnings, in order. -/
  warnings : List Warning

namespace Outcome

/-- A value without warnings. -/
def ok {α : Type} (a : α) : Outcome α := ⟨.ok a, []⟩

/-- A failure without warnings. -/
def fail {α : Type} (e : Error) : Outcome α := ⟨.error e, []⟩

/-- A warning alone. -/
def warn (w : Warning) : Outcome Unit := ⟨.ok (), [w]⟩

/-- One operation after another. -/
def andThen {α β : Type} (x : Outcome α) (f : α → Outcome β) : Outcome β :=
  match x.result with
  | .error e => ⟨.error e, x.warnings⟩
  | .ok a => ⟨(f a).result, x.warnings ++ (f a).warnings⟩

instance : Monad Outcome where
  pure := ok
  bind := andThen

/-- An operation that never warns. -/
def ofExcept {α : Type} (x : Except Error α) : Outcome α := ⟨x, []⟩

/-- An operation that fails with rule errors only and never warns. -/
def ofRule {α : Type} (x : Except RuleError α) : Outcome α := ⟨x.mapError .rule, []⟩

instance : MonadLift (Except Error) Outcome := ⟨ofExcept⟩

instance : MonadLift (Except RuleError) Outcome := ⟨ofRule⟩

@[simp] theorem pure_def {α : Type} (a : α) : (pure a : Outcome α) = ⟨.ok a, []⟩ := rfl

theorem bind_def {α β : Type} (x : Outcome α) (f : α → Outcome β) : x >>= f = x.andThen f := rfl

@[simp] theorem ok_andThen {α β : Type} (a : α) (f : α → Outcome β) : (ok a).andThen f = f a := by
  simp [ok, andThen]

@[simp] theorem fail_andThen {α β : Type} (e : Error) (f : α → Outcome β) :
    (fail e).andThen f = fail e := rfl

theorem result_andThen_eq_ok {α β : Type} {x : Outcome α} {f : α → Outcome β} {b : β} :
    (x.andThen f).result = .ok b ↔ ∃ a, x.result = .ok a ∧ (f a).result = .ok b := by
  cases h : x.result <;> simp [andThen, h]

end Outcome

end Recurrence
