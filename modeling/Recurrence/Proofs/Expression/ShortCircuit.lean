import Recurrence.Proofs.Expression.Meaning

/-! # Where the evaluation of a combination stops

A combination is a tree that leans to the left, its first part deepest.  Its
evaluation still takes the parts from the first to the last, and ends at the first
one that does not *pass*: one that is not true, for "and", or not false, for "or",
be it that it decides the combination or that it fails (`Expression.StopsAt`).
What such a part says is what the combination says (`evaluate_of_stopsAt`).

What stands behind that part is not looked at.  To say so, evaluation is followed
leaf by leaf: `Expression.reached` lists the leaves that it comes to, in order.
The last of them gives the answer (`Expression.endsAtLeaf`), and in a combination
they are the leaves reached in the parts up to the one at which it stops
(`reached_of_stopsAt`).
-/
namespace Recurrence
namespace Expression

/-! ## The leaves of an evaluation -/

/-- An answer can be told from a given one, although errors cannot be told apart. -/
instance decidableEqOk (answer : Except Error Bool) (b : Bool) : Decidable (answer = .ok b) :=
  match answer with
  | .ok a => decidable_of_iff (a = b) (by rw [Except.ok.injEq])
  | .error _ => isFalse nofun

/-- The leaves that the evaluation of an expression comes to, in order.  Those of a
right part follow if the left one leaves the answer open. -/
def reached : Expression → Stamp → List Expression
  | .and left right, day =>
    left.reached day ++ if left.evaluate day = .ok true then right.reached day else []
  | .or left right, day =>
    left.reached day ++ if left.evaluate day = .ok false then right.reached day else []
  | e, _ => [e]

theorem reached_join (c : Connective) (left right : Expression) (day : Stamp) :
    (join c left right).reached day =
      left.reached day ++
        if left.evaluate day = .ok (undecided c) then right.reached day else [] := by
  cases c <;> rfl

theorem evaluate_join_eq_ite (c : Connective) (left right : Expression) (day : Stamp) :
    (join c left right).evaluate day =
      if left.evaluate day = .ok (undecided c) then right.evaluate day
      else left.evaluate day := by
  rw [evaluate_join]
  rcases left.evaluate day with err | b <;> simp

/-- The evaluation ends at the last leaf that it comes to: all leaves before it have
answers, and what it says, or how it fails, is what the expression does. -/
def EndsAtLeaf (e : Expression) (day : Stamp) : Prop :=
  ∃ before last, e.reached day = before ++ [last] ∧
    (∀ leaf ∈ before, ∃ b, leaf.evaluate day = .ok b) ∧ last.evaluate day = e.evaluate day

theorem EndsAtLeaf.join {left right : Expression} {day : Stamp} (c : Connective)
    (hleft : left.EndsAtLeaf day) (hright : right.EndsAtLeaf day) :
    (join c left right).EndsAtLeaf day := by
  obtain ⟨before, last, hreached, hbefore, hlast⟩ := hleft
  unfold EndsAtLeaf
  rw [reached_join, evaluate_join_eq_ite, hreached]
  by_cases hanswer : left.evaluate day = .ok (undecided c)
  · -- The left part leaves it open, so its last leaf is one of those with answers.
    rw [if_pos hanswer, if_pos hanswer]
    obtain ⟨before', last', hreached', hbefore', hlast'⟩ := hright
    refine ⟨before ++ [last] ++ before', last', ?_, ?_, hlast'⟩
    · rw [hreached', ← List.append_assoc]
    · have hanswered : ∃ b, last.evaluate day = .ok b := ⟨undecided c, hlast.trans hanswer⟩
      rw [List.forall_mem_append, List.forall_mem_append, List.forall_mem_singleton]
      exact ⟨⟨hbefore, hanswered⟩, hbefore'⟩
  · rw [if_neg hanswer, if_neg hanswer]
    exact ⟨before, last, List.append_nil _, hbefore, hlast⟩

/-- **An evaluation ends at the last leaf that it comes to.** -/
theorem endsAtLeaf (e : Expression) (day : Stamp) : e.EndsAtLeaf day := by
  induction e with
  | leaf m => exact ⟨[], leaf m, rfl, List.forall_mem_nil _, rfl⟩
  | bare m => exact ⟨[], bare m, rfl, List.forall_mem_nil _, rfl⟩
  | and left right ihleft ihright => exact ihleft.join .and ihright
  | or left right ihleft ihright => exact ihleft.join .or ihright

/-! ## The parts of a combination that are evaluated -/

/-- The parts up to the first that does not leave a combination open. -/
def evaluatedParts (c : Connective) : List Expression → Stamp → List Expression
  | [], _ => []
  | e :: rest, day =>
    e :: if e.wrap.evaluate day = .ok (undecided c) then evaluatedParts c rest day else []

theorem evaluateInOrder_cons (c : Connective) (e : Expression) (rest : List Expression)
    (day : Stamp) :
    evaluateInOrder c (e :: rest) day =
      if e.wrap.evaluate day = .ok (undecided c) then evaluateInOrder c rest day
      else e.wrap.evaluate day := by
  rw [evaluateInOrder]
  rcases e.wrap.evaluate day with err | b <;> simp

theorem reached_foldl_join (c : Connective) (first : Expression) (rest : List Expression)
    (day : Stamp) :
    (rest.foldl (fun left right => join c left right.wrap) first).reached day =
      first.reached day ++
        if first.evaluate day = .ok (undecided c) then
          (evaluatedParts c rest day).flatMap (·.wrap.reached day)
        else [] := by
  -- Along the fold: `first` is the tree joined so far, and it is evaluated before all of `rest`.
  induction rest generalizing first with
  | nil => simp [evaluatedParts]
  | cons e rest ih =>
    rw [List.foldl_cons, ih, evaluate_join_eq_ite, reached_join, List.append_assoc]
    by_cases h : first.evaluate day = .ok (undecided c)
    · rw [if_pos h, if_pos h, if_pos h, evaluatedParts, List.flatMap_cons]
      split_ifs <;> rfl
    · simp [h]

/-- A combination comes to the leaves of its parts, one part after the other. -/
theorem reached_combine {c : Connective} {parts : List Expression} {e : Expression}
    (h : combine c parts = .ok e) (day : Stamp) :
    e.reached day = (evaluatedParts c parts day).flatMap (·.wrap.reached day) := by
  cases parts with
  | nil => cases h
  | cons first rest =>
    cases h
    rw [reached_foldl_join, evaluatedParts, List.flatMap_cons]
    split_ifs <;> rfl

/-! ## Parts that pass, and the first that does not -/

/-- A part passes if it says `pass`, the answer that leaves the combination open.
The evaluation of the parts stops at the first that does not. -/
structure StopsAt (pass : Bool) (day : Stamp) (parts before : List Expression)
    (part : Expression) : Prop where
  /-- The part stands behind those before it; what follows it does not matter. -/
  place : before ++ [part] <+: parts
  /-- Those before it pass. -/
  passed : ∀ e ∈ before, e.wrap.evaluate day = .ok pass
  /-- The part does not. -/
  stops : part.wrap.evaluate day ≠ .ok pass

theorem forall_passed_or_stopsAt (pass : Bool) (day : Stamp) (parts : List Expression) :
    (∀ e ∈ parts, e.wrap.evaluate day = .ok pass) ∨
      ∃ before part, StopsAt pass day parts before part := by
  induction parts with
  | nil => exact .inl (List.forall_mem_nil _)
  | cons first rest ih =>
    by_cases hfirst : first.wrap.evaluate day = .ok pass
    · rcases ih with hrest | ⟨before, part, h⟩
      · exact .inl (List.forall_mem_cons.mpr ⟨hfirst, hrest⟩)
      · exact .inr ⟨first :: before, part, (List.prefix_cons_inj first).mpr h.place,
          List.forall_mem_cons.mpr ⟨hfirst, h.passed⟩, h.stops⟩
    · exact .inr ⟨[], first, ⟨rest, rfl⟩, List.forall_mem_nil _, hfirst⟩

section
variable {c : Connective} {day : Stamp}

theorem evaluateInOrder_of_passed {parts : List Expression}
    (h : ∀ e ∈ parts, e.wrap.evaluate day = .ok (undecided c)) :
    evaluateInOrder c parts day = .ok (undecided c) := by
  induction parts with
  | nil => rfl
  | cons e parts ih =>
    obtain ⟨he, hparts⟩ := List.forall_mem_cons.mp h
    rw [evaluateInOrder_cons, if_pos he, ih hparts]

theorem evaluatedParts_append_of_passed {before : List Expression} (rest : List Expression)
    (h : ∀ e ∈ before, e.wrap.evaluate day = .ok (undecided c)) :
    evaluatedParts c (before ++ rest) day = before ++ evaluatedParts c rest day := by
  induction before with
  | nil => rfl
  | cons e before ih =>
    obtain ⟨he, hbefore⟩ := List.forall_mem_cons.mp h
    rw [List.cons_append, evaluatedParts, if_pos he, ih hbefore, List.cons_append]

variable {parts before : List Expression} {part e : Expression}

/-! ## Combinations -/

theorem evaluate_of_passed (he : combine c parts = .ok e)
    (h : ∀ part ∈ parts, part.wrap.evaluate day = .ok (undecided c)) :
    e.evaluate day = .ok (undecided c) := by
  rw [evaluate_combine he, evaluateInOrder_of_passed h]

theorem reached_of_passed (he : combine c parts = .ok e)
    (h : ∀ part ∈ parts, part.wrap.evaluate day = .ok (undecided c)) :
    e.reached day = parts.flatMap (·.wrap.reached day) := by
  have hparts := evaluatedParts_append_of_passed [] h
  rw [List.append_nil, evaluatedParts, List.append_nil] at hparts
  rw [reached_combine he, hparts]

/-- **A combination says what the part says at which it stops.** -/
theorem evaluate_of_stopsAt (he : combine c parts = .ok e)
    (h : StopsAt (undecided c) day parts before part) : e.evaluate day = part.wrap.evaluate day := by
  obtain ⟨after, rfl⟩ := h.place
  have hpart : evaluateInOrder c (part :: after) day = part.wrap.evaluate day := by
    rw [evaluateInOrder_cons, if_neg h.stops]
  rw [evaluate_combine he, List.append_assoc, evaluateInOrder_append,
    evaluateInOrder_of_passed h.passed]
  simpa using hpart

/-- **Nothing is evaluated behind the part at which a combination stops.** -/
theorem reached_of_stopsAt (he : combine c parts = .ok e)
    (h : StopsAt (undecided c) day parts before part) :
    e.reached day = (before ++ [part]).flatMap (·.wrap.reached day) := by
  obtain ⟨after, rfl⟩ := h.place
  have hpart : evaluatedParts c (part :: after) day = [part] := by
    rw [evaluatedParts, if_neg h.stops]
  rw [reached_combine he, List.append_assoc, evaluatedParts_append_of_passed _ h.passed,
    List.singleton_append, hpart]

theorem evaluate_eq_undecided_iff (he : combine c parts = .ok e) :
    e.evaluate day = .ok (undecided c) ↔
      ∀ part ∈ parts, part.wrap.evaluate day = .ok (undecided c) := by
  constructor
  · intro hanswer
    rcases forall_passed_or_stopsAt (undecided c) day parts with h | ⟨before, part, h⟩
    · exact h
    · exact absurd ((evaluate_of_stopsAt he h).symm.trans hanswer) h.stops
  · exact evaluate_of_passed he

/-- Any other answer, or failure, is that of the part at which the combination stops. -/
theorem evaluate_eq_iff_of_ne (he : combine c parts = .ok e) {answer : Except Error Bool}
    (hne : answer ≠ .ok (undecided c)) :
    e.evaluate day = answer ↔
      ∃ before part, StopsAt (undecided c) day parts before part ∧
        part.wrap.evaluate day = answer := by
  constructor
  · intro hanswer
    rcases forall_passed_or_stopsAt (undecided c) day parts with h | ⟨before, part, h⟩
    · exact absurd (hanswer.symm.trans (evaluate_of_passed he h)) hne
    · exact ⟨before, part, h, (evaluate_of_stopsAt he h).symm.trans hanswer⟩
  · rintro ⟨before, part, h, rfl⟩
    exact evaluate_of_stopsAt he h

end

/-- On a day, the expression says what some parts say one after the other, with
`pass` for the answer that asks for the next one, and nothing is evaluated behind the
first part that says anything else. -/
structure ShortCircuits (pass : Bool) (parts : List Expression) (e : Expression) (day : Stamp) :
    Prop where
  /-- It passes if and only if all parts do. -/
  passes : e.evaluate day = .ok pass ↔ ∀ part ∈ parts, part.wrap.evaluate day = .ok pass
  /-- It gives the other answer if and only if the first part that does not pass does. -/
  decides : e.evaluate day = .ok (!pass) ↔
    ∃ before part, StopsAt pass day parts before part ∧ part.wrap.evaluate day = .ok (!pass)
  /-- It fails if and only if the first part that does not pass does, and in the same way. -/
  fails : ∀ err, e.evaluate day = .error err ↔
    ∃ before part, StopsAt pass day parts before part ∧ part.wrap.evaluate day = .error err
  /-- If all parts pass, all are evaluated, in order. -/
  reached_all : (∀ part ∈ parts, part.wrap.evaluate day = .ok pass) →
    e.reached day = parts.flatMap (·.wrap.reached day)
  /-- Otherwise those up to the first that does not pass are, and no others. -/
  reached_upTo : ∀ before part, StopsAt pass day parts before part →
    e.reached day = (before ++ [part]).flatMap (·.wrap.reached day)

theorem shortCircuits_of_combine (c : Connective) {parts : List Expression} {e : Expression}
    (he : combine c parts = .ok e) (day : Stamp) : e.ShortCircuits (undecided c) parts day where
  passes := evaluate_eq_undecided_iff he
  decides := evaluate_eq_iff_of_ne he (by simp)
  fails _ := evaluate_eq_iff_of_ne he (by simp)
  reached_all := reached_of_passed he
  reached_upTo _ _ := reached_of_stopsAt he

/-- **Combinations are short-circuit logic, failures included.**  An empty list is
refused.  Any other parts are combined, bare matchers being wrapped, and on every day
`allOf` goes through them from the first to the last and stops at the first that is not
true: it is true if all are, false if the first that is not true is false, and fails as
that part does if it fails.  `anyOf` does the same with true and false exchanged.  The
leaves come to are those of the parts up to the one that decides or fails, in order,
and the last of them gives the answer; the parts behind are not looked at, whether
their evaluation would fail or not. -/
theorem combinations_short_circuit :
    ((∀ m, (bare m).wrap = leaf m) ∧ ∀ part, (∀ m, part ≠ bare m) → part.wrap = part) ∧
    (∀ (e : Expression) (day : Stamp), e.EndsAtLeaf day) ∧
    allOf [] = .error (.emptyCombination .and) ∧ anyOf [] = .error (.emptyCombination .or) ∧
    ∀ parts : List Expression, parts ≠ [] →
      (∃ e, allOf parts = .ok e ∧ ∀ day, e.ShortCircuits true parts day) ∧
      ∃ e, anyOf parts = .ok e ∧ ∀ day, e.ShortCircuits false parts day := by
  refine ⟨⟨fun m => rfl, fun part hpart => ?_⟩, endsAtLeaf, rfl, rfl, fun parts nonempty => ?_⟩
  · cases part with
    | bare m => exact absurd rfl (hpart m)
    | leaf | and | or => rfl
  · obtain ⟨first, rest, rfl⟩ := List.exists_cons_of_ne_nil nonempty
    exact ⟨⟨_, rfl, shortCircuits_of_combine .and rfl⟩, ⟨_, rfl, shortCircuits_of_combine .or rfl⟩⟩

/-- On a Monday in January, all of "Monday", "Friday" and an expression that fails is
false, and the third is not looked at; some of the last two and a matcher that cannot
compare its boundary with a date fails as the first of these that fails does. -/
theorem combinations_short_circuit_januaryMonday :
    ∃ monday : Date, monday.toText = "2025-01-06".toList ∧
      (∃ e, allOf [bare (.weekday 0), leaf (.weekday 4),
          and (leaf (.month 1)) (bare (.month 1))] = .ok e ∧
        e.evaluate (.date monday) = .ok false ∧
        e.reached (.date monday) = [leaf (.weekday 0), leaf (.weekday 4)]) ∧
      ∃ e, anyOf [leaf (.weekday 4), and (leaf (.month 1)) (bare (.month 1)),
          leaf (.after (.dateTime (.ofDate .first)))] = .ok e ∧
        e.evaluate (.date monday) = .error (.notAnExpression (.month 1)) ∧
        e.reached (.date monday) = [leaf (.weekday 4), leaf (.month 1), bare (.month 1)] := by
  obtain ⟨-, -, -, -, combined⟩ := combinations_short_circuit
  refine ⟨⟨739257, by decide, by decide⟩, by decide, ?_, ?_⟩
  · obtain ⟨e, he, short⟩ := (combined _ (List.cons_ne_nil _ _)).1
    have stops : StopsAt true (.date ⟨739257, by decide, by decide⟩)
        [bare (.weekday 0), leaf (.weekday 4), and (leaf (.month 1)) (bare (.month 1))]
        [bare (.weekday 0)] (leaf (.weekday 4)) :=
      ⟨⟨_, rfl⟩, List.forall_mem_singleton.mpr rfl, show Except.ok false ≠ .ok true from nofun⟩
    exact ⟨e, he, (short _).decides.mpr ⟨_, _, stops, rfl⟩, (short _).reached_upTo _ _ stops⟩
  · obtain ⟨e, he, short⟩ := (combined _ (List.cons_ne_nil _ _)).2
    have stops : StopsAt false (.date ⟨739257, by decide, by decide⟩)
        [leaf (.weekday 4), and (leaf (.month 1)) (bare (.month 1)),
          leaf (.after (.dateTime (.ofDate .first)))]
        [leaf (.weekday 4)] (and (leaf (.month 1)) (bare (.month 1))) :=
      ⟨⟨_, rfl⟩, List.forall_mem_singleton.mpr rfl, nofun⟩
    exact ⟨e, he, ((short _).fails _).mpr ⟨_, _, stops, rfl⟩, (short _).reached_upTo _ _ stops⟩

end Expression
end Recurrence
