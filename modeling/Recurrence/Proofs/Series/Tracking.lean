import Recurrence.Proofs.Series.Reading

/-! # What a tracked event answers

A tracked event lives through a sequence of steps: its fields are given new values,
it is read again, or it is asked something.  `EventData.lastRead` follows the fields
alone through the same steps and tells which values were read last with success.
One step keeps the two in line (`TrackedEvent.IsReading.step`), so a whole run does
(`TrackedEvent.isReading_run`): whatever came in between, the answers are those of an
event read afresh with the values that were read last (`TrackedEvent.answer_run`).
-/
namespace Recurrence

/-! ## Questions and steps -/

/-- What may be asked of a tracked event. -/
inductive Question
  /-- The dates in the range between two ends. -/
  | dates (ends : List Value)
  /-- The canonical rule. -/
  | canonicalRule
  /-- The rules in words, for a zone. -/
  | phrase (zone : Text)
  /-- The expression. -/
  | expression
  /-- The parts of the expression. -/
  | parts
  /-- The rules. -/
  | rules
  /-- The frequency. -/
  | frequency
  /-- The interval. -/
  | interval
  /-- The count. -/
  | count
  /-- The exception dates. -/
  | exceptions

/-- The answer to a question. -/
inductive Answer
  /-- Dates. -/
  | dates (found : List Date)
  /-- A text. -/
  | text (s : Text)
  /-- An expression. -/
  | expression (e : Expression)
  /-- The parts of an expression. -/
  | parts (es : List Expression)
  /-- Rules. -/
  | rules (t : RuleTable)
  /-- A frequency, if there is one. -/
  | frequency (f : Option Frequency)
  /-- An interval. -/
  | interval (k : Interval)
  /-- A number. -/
  | number (n : Int)
  /-- Date-times. -/
  | times (ts : List DateTime)

/-- A series answers from what is stored in it; parts, frequency, interval and phrase
are made anew from the stored rules and start. -/
def Series.answer (s : Series) (today : Date) : Question → Outcome Answer
  | .dates ends => do
    let range ← DateRange.ofList ends
    let found ← s.dates range
    pure (.dates found)
  | .canonicalRule => pure (.text s.serialize)
  | .phrase zone => do
    let phrase ← s.phraseIn today zone
    pure (.text phrase)
  | .expression => pure (.expression s.expression)
  | .parts => do
    let parts ← s.parts today
    pure (.parts parts)
  | .rules => pure (.rules s.rules)
  | .frequency => do
    let frequency ← s.frequency
    pure (.frequency frequency)
  | .interval => do
    let interval ← s.interval
    pure (.interval interval)
  | .count => pure (.number s.count)
  | .exceptions => pure (.times s.exceptions)

/-- What may happen to a tracked event. -/
inductive Step
  /-- A field is given a new value. -/
  | assign (field : EventField) (value : Value)
  /-- The event is read again. -/
  | reload
  /-- Something is asked. -/
  | ask (question : Question)

/-! ## The fields alone -/

namespace EventData

/-- The event can be read. -/
def isReadable (e : EventData) (today : Date) : Bool :=
  match (e.series today).result with
  | .ok _ => true
  | .error _ => false

/-- The fields after a step. -/
def after (e : EventData) : Step → EventData
  | .assign field value => e.assign field value
  | .reload | .ask _ => e

/-- The fields read last with success, after a step on an event that has the fields
`current` and of which `read` were read last. -/
def readAfter (today : Date) (read current : EventData) : Step → EventData
  | .reload => if current.isReadable today then current else read
  | .assign _ _ | .ask _ => read

/-- The fields read last with success, after some steps. -/
def lastRead (today : Date) (read current : EventData) : List Step → EventData
  | [] => read
  | step :: rest => lastRead today (readAfter today read current step) (current.after step) rest

end EventData

/-! ## The tracked event -/

namespace TrackedEvent

/-- The answer to a question. -/
def answer (x : TrackedEvent) (today : Date) (q : Question) : Outcome Answer :=
  x.series.answer today q

/-- The tracked event after a step. -/
def step (today : Date) (x : TrackedEvent) : Step → TrackedEvent
  | .assign field value => x.assign field value
  | .reload => (x.reload today).2
  | .ask _ => x

/-- The tracked event after some steps. -/
def run (today : Date) (x : TrackedEvent) (steps : List Step) : TrackedEvent :=
  steps.foldl (step today) x

/-- The tracked event has the fields `current`, and its series is what reading the
fields `read` gives. -/
structure IsReading (today : Date) (x : TrackedEvent) (read current : EventData) : Prop where
  /-- The fields as they are now. -/
  event : x.event = current
  /-- The series comes from the fields that were read. -/
  series : (read.series today).result = .ok x.series

variable {today : Date}

theorem ofEvent_eq_ok {e : EventData} {x : TrackedEvent} :
    (ofEvent e today).result = .ok x ↔ x.IsReading today e e := by
  constructor
  · intro h
    obtain ⟨s, hs, h⟩ := Outcome.result_bind_eq_ok.mp h
    cases h
    exact ⟨rfl, hs⟩
  · rintro ⟨rfl, hs⟩
    exact Outcome.result_bind_eq_ok.mpr ⟨_, hs, rfl⟩

theorem reload_outcome (x : TrackedEvent) : (x.reload today).1 = x.event.series today := by
  cases h : (x.event.series today).result <;> simp [reload, h]

theorem reload_of_eq_ok {x : TrackedEvent} {s : Series}
    (h : (x.event.series today).result = .ok s) :
    (x.reload today).2 = { x with series := s } := by
  simp [reload, h]

/-- A failed reading leaves everything as it is. -/
theorem reload_of_eq_error {x : TrackedEvent} {err : Error}
    (h : (x.event.series today).result = .error err) : (x.reload today).2 = x := by
  simp [reload, h]

variable {x : TrackedEvent} {read current : EventData}

/-- One step keeps the series in line with the fields.  Only a successful reading
changes it, and then it replaces the whole. -/
theorem IsReading.step (h : x.IsReading today read current) (step : Step) :
    (x.step today step).IsReading today (read.readAfter today current step)
      (current.after step) := by
  obtain ⟨rfl, hread⟩ := h
  cases step with
  | assign field value => exact ⟨rfl, hread⟩
  | ask q => exact ⟨rfl, hread⟩
  | reload =>
    unfold TrackedEvent.step EventData.readAfter EventData.isReadable
    cases hnow : (x.event.series today).result with
    | ok s =>
      rw [reload_of_eq_ok hnow]
      exact ⟨rfl, hnow⟩
    | error err =>
      rw [reload_of_eq_error hnow]
      exact ⟨rfl, hread⟩

/-- **Over a run, the series is that of the fields read last with success.** -/
theorem isReading_run (h : x.IsReading today read current) (steps : List Step) :
    (x.run today steps).IsReading today (read.lastRead today current steps)
      (steps.foldl EventData.after current) := by
  induction steps generalizing x read current with
  | nil => exact h
  | cons step rest ih => exact ih (h.step step)

/-- The parts of a series that was read make its expression. -/
theorem IsReading.parts (h : x.IsReading today read current) :
    ∃ parts, (x.series.parts today).result = .ok parts ∧
      Expression.allOf parts = .ok x.series.expression :=
  Outcome.result_bind_eq_ok.mp (EventData.series_eq_ok.mp h.series).2.2.2.1

/-- **A tracked event answers from its last successful reading.**  Take an event that
can be read, and any assignments, readings and questions after that.  Every question
is then answered as by an event read afresh, with the values that the fields had at
the last reading that succeeded.  An assignment changes no answer, a failed reading
changes nothing, and a successful one leaves what a first reading would give.  In
every such state the parts make the expression, and the count is that of the
rules. -/
theorem answer_run {e : EventData} (h : (ofEvent e today).result = .ok x) (steps : List Step) :
    (∃ fresh, (ofEvent (e.lastRead today e steps) today).result = .ok fresh ∧
      ∀ q, (x.run today steps).answer today q = fresh.answer today q) ∧
    (∀ field value q,
      ((x.run today steps).assign field value).answer today q =
        (x.run today steps).answer today q) ∧
    (∀ err, ((x.run today steps).reload today).1.result = .error err →
      ((x.run today steps).reload today).2 = x.run today steps) ∧
    (∀ s, ((x.run today steps).reload today).1.result = .ok s →
      (ofEvent (x.run today steps).event today).result = .ok ((x.run today steps).reload today).2) ∧
    (∃ parts, ((x.run today steps).series.parts today).result = .ok parts ∧
      Expression.allOf parts = .ok (x.run today steps).series.expression) ∧
    (x.run today steps).series.rules.count = .ok (x.run today steps).series.count := by
  have hrun := isReading_run (ofEvent_eq_ok.mp h) steps
  refine ⟨⟨⟨_, (x.run today steps).series⟩, ofEvent_eq_ok.mpr ⟨rfl, hrun.series⟩, fun _ => rfl⟩,
    fun _ _ _ => rfl, ?_, ?_, hrun.parts, (EventData.series_eq_ok.mp hrun.series).2.2.2.2⟩
  · intro err herr
    rw [reload_outcome] at herr
    exact reload_of_eq_error herr
  · intro s hs
    rw [reload_outcome] at hs
    rw [reload_of_eq_ok hs]
    exact ofEvent_eq_ok.mpr ⟨rfl, hs⟩

set_option maxRecDepth 100000 in
/-- A series of Mondays is given a rule that cannot be read, and then a daily one.
The first reading after that fails, the second succeeds, and the start that is
assigned at the end is not read any more. -/
theorem answer_run_reloads :
    ∃ x fresh : TrackedEvent,
      (ofEvent ⟨.dateTime (.ofDate ⟨739257, by decide, by decide⟩),
        .list [.text "FREQ=WEEKLY;BYDAY=MO".toList], .list []⟩ .epoch).result = .ok x ∧
      (ofEvent ⟨.dateTime (.ofDate ⟨739257, by decide, by decide⟩),
        .list [.text "FREQ=DAILY".toList], .list []⟩ .epoch).result = .ok fresh ∧
      ∀ q, (x.run .epoch [.assign .rules (.list [.text "FREQ=WEEKLY;BYDAY=ZZ".toList]), .reload,
        .ask .canonicalRule, .assign .rules (.list [.text "FREQ=DAILY".toList]), .reload,
        .assign .start .null]).answer .epoch q = fresh.answer .epoch q := by
  obtain ⟨x, hx⟩ : ∃ x : TrackedEvent,
      (ofEvent ⟨.dateTime (.ofDate ⟨739257, by decide, by decide⟩),
        .list [.text "FREQ=WEEKLY;BYDAY=MO".toList], .list []⟩ .epoch).result = .ok x := ⟨_, by rfl⟩
  obtain ⟨⟨fresh, hfresh, hanswer⟩, -⟩ := answer_run hx
    [.assign .rules (.list [.text "FREQ=WEEKLY;BYDAY=ZZ".toList]), .reload,
      .ask .canonicalRule, .assign .rules (.list [.text "FREQ=DAILY".toList]), .reload,
      .assign .start .null]
  exact ⟨x, fresh, hx, hfresh, hanswer⟩

end TrackedEvent

end Recurrence
