import Recurrence.Log

/-! # The log after a history of calls

Three operations write the log, and each writes only part of it: all calls that complete
set the level of the root, `configure` and `resetToDebug` set the levels of the names, and
the first call that brings a handler installs it.  What a call sets does not depend on the
state it meets (`LogCall.rootSet?`, `LogCall.namesSet?`, `LogCall.handler?`).

Each level is therefore the last of the values that the calls have set, or what it was at
the start (`part_run`), and the handler is the first that a call has brought
(`handlers_run`).  In particular a call does after any history what it does in a fresh log.
-/
namespace Recurrence

namespace LogState

/-- The levels of the names: those of this library and those of the libraries below it. -/
def names (s : LogState) : LogLevel × LogLevel := (s.package, s.libraries)

/-- The state after some calls, whether they complete or not. -/
def run (s : LogState) (calls : List LogCall) : LogState :=
  calls.foldl (fun s call => (call.perform s).2) s

end LogState

namespace LogCall
open LogState

/-! ## What a call sets -/

/-- The level that a call sets the root to, if it completes. -/
def rootSet? : LogCall → Option LogLevel
  | .configure debugMode forceDebug levelName env =>
    (LogOptions.ofFields debugMode forceDebug levelName).toOption.map fun o => rootLevel o env
  | .startConsole levelName env =>
    match consoleLevel (consoleName? levelName) env with
    | .level l => some l
    | _ => none
  | .resetToDebug => some .debug

/-- The levels that a call sets the names to, if it completes; the console has none to set. -/
def namesSet? : LogCall → Option (LogLevel × LogLevel)
  | .configure debugMode forceDebug levelName env =>
    (LogOptions.ofFields debugMode forceDebug levelName).toOption.map fun o =>
      (if wantsDebug o env then .debug else rootLevel o env, .warning)
  | .startConsole _ _ => none
  | .resetToDebug => some (.debug, .debug)

/-- The handler that a call installs if there is none. -/
def handler? : LogCall → Option LogHandler
  | .configure debugMode forceDebug levelName env =>
    (LogOptions.ofFields debugMode forceDebug levelName).toOption.map fun o =>
      ⟨.plain, rootLevel o env⟩
  | .startConsole _ _ => some ⟨.colored, .notSet⟩
  | .resetToDebug => none

/-! ## One call -/

/-- What a call answers does not depend on the state it meets. -/
theorem result_perform (call : LogCall) (s t : LogState) :
    (call.perform s).1 = (call.perform t).1 := by
  cases call with
  | configure debugMode forceDebug levelName env =>
    simp only [perform]
    cases LogOptions.ofFields debugMode forceDebug levelName <;> rfl
  | startConsole levelName env =>
    simp only [perform, LogState.startConsole]
    cases consoleLevel (consoleName? levelName) env <;> rfl
  | resetToDebug => rfl

/-- The calls that complete are those that set the root. -/
theorem result_perform_eq_ok (call : LogCall) (s : LogState) :
    (call.perform s).1 = .ok () ↔ call.rootSet?.isSome = true := by
  cases call with
  | configure debugMode forceDebug levelName env =>
    simp only [perform, rootSet?]
    cases LogOptions.ofFields debugMode forceDebug levelName <;> simp [Except.toOption]
  | startConsole levelName env =>
    simp only [perform, LogState.startConsole, rootSet?]
    cases consoleLevel (consoleName? levelName) env <;> simp
  | resetToDebug => exact iff_of_true rfl rfl

theorem root_perform (call : LogCall) (s : LogState) :
    (call.perform s).2.root = call.rootSet?.getD s.root := by
  cases call with
  | configure debugMode forceDebug levelName env =>
    simp only [perform, rootSet?]
    cases LogOptions.ofFields debugMode forceDebug levelName <;> rfl
  | startConsole levelName env =>
    simp only [perform, LogState.startConsole, rootSet?]
    cases consoleLevel (consoleName? levelName) env <;> rfl
  | resetToDebug => rfl

theorem names_perform (call : LogCall) (s : LogState) :
    (call.perform s).2.names = call.namesSet?.getD s.names := by
  cases call with
  | configure debugMode forceDebug levelName env =>
    simp only [perform, namesSet?]
    cases LogOptions.ofFields debugMode forceDebug levelName <;> rfl
  | startConsole levelName env =>
    simp only [perform, LogState.startConsole, namesSet?]
    cases consoleLevel (consoleName? levelName) env <;> rfl
  | resetToDebug => rfl

/-- A handler is installed if there is none, and a handler that is there stays. -/
theorem handlers_perform (call : LogCall) (s : LogState) :
    (call.perform s).2.handlers =
      if s.handlers = [] then call.handler?.toList else s.handlers := by
  have hkept : s.handlers = if s.handlers = [] then [] else s.handlers := by
    by_cases hs : s.handlers = []
    · rw [if_pos hs, hs]
    · rw [if_neg hs]
  have hwith : ∀ handler, s.handlersWith handler =
      if s.handlers = [] then [handler] else s.handlers := by
    simp only [handlersWith, List.isEmpty_iff, implies_true]
  cases call with
  | configure debugMode forceDebug levelName env =>
    simp only [perform, handler?]
    cases LogOptions.ofFields debugMode forceDebug levelName with
    | ok o => exact hwith _
    | error err => exact hkept
  | startConsole levelName env =>
    simp only [perform, LogState.startConsole, handler?]
    cases consoleLevel (consoleName? levelName) env <;> exact hwith _
  | resetToDebug => exact hkept

/-- A call of `configure` that completes sets the levels of the names. -/
theorem exists_namesSet?_configure {debugMode forceDebug levelName : Value} {env : Environment}
    {level : LogLevel} (h : (configure debugMode forceDebug levelName env).rootSet? = some level) :
    ∃ levels, (configure debugMode forceDebug levelName env).namesSet? = some levels := by
  obtain ⟨o, ho, -⟩ := Option.map_eq_some_iff.mp h
  exact ⟨_, Option.map_eq_some_iff.mpr ⟨o, ho, rfl⟩⟩

end LogCall

namespace LogState
variable {s : LogState}

/-! ## A history -/

theorem run_cons (s : LogState) (call : LogCall) (calls : List LogCall) :
    s.run (call :: calls) = (call.perform s).2.run calls := rfl

theorem run_append (s : LogState) (before after : List LogCall) :
    s.run (before ++ after) = (s.run before).run after :=
  List.foldl_append

/-- A part of the state that each call sets or leaves is what was set last. -/
theorem part_run {α : Type} {part : LogState → α} {write : LogCall → Option α}
    (hstep : ∀ call s, part (call.perform s).2 = (write call).getD (part s)) (s : LogState)
    (calls : List LogCall) :
    part (s.run calls) = (calls.filterMap write).getLast?.getD (part s) := by
  induction calls generalizing s with
  | nil => rfl
  | cons call calls ih =>
    rw [run_cons, ih, hstep]
    -- What this call sets is what the rest falls back to, so it is last if the rest sets nothing.
    cases hwrite : write call with
    | none => simp [hwrite]
    | some a => simp [hwrite, List.getLast?_cons]

/-- The handlers stay once there are any. -/
theorem handlers_run_of_ne_nil (h : s.handlers ≠ []) (calls : List LogCall) :
    (s.run calls).handlers = s.handlers := by
  induction calls generalizing s with
  | nil => rfl
  | cons call calls ih =>
    have hcall : (call.perform s).2.handlers = s.handlers := by
      rw [call.handlers_perform, if_neg h]
    rw [run_cons, ih (hcall ▸ h), hcall]

/-- The only handler is the one that was installed first. -/
theorem handlers_run (h : s.handlers = []) (calls : List LogCall) :
    (s.run calls).handlers = (calls.filterMap LogCall.handler?).head?.toList := by
  induction calls generalizing s with
  | nil => exact h
  | cons call calls ih =>
    have hcall : (call.perform s).2.handlers = call.handler?.toList := by
      rw [call.handlers_perform, if_pos h]
    rw [run_cons]
    cases hhandler : call.handler? with
    | none =>
      rw [hhandler] at hcall
      simp [ih hcall, hhandler]
    | some handler =>
      rw [hhandler] at hcall
      rw [handlers_run_of_ne_nil (by simp [hcall]), hcall]
      simp [hhandler]

/-- **The log depends on the last calls that set its parts.**  There is at most one handler, and it
stays.  The levels of the names and of the root are those that were set last, and no console changes
the names.  The calls that complete set the root, and `configure` sets what it sets in a fresh log. -/
theorem run_eq_last_set (h : s.handlers = []) (calls : List LogCall) :
    ((s.run calls).handlers.length ≤ 1 ∧
      ∀ before after, calls = before ++ after → (s.run before).handlers ≠ [] →
        (s.run calls).handlers = (s.run before).handlers) ∧
    ((s.run calls).names = (calls.filterMap LogCall.namesSet?).getLast?.getD s.names ∧
      ∀ levelName env, ((LogCall.startConsole levelName env).perform (s.run calls)).2.names =
        (s.run calls).names) ∧
    ((s.run calls).root = (calls.filterMap LogCall.rootSet?).getLast?.getD s.root ∧
      ∀ (call : LogCall) t, (call.perform t).1 = .ok () ↔ call.rootSet?.isSome = true) ∧
    ∀ debugMode forceDebug levelName env,
      let call := LogCall.configure debugMode forceDebug levelName env
      (call.perform (s.run calls)).1 = (call.perform .fresh).1 ∧
      ((call.perform .fresh).1 = .ok () →
        (call.perform (s.run calls)).2.root = (call.perform .fresh).2.root ∧
        (call.perform (s.run calls)).2.names = (call.perform .fresh).2.names) := by
  refine ⟨⟨?_, ?_⟩, ⟨part_run LogCall.names_perform s calls, ?_⟩,
    ⟨part_run LogCall.root_perform s calls, LogCall.result_perform_eq_ok⟩, ?_⟩
  · rw [handlers_run h]
    exact Option.length_toList_le
  · rintro before after rfl hbefore
    rw [run_append, handlers_run_of_ne_nil hbefore]
  · intro levelName env
    exact LogCall.names_perform _ _
  · intro debugMode forceDebug levelName env call
    refine ⟨call.result_perform _ _, fun hcompletes => ?_⟩
    obtain ⟨level, hlevel⟩ :=
      Option.isSome_iff_exists.mp ((call.result_perform_eq_ok _).mp hcompletes)
    obtain ⟨levels, hlevels⟩ := LogCall.exists_namesSet?_configure hlevel
    simp only [LogCall.root_perform, LogCall.names_perform, hlevel, hlevels, call]
    exact ⟨rfl, rfl⟩

/-- A console that fails keeps its handler; the names are as configured, the root as the last console
has it. -/
theorem run_eq_last_set_consoles :
    let calls := [LogCall.startConsole (.text "basic_format".toList) {},
      .configure (.bool false) .null (.text "warning".toList) {},
      .startConsole (.text "Error".toList) {}]
    (LogState.run .fresh calls).handlers.length ≤ 1 ∧
      (LogState.run .fresh calls).handlers = [⟨.colored, .notSet⟩] ∧
      (LogState.run .fresh calls).names = (.warning, .warning) ∧
      (LogState.run .fresh calls).root = .error := by
  obtain ⟨⟨hone, hstays⟩, ⟨hnames, -⟩, ⟨hroot, -⟩, -⟩ := run_eq_last_set (s := .fresh) rfl
    [LogCall.startConsole (.text "basic_format".toList) {},
      .configure (.bool false) .null (.text "warning".toList) {},
      .startConsole (.text "Error".toList) {}]
  exact ⟨hone, hstays [.startConsole (.text "basic_format".toList) {}] _ rfl (by decide), hnames,
    hroot⟩

end LogState

end Recurrence
