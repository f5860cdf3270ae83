import Recurrence.Command.Run
import Recurrence.Proofs.Text.Upper

/-! # The level of the root, set twice

A run sets the level of the root twice: it starts the console, and then it configures all
levels.  The two read the same option, variable and configured level (`Reading`), but each
in its own way.  The console takes more words of the variable for a wish to debug, and
strips them; and it knows more names of levels.  `setLevels_roots` says what each makes of
them, and when they agree.

Two names are known to the console that are no levels; with them it is not started, unless
debugging is asked for.
-/
namespace Recurrence

/-! ## Lower case and blanks -/

namespace Text

theorem toLower_of_isBlank {c : Char} (h : isBlank c = true) : c.toLower = c := by
  have hmem : c.toNat ∈ blankRanges.members := CodeRanges.mem_members h
  have hnone : ∀ n ∈ blankRanges.members, ¬ (65 ≤ n ∧ n ≤ 90) := by decide
  exact dif_neg fun hletter => hnone _ hmem hletter

/-- A text is stripped already if there is no blank in its lower case. -/
theorem strip_of_lower {s : Text} (h : ∀ c ∈ lower s, isBlank c = false) : strip s = s := by
  have hall : ∀ c ∈ s, isBlank c = false := by
    intro c hc
    refine eq_false_of_ne_true fun hblank => ?_
    have hlower := h _ (List.mem_map_of_mem hc)
    rw [toLower_of_isBlank hblank, hblank] at hlower
    cases hlower
  exact IsTrimmed.strip_eq
    ⟨fun hne => hall _ (List.head_mem hne), fun hne => hall _ (List.getLast_mem hne)⟩

end Text

/-! ## Wishes to debug -/

namespace LogState
variable {env : Environment}

/-- The variable asks the console for debugging: in any case, with blanks around or without. -/
def AsksConsole (env : Environment) : Prop :=
  ∃ s, env.debug = some s ∧
    String.ofList (Text.lower (Text.strip s)) ∈ ["1", "true", "yes", "on"]

/-- The variable asks `configure` for debugging, in any case. -/
def AsksConfigure (env : Environment) : Prop :=
  ∃ s, env.debug = some s ∧ String.ofList (Text.lower s) ∈ ["1", "true", "yes"]

theorem consoleDebug_iff : consoleDebug env = true ↔ AsksConsole env := by
  simp only [consoleDebug, Option.any_eq_true, List.contains_iff_mem]
  rfl

theorem environmentDebug_iff : environmentDebug env = true ↔ AsksConfigure env := by
  simp only [environmentDebug, Option.any_eq_true, List.contains_iff_mem]
  rfl

/-- What asks `configure` for debugging asks the console for it. -/
theorem AsksConfigure.asksConsole (h : AsksConfigure env) : AsksConsole env := by
  obtain ⟨s, hs, hword⟩ := h
  have hblank : ∀ word ∈ ["1", "true", "yes"], !word.toList.any Text.isBlank := by decide
  have hstrip : Text.strip s = s := by
    refine Text.strip_of_lower ?_
    simpa [String.toList_ofList] using hblank _ hword
  have hsubset : ∀ word ∈ ["1", "true", "yes"], word ∈ ["1", "true", "yes", "on"] := by decide
  exact ⟨s, hs, hstrip.symm ▸ hsubset _ hword⟩

end LogState

/-! ## Names of levels -/

namespace LogLevel

/-- The names that the console reads as levels. -/
def consoleNames : List (String × LogLevel) :=
  [("CRITICAL", .critical), ("FATAL", .critical), ("ERROR", .error), ("WARNING", .warning),
    ("WARN", .warning), ("INFO", .info), ("DEBUG", .debug), ("NOTSET", .notSet)]

/-- The names that `configure` reads as levels. -/
def configuredNames : List (String × LogLevel) :=
  [("DEBUG", .debug), ("INFO", .info), ("WARNING", .warning), ("ERROR", .error)]

/-- The level with a name in a table, in any case; an unknown name is that of information. -/
def named (names : List (String × LogLevel)) (s : Text) : LogLevel :=
  (names.lookup (String.ofList s.upper)).getD .info

/-- The name is known to the console, in any case, and is no level: the error says what it is. -/
inductive IsNoLevel (s : Text) : Error → Prop
  /-- A text. -/
  | layout : String.ofList s.upper = "BASIC_FORMAT" →
      IsNoLevel s (.unknownLevel ConsoleLevel.basicLayout)
  /-- A table. -/
  | styles : String.ofList s.upper = "_STYLES" → IsNoLevel s (.notALevel ConsoleLevel.styles)

/-- The names that the console alone reads as levels. -/
def ownConsoleNames : List String := ["CRITICAL", "FATAL", "WARN", "NOTSET"]

variable {s : Text}

theorem lookup_of_not_mem {α : Type} {names : List (String × α)} {key : String}
    (h : key ∉ names.map Prod.fst) : names.lookup key = none := by
  rw [List.lookup_eq_none_iff]
  intro entry hentry
  simpa using fun hkey : key = entry.1 => h (hkey ▸ List.mem_map_of_mem hentry)

/-- A name that is not that of something else is read as a level. -/
theorem ofName_eq_level (h : ∀ err, ¬IsNoLevel s err) :
    ConsoleLevel.ofName s = .level (named consoleNames s) := by
  have hread : ∀ key ∈ consoleNames.map Prod.fst,
      (ConsoleLevel.named.lookup key).getD (.level .info) =
        .level ((consoleNames.lookup key).getD .info) := by
    decide
  have hkeys : ConsoleLevel.named.map Prod.fst =
      consoleNames.map Prod.fst ++ ["BASIC_FORMAT", "_STYLES"] := rfl
  unfold ConsoleLevel.ofName named
  by_cases hkey : String.ofList s.upper ∈ consoleNames.map Prod.fst
  · exact hread _ hkey
  · have hnamed : String.ofList s.upper ∉ ConsoleLevel.named.map Prod.fst := by
      simp only [hkeys, List.mem_append, List.mem_cons, List.not_mem_nil, or_false, not_or]
      exact ⟨hkey, fun hname => h _ (.layout hname), fun hname => h _ (.styles hname)⟩
    rw [lookup_of_not_mem hkey, lookup_of_not_mem hnamed]
    rfl

theorem ofConfigured?_eq (s : Text) :
    ofConfigured? s = configuredNames.lookup (String.ofList s.upper) := by
  have hnames : configuredNames = configurable.map fun level => (level.name, level) := rfl
  rw [hnames, ofConfigured?]
  generalize configurable = levels
  induction levels with
  | nil => rfl
  | cons level levels ih =>
    have hname : (level.name.toList == s.upper) = (String.ofList s.upper == level.name) := by
      rw [Bool.eq_iff_iff, beq_iff_eq, beq_iff_eq]
      constructor
      · intro h
        rw [← h, String.ofList_toList]
      · intro h
        rw [← h, String.toList_ofList]
    rw [List.find?_cons, hname, ih]
    rfl

/-- The readings differ in the names that the console alone has. -/
theorem named_eq_named_iff :
    named consoleNames s = named configuredNames s ↔ String.ofList s.upper ∉ ownConsoleNames := by
  have hread : ∀ key ∈ consoleNames.map Prod.fst,
      (consoleNames.lookup key).getD .info = (configuredNames.lookup key).getD .info ↔
        key ∉ ownConsoleNames := by
    decide
  have hown : ∀ key ∈ ownConsoleNames, key ∈ consoleNames.map Prod.fst := by decide
  have hconfigured : ∀ key ∈ configuredNames.map Prod.fst, key ∈ consoleNames.map Prod.fst := by
    decide
  unfold named
  by_cases hkey : String.ofList s.upper ∈ consoleNames.map Prod.fst
  · exact hread _ hkey
  · rw [lookup_of_not_mem hkey, lookup_of_not_mem fun h => hkey (hconfigured _ h)]
    exact iff_of_true rfl fun h => hkey (hown _ h)

theorem named_configuredNames_eq_debug_iff :
    named configuredNames s = .debug ↔ String.ofList s.upper = "DEBUG" := by
  have hread : ∀ key ∈ configuredNames.map Prod.fst,
      (configuredNames.lookup key).getD .info = .debug ↔ key = "DEBUG" := by
    decide
  unfold named
  by_cases hkey : String.ofList s.upper ∈ configuredNames.map Prod.fst
  · exact hread _ hkey
  · have hdebug : String.ofList s.upper ≠ "DEBUG" := fun h => hkey (h ▸ by decide)
    rw [lookup_of_not_mem hkey]
    exact iff_of_false nofun hdebug

end LogLevel

namespace Command
open LogState LogLevel
variable {o : Options} {config : Config} {env : Environment}

/-! ## The two readings -/

/-- The level that is read in the option, in the variable, which asks for debugging or does not, and
in the configured name. -/
inductive Reading (o : Options) (config : Config) (asked : Prop)
    (names : List (String × LogLevel)) : LogLevel → Prop
  /-- Debugging is asked for. -/
  | debug : o.debug = true ∨ asked → Reading o config asked names .debug
  /-- Otherwise the name counts. -/
  | named : ¬(o.debug = true ∨ asked) →
      Reading o config asked names (named names config.logLevel)

/-- Both readings are of a wish to debug, or both of the same level. -/
theorem Reading.eq_iff {a b : LogLevel}
    (hconsole : Reading o config (AsksConsole env) consoleNames a)
    (hconfigure : Reading o config (AsksConfigure env) configuredNames b) :
    a = b ↔ o.debug = true ∨ AsksConfigure env ∨
      AsksConsole env ∧ String.ofList config.logLevel.upper = "DEBUG" ∨
      ¬AsksConsole env ∧ String.ofList config.logLevel.upper ∉ ownConsoleNames := by
  cases hconfigure with
  | debug hwish =>
    cases hconsole with
    | debug => exact iff_of_true rfl (hwish.imp_right .inl)
    | named hnone => exact absurd (hwish.imp_right AsksConfigure.asksConsole) hnone
  | named hnone =>
    obtain ⟨hoption, hvariable⟩ := not_or.mp hnone
    cases hconsole with
    | debug hwish =>
      -- Only the console is asked for debugging; `configure` reads the name.
      have hasked := hwish.resolve_left hoption
      rw [eq_comm, named_configuredNames_eq_debug_iff]
      simp [hoption, hvariable, hasked]
    | named hnone =>
      obtain ⟨-, hasked⟩ := not_or.mp hnone
      simp [hoption, hvariable, hasked, named_eq_named_iff]

theorem consoleLevel_of_wish (h : o.debug = true ∨ AsksConsole env) :
    consoleLevel (some (consoleName o config)) env = .level .debug := by
  unfold consoleLevel consoleName
  rcases h with hoption | hasked
  · rw [if_pos hoption]
    split <;> rfl
  · rw [if_pos (consoleDebug_iff.mpr hasked)]

theorem consoleLevel_of_no_wish (h : ¬(o.debug = true ∨ AsksConsole env)) :
    consoleLevel (some (consoleName o config)) env = ConsoleLevel.ofName config.logLevel := by
  obtain ⟨hoption, hasked⟩ := not_or.mp h
  rw [← consoleDebug_iff] at hasked
  unfold consoleLevel consoleName
  rw [if_neg hasked, if_neg hoption]
  rfl

theorem reading_rootLevel (hlevel : env.logLevel = none) :
    Reading o config (AsksConfigure env) configuredNames
      (rootLevel ⟨o.debug, none, some config.logLevel⟩ env) := by
  have hroot : rootLevel ⟨o.debug, none, some config.logLevel⟩ env =
      if environmentDebug env || o.debug then .debug
      else (ofConfigured? config.logLevel).getD .info := by
    rw [rootLevel, hlevel]
    rfl
  have hwish : (environmentDebug env || o.debug) = true ↔ o.debug = true ∨ AsksConfigure env := by
    rw [Bool.or_eq_true, environmentDebug_iff, or_comm]
  rw [hroot, ofConfigured?_eq]
  split
  · rename_i h
    exact .debug (hwish.mp h)
  · rename_i h
    exact .named fun h' => h (hwish.mpr h')

/-! ## The levels that are set -/

theorem setLevels_eq_error {err : Error} (hnone : ¬(o.debug = true ∨ AsksConsole env))
    (hname : IsNoLevel config.logLevel err) : setLevels o config env = .error err := by
  unfold setLevels startConsole
  rw [consoleLevel_of_no_wish hnone, ConsoleLevel.ofName]
  cases hname with
  | layout hname | styles hname =>
    rw [hname]
    rfl

theorem exists_started
    (h : ¬∃ err, ¬(o.debug = true ∨ AsksConsole env) ∧ IsNoLevel config.logLevel err) :
    ∃ started, startConsole (some (consoleName o config)) env .fresh = (.ok (), started) ∧
      Reading o config (AsksConsole env) consoleNames started.root := by
  unfold startConsole
  by_cases hwish : o.debug = true ∨ AsksConsole env
  · rw [consoleLevel_of_wish hwish]
    exact ⟨_, rfl, .debug hwish⟩
  · rw [consoleLevel_of_no_wish hwish, ofName_eq_level fun err hname => h ⟨err, hwish, hname⟩]
    exact ⟨_, rfl, .named hwish⟩

/-- **The root has the level of the one reading and then that of the other**, unless the configured
name is known and no level and nothing asks the console for debugging: then the levels are not set.
The root keeps its level if both are asked for debugging, or both read the same level. -/
theorem setLevels_roots (hlevel : env.logLevel = none) :
    (∀ err, setLevels o config env = .error err ↔
      ¬(o.debug = true ∨ AsksConsole env) ∧ IsNoLevel config.logLevel err) ∧
    ∀ levels, setLevels o config env = .ok levels → ∃ started,
      startConsole (some (consoleName o config)) env .fresh = (.ok (), started) ∧
      Reading o config (AsksConsole env) consoleNames started.root ∧
      Reading o config (AsksConfigure env) configuredNames levels.root ∧
      (started.root = levels.root ↔ o.debug = true ∨ AsksConfigure env ∨
        AsksConsole env ∧ String.ofList config.logLevel.upper = "DEBUG" ∨
        ¬AsksConsole env ∧ String.ofList config.logLevel.upper ∉ ownConsoleNames) := by
  by_cases hfails : ∃ err, ¬(o.debug = true ∨ AsksConsole env) ∧ IsNoLevel config.logLevel err
  · obtain ⟨err, hnone, hname⟩ := hfails
    have herror := setLevels_eq_error hnone hname
    refine ⟨fun err' => ⟨fun h => ?_, fun h => setLevels_eq_error h.1 h.2⟩, fun levels h => ?_⟩
    · cases herror.symm.trans h
      exact ⟨hnone, hname⟩
    · cases herror.symm.trans h
  · obtain ⟨started, hstarted, hconsole⟩ := exists_started hfails
    have hlevels : setLevels o config env =
        .ok (started.configure ⟨o.debug, none, some config.logLevel⟩ env) := by
      rw [setLevels, hstarted]
    refine ⟨fun err => ⟨fun h => ?_, fun h => absurd ⟨err, h⟩ hfails⟩, fun levels h => ?_⟩
    · cases hlevels.symm.trans h
    · cases hlevels.symm.trans h
      have hconfigure := @reading_rootLevel o config env hlevel
      exact ⟨started, hstarted, hconsole, hconfigure, hconsole.eq_iff hconfigure⟩

/-- Both read a warning. -/
theorem setLevels_roots_warning :
    ∃ started levels,
      startConsole (some (consoleName .none ⟨"UTC".toList, 30, "Warning".toList⟩)) {} .fresh =
        (.ok (), started) ∧
      setLevels .none ⟨"UTC".toList, 30, "Warning".toList⟩ {} = .ok levels ∧
      levels.root = .warning ∧ started.root = levels.root := by
  obtain ⟨levels, hlevels, hroot⟩ : ∃ levels,
      setLevels .none ⟨"UTC".toList, 30, "Warning".toList⟩ {} = .ok levels ∧
        levels.root = .warning :=
    ⟨_, rfl, rfl⟩
  obtain ⟨-, h⟩ := @setLevels_roots .none ⟨"UTC".toList, 30, "Warning".toList⟩ {} rfl
  obtain ⟨started, hstarted, -, -, hagree⟩ := h levels hlevels
  have hnone : ¬AsksConsole {} := nofun
  exact ⟨started, levels, hstarted, hlevels, hroot,
    hagree.mpr (.inr (.inr (.inr ⟨hnone, by decide⟩)))⟩

/-- The console alone takes `on` for a wish to debug, and alone knows the level `CRITICAL`. -/
theorem setLevels_roots_differ :
    (∃ started levels,
      startConsole (some (consoleName .none ⟨"UTC".toList, 30, "INFO".toList⟩))
        { debug := some "on".toList } .fresh = (.ok (), started) ∧
      setLevels .none ⟨"UTC".toList, 30, "INFO".toList⟩ { debug := some "on".toList } =
        .ok levels ∧ started.root = .debug ∧ levels.root = .info) ∧
    ∃ started levels,
      startConsole (some (consoleName .none ⟨"UTC".toList, 30, "CRITICAL".toList⟩)) {} .fresh =
        (.ok (), started) ∧
      setLevels .none ⟨"UTC".toList, 30, "CRITICAL".toList⟩ {} = .ok levels ∧
      started.root = .critical ∧ levels.root = .info :=
  ⟨⟨_, _, rfl, rfl, rfl, rfl⟩, ⟨_, _, rfl, rfl, rfl, rfl⟩⟩

end Command

end Recurrence
