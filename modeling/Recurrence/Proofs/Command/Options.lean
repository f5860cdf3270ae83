import Recurrence.Command.Options
import Recurrence.Proofs.Outcome
import Recurrence.Proofs.Text.Cutting

/-! # Arguments as a row of options

Arguments that ask for a run are options in a row, each with its value if it takes one
(`exists_givenOptions`).  They are set one after the other, which comes to what the row
gives: all values of rules and exceptions, and the last value of any other option
(`Options.setAll_none`).  Rules do not get in the way of the other options, so one
option may stand for all rules, wherever it stands (`request_ruleOption`).
-/
namespace Recurrence.Command
open Text

/-! ## Options in a row -/

/-- The arguments give an option and its value; there is no value if it takes none. -/
inductive Gives : List Text → Flag → Text → Prop
  /-- The value is written to the name. -/
  | joined {s value : Text} {flag : Flag} {short : Bool}
      (name : classify s = .ok (.flag flag short (some value)))
      (takes : flag.takesValue = true) : Gives [s] flag value
  /-- The value is the next argument. -/
  | apart {s value : Text} {flag : Flag} {short : Bool}
      (name : classify s = .ok (.flag flag short none)) (takes : flag.takesValue = true)
      (word : classify value = .ok (.word value)) : Gives [s, value] flag value
  /-- There is no value. -/
  | bare {s : Text} {short : Bool} (name : classify s = .ok (.flag .debug short none)) :
      Gives [s] .debug []

/-- An option as it stands among the arguments. -/
structure GivenOption where
  /-- The arguments that it takes up. -/
  arguments : List Text
  /-- The option. -/
  flag : Flag
  /-- Its value. -/
  value : Text
  /-- The arguments give the option and its value. -/
  gives : Gives arguments flag value

/-- The options with a row of options set. -/
def Options.setAll (o : Options) (gs : List GivenOption) : Options :=
  gs.foldl (fun o g => o.set g.flag g.value) o

/-- The mark is no option. -/
theorem ne_mark_of_classify {s : Text} {a : Argument} (h : classify s = .ok a) :
    s ≠ ['-', '-'] := by
  rintro rfl
  cases h

theorem classifyAll_cons {s : Text} {a : Argument} (h : classify s = .ok a) (rest : List Text) :
    classifyAll (s :: rest) = (classifyAll rest).map (a :: ·) := by
  rw [classifyAll, if_neg (ne_mark_of_classify h), h]
  cases classifyAll rest <;> rfl

/-- The arguments that give an option are classified apart from the rest, and taking them in sets
the option. -/
theorem Gives.exists_parsed {arguments : List Text} {flag : Flag} {value : Text}
    (h : Gives arguments flag value) :
    ∃ parsed,
      (∀ rest, classifyAll (arguments ++ rest) = (classifyAll rest).map (parsed ++ ·)) ∧
      ∀ o others, takeFrom o [] (parsed ++ others) = takeFrom (o.set flag value) [] others := by
  cases h with
  | joined name takes =>
    refine ⟨[_], classifyAll_cons name, fun o others => ?_⟩
    rw [List.singleton_append, takeFrom, if_pos takes]
  | @apart s _ _ short name takes word =>
    have hhelp : flag ≠ .help := by
      rintro rfl
      cases takes
    refine ⟨[.flag flag short none, .word value], fun rest => ?_, fun o others => ?_⟩
    · simp only [List.cons_append, List.nil_append, classifyAll_cons name, classifyAll_cons word]
      cases classifyAll rest <;> rfl
    · simp only [List.cons_append, List.nil_append]
      rw [takeFrom, if_neg hhelp, if_pos takes]
  | bare name =>
    refine ⟨[_], classifyAll_cons name, fun o others => ?_⟩
    rw [List.singleton_append, takeFrom.eq_def]
    rfl

/-- What is left of a row is taken on from where the options stand. -/
def requestFrom (o : Options) (arguments : List Text) : Except UsageError Request := do
  takeFrom o [] (← classifyAll arguments)

theorem requestFrom_append (g : GivenOption) (o : Options) (rest : List Text) :
    requestFrom o (g.arguments ++ rest) = requestFrom (o.set g.flag g.value) rest := by
  obtain ⟨parsed, hparsed, htaken⟩ := g.gives.exists_parsed
  rw [requestFrom, requestFrom, hparsed]
  cases classifyAll rest with
  | error err => rfl
  | ok others => exact htaken o others

theorem requestFrom_flatMap (gs : List GivenOption) (o : Options) :
    requestFrom o (gs.flatMap GivenOption.arguments) = requestFrom (o.setAll gs) [] := by
  induction gs generalizing o with
  | nil => rfl
  | cons g gs ih =>
    rw [List.flatMap_cons, requestFrom_append, ih]
    rfl

/-- **A row of options asks to run with these options set**, if none is missing. -/
theorem request_flatMap_eq_ok {gs : List GivenOption} {o : Options} :
    request (gs.flatMap GivenOption.arguments) = .ok (.run o) ↔
      o = Options.none.setAll gs ∧ o.notGiven = [] := by
  have hrequest : request (gs.flatMap GivenOption.arguments) =
      requestFrom (Options.none.setAll gs) [] := requestFrom_flatMap gs .none
  rw [hrequest]
  generalize Options.none.setAll gs = given
  show takeFrom given [] [] = _ ↔ _
  rw [takeFrom]
  by_cases h : given.notGiven = []
  · rw [h]
    constructor
    · rintro ⟨⟩
      exact ⟨rfl, h⟩
    · rintro ⟨rfl, -⟩
      rfl
  · rw [if_pos (by simpa using h)]
    constructor
    · rintro ⟨⟩
    · rintro ⟨rfl, hnone⟩
      exact absurd hnone h

/-! ## Every run is asked for by a row of options -/

theorem exists_flag_of_exactFlag? {s : Text} {a : Argument} (h : exactFlag? s = some a) :
    ∃ flag value, a = .flag flag false value := by
  unfold exactFlag? at h
  split at h
  · cases h
    exact ⟨_, _, rfl⟩
  · split at h
    · obtain ⟨flag, -, rfl⟩ := Option.map_eq_some_iff.mp h
      exact ⟨_, _, rfl⟩
    · cases h

theorem exists_flag_of_mem_candidates {s name : Text} {a : Argument}
    (h : (name, a) ∈ candidates s) : ∃ flag short value, a = .flag flag short value := by
  unfold candidates at h
  split at h
  · obtain ⟨⟨_, flag⟩, -, hread⟩ := List.mem_filterMap.mp h
    dsimp only at hread
    split at hread
    · cases hread
      exact ⟨_, _, _, rfl⟩
    · split at hread
      · cases hread
        exact ⟨_, _, _, rfl⟩
      · cases hread
  · obtain ⟨⟨_, flag⟩, -, hread⟩ := List.mem_map.mp h
    cases hread
    exact ⟨_, _, _, rfl⟩

/-- An argument that is no option is kept as it is. -/
theorem eq_of_classify_word {s w : Text} (h : classify s = .ok (.word w)) : w = s := by
  unfold classify at h
  split at h
  · cases h
    rfl
  · split at h
    · rename_i argument hexact
      cases h
      obtain ⟨_, _, hflag⟩ := exists_flag_of_exactFlag? hexact
      cases hflag
    · split at h
      · rename_i name argument hone
        cases h
        have hmem : (name, .word w) ∈ candidates s := by rw [hone]; exact List.mem_cons_self
        obtain ⟨_, _, _, hflag⟩ := exists_flag_of_mem_candidates hmem
        cases hflag
      · split at h <;> cases h
        rfl
      · cases h

theorem classifyAll_eq_cons {arguments : List Text} {a : Argument} {parsed : List Argument}
    (h : classifyAll arguments = .ok (a :: parsed)) (ha : a ≠ .mark) :
    ∃ s rest, arguments = s :: rest ∧ classify s = .ok a ∧ classifyAll rest = .ok parsed := by
  cases arguments with
  | nil => cases h
  | cons s rest =>
    rw [classifyAll] at h
    split at h
    · cases h
      exact absurd rfl ha
    · obtain ⟨_, hs, h⟩ := except_bind_eq_ok.mp h
      obtain ⟨_, hrest, h⟩ := except_bind_eq_ok.mp h
      cases h
      exact ⟨s, rest, rfl, hs, hrest⟩

theorem helpLetters_ne_run (s : Text) (o : Options) : helpLetters s ≠ .ok (.run o) := by
  fun_induction helpLetters s <;> simp_all

/-- A run is only asked for if no argument is left over. -/
theorem extras_eq_nil_of_takeFrom {o o' : Options} {extras : List Text} {parsed : List Argument}
    (h : takeFrom o extras parsed = .ok (.run o')) : extras = [] := by
  fun_induction takeFrom o extras parsed with
  | case1 | case2 | case9 | case10 | case12 => cases h
  | case3 o extras hgiven hextras => simpa using hextras
  | case4 o extras s rest ih | case6 o extras s rest ih => cases ih h
  | case5 o extras rest ih => cases ih h
  | case8 => exact absurd h (helpLetters_ne_run _ _)
  | case7 _ _ _ _ _ _ _ ih | case13 _ _ _ _ _ _ _ ih | case11 _ _ _ _ _ _ _ _ ih => exact ih h

theorem eq_nil_of_classifyAll {arguments : List Text} (h : classifyAll arguments = .ok []) :
    arguments = [] := by
  cases arguments with
  | nil => rfl
  | cons s rest =>
    rw [classifyAll] at h
    split at h
    · cases h
    · obtain ⟨_, -, h⟩ := except_bind_eq_ok.mp h
      obtain ⟨_, -, h⟩ := except_bind_eq_ok.mp h
      cases h

theorem exists_givenOptions_of_takeFrom {o o' : Options} {extras arguments : List Text}
    {parsed : List Argument} (hparsed : classifyAll arguments = .ok parsed)
    (h : takeFrom o extras parsed = .ok (.run o')) :
    ∃ gs : List GivenOption, arguments = gs.flatMap GivenOption.arguments := by
  -- Each step takes in one option; a step that keeps an argument for the end leads to no run.
  fun_induction takeFrom o extras parsed generalizing arguments with
  | case1 | case2 | case9 | case10 | case12 => cases h
  | case3 => exact ⟨[], eq_nil_of_classifyAll hparsed⟩
  | case4 | case5 | case6 => cases extras_eq_nil_of_takeFrom h
  | case8 => exact absurd h (helpLetters_ne_run _ _)
  | case7 o extras flag short others value takes ih =>
    obtain ⟨s, rest, rfl, hs, hrest⟩ := classifyAll_eq_cons hparsed nofun
    obtain ⟨gs, rfl⟩ := ih hrest h
    exact ⟨⟨[s], flag, value, .joined hs takes⟩ :: gs, rfl⟩
  | case11 o extras flag short hhelp takes value others ih =>
    obtain ⟨s, rest, rfl, hs, hrest⟩ := classifyAll_eq_cons hparsed nofun
    obtain ⟨v, rest, rfl, hv, hrest⟩ := classifyAll_eq_cons hrest nofun
    obtain ⟨gs, rfl⟩ := ih hrest h
    cases eq_of_classify_word hv
    exact ⟨⟨[s, value], flag, value, .apart hs takes hv⟩ :: gs, rfl⟩
  | case13 o extras flag short others hhelp takes ih =>
    obtain ⟨s, rest, rfl, hs, hrest⟩ := classifyAll_eq_cons hparsed nofun
    obtain ⟨gs, rfl⟩ := ih hrest h
    -- Of the options that take no value, help is no run.
    have hdebug : flag = .debug := by
      cases flag <;> first | rfl | exact absurd rfl hhelp | exact absurd rfl takes
    subst hdebug
    exact ⟨⟨[s], .debug, [], .bare hs⟩ :: gs, rfl⟩

/-- **Arguments that ask for a run are options in a row.** -/
theorem exists_givenOptions {arguments : List Text} {o : Options}
    (h : request arguments = .ok (.run o)) :
    ∃ gs : List GivenOption, arguments = gs.flatMap GivenOption.arguments := by
  obtain ⟨_, hparsed, h⟩ := except_bind_eq_ok.mp h
  exact exists_givenOptions_of_takeFrom hparsed h

/-! ## What a row of options gives -/

/-- The values that a row of options gives for one of them, in order. -/
def valuesGiven (flag : Flag) (gs : List GivenOption) : List Text :=
  (gs.filter (·.flag = flag)).map GivenOption.value

/-- The value that counts of an option that takes one: the last. -/
def lastGiven (flag : Flag) (gs : List GivenOption) : Option Text :=
  (valuesGiven flag gs).getLast?

theorem valuesGiven_append (flag : Flag) (gs gs' : List GivenOption) :
    valuesGiven flag (gs ++ gs') = valuesGiven flag gs ++ valuesGiven flag gs' := by
  rw [valuesGiven, List.filter_append, List.map_append]
  rfl

theorem valuesGiven_singleton_self (g : GivenOption) : valuesGiven g.flag [g] = [g.value] := by
  simp [valuesGiven]

theorem valuesGiven_singleton_of_ne {flag : Flag} {g : GivenOption} (h : g.flag ≠ flag) :
    valuesGiven flag [g] = [] := by
  simp [valuesGiven, h]

/-- The options as a row gives them. -/
def Options.ofGiven (gs : List GivenOption) : Options where
  rules := valuesGiven .rule gs
  start := lastGiven .start gs
  rangeStart := lastGiven .rangeStart gs
  rangeEnd := lastGiven .rangeEnd gs
  exdates := valuesGiven .exdate gs
  zone := lastGiven .zone gs
  config := lastGiven .config gs
  debug := gs.any (·.flag = .debug)

/-- One more option at the end of the row is one more option set. -/
theorem Options.ofGiven_append_singleton (gs : List GivenOption) (g : GivenOption) :
    ofGiven (gs ++ [g]) = (ofGiven gs).set g.flag g.value := by
  have hvalues : ∀ flag, valuesGiven flag (gs ++ [g]) =
      if g.flag = flag then valuesGiven flag gs ++ [g.value] else valuesGiven flag gs := by
    intro flag
    rw [valuesGiven_append]
    split
    · rename_i h
      rw [← h, valuesGiven_singleton_self]
    · rename_i h
      rw [valuesGiven_singleton_of_ne h, List.append_nil]
  cases hflag : g.flag <;> simp [ofGiven, lastGiven, hvalues, hflag, set]

/-- **Options that are set one after the other are as their row gives them.** -/
theorem Options.setAll_none (gs : List GivenOption) : none.setAll gs = ofGiven gs := by
  induction gs using List.reverseRecOn with
  | nil => rfl
  | append_singleton gs g ih =>
    have hstep : none.setAll (gs ++ [g]) = (none.setAll gs).set g.flag g.value := by
      simp [setAll]
    rw [hstep, ih, ofGiven_append_singleton]

/-- **A row of options asks to run with what it gives**, if there is a rule and a start. -/
theorem request_eq_run_iff {gs : List GivenOption} {o : Options} :
    request (gs.flatMap GivenOption.arguments) = .ok (.run o) ↔
      o = .ofGiven gs ∧ valuesGiven .rule gs ≠ [] ∧ (lastGiven .start gs).isSome = true := by
  have hnotGiven : ∀ o : Options,
      o.notGiven = [] ↔ o.rules ≠ [] ∧ o.start.isSome = true := by
    simp [Options.notGiven, Flag.needed]
  rw [request_flatMap_eq_ok, Options.setAll_none, hnotGiven]
  constructor <;> rintro ⟨rfl, hgiven⟩ <;> exact ⟨rfl, hgiven⟩

/-! ## One rule in the place of all -/

theorem classify_rule (rule : Text) :
    classify ("--rule=".toList ++ rule) = .ok (.flag .rule false (some rule)) := by
  have hexact : exactFlag? ("--rule=".toList ++ rule) = some (.flag .rule false (some rule)) := rfl
  rw [classify, if_neg (by simp), hexact]

/-- A rule written to its name. -/
def ruleOption (rule : Text) : GivenOption :=
  ⟨["--rule=".toList ++ rule], .rule, rule, .joined (classify_rule rule) rfl⟩

section
variable {gs before after : List GivenOption}
  (hothers : before ++ after = gs.filter (·.flag ≠ .rule))
include hothers

theorem valuesGiven_rule_ruleOption (rule : Text) :
    valuesGiven .rule (before ++ ruleOption rule :: after) = [rule] := by
  have hnone : valuesGiven .rule (before ++ after) = [] := by
    rw [hothers, valuesGiven, List.filter_filter, List.map_eq_nil_iff, List.filter_eq_nil_iff]
    simp
  rw [valuesGiven_append, List.append_eq_nil_iff] at hnone
  rw [← List.singleton_append, valuesGiven_append, valuesGiven_append, hnone.1, hnone.2]
  rfl

theorem valuesGiven_ruleOption {flag : Flag} (hflag : flag ≠ .rule) (rule : Text) :
    valuesGiven flag (before ++ ruleOption rule :: after) = valuesGiven flag gs := by
  have hrule : valuesGiven flag [ruleOption rule] = [] := valuesGiven_singleton_of_ne hflag.symm
  have hsame : valuesGiven flag (gs.filter (·.flag ≠ .rule)) = valuesGiven flag gs := by
    rw [valuesGiven, List.filter_filter, valuesGiven]
    congr 2
    funext g
    by_cases h : g.flag = flag <;> simp [h, hflag]
  rw [← List.singleton_append, valuesGiven_append, valuesGiven_append, hrule, List.nil_append,
    ← valuesGiven_append, hothers, hsame]

theorem any_debug_ruleOption (rule : Text) :
    (before ++ ruleOption rule :: after).any (·.flag = .debug) = gs.any (·.flag = .debug) := by
  have hdebug : ∀ gs : List GivenOption,
      gs.any (·.flag = .debug) = !(valuesGiven .debug gs).isEmpty := by
    intro gs
    rw [Bool.eq_iff_iff]
    simp [valuesGiven]
  rw [hdebug, hdebug, valuesGiven_ruleOption hothers (by decide)]

/-- **With one rule in the place of all, a run is asked for with that rule alone.** -/
theorem request_ruleOption {o : Options} (rule : Text)
    (h : request (gs.flatMap GivenOption.arguments) = .ok (.run o)) :
    request ((before ++ ruleOption rule :: after).flatMap GivenOption.arguments) =
      .ok (.run { o with rules := [rule] }) := by
  obtain ⟨rfl, -, hstart⟩ := request_eq_run_iff.mp h
  have hsame : ∀ {flag}, flag ≠ .rule →
      valuesGiven flag (before ++ ruleOption rule :: after) = valuesGiven flag gs :=
    fun hflag => valuesGiven_ruleOption hothers hflag rule
  refine request_eq_run_iff.mpr ⟨?_, ?_, ?_⟩
  · simp [Options.ofGiven, lastGiven, hsame, valuesGiven_rule_ruleOption hothers,
      any_debug_ruleOption hothers]
  · rw [valuesGiven_rule_ruleOption hothers]
    exact List.cons_ne_nil rule []
  · rwa [lastGiven, hsame (by decide)]

end

end Recurrence.Command
