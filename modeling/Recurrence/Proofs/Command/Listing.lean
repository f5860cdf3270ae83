import Recurrence.Command.Run
import Recurrence.Proofs.Command.Options
import Recurrence.Proofs.Occurrences
import Recurrence.Proofs.Series.Canonical

/-! # What a run prints

A run computes all that it prints before it prints anything.  If it succeeds, it prints
an expansion of what its arguments give: the canonical rule, the phrase and the dates
(`Expansion`).  An option that may be left out counts only if its value is not empty
(`GivenOr`).  The canonical rule may be given in the place of all rules: the expansion
is the same (`Expansion.ofCanonicalRule`), and so is the report.
-/
namespace Recurrence.Command
variable {gs before after : List GivenOption} {o : Options} {config : Config}
  {find : Path → FileEntry} {env : Environment} {today : Date}

/-! ## Options that may be left out -/

/-- One holds of the value if it is given and not empty, the other if it is absent or empty. -/
inductive GivenOr (value : Option Text) (given : Text → Prop) (absent : Prop) : Prop
  /-- The value counts. -/
  | given (s : Text) : value = some s → s ≠ [] → given s → GivenOr value given absent
  /-- There is no value that counts. -/
  | absent : (∀ s, value = some s → s = []) → absent → GivenOr value given absent

theorem given?_eq_some {value : Option Text} {s : Text} :
    given? value = some s ↔ value = some s ∧ s ≠ [] := by
  rw [given?, Option.filter_eq_some_iff]
  simp

theorem given?_eq_none {value : Option Text} :
    given? value = none ↔ ∀ s, value = some s → s = [] := by
  rw [given?, Option.filter_eq_none_iff]
  simp

theorem givenOr_iff {value : Option Text} {given : Text → Prop} {absent : Prop} :
    GivenOr value given absent ↔
      (∀ s, given? value = some s → given s) ∧ (given? value = none → absent) := by
  constructor
  · rintro (⟨s, hs, hne, hgiven⟩ | ⟨hempty, habsent⟩)
    · have hcounts := given?_eq_some.mpr ⟨hs, hne⟩
      refine ⟨fun s' hs' => ?_, fun hnone => ?_⟩
      · cases hcounts.symm.trans hs'
        exact hgiven
      · cases hcounts.symm.trans hnone
    · have hnone := given?_eq_none.mpr hempty
      refine ⟨fun s hs => ?_, fun _ => habsent⟩
      cases hnone.symm.trans hs
  · rintro ⟨hgiven, habsent⟩
    cases h : given? value with
    | none => exact .absent (given?_eq_none.mp h) (habsent h)
    | some s =>
      obtain ⟨hs, hne⟩ := given?_eq_some.mp h
      exact .given s hs hne (hgiven s h)

/-! ## Expansions -/

/-- What a run computes from a row of options and the configuration. -/
structure Expansion (gs : List GivenOption) (config : Config) (today : Date) where
  /-- The start of the first occurrence. -/
  start : DateTime
  /-- The first date to list. -/
  first : Date
  /-- The last date to list. -/
  last : Date
  /-- The name of the zone in which the end is phrased. -/
  zone : Text
  /-- The series of the event. -/
  series : Series
  /-- The rules in words. -/
  phrase : Text
  /-- The dates listed. -/
  dates : List Date
  /-- The start is given. -/
  start_given : ∃ s, lastGiven .start gs = some s ∧ Timestamp.parse today (.text s) = .ok start
  /-- The first date is the one given, without its time, or else that of the start. -/
  first_given : GivenOr (lastGiven .rangeStart gs)
    (fun s => ∃ t, Timestamp.parse today (.text s) = .ok t ∧ t.date = first) (start.date = first)
  /-- The last date is the one given, without its time, or else lies a window after the first. -/
  last_given : GivenOr (lastGiven .rangeEnd gs)
    (fun s => ∃ t, Timestamp.parse today (.text s) = .ok t ∧ t.date = last)
    ((last.dayNumber : Int) = first.dayNumber + config.windowDays)
  /-- The zone is the one given, or else the configured one. -/
  zone_given : GivenOr (lastGiven .zone gs) (· = zone) (config.defaultZone = zone)
  /-- The series is that of the event with all rules and exceptions that are given. -/
  series_eq : ((Event.mk start (valuesGiven .rule gs) (valuesGiven .exdate gs)).data.series
    today).result = .ok series
  /-- The phrase is that of the series, in the zone. -/
  phrase_eq : (series.phraseIn today zone).result = .ok phrase
  /-- The dates are those of the series. -/
  dates_eq : series.dates ⟨first, last⟩ = .ok dates

namespace Expansion

/-- The listing of an expansion. -/
def listing (x : Expansion gs config today) : Listing :=
  ⟨x.series.serialize, x.phrase, x.dates⟩

theorem pairwise_dates (x : Expansion gs config today) : x.dates.Pairwise (· < ·) :=
  pairwise_occurrences x.dates_eq

end Expansion

/-! ## Options that can be read -/

theorem readTime_eq_ok {s : Text} {t : DateTime} :
    readTime today s = .ok t ↔ Timestamp.parse today (.text s) = .ok t :=
  mapError_eq_ok

/-- There is no date-time in an empty text. -/
theorem parse_nil_ne_ok (t : DateTime) : Timestamp.parse today (.text []) ≠ .ok t := by
  have hempty : Timestamp.read? today [] = none := by
    show Timestamp.Parts.empty.dateTime? today = none
    unfold Timestamp.Parts.dateTime?
    cases Timestamp.Parts.empty.date? today <;> rfl
  rw [Timestamp.parse, hempty]
  nofun

/-- A start that can be read is given. -/
theorem readTime_getD_eq_ok {value : Option Text} {t : DateTime} :
    readTime today (value.getD []) = .ok t ↔
      ∃ s, value = some s ∧ Timestamp.parse today (.text s) = .ok t := by
  rw [readTime_eq_ok]
  cases value with
  | none => simp [parse_nil_ne_ok]
  | some s => simp

theorem firstDate_eq_ok {start : DateTime} {first : Date} :
    firstDate o today start = .ok first ↔ GivenOr o.rangeStart
      (fun s => ∃ t, Timestamp.parse today (.text s) = .ok t ∧ t.date = first)
      (start.date = first) := by
  rw [firstDate, givenOr_iff]
  cases given? o.rangeStart with
  | none => simp
  | some s => simp [except_map_eq_ok, readTime_eq_ok]

theorem lastDate_eq_ok {first last : Date} :
    lastDate o config today first = .ok last ↔ GivenOr o.rangeEnd
      (fun s => ∃ t, Timestamp.parse today (.text s) = .ok t ∧ t.date = last)
      ((last.dayNumber : Int) = first.dayNumber + config.windowDays) := by
  rw [lastDate, givenOr_iff]
  cases given? o.rangeEnd with
  | none =>
    simp only [reduceCtorEq, false_implies, implies_true, true_and, forall_const]
    rw [← Date.addDays?_eq_some]
    cases first.addDays? config.windowDays <;> simp
  | some s => simp [except_map_eq_ok, readTime_eq_ok]

theorem zoneName_eq_iff {zone : Text} :
    zoneName o config = zone ↔ GivenOr o.zone (· = zone) (config.defaultZone = zone) := by
  rw [zoneName, givenOr_iff]
  cases given? o.zone <;> simp

theorem pathOf_eq_iff {name : Option Text} {path : Path} :
    Config.pathOf name = path ↔
      GivenOr name (.ofText · = path) (.ofText "rrule_lite.yaml".toList = path) := by
  rw [givenOr_iff]
  rcases name with _ | _ | ⟨c, name⟩ <;> simp [Config.pathOf, Config.standardPath, given?]

theorem textsFrom_map (i : Nat) (ss : List Text) : Field.textsFrom i (ss.map .text) = (ss, []) := by
  induction ss generalizing i with
  | nil => rfl
  | cons s ss ih => simp [Field.textsFrom, ih]

/-- Texts make an event with any start. -/
theorem ofFields_texts (start : DateTime) (rules exceptions : List Text) :
    Event.ofFields (some (.dateTime start)) (some (.list (rules.map .text)))
      (some (.list (exceptions.map .text))) = .ok ⟨start, rules, exceptions⟩ := by
  have htexts : ∀ name (ss : List Text),
      Field.texts name (some (.list (ss.map .text))) = .ok ss := by
    intro name ss
    rw [Field.texts, textsFrom_map]
  have hstart : Field.required "start" Field.dateTime (some (.dateTime start)) = .ok start := rfl
  rw [Event.ofFields, hstart, htexts, htexts]

/-! ## Listings -/

/-- **A listing is that of an expansion.** -/
theorem listing_eq_ok {l : Listing} :
    (listing (.ofGiven gs) config today).result = .ok l ↔
      ∃ x : Expansion gs config today, x.listing = l := by
  constructor
  · intro h
    obtain ⟨start, hstart, h⟩ := Outcome.result_bind_eq_ok.mp h
    obtain ⟨first, hfirst, h⟩ := Outcome.result_bind_eq_ok.mp h
    obtain ⟨last, hlast, h⟩ := Outcome.result_bind_eq_ok.mp h
    obtain ⟨event, hevent, h⟩ := Outcome.result_bind_eq_ok.mp h
    obtain ⟨series, hseries, h⟩ := Outcome.result_bind_eq_ok.mp h
    obtain ⟨phrase, hphrase, h⟩ := Outcome.result_bind_eq_ok.mp h
    obtain ⟨dates, hdates, h⟩ := Outcome.result_bind_eq_ok.mp h
    cases h
    cases (ofFields_texts start _ _).symm.trans hevent
    have hzone := zoneName_eq_iff.mp (Eq.refl (zoneName (.ofGiven gs) config))
    exact ⟨⟨start, first, last, _, series, phrase, dates, readTime_getD_eq_ok.mp hstart,
      firstDate_eq_ok.mp hfirst, lastDate_eq_ok.mp hlast, hzone, hseries,
      hphrase, hdates⟩, rfl⟩
  · rintro ⟨x, rfl⟩
    have hzone : zoneName (.ofGiven gs) config = x.zone := zoneName_eq_iff.mpr x.zone_given
    refine Outcome.result_bind_eq_ok.mpr ⟨x.start, readTime_getD_eq_ok.mpr x.start_given, ?_⟩
    refine Outcome.result_bind_eq_ok.mpr ⟨x.first, firstDate_eq_ok.mpr x.first_given, ?_⟩
    refine Outcome.result_bind_eq_ok.mpr ⟨x.last, lastDate_eq_ok.mpr x.last_given, ?_⟩
    refine Outcome.result_bind_eq_ok.mpr ⟨_, ofFields_texts x.start _ _, ?_⟩
    refine Outcome.result_bind_eq_ok.mpr ⟨x.series, x.series_eq, ?_⟩
    refine Outcome.result_bind_eq_ok.mpr ⟨x.phrase, hzone ▸ x.phrase_eq, ?_⟩
    exact Outcome.result_bind_eq_ok.mpr ⟨x.dates, x.dates_eq, rfl⟩

/-- **The canonical rule in the place of all rules gives the same listing.** -/
theorem Expansion.ofCanonicalRule (x : Expansion gs config today)
    (hothers : before ++ after = gs.filter (·.flag ≠ .rule)) :
    ∃ y : Expansion (before ++ ruleOption x.series.serialize :: after) config today,
      y.listing = x.listing := by
  have hvalues : ∀ {flag}, flag ≠ .rule →
      valuesGiven flag (before ++ ruleOption x.series.serialize :: after) = valuesGiven flag gs :=
    fun hflag => valuesGiven_ruleOption hothers hflag x.series.serialize
  have hlast : ∀ {flag}, flag ≠ .rule →
      lastGiven flag (before ++ ruleOption x.series.serialize :: after) = lastGiven flag gs :=
    fun hflag => congrArg List.getLast? (hvalues hflag)
  have hseries : ((EventData.ofTexts (.dateTime x.start) (valuesGiven .rule gs)
      (valuesGiven .exdate gs)).series today).result = .ok x.series := x.series_eq
  refine ⟨{ x with
    series := x.series.canonical
    start_given := ?_
    first_given := ?_
    last_given := ?_
    zone_given := ?_
    series_eq := ?_
    phrase_eq := ?_
    dates_eq := ?_ }, ?_⟩
  · rw [hlast (by decide)]
    exact x.start_given
  · rw [hlast (by decide)]
    exact x.first_given
  · rw [hlast (by decide)]
    exact x.last_given
  · rw [hlast (by decide)]
    exact x.zone_given
  · rw [valuesGiven_rule_ruleOption hothers, hvalues (by decide)]
    exact EventData.series_ofTexts_serialize hseries
  · rw [Series.phraseIn_canonical]
    exact x.phrase_eq
  · rw [Series.dates_canonical]
    exact x.dates_eq
  · rw [listing, listing, Series.serialize_canonical]

/-! ## Runs -/

theorem result_shown {α : Type} (s : LogState) (x : Outcome α) : (shown s x).result = x.result := by
  unfold shown
  split <;> rfl

theorem result_reportOf_eq_ok {s : LogState} {x : Outcome Listing} {report : Report} :
    (reportOf s x).result = .ok report ↔
      (∃ l, x.result = .ok l ∧ report = ⟨0, l.lines, [], s⟩) ∨
      ∃ error : RuleError, x.result = .error (.rule error) ∧
        report = ⟨failure, [], ["error: ".toList ++ error.message], s⟩ := by
  rw [reportOf]
  split
  · rename_i l hl
    simp [hl, eq_comm]
  · rename_i error herror
    simp [herror, eq_comm]
  · rename_i error hother herror
    simpa [herror] using fun r hr => absurd hr (hother r)

/-- A run that returns has computed a listing, or met with a rule error. -/
theorem result_execute_eq_ok {report : Report} :
    (execute o find env today).result = .ok report ↔
      ∃ config levels,
        (Config.load (Config.pathOf o.config) (find (Config.pathOf o.config)) env).result =
          .ok config ∧
        setLevels o config env = .ok levels ∧
        ((∃ l, (listing o config today).result = .ok l ∧ report = ⟨0, l.lines, [], levels⟩) ∨
          ∃ error : RuleError, (listing o config today).result = .error (.rule error) ∧
            report = ⟨failure, [], ["error: ".toList ++ error.message], levels⟩) := by
  simp only [← result_reportOf_eq_ok]
  constructor
  · intro h
    obtain ⟨config, hconfig, h⟩ := Outcome.result_bind_eq_ok.mp h
    obtain ⟨levels, hlevels, h⟩ := Outcome.result_bind_eq_ok.mp h
    exact ⟨config, levels, hconfig, hlevels, (result_shown ..).symm.trans h⟩
  · rintro ⟨config, levels, hconfig, hlevels, h⟩
    exact Outcome.result_bind_eq_ok.mpr ⟨config, hconfig,
      Outcome.result_bind_eq_ok.mpr ⟨levels, hlevels, (result_shown ..).trans h⟩⟩

theorem run_of_request {arguments : List Text} (h : request arguments = .ok (.run o)) :
    run arguments find env today = execute o find env today := by
  rw [run, h]

/-- A run prints an expansion of what its arguments give. -/
theorem result_run_of_expansion {levels : LogState} (x : Expansion gs config today)
    (accepted : request (gs.flatMap GivenOption.arguments) = .ok (.run (.ofGiven gs)))
    (hconfig : (Config.load (Config.pathOf (lastGiven .config gs))
      (find (Config.pathOf (lastGiven .config gs))) env).result = .ok config)
    (hlevels : setLevels (.ofGiven gs) config env = .ok levels) :
    (run (gs.flatMap GivenOption.arguments) find env today).result =
      .ok ⟨0, x.listing.lines, [], levels⟩ :=
  (congrArg Outcome.result (run_of_request accepted)).trans
    (result_execute_eq_ok.mpr
      ⟨config, levels, hconfig, hlevels, .inl ⟨_, listing_eq_ok.mpr ⟨x, rfl⟩, rfl⟩⟩)

/-- **A run prints all or nothing, and its canonical rule gives the same output again.**  The
arguments that ask for a run are a row of options.  If the run returns, it has read the
configuration file that the row names, or else `rrule_lite.yaml`.  It succeeds with the lines of an
expansion of the row and without an error, or it fails with an error and prints nothing.  If it
succeeds, all rules of the row may be left out and the canonical rule put anywhere between the
other options: that run returns as well, with the same report. -/
theorem run_prints_all_or_nothing {arguments : List Text} {report : Report}
    (accepted : request arguments = .ok (.run o))
    (returned : (run arguments find env today).result = .ok report) :
    (∃ gs : List GivenOption, arguments = gs.flatMap GivenOption.arguments) ∧
    ∀ gs : List GivenOption, arguments = gs.flatMap GivenOption.arguments →
      ∃ path config,
        GivenOr (lastGiven .config gs) (.ofText · = path)
          (.ofText "rrule_lite.yaml".toList = path) ∧
        (Config.load path (find path) env).result = .ok config ∧
        ((∃ x : Expansion gs config today,
            report.status = 0 ∧ report.errors = [] ∧
            report.output = x.series.serialize :: x.phrase :: x.dates.map Date.toText ∧
            x.dates.Pairwise (· < ·) ∧
            ∀ before after : List GivenOption, before ++ after = gs.filter (·.flag ≠ .rule) →
              (run (before.flatMap GivenOption.arguments ++
                ("--rule=".toList ++ x.series.serialize) :: after.flatMap GivenOption.arguments)
                find env today).result = .ok report) ∨
          (report.status = 2 ∧ report.output = [] ∧
            ∃ message, report.errors = ["error: ".toList ++ message])) := by
  refine ⟨exists_givenOptions accepted, ?_⟩
  rintro gs rfl
  obtain ⟨rfl, -⟩ := request_eq_run_iff.mp accepted
  rw [run_of_request accepted, result_execute_eq_ok] at returned
  obtain ⟨config, levels, hconfig, hlevels, hreport⟩ := returned
  refine ⟨_, config, pathOf_eq_iff.mp rfl, hconfig, ?_⟩
  rcases hreport with ⟨l, hl, rfl⟩ | ⟨error, -, rfl⟩
  · obtain ⟨x, rfl⟩ := listing_eq_ok.mp hl
    refine .inl ⟨x, rfl, rfl, rfl, x.pairwise_dates, fun before after hothers => ?_⟩
    -- The options differ in their rules alone, and so only the listing has to be made again.
    have hrequest := request_ruleOption hothers x.series.serialize accepted
    have hoptions := (request_eq_run_iff.mp hrequest).1
    rw [List.flatMap_append, List.flatMap_cons] at hrequest
    refine (congrArg Outcome.result (run_of_request hrequest)).trans ?_
    refine result_execute_eq_ok.mpr ⟨config, levels, hconfig, hlevels, .inl ⟨_, ?_, rfl⟩⟩
    rw [hoptions]
    exact listing_eq_ok.mpr (x.ofCanonicalRule hothers)
  · exact .inr ⟨rfl, rfl, error.message, rfl⟩

set_option maxRecDepth 100000 in
/-- Two rules, one under a name cut short, with an end that is on the next day nine hours ahead of
universal time.  The range and the zone are given, and the level of the log is configured.  The run
prints the same for the canonical rule. -/
theorem run_prints_all_or_nothing_allOptions :
    ∃ find : Path → FileEntry, ∃ report,
      find (.ofText "a.json".toList) = .file "\x7b\"log_level\": \"ERROR\"\x7d".toList ∧
      (run ["--rule=INTERVAL=3;UNTIL=20250112T230000Z".toList, "--start".toList,
        "2025-01-06".toList, "--rul=freq=DAILY".toList, "--from=2025-01-07".toList, "--to".toList,
        "2025-01-12".toList, "--timezone=Etc/GMT-9".toList, "--config=a.json".toList]
        find {} .epoch).result = .ok report ∧
      report.status = 0 ∧ report.log.root = .error ∧
      report.output = ["FREQ=DAILY;INTERVAL=3;UNTIL=20250112T230000Z".toList,
        "Every 3 days until January 13, 2025".toList, "2025-01-09".toList,
        "2025-01-12".toList] ∧
      (run ["--start".toList, "2025-01-06".toList,
        "--rule=FREQ=DAILY;INTERVAL=3;UNTIL=20250112T230000Z".toList, "--from=2025-01-07".toList,
        "--to".toList, "2025-01-12".toList, "--timezone=Etc/GMT-9".toList,
        "--config=a.json".toList] find {} .epoch).result = .ok report := by
  let start : GivenOption := ⟨["--start".toList, "2025-01-06".toList], .start, _,
    .apart (by rfl) rfl (by rfl)⟩
  let gs : List GivenOption :=
    [⟨["--rule=INTERVAL=3;UNTIL=20250112T230000Z".toList], .rule,
        "INTERVAL=3;UNTIL=20250112T230000Z".toList, .joined (by rfl) rfl⟩, start,
      ⟨["--rul=freq=DAILY".toList], .rule, "freq=DAILY".toList, .joined (by rfl) rfl⟩,
      ⟨["--from=2025-01-07".toList], .rangeStart, "2025-01-07".toList, .joined (by rfl) rfl⟩,
      ⟨["--to".toList, "2025-01-12".toList], .rangeEnd, _, .apart (by rfl) rfl (by rfl)⟩,
      ⟨["--timezone=Etc/GMT-9".toList], .zone, "Etc/GMT-9".toList, .joined (by rfl) rfl⟩,
      ⟨["--config=a.json".toList], .config, "a.json".toList, .joined (by rfl) rfl⟩]
  have accepted : request (gs.flatMap GivenOption.arguments) = .ok (.run (.ofGiven gs)) :=
    request_eq_run_iff.mpr ⟨rfl, List.cons_ne_nil _ _, rfl⟩
  -- The run is put together from its parts, each small enough to be evaluated.
  obtain ⟨series, hseries, hphrase, hdates, hrule⟩ : ∃ series,
      ((Event.mk (.ofDate ⟨739257, by decide, by decide⟩)
        ["INTERVAL=3;UNTIL=20250112T230000Z".toList, "freq=DAILY".toList] []).data.series
          .epoch).result = .ok series ∧
      (series.phraseIn .epoch "Etc/GMT-9".toList).result =
        .ok "Every 3 days until January 13, 2025".toList ∧
      series.dates ⟨⟨739258, by decide, by decide⟩, ⟨739263, by decide, by decide⟩⟩ =
        .ok [⟨739260, by decide, by decide⟩, ⟨739263, by decide, by decide⟩] ∧
      series.serialize = "FREQ=DAILY;INTERVAL=3;UNTIL=20250112T230000Z".toList :=
    ⟨_, by rfl, by rfl, by rfl, by rfl⟩
  have htexts : [Date.mk 739260 (by decide) (by decide), ⟨739263, by decide, by decide⟩].map
      Date.toText = ["2025-01-09".toList, "2025-01-12".toList] := by decide
  let x : Expansion gs ⟨"UTC".toList, 30, "ERROR".toList⟩ .epoch :=
    ⟨_, _, _, _, series, _, _, ⟨_, rfl, by rfl⟩, .given _ rfl nofun ⟨_, by rfl, rfl⟩,
      .given _ rfl nofun ⟨_, by rfl, rfl⟩, .given _ rfl nofun rfl, hseries, hphrase, hdates⟩
  have hlines : x.listing.lines = ["FREQ=DAILY;INTERVAL=3;UNTIL=20250112T230000Z".toList,
      "Every 3 days until January 13, 2025".toList, "2025-01-09".toList, "2025-01-12".toList] :=
    congrArg₂ List.cons hrule (congrArg (List.cons _) htexts)
  have hentries : (Config.entries (.ofText "a.json".toList)
      (.file "\x7b\"log_level\": \"ERROR\"\x7d".toList)).result =
        .ok [(.text "log_level".toList, .text "ERROR".toList)] := by rfl
  have hconfig : (Config.load (.ofText "a.json".toList)
      (.file "\x7b\"log_level\": \"ERROR\"\x7d".toList) {}).result =
        .ok ⟨"UTC".toList, 30, "ERROR".toList⟩ :=
    Outcome.result_bind_eq_ok.mpr ⟨_, hentries, by rfl⟩
  obtain ⟨levels, hlevels, hroot⟩ : ∃ levels,
      setLevels (.ofGiven gs) ⟨"UTC".toList, 30, "ERROR".toList⟩ {} = .ok levels ∧
        levels.root = .error :=
    ⟨_, by rfl, by rfl⟩
  let find : Path → FileEntry := fun _ => .file "\x7b\"log_level\": \"ERROR\"\x7d".toList
  have returned : (run (gs.flatMap GivenOption.arguments) find {} .epoch).result =
      .ok ⟨0, x.listing.lines, [], levels⟩ :=
    result_run_of_expansion x accepted hconfig hlevels
  obtain ⟨-, h⟩ := run_prints_all_or_nothing accepted returned
  obtain ⟨_, _, -, -, ⟨y, hstatus, -, houtput, -, again⟩ | ⟨hstatus, -⟩⟩ := h gs rfl
  · have hsame : y.series.serialize = "FREQ=DAILY;INTERVAL=3;UNTIL=20250112T230000Z".toList :=
      (List.cons.inj (houtput.symm.trans hlines)).1
    have hagain := again [start] _ rfl
    rw [hsame] at hagain
    exact ⟨find, _, rfl, returned, hstatus, hroot, hlines, hagain⟩
  · cases hstatus

end Recurrence.Command
