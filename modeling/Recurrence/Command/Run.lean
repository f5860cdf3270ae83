import Recurrence.Command.Options
import Recurrence.Config.File
import Recurrence.Log
import Recurrence.Series

/-!
# Running a command

A command expands the rules of one event: it prints the canonical rule, its phrase, and the dates in
the range, one a line.  An error that the rules or dates of the arguments cause is reported, and
nothing is printed; so is a usage error.  Any other error stops the command.

Warnings of the configuration are given before the log levels are set, the others after it, so these
are lost if the levels suppress them.
-/

namespace Recurrence.Command

/-! ## The work -/

/-- What a run prints. -/
structure Listing where
  /-- The canonical rule. -/
  rule : Text
  /-- The rule in words. -/
  phrase : Text
  /-- The dates. -/
  dates : List Date

/-- The lines of a listing. -/
def Listing.lines (l : Listing) : List Text :=
  l.rule :: l.phrase :: l.dates.map Date.toText

/-- A value that counts as given; one that is empty does not. -/
def given? (value : Option Text) : Option Text :=
  value.filter fun s => !s.isEmpty

/-- A date-time among the arguments. -/
def readTime (today : Date) (s : Text) : Except Error DateTime :=
  (Timestamp.parse today (.text s)).mapError .rule

/-- The first date of the range: the one given, else the start. -/
def firstDate (o : Options) (today : Date) (start : DateTime) : Except Error Date :=
  match given? o.rangeStart with
  | some s => (readTime today s).map DateTime.date
  | none => .ok start.date

/-- The last date of the range: the one given, else the end of the window. -/
def lastDate (o : Options) (config : Config) (today first : Date) : Except Error Date :=
  match given? o.rangeEnd with
  | some s => (readTime today s).map DateTime.date
  | none =>
    match first.addDays? config.windowDays with
    | some last => .ok last
    | none => .error .outsideCalendar

/-- The name of the zone: the one given, else the configured one. -/
def zoneName (o : Options) (config : Config) : Text :=
  (given? o.zone).getD config.defaultZone

/-- The listing that the options ask for.  They have a start. -/
def listing (o : Options) (config : Config) (today : Date) : Outcome Listing := do
  let start ← readTime today (o.start.getD [])
  let first ← firstDate o today start
  let last ← lastDate o config today first
  let event ← Event.ofFields (some (.dateTime start)) (some (.list (o.rules.map .text)))
    (some (.list (o.exdates.map .text)))
  let series ← event.data.series today
  let phrase ← series.phraseIn today (zoneName o config)
  let dates ← series.dates ⟨first, last⟩
  pure ⟨series.serialize, phrase, dates⟩

/-! ## The command -/

/-- What a command leaves behind. -/
structure Report where
  /-- The exit status. -/
  status : Nat
  /-- The texts printed, each followed by a line break. -/
  output : List Text
  /-- The texts reported as errors. -/
  errors : List Text
  /-- The levels of the log at the end. -/
  log : LogState

/-- The exit status of a failure. -/
def failure : Nat := 2

/-- The path of the configuration file, if the arguments ask for a run. -/
def configPath? (arguments : List Text) : Option Path :=
  match request arguments with
  | .ok (.run o) => some (Config.pathOf o.config)
  | _ => none

/-- The name of the level that the console is started with. -/
def consoleName (o : Options) (config : Config) : Text :=
  if o.debug then "DEBUG".toList else config.logLevel

/-- The log levels set as the options and the configuration say. -/
def setLevels (o : Options) (config : Config) (env : Environment) : Except Error LogState :=
  match LogState.startConsole (some (consoleName o config)) env .fresh with
  | (.ok (), s) => .ok (s.configure ⟨o.debug, none, some config.logLevel⟩ env)
  | (.error e, _) => .error e

/-- The outcome with its warnings dropped unless they are shown. -/
def shown {α : Type} (s : LogState) (x : Outcome α) : Outcome α :=
  if s.showsWarnings then x else { x with warnings := [] }

/-- The report of a listing, or of the rule error that there is instead. -/
def reportOf (s : LogState) (x : Outcome Listing) : Outcome Report :=
  match x.result with
  | .ok listing => ⟨.ok ⟨0, listing.lines, [], s⟩, x.warnings⟩
  | .error (.rule error) =>
    ⟨.ok ⟨failure, [], ["error: ".toList ++ error.message], s⟩, x.warnings⟩
  | .error e => ⟨.error e, x.warnings⟩

/-- A run. -/
def execute (o : Options) (find : Path → FileEntry) (env : Environment) (today : Date) :
    Outcome Report := do
  let path := Config.pathOf o.config
  let config ← Config.load path (find path) env
  let levels ← setLevels o config env
  shown levels (reportOf levels (listing o config today))

/-- A command with some arguments, where files are found and the environment and the day are as
given. -/
def run (arguments : List Text) (find : Path → FileEntry) (env : Environment) (today : Date) :
    Outcome Report :=
  match request arguments with
  | .error usage =>
    pure ⟨failure, [], ["rrule_lite: error: ".toList ++ usage.message], .fresh⟩
  | .ok .help => pure ⟨0, ["usage".toList], [], .fresh⟩
  | .ok (.run o) => execute o find env today

end Recurrence.Command
