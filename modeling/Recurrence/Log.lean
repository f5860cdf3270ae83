import Recurrence.Environment
import Recurrence.Error

/-!
# Log levels

Messages are logged under names, and each name has a level: the root of all names, the names of this
library, and the names of the libraries it rests on.  A level that is not set is taken from the root.

Three operations change the levels.

* `startConsole` sees to it that the root has a handler and sets the level of the root alone.
* `configure` sees to the handler, too, and sets all levels: the libraries to warnings, the root and
  this library as the options and the environment say.
* `resetToDebug` sets all levels to debugging.

The two first read level names differently, and so they do the variable that asks for debugging.
-/

namespace Recurrence

/-- How grave a message must be to be logged. -/
inductive LogLevel
  /-- No level: whatever the root logs. -/
  | notSet
  /-- Everything. -/
  | debug
  /-- What happens. -/
  | info
  /-- What may be wrong. -/
  | warning
  /-- What is wrong. -/
  | error
  /-- What stops everything. -/
  | critical
deriving DecidableEq, Repr

namespace LogLevel

/-- The gravity of a level. -/
def gravity : LogLevel → Nat
  | .notSet => 0
  | .debug => 10
  | .info => 20
  | .warning => 30
  | .error => 40
  | .critical => 50

/-- The name of a level. -/
def name : LogLevel → String
  | .notSet => "NOTSET"
  | .debug => "DEBUG"
  | .info => "INFO"
  | .warning => "WARNING"
  | .error => "ERROR"
  | .critical => "CRITICAL"

/-- The levels that can be configured. -/
def configurable : List LogLevel := [.debug, .info, .warning, .error]

/-- The configurable level with a given name, in any case. -/
def ofConfigured? (s : Text) : Option LogLevel :=
  configurable.find? fun level => level.name.toList == s.upper

end LogLevel

/-- What a level name given to `startConsole` turns out to be. -/
inductive ConsoleLevel
  /-- A level. -/
  | level (l : LogLevel)
  /-- The name of something that is no level: a text. -/
  | layout (s : Text)
  /-- The name of something that is neither a level nor a text. -/
  | other (description : Text)
deriving DecidableEq, Repr

namespace ConsoleLevel

/-- The layout of plain log records. -/
def basicLayout : Text := "%(levelname)s:%(name)s:%(message)s".toList

/-- The description of the table in which the styles of layouts are found. -/
def styles : Text :=
  ("\x7b'%': (<class 'logging.PercentStyle'>, '%(levelname)s:%(name)s:%(message)s'), ".toList
    ++ "'\x7b': (<class 'logging.StrFormatStyle'>, ".toList
    ++ "'\x7blevelname\x7d:\x7bname\x7d:\x7bmessage\x7d'), ".toList
    ++ "'$': (<class 'logging.StringTemplateStyle'>, ".toList
    ++ "'$\x7blevelname\x7d:$\x7bname\x7d:$\x7bmessage\x7d')\x7d".toList)

/-- All names that `startConsole` knows. -/
def named : List (String × ConsoleLevel) :=
  [("CRITICAL", .level .critical), ("FATAL", .level .critical), ("ERROR", .level .error),
    ("WARNING", .level .warning), ("WARN", .level .warning), ("INFO", .level .info),
    ("DEBUG", .level .debug), ("NOTSET", .level .notSet), ("BASIC_FORMAT", .layout basicLayout),
    ("_STYLES", .other styles)]

/-- What a name stands for, in any case; an unknown name stands for the level of information. -/
def ofName (s : Text) : ConsoleLevel :=
  (named.lookup (String.ofList s.upper)).getD (.level .info)

end ConsoleLevel

/-- The options of `configure`. -/
structure LogOptions where
  /-- Log everything, unless `forceDebug` says otherwise. -/
  debugMode : Bool := false
  /-- Log everything, or do not, whatever else is asked for. -/
  forceDebug : Option Bool := none
  /-- The name of the level. -/
  levelName : Option Text := none

/-- The options that some data make.  Any datum can be true or false; a level name is a text, unless
it is not given.  Octets name no level. -/
def LogOptions.ofFields (debugMode forceDebug levelName : Value) : Except Error LogOptions :=
  let forceDebug := match forceDebug with
    | .null => none
    | v => some v.isGiven
  match levelName with
  | .text s => .ok ⟨debugMode.isGiven, forceDebug, some s⟩
  | .bytes _ => .ok ⟨debugMode.isGiven, forceDebug, none⟩
  | v => if v.isGiven then .error .noSuchOperation else .ok ⟨debugMode.isGiven, forceDebug, none⟩

/-- How a handler writes records. -/
inductive LogLayout
  /-- In one color. -/
  | plain
  /-- Each level in a color of its own. -/
  | colored
deriving DecidableEq, Repr

/-- A handler: it writes the records that are grave enough. -/
structure LogHandler where
  /-- How records are written. -/
  layout : LogLayout
  /-- The level from which on records are written. -/
  level : LogLevel
deriving DecidableEq, Repr

/-- The levels and handlers in force. -/
structure LogState where
  /-- The level of the root. -/
  root : LogLevel
  /-- The level of all names of this library. -/
  package : LogLevel
  /-- The level of the libraries that this one rests on. -/
  libraries : LogLevel
  /-- The handlers of the root. -/
  handlers : List LogHandler
deriving DecidableEq, Repr

namespace LogState

/-- The levels at the start. -/
def fresh : LogState := ⟨.warning, .notSet, .notSet, []⟩

/-- The handlers of the root, of which there is at least one: if there was none, the given one. -/
def handlersWith (s : LogState) (handler : LogHandler) : List LogHandler :=
  if s.handlers.isEmpty then [handler] else s.handlers

/-- The level that holds for this library. -/
def effective (s : LogState) : LogLevel :=
  if s.package = .notSet then s.root else s.package

/-- Warnings of this library are logged. -/
def showsWarnings (s : LogState) : Bool :=
  s.effective.gravity ≤ LogLevel.warning.gravity

/-! ## Starting the console -/

/-- The words that ask `startConsole` for debugging. -/
def consoleDebugWords : List String := ["1", "true", "yes", "on"]

/-- The environment asks `startConsole` for debugging. -/
def consoleDebug (env : Environment) : Bool :=
  env.debug.any fun s => consoleDebugWords.contains (String.ofList (Text.lower (Text.strip s)))

/-- What the root's level is to be. -/
def consoleLevel (levelName : Option Text) (env : Environment) : ConsoleLevel :=
  if consoleDebug env then .level .debug
  else (levelName.map ConsoleLevel.ofName).getD (.level .info)

/-- Give the root a handler and a level.  A name that stands for something else than a level is an
error, but leaves the handler. -/
def startConsole (levelName : Option Text) (env : Environment) (s : LogState) :
    Except Error Unit × LogState :=
  let s := { s with handlers := s.handlersWith ⟨.colored, .notSet⟩ }
  match consoleLevel levelName env with
  | .level l => (.ok (), { s with root := l })
  | .layout text => (.error (.unknownLevel text), s)
  | .other description => (.error (.notALevel description), s)

/-! ## Configuring -/

/-- The words that ask `configure` for debugging. -/
def debugWords : List String := ["1", "true", "yes"]

/-- The environment asks `configure` for debugging. -/
def environmentDebug (env : Environment) : Bool :=
  env.debug.any fun s => debugWords.contains (String.ofList (Text.lower s))

/-- Everything is to be logged. -/
def wantsDebug (o : LogOptions) (env : Environment) : Bool :=
  match o.forceDebug with
  | some debug => debug
  | none => environmentDebug env || o.debugMode

/-- The level that the options ask for. -/
def optionLevel (o : LogOptions) (env : Environment) : LogLevel :=
  if wantsDebug o env then .debug
  else (o.levelName.bind LogLevel.ofConfigured?).getD .info

/-- The level of the root: the environment's, if it names one, else that of the options. -/
def rootLevel (o : LogOptions) (env : Environment) : LogLevel :=
  (env.logLevel.bind LogLevel.ofConfigured?).getD (optionLevel o env)

/-- Give the root a handler and set all levels. -/
def configure (o : LogOptions) (env : Environment) (s : LogState) : LogState where
  root := rootLevel o env
  package := if wantsDebug o env then .debug else rootLevel o env
  libraries := .warning
  handlers := s.handlersWith ⟨.plain, rootLevel o env⟩

/-! ## Resetting -/

/-- Set all levels to debugging. -/
def resetToDebug (s : LogState) : LogState :=
  ⟨.debug, .debug, .debug, s.handlers⟩

/-! ## Status -/

/-- The names that the status lists, with their levels. -/
def status (s : LogState) : List (String × String) :=
  [("root", s.root.name), ("rrule_lite", s.package.name), ("dateutil", s.libraries.name),
    ("pydantic", s.libraries.name)]

end LogState

/-! ## Calls -/

/-- A call of one of the three operations, with data of any type and the environment it meets. -/
inductive LogCall
  /-- A call of `configure`. -/
  | configure (debugMode forceDebug levelName : Value) (env : Environment)
  /-- A call of `startConsole`. -/
  | startConsole (levelName : Value) (env : Environment)
  /-- A call of `resetToDebug`. -/
  | resetToDebug

/-- The name of a level that a console is asked for; only a text is one. -/
def consoleName? : Value → Option Text
  | .text name => some name
  | _ => none

/-- What a call answers, and the state it leaves.  Options that cannot be made leave it as it was. -/
def LogCall.perform (call : LogCall) (s : LogState) : Except Error Unit × LogState :=
  match call with
  | .configure debugMode forceDebug levelName env =>
    match LogOptions.ofFields debugMode forceDebug levelName with
    | .ok o => (.ok (), s.configure o env)
    | .error e => (.error e, s)
  | .startConsole levelName env => s.startConsole (consoleName? levelName) env
  | .resetToDebug => (.ok (), s.resetToDebug)

end Recurrence
