import Mathlib.Init
import Recurrence.Command.Run

/-!
# The program

Reads the arguments, the environment, the configuration file and the clock, runs the command, and
prints what comes of it: the listing to standard output, errors and warnings to standard error.
-/

namespace Recurrence.Command

/-- The variables of the environment that matter. -/
def variableNames : List String :=
  ["RRULE_LITE_TIMEZONE", "RRULE_LITE_WINDOW_DAYS", "RRULE_LITE_LOG_LEVEL", "RRULE_LITE_DEBUG"]

/-- The environment of the process. -/
def readEnvironment : IO Environment := do
  let settings ← variableNames.filterMapM fun name => do
    let value ← IO.getEnv name
    pure (value.map fun s => (name.toList, s.toList))
  pure (Environment.ofVariables settings)

/-- What an error in reading a file tells about the path; `none` if it tells nothing. -/
def entryOfError? : IO.Error → Option FileEntry
  | .noFileOrDirectory .. => some .missing
  -- The codes are those of a directory, and of a file in the place of one.
  | .inappropriateType _ code _ => some (if code = 21 then .directory else .missing)
  | _ => none

/-- What is found at a path. -/
def findFile (p : Path) : IO FileEntry := do
  try
    let s ← IO.FS.readFile (String.ofList p.toText)
    pure (.file s.toList)
  catch e =>
    match entryOfError? e with
    | some entry => pure entry
    | none => throw e

/-- The present day by the local clock. -/
def readToday : IO Date := do
  let now ← Std.Time.PlainDate.now
  match Date.ofCivil? now.year.toInt.toNat now.month.val.toNat now.day.val.toNat with
  | some today => pure today
  | none => throw (IO.userError "the clock shows no date of the calendar")

/-- The command with some arguments, run and printed; what it answers is the exit status. -/
def perform (arguments : List Text) : IO UInt32 := do
  let today ← readToday
  let env ← readEnvironment
  let found ←
    match configPath? arguments with
    | some path => findFile path
    | none => pure .missing
  let outcome := run arguments (fun _ => found) env today
  for warning in outcome.warnings do
    IO.eprintln (String.ofList ("warning: ".toList ++ warning.message))
  match outcome.result with
  | .ok report =>
    for s in report.output do
      IO.println (String.ofList s)
    for s in report.errors do
      IO.eprintln (String.ofList s)
    pure (UInt32.ofNat report.status)
  | .error e =>
    IO.eprintln (String.ofList ("error: ".toList ++ e.message))
    pure 1

end Recurrence.Command

/-- Run the command with the arguments of the process. -/
def main (args : List String) : IO UInt32 :=
  Recurrence.Command.perform (args.map String.toList)
