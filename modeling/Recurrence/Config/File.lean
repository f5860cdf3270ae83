import Recurrence.Config.Basic
import Recurrence.Config.Path
import Recurrence.Document.Json
import Recurrence.Document.Yaml.Data

/-!
# Configuration files

A configuration is read from a file: from the one that is named, or else from `rrule_lite.yaml` in the
working directory.  A file whose name ends in `.json` is JSON, any other is YAML.  There need not be
such a file; if there is, it must hold a mapping.  An empty YAML document holds one without entries.
-/

namespace Recurrence.Config

/-- The file that is read if none is named. -/
def standardPath : Path := .ofText "rrule_lite.yaml".toList

/-- The file that is read; an empty name names none. -/
def pathOf (name : Option Text) : Path :=
  match name with
  | none | some [] => standardPath
  | some name => .ofText name

/-- The text with every line break written as a line feed. -/
def unifyBreaks : Text → Text
  | [] => []
  | '\r' :: rest =>
    match rest with
    | '\n' :: _ => unifyBreaks rest
    | _ => '\n' :: unifyBreaks rest
  | c :: rest => c :: unifyBreaks rest

/-- What a file holds. -/
def parse (path : Path) (s : Text) : Except Error Value :=
  let s := unifyBreaks s
  if Text.lower path.extension = ".json".toList then Json.read s
  else
    (Yaml.read s).map fun
      | .null => .map []
      | v => v

/-- The entries of a configuration file. -/
def entries (path : Path) (found : FileEntry) : Outcome ConfigEntries :=
  match found with
  | .missing => pure []
  | .directory => Outcome.fail .isDirectory
  | .tooLong => Outcome.fail .nameTooLong
  | .file s => do
    match ← parse path s with
    | .map entries => pure entries
    | v =>
      Outcome.warn (.configNotMapping path.toText v)
      Outcome.fail .configNotMapping

/-- The configuration that a file and the environment make. -/
def load (path : Path) (found : FileEntry) (env : Environment) : Outcome Config := do
  let entries ← entries path found
  ofEntries (override env entries)

end Recurrence.Config
