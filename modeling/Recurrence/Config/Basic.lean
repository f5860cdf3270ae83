import Recurrence.Environment
import Recurrence.Outcome
import Recurrence.Text.Integer
import Recurrence.Zone.Find

/-!
# Configuration

A configuration has three settings, read from entries whose values may be anything.  A value that
does not fit is replaced, with a warning: a window that is no integer by the default, one outside 1 to
3660 days by the nearer end, an unknown zone by the default.  What cannot be replaced is an error: an
infinite window, a zone whose name fails as a file name does, and a zone or level whose text cannot be
written, as there is an integer with too many digits in it.

Variables of the environment take the place of entries.
-/

namespace Recurrence

/-- The settings. -/
structure Config where
  /-- The zone in which ends are phrased. -/
  defaultZone : Text
  /-- The length of the window of dates that are listed. -/
  windowDays : Int
  /-- The name of the log level. -/
  logLevel : Text
deriving DecidableEq

/-- The entries of a configuration. -/
abbrev ConfigEntries := List (Value × Value)

namespace Config

/-- The zone if none is configured. -/
def standardZone : Text := "UTC".toList

/-- The window if none is configured. -/
def standardWindow : Int := 30

/-- The log level if none is configured. -/
def standardLevel : Text := "INFO".toList

/-- The longest window. -/
def longestWindow : Int := 3660

/-! ## Entries -/

/-- The key is this text. -/
def isKey (name : String) : Value → Bool
  | .text s => s == name.toList
  | _ => false

/-- The value of an entry. -/
def lookup? (name : String) (entries : ConfigEntries) : Option Value :=
  (entries.find? fun (key, _) => isKey name key).map Prod.snd

/-- The entries with one value replaced or added. -/
def setEntry (name : String) (v : Value) : ConfigEntries → ConfigEntries
  | [] => [(.text name.toList, v)]
  | (key, old) :: rest =>
    if isKey name key then (key, v) :: rest else (key, old) :: setEntry name v rest

/-- The entries with the value of a variable, if it is set. -/
def overrideEntry (name : String) (setting : Option Text) (entries : ConfigEntries) :
    ConfigEntries :=
  match setting with
  | some s => setEntry name (.text s) entries
  | none => entries

/-- The entries with the variables of the environment in their place. -/
def override (env : Environment) (entries : ConfigEntries) : ConfigEntries :=
  overrideEntry "log_level" env.logLevel
    (overrideEntry "window_days" env.windowDays
      (overrideEntry "default_timezone" env.zone entries))

/-! ## The window -/

/-- The octets as characters; `none` if one is no ASCII character. -/
def asciiText? (octets : List Nat) : Option Text :=
  octets.mapM fun n => if n < 0x80 then some (Char.ofNat n) else none

/-- The integer that a value stands for; `none` if it stands for no number.  A fraction is cut off. -/
def integerOf (v : Value) : Except Error (Option Int) :=
  match v with
  | .int n => .ok (some n)
  | .bool b => .ok (some (if b then 1 else 0))
  | .float (.infinite _) => .error .infiniteInteger
  | .float x => .ok x.truncate?
  | .text s => .ok (Text.readInteger s).toOption
  | .bytes octets => .ok ((asciiText? octets).bind fun s => (Text.readInteger s).toOption)
  | _ => .ok none

/-- A window brought into bounds. -/
def bounded (days : Int) : Outcome Int :=
  if days < 1 then do
    Outcome.warn (.windowTooShort days)
    pure 1
  else if longestWindow < days then do
    Outcome.warn (.windowTooLong days)
    pure longestWindow
  else pure days

/-- The window that an entry asks for. -/
def window (v : Option Value) : Outcome Int :=
  match v with
  | none => bounded standardWindow
  | some v => do
    match ← integerOf v with
    | some days => bounded days
    | none =>
      Outcome.warn (.windowNotInteger v standardWindow)
      bounded standardWindow

/-! ## The zone -/

/-- The name of the zone that an entry asks for; one that is not given is the standard one. -/
def zoneName (v : Option Value) : Except Error Text :=
  match v with
  | some v => if v.isGiven then v.written else .ok standardZone
  | none => .ok standardZone

/-- The name, if there is a zone of that name, and else the standard one. -/
def knownZone (name : Text) : Outcome Text :=
  match Zone.find name with
  | .ok _ => pure name
  | .error .unknown => do
    Outcome.warn (.defaultZoneUnknown name standardZone)
    pure standardZone
  | .error .area => Outcome.fail .isDirectory
  | .error .tooLong => Outcome.fail .nameTooLong

/-- The zone that an entry asks for. -/
def zone (v : Option Value) : Outcome Text := do
  let name ← zoneName v
  knownZone name

/-! ## The log level -/

/-- The log level that an entry asks for, in upper case. -/
def level (v : Option Value) : Except Error Text :=
  match v with
  | none | some .null => .ok standardLevel
  | some v => v.written.map Text.upper

/-! ## The whole -/

/-- The configuration that some entries make. -/
def ofEntries (entries : ConfigEntries) : Outcome Config := do
  let windowDays ← window (lookup? "window_days" entries)
  let defaultZone ← zone (lookup? "default_timezone" entries)
  let logLevel ← level (lookup? "log_level" entries)
  pure ⟨defaultZone, windowDays, logLevel⟩

end Config

end Recurrence
