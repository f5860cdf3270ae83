import Recurrence.Text.Basic

/-!
# The environment

Four variables of the environment matter.  One that is set to the empty text counts as not set.
-/

namespace Recurrence

/-- The variables of the environment that matter. -/
structure Environment where
  /-- `RRULE_LITE_TIMEZONE`: the zone that takes the place of the configured one. -/
  zone : Option Text := none
  /-- `RRULE_LITE_WINDOW_DAYS`: the window that takes the place of the configured one. -/
  windowDays : Option Text := none
  /-- `RRULE_LITE_LOG_LEVEL`: the log level that takes the place of the configured one. -/
  logLevel : Option Text := none
  /-- `RRULE_LITE_DEBUG`: whether everything is to be logged. -/
  debug : Option Text := none
deriving DecidableEq

namespace Environment

/-- The value of a variable, if it is set to anything. -/
def value? (settings : List (Text × Text)) (name : String) : Option Text :=
  (settings.lookup name.toList).filter fun s => !s.isEmpty

/-- The environment in which some variables are set. -/
def ofVariables (settings : List (Text × Text)) : Environment where
  zone := value? settings "RRULE_LITE_TIMEZONE"
  windowDays := value? settings "RRULE_LITE_WINDOW_DAYS"
  logLevel := value? settings "RRULE_LITE_LOG_LEVEL"
  debug := value? settings "RRULE_LITE_DEBUG"

end Environment

end Recurrence
