import Recurrence.Command.Run
import Recurrence.Config.File
import Recurrence.Document.Json
import Recurrence.Document.Yaml.Data
import Recurrence.Expression.Dates
import Recurrence.Log
import Recurrence.Main
import Recurrence.Occurrences
import Recurrence.Phrase
import Recurrence.Rule.Expression
import Recurrence.Series
import Recurrence.Timestamp.Read
import Recurrence.Zone.Localize
import Recurrence.Proofs.Calendar.Civil
import Recurrence.Proofs.Calendar.Run
import Recurrence.Proofs.Calendar.Weekday
import Recurrence.Proofs.Expression.Meaning
import Recurrence.Proofs.Outcome
import Recurrence.Proofs.Rule.Meaning
import Recurrence.Proofs.Expression.Selection
import Recurrence.Proofs.Expression.ShortCircuit
import Recurrence.Proofs.Occurrences
import Recurrence.Proofs.Series.Reading
import Recurrence.Proofs.Series.Dates
import Recurrence.Proofs.Rule.Keys
import Recurrence.Proofs.Series.Whole
import Recurrence.Proofs.Series.Count
import Recurrence.Proofs.Calendar.Step
import Recurrence.Proofs.Rule.Steps
import Recurrence.Proofs.Series.Steps
import Recurrence.Proofs.Rule.Canonical
import Recurrence.Proofs.Series.Tracking
import Recurrence.Proofs.Rule.Dependence
import Recurrence.Proofs.Rule.Failure
import Recurrence.Proofs.Series.End
import Recurrence.Proofs.Series.Failure
import Recurrence.Proofs.Zone
import Recurrence.Proofs.Phrase
import Recurrence.Proofs.Series.Answers
import Recurrence.Proofs.Calendar.Distance
import Recurrence.Proofs.Rule.Grammar
import Recurrence.Proofs.Series.Exceptions
import Recurrence.Proofs.Command.Listing
import Recurrence.Proofs.Rule.Token
import Recurrence.Proofs.Rule.WellFormed
import Recurrence.Proofs.Rule.Items
import Recurrence.Proofs.Phrase.Content
import Recurrence.Proofs.Phrase.Words
import Recurrence.Proofs.Phrase.Failure
import Recurrence.Proofs.Config.Settings
import Recurrence.Proofs.Config.Override
import Recurrence.Proofs.Command.Levels
import Recurrence.Proofs.Log.History
