import Recurrence.Rule.Frequency
import Recurrence.Timestamp.Read
import Recurrence.Zone.Localize

/-!
# Rules in words

A rule table is described by an English phrase of up to three clauses: how often, on which weekdays,
and until when.  The first is said only if the table has both a frequency and an interval; the last
gives the date that the end has in a zone.  With no clause the phrase is "Never".
-/

namespace Recurrence

namespace Phrase

/-! ## Words -/

/-- One thing by its bare word, any other number of things by the number and the word with an
`s`. -/
def pluralize (count : Int) (word : Text) : Text :=
  if count = 1 then word else Text.ofInt count ++ [' '] ++ word ++ ['s']

/-- The two letters behind an ordinal number. -/
def ordinalLetters (n : Int) : Text :=
  if 11 ≤ n % 100 && n % 100 ≤ 13 then ['t', 'h']
  else if n % 10 = 1 then ['s', 't']
  else if n % 10 = 2 then ['n', 'd']
  else if n % 10 = 3 then ['r', 'd']
  else ['t', 'h']

/-- An ordinal number: the numeral and two letters. -/
def ordinal (n : Int) : Text :=
  Text.ofInt n ++ ordinalLetters n

/-- Names in a row: up to two are joined by "and"; of more, each but the last is followed by a comma,
and the last stands behind "and". -/
def joinNames (names : List Text) : Text :=
  if names.length ≤ 2 then Text.joinWith " and ".toList names
  else
    Text.joinWith [',', ' '] names.dropLast ++ ", and ".toList ++ names.getLastD []

/-- A weekday, perhaps with its ordinal in the month. -/
def dayName : ByDay → Text
  | .every w => w.name
  | .nth n w =>
    if n = -1 then "the last ".toList ++ w.name
    else if n < 0 then "the ".toList ++ ordinal (-n) ++ " to last ".toList ++ w.name
    else "the ".toList ++ ordinal n ++ [' '] ++ w.name

/-! ## Clauses -/

/-- How often, if the table has a frequency and an interval. -/
def intervalClause (t : RuleTable) : Outcome (Option Text) :=
  match t.scalar? .freq with
  | none => pure none
  | some word =>
    if !t.has .interval then pure none
    else do
      let frequency ← Frequency.parse word
      let interval ← t.interval
      pure (some (pluralize interval.count frequency.unit.word.toList))

/-- On which weekdays, if the table has any. -/
def weekdaysClause (t : RuleTable) : Except Error (Option Text) :=
  match t.valuesOf .byDay with
  | [] => .ok none
  | tokens => do
    let days ← tokens.mapM ByDay.parse
    .ok (some ("on ".toList ++ joinNames (days.map dayName)))

/-- Until which date by the clock of the zone, if the table has an end. -/
def endClause (t : RuleTable) (today : Date) (zone : Zone) : Except Error (Option Text) :=
  match t.scalar? .until with
  | none => .ok none
  | some value => do
    let last ← (Timestamp.parse today (.text value)).mapError Error.rule
    let last ← zone.localize last
    .ok (some ("until ".toList ++ last.date.inWords))

end Phrase

/-- The table in words, when it is read on a certain day. -/
def RuleTable.phrase (t : RuleTable) (today : Date) (zone : Zone) : Outcome Text := do
  let interval ← Phrase.intervalClause t
  let weekdays ← Phrase.weekdaysClause t
  let last ← Phrase.endClause t today zone
  match [interval, weekdays, last].filterMap id with
  | [] => pure "Never".toList
  | clauses => pure (Text.joinWith [' '] ("Every".toList :: clauses))

/-- The table in words, with a zone given by its name. -/
def RuleTable.phraseIn (t : RuleTable) (today : Date) (zone : Text) : Outcome Text := do
  let zone ← Zone.resolve zone
  t.phrase today zone

end Recurrence
