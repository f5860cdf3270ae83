import Recurrence.Text.Basic

/-!
# The words of a timestamp

The English words that a timestamp may use: names of months and weekdays, words for the parts of a
time, the halves of the day, and filler that is skipped.  Words are compared without regard to case.
-/

namespace Recurrence.Timestamp

/-- The number of the list that holds a word, counted from zero. -/
def wordIndex? (lists : List (List String)) (token : Text) : Option Nat :=
  lists.findIdx? fun words => words.any fun w => w.toList == Text.lower token

/-- The names of the weekdays. -/
def weekdayWords : List (List String) :=
  [["mon", "monday"], ["tue", "tuesday"], ["wed", "wednesday"], ["thu", "thursday"],
    ["fri", "friday"], ["sat", "saturday"], ["sun", "sunday"]]

/-- The names of the months. -/
def monthWords : List (List String) :=
  [["jan", "january"], ["feb", "february"], ["mar", "march"], ["apr", "april"], ["may"],
    ["jun", "june"], ["jul", "july"], ["aug", "august"], ["sep", "sept", "september"],
    ["oct", "october"], ["nov", "november"], ["dec", "december"]]

/-- Words for hours, minutes and seconds. -/
def partWords : List (List String) :=
  [["h", "hour", "hours"], ["m", "minute", "minutes"], ["s", "second", "seconds"]]

/-- Words for the two halves of the day. -/
def halfWords : List (List String) :=
  [["am", "a"], ["pm", "p"]]

/-- Words and marks that are skipped. -/
def fillerWords : List (List String) :=
  [[" ", ".", ",", ";", "-", "/", "'", "at", "on", "and", "ad", "m", "t", "of", "st", "nd", "rd",
    "th"]]

/-- The weekday that the token names, 0 for Monday to 6 for Sunday. -/
def weekday? (token : Text) : Option Nat :=
  wordIndex? weekdayWords token

/-- The month that the token names, 1 to 12. -/
def month? (token : Text) : Option Nat :=
  (wordIndex? monthWords token).map (· + 1)

/-- The part of a time that the token names: 0 for hours, 1 for minutes, 2 for seconds. -/
def part? (token : Text) : Option Nat :=
  wordIndex? partWords token

/-- The half of the day that the token names; true for the second half. -/
def half? (token : Text) : Option Bool :=
  (wordIndex? halfWords token).map (· == 1)

/-- The token is skipped. -/
def isFiller (token : Text) : Bool :=
  (wordIndex? fillerWords token).isSome

/-- The token stands between a month and its year. -/
def isOf (token : Text) : Bool :=
  Text.lower token == ['o', 'f']

/-- The names of universal time. -/
def universalNames : List String := ["UTC", "GMT", "Z", "z"]

/-- The token is a name of universal time. -/
def isUniversal (token : Text) : Bool :=
  universalNames.any fun w => w.toList == token

/-- The token has the form of a zone abbreviation: up to five capitals, or a name of universal
time. -/
def isZoneLike (token : Text) : Bool :=
  token.length ≤ 5 && (token.all Text.isAsciiUpper || isUniversal token)

end Recurrence.Timestamp
