import Recurrence.Error
import Recurrence.Timestamp.Parts
import Recurrence.Timestamp.Token
import Recurrence.Timestamp.Words

/-!
# Reading timestamps

A timestamp is read token by token from the left.  What a token means depends on the tokens around
it, so a rule sees the tokens before the current one (nearest first) and those after it, and answers
with the parts read so far and the number of further tokens that it used up.  A token that no rule
wants must be filler.  Reading takes the day on which it is done, since a timestamp need not say the
whole date.

The forms that are read include `20250623`, `20250623T083000Z`, `2025-06-23 08:30`, `23 June 2025`,
`9:30 pm on Jan 6, 2025`, `2025-01-06 9h30m` and `Mon, 06 Jan 2025 09:00:00 GMT`.  A sign right after
a zone name counts the other way: `GMT+3` is three hours behind.
-/

namespace Recurrence.Timestamp

/-- The tokens used up after the current one, and the parts read so far. -/
abbrev Step := Option (Nat × Parts)

/-! ## Times -/

/-- The hour on a clock of twelve hours, in the half of the day given. -/
def hourInHalf (hour : Nat) (second : Bool) : Nat :=
  if hour < 12 && second then hour + 12
  else if hour = 12 && !second then 0
  else hour

namespace Parts

/-- The minute, and the second if the numeral has a fraction. -/
def withMinutes (p : Parts) (n : Numeral) : Parts :=
  { p with minute := some n.whole, second := if n.hasFraction then some n.sixtieths else none }

/-- The hour, and the minute if the numeral has a fraction. -/
def withHours (p : Parts) (n : Numeral) : Parts :=
  { p with
    hour := some n.whole
    minute := if n.hasFraction then some n.sixtieths else p.minute }

/-- The second and its fraction, cut to six digits. -/
def withSeconds? (p : Parts) (s : Text) : Option Parts :=
  match Text.cutAt '.' s with
  | none => (wholeNumber? s).map fun n => { p with second := some n, microsecond := some 0 }
  | some (whole, fraction) => do
    let second ← wholeNumber? whole
    let micro ← wholeNumber? ((fraction ++ List.replicate (6 - fraction.length) '0').take 6)
    some { p with second := some second, microsecond := some micro }

/-- A numeral with the part of a time that it belongs to. -/
def withPart? (p : Parts) (token : Text) (n : Numeral) (part : Nat) : Option Parts :=
  match part with
  | 0 => some (p.withHours n)
  | 1 => some (p.withMinutes n)
  | 2 => p.withSeconds? token
  | _ => some p

/-- The numbers of the date replaced. -/
def withNumbers (p : Parts) (numbers : DateNumbers) : Parts :=
  { p with numbers := numbers }

end Parts

/-- The part of a time that a number is labelled with, and the tokens used up by the label.  A label
stands behind its number, perhaps after a space; a number without one takes the part after the one
that the label before it named. -/
def partOfNumber? (before after : List Text) : Option (Nat × Nat) :=
  match after.head?.bind part? with
  | some part => some (1, part)
  | none =>
    match if after.head? == some [' '] then after[1]?.bind part? else none with
    | some part => some (2, part)
    | none =>
      match before.head?.bind part? with
      | some part => some (0, part + 1)
      | none =>
        if after.isEmpty && before.head? == some [' '] then
          (before[1]?.bind part?).map fun part => (0, part + 1)
        else none

/-! ## Numbers -/

/-- The token separates the numbers of a date. -/
def isDateSeparator (token : Text) : Bool :=
  token == ['-'] || token == ['/'] || token == ['.']

/-- Hours and perhaps minutes without a colon, after a complete date. -/
def readBareTime (token : Text) (p : Parts) : Step := do
  let hour ← wholeNumber? (token.take 2)
  if token.length = 4 then
    let minute ← wholeNumber? (token.drop 2)
    some (0, { p with hour := some hour, minute := some minute })
  else some (0, { p with hour := some hour })

/-- Six digits: a date with a year of two digits if no number of the date is known yet, and a time
otherwise.  Only a time has a fraction. -/
def readSixDigits (token : Text) (p : Parts) : Step :=
  if p.numbers.values.isEmpty && !token.contains '.' then do
    let numbers ← p.numbers.pushText? (token.take 2)
    let numbers ← numbers.pushText? ((token.drop 2).take 2)
    let numbers ← numbers.pushText? (token.drop 4)
    some (0, p.withNumbers numbers)
  else do
    let hour ← wholeNumber? (token.take 2)
    let minute ← wholeNumber? ((token.drop 2).take 2)
    let p ← { p with hour := some hour, minute := some minute }.withSeconds? (token.drop 4)
    some (0, p)

/-- Eight, twelve or fourteen digits: a date, and perhaps hours and minutes, and perhaps seconds. -/
def readLongDigits (token : Text) (p : Parts) : Step := do
  let year ← wholeNumber? (token.take 4)
  let numbers ← p.numbers.pushYear? year
  let numbers ← numbers.pushText? ((token.drop 4).take 2)
  let numbers ← numbers.pushText? ((token.drop 6).take 2)
  let p := p.withNumbers numbers
  if token.length = 8 then some (0, p)
  else
    let hour ← wholeNumber? ((token.drop 8).take 2)
    let minute ← wholeNumber? ((token.drop 10).take 2)
    let p := { p with hour := some hour, minute := some minute }
    if token.length = 12 then some (0, p)
    else
      let second ← wholeNumber? (token.drop 12)
      some (0, { p with second := some second })

/-- A time with colons. -/
def readClockTime (n : Numeral) (after : List Text) (p : Parts) : Step := do
  let minutes ← (after[1]?).bind Numeral.ofToken?
  let p := { p with hour := some n.whole }.withMinutes minutes
  match after.drop 2 with
  | [':'] :: seconds :: _ =>
    let p ← p.withSeconds? seconds
    some (4, p)
  | _ => some (2, p)

/-- A month by name, or a number of the date. -/
def pushMonthOrText? (numbers : DateNumbers) (token : Text) : Option DateNumbers :=
  match month? token with
  | some m => numbers.pushMonth? m
  | none => numbers.pushText? token

/-- The numbers of a date between separators. -/
def readSeparated (token : Text) (after : List Text) (p : Parts) : Step := do
  let numbers ← p.numbers.pushText? token
  match after with
  | sep :: second :: rest =>
    if isFiller second then some (1, p.withNumbers numbers)
    else
      let numbers ←
        if second.all Text.isDigit then numbers.pushText? second
        else (month? second).bind numbers.pushMonth?
      match rest with
      | sep' :: rest =>
        if sep' == sep then
          let numbers ← rest.head?.bind (pushMonthOrText? numbers)
          some (4, p.withNumbers numbers)
        else some (2, p.withNumbers numbers)
      | [] => some (2, p.withNumbers numbers)
  | _ => some (1, p.withNumbers numbers)

/-- A number that stands alone: an hour if the half of the day follows, otherwise part of the
date. -/
def readLoneNumber (n : Numeral) (after : List Text) (p : Parts) : Step :=
  match after[1]?.bind half? with
  | some half => some (2, { p with hour := some (hourInHalf n.whole half) })
  | none => do
    let numbers ← p.numbers.pushNumeral? n
    some (1, p.withNumbers numbers)

/-- A number in the middle of other tokens: an hour if the half of the day follows at once, otherwise
the day if it can be. -/
def readCloseNumber (n : Numeral) (next : Text) (p : Parts) : Step :=
  match half? next with
  | some half =>
    if n.whole < 24 then some (1, { p with hour := some (hourInHalf n.whole half) })
    else if p.numbers.couldBeDay n then
      (p.numbers.pushNumeral? n).map fun numbers => (0, p.withNumbers numbers)
    else none
  | none =>
    if p.numbers.couldBeDay n then
      (p.numbers.pushNumeral? n).map fun numbers => (0, p.withNumbers numbers)
    else none

/-- The length of the token is one that a time without colons has after a complete date, and no
other reading of it comes first. -/
def isBareTime (token : Text) (after : List Text) (p : Parts) : Bool :=
  p.numbers.values.length == 3 && (token.length == 2 || token.length == 4) && p.hour.isNone
    && (match after.head? with
      | none => true
      | some next => next != [':'] && (part? next).isNone)

/-- A number. -/
def readNumber (before : List Text) (token : Text) (n : Numeral) (after : List Text) (p : Parts) :
    Step :=
  let length := token.length
  if isBareTime token after p then readBareTime token p
  else if length = 6 || (6 < length && token.idxOf '.' = 6) then readSixDigits token p
  else if length = 8 || length = 12 || length = 14 then readLongDigits token p
  else
    match partOfNumber? before after with
    | some (used, part) => (p.withPart? token n part).map fun p => (used, p)
    | none =>
      match after with
      | [] => readLoneNumber n after p
      | next :: rest =>
        if next == [':'] && !rest.isEmpty then readClockTime n after p
        else if isDateSeparator next then readSeparated token after p
        else if isFiller next then readLoneNumber n after p
        else readCloseNumber n next p

/-! ## Months, halves of the day and zones -/

/-- A month by name, with the numbers that belong to it: behind a `-` or `/`, or a year behind
"of". -/
def readMonth (today : Date) (month : Nat) (after : List Text) (p : Parts) : Step := do
  let numbers ← p.numbers.pushMonth? month
  match after with
  | sep :: rest =>
    if sep == ['-'] || sep == ['/'] then
      let numbers ← rest.head?.bind numbers.pushText?
      match rest.drop 1 with
      | sep' :: rest =>
        if sep' == sep then
          let numbers ← rest.head?.bind numbers.pushText?
          some (4, p.withNumbers numbers)
        else some (2, p.withNumbers numbers)
      | [] => some (2, p.withNumbers numbers)
    else
      match sep, rest with
      | [' '], of :: [' '] :: year :: _ =>
        if isOf of then
          if year.all Text.isDigit then
            let n ← wholeNumber? year
            let numbers ← numbers.pushYear? (if n < 100 then fullYear today n else n)
            some (4, p.withNumbers numbers)
          else some (4, p.withNumbers numbers)
        else some (0, p.withNumbers numbers)
      | _, _ => some (0, p.withNumbers numbers)
  | [] => some (0, p.withNumbers numbers)

/-- The half of the day, for an hour that is known and fits a clock of twelve hours. -/
def readHalf (second : Bool) (p : Parts) : Step := do
  let hour ← p.hour
  if hour ≤ 12 then some (0, { p with hour := some (hourInHalf hour second) }) else none

/-- The token can be the abbreviation of a zone here: there is a time, and no zone yet. -/
def canBeZone (p : Parts) (token : Text) : Bool :=
  p.hour.isSome && p.zoneName.isNone && isZoneLike token

/-- The token is a sign. -/
def isSign (token : Text) : Bool :=
  token == ['+'] || token == ['-']

/-- The abbreviation of a zone.  If a sign follows, what it introduces is counted the other way, and
a name of universal time is forgotten. -/
def readZone (token : Text) (after : List Text) (p : Parts) : Step :=
  if after.head?.any isSign then
    some (0, { p with
      zoneName := if isUniversal token then none else some token
      offset := none
      signReversed := true })
  else some (0, { p with zoneName := some token })

/-- The name in parentheses behind an offset, with the tokens it takes up. -/
def parenthesizedZone? (p : Parts) : List Text → Option Text
  | filler :: ['('] :: name :: [')'] :: _ =>
    if isFiller filler && 3 ≤ name.length && canBeZone p name then some name else none
  | _ => none

/-- The hours and minutes of an offset after its sign, and the tokens they take up. -/
def readOffset? (after : List Text) : Option (Nat × Nat × Nat) := do
  let token ← after.head?
  if token.length = 4 then
    let hours ← wholeNumber? (token.take 2)
    let minutes ← wholeNumber? (token.drop 2)
    some (hours, minutes, 1)
  else if after[1]? == some [':'] then
    let hours ← wholeNumber? token
    let minutes ← after[2]?.bind wholeNumber?
    some (hours, minutes, 3)
  else if token.length ≤ 2 then
    let hours ← wholeNumber? token
    some (hours, 0, 1)
  else none

/-- An offset in numbers, perhaps with the name of its zone in parentheses. -/
def readSigned (token : Text) (after : List Text) (p : Parts) : Step := do
  let (hours, minutes, used) ← readOffset? after
  let seconds : Int := 3600 * hours + 60 * minutes
  let negative := (token == ['-']) != p.signReversed
  let q := { p with offset := some (if negative then -seconds else seconds), signReversed := false }
  match parenthesizedZone? p (after.drop used) with
  | some name => some (used + 4, { q with zoneName := some name })
  | none => some (used, q)

/-! ## The whole -/

/-- A word that reads as an infinite or undefined number and is refused for it. -/
def isUnboundedNumber (token : Text) : Bool :=
  [['i', 'n', 'f'], "infinity".toList, ['n', 'a', 'n']].contains (Text.lower token)

/-- The reading of one token. -/
def readToken (today : Date) (before : List Text) (token : Text) (after : List Text) (p : Parts) :
    Step :=
  match Numeral.ofToken? token with
  | some n => readNumber before token n after p
  | none =>
    if isUnboundedNumber token then none
    else
      match weekday? token, month? token with
      | some w, _ => some (0, { p with weekday := some w })
      | none, some m => readMonth today m after p
      | none, none =>
        match half? token with
        | some half => readHalf half p
        | none =>
          if canBeZone p token && p.offset.isNone then readZone token after p
          else if p.hour.isSome && isSign token then readSigned token after p
          else if isFiller token then some (0, p)
          else none

/-- The reading of the tokens behind those in `before`; the first `skip` of them are used up. -/
def readTokens (today : Date) :
    (skip : Nat) → (before after : List Text) → Parts → Option Parts
  | _, _, [], p => some p
  | skip + 1, before, token :: after, p => readTokens today skip (token :: before) after p
  | 0, before, token :: after, p =>
    match readToken today before token after p with
    | none => none
    | some (used, q) => readTokens today used (token :: before) after q

/-- The date-time that a timestamp spells, when it is read on a certain day. -/
def read? (today : Date) (s : Text) : Option DateTime := do
  let parts ← readTokens today 0 [] (tokens (Text.strip s)) .empty
  parts.dateTime? today

/-- The date-time that a datum spells, when it is read on a certain day.  Only a text can spell one,
and blanks alone spell none. -/
def parse (today : Date) (value : Value) : Except RuleError DateTime :=
  match value with
  | .text s =>
    match read? today s with
    | some t => .ok t
    | none => .error (.unreadableTimestamp value)
  | _ => .error (.unreadableTimestamp value)

end Recurrence.Timestamp
