import Recurrence.Text.Basic
import Recurrence.Text.Digit

/-!
# Reading integers

An integer is written as an optional sign and decimal digits of any scripts, with single underscores
allowed between digits and blanks allowed around the whole.  A numeral of more than 4300 digits is
refused as such: converting it would take too long.
-/

namespace Recurrence.Text

/-- Why a text was not read as an integer. -/
inductive IntegerFault
  /-- The text is no integer numeral. -/
  | notNumeral
  /-- The numeral has more digits than are converted. -/
  | tooManyDigits (count : Nat)
deriving DecidableEq, Repr

/-- The most digits that are converted. -/
def digitLimit : Nat := 4300

/-- The digits of a numeral from its first character on, the underscores between them left out, with
what follows the last one; `none` if no digit comes first or an underscore is not between digits. -/
def takeNumeral : Text → Option (List Nat × Text)
  | [] => none
  | [c] => (digitValue? c).map fun d => ([d], [])
  | c :: next :: rest =>
    match digitValue? c with
    | none => none
    | some d =>
      if next = '_' then (takeNumeral rest).map fun (ds, after) => (d :: ds, after)
      else if isDecimal next then
        (takeNumeral (next :: rest)).map fun (ds, after) => (d :: ds, after)
      else some ([d], next :: rest)

/-- The number whose decimal digits these are, most significant first. -/
def ofDigits (ds : List Nat) : Nat :=
  ds.foldl (fun n d => 10 * n + d) 0

/-- A sign in front of a numeral, and the rest. -/
def takeSign : Text → Bool × Text
  | '-' :: rest => (true, rest)
  | '+' :: rest => (false, rest)
  | s => (false, s)

/-- The blanks allowed around a numeral: six of the ASCII characters, and all others. -/
def isNumeralBlank (c : Char) : Bool :=
  c = ' ' || ('\t' ≤ c && c ≤ '\r') || (!isAscii c && isBlank c)

/-- The integer that a text spells. -/
def readInteger (s : Text) : Except IntegerFault Int :=
  let (negative, body) := takeSign (s.dropWhile isNumeralBlank)
  match takeNumeral body with
  | none => .error .notNumeral
  | some (ds, after) =>
    if digitLimit < ds.length then .error (.tooManyDigits ds.length)
    else if after.all isNumeralBlank then
      .ok (if negative then -(ofDigits ds : Int) else ofDigits ds)
    else .error .notNumeral

/-- The digits of a text that has nothing else, as a number. -/
def readDigits? (s : Text) : Option Nat :=
  if s.isEmpty then none else (s.mapM digitValue?).map ofDigits

end Recurrence.Text
