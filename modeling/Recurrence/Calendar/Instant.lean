import Recurrence.Calendar.Iso
import Recurrence.Number.Numeral

/-!
# Numbers as instants

A number stands for an instant of universal time: the seconds since 1970-01-01T00:00:00, or the
milliseconds if it is too large for seconds, beyond twenty thousand million either way.  Only instants
of the years 1600 to 9999 are taken.

A text may spell such a number: an optional sign, ASCII digits, and perhaps a point with a fraction.
Fractions are rounded to microseconds, a half upwards.
-/

namespace Recurrence

/-- The greatest number that is seconds. -/
def secondsLimit : Nat := 20000000000

/-- 1600-01-01T00:00:00, in seconds. -/
def firstInstant : Int := -11676096000

/-- 9999-12-31T23:59:59, in seconds. -/
def lastInstant : Int := 253402300799

/-- The least integer whose numeral is too long to stand for an instant in a text. -/
def instantNumeralBound : Nat := Nat.pow 2 63

/-- A number of seconds or milliseconds as seconds, with the microseconds left over. -/
def wholeSeconds (n : Int) : Int × Nat :=
  if n.natAbs ≤ secondsLimit then (n, 0) else (n.fdiv 1000, 1000 * (n.fmod 1000).toNat)

/-- The instant a number of seconds and microseconds after 1970-01-01T00:00:00. -/
def DateTime.ofSeconds? (seconds : Int) (micro : Nat) : Option DateTime :=
  let seconds := seconds + (micro / 1000000 : Nat)
  if firstInstant ≤ seconds ∧ seconds ≤ lastInstant then
    DateTime.ofClock? (seconds + 86400 * (Date.epoch.dayNumber : Int))
      ⟨micro % 1000000, Nat.mod_lt _ (by decide)⟩ (some .zero)
  else none

/-- The instant that an integer stands for, with some microseconds added. -/
def DateTime.ofNumber? (n : Int) (micro : Nat) : Option DateTime :=
  let (seconds, left) := wholeSeconds n
  DateTime.ofSeconds? seconds (left + micro)

/-! ## Numbers with a fraction -/

namespace Binary64

/-- The part of a second `num / den` in microseconds: a floating-point product, rounded. -/
def microseconds (num den : Nat) : Nat :=
  match ofRatio false (num * 1000000) den with
  | .finite _ mantissa exponent =>
    let (num, den) := ratio mantissa exponent
    (2 * num + den) / (2 * den)
  | _ => 0

end Binary64

/-- The instant that a floating-point number stands for.  The microseconds are those of its fraction
without the sign. -/
def DateTime.ofFloat? (x : Binary64) : Option DateTime := do
  let (num, den) ← x.signedRatio?
  DateTime.ofNumber? (num.fdiv den) (Binary64.microseconds (num.natAbs % den) den)

/-! ## Numerals -/

/-- A number as a text spells it. -/
inductive InstantNumeral
  /-- An integer. -/
  | integer (n : Int)
  /-- A number with a point. -/
  | fraction (x : Binary64)

/-- The number that a text spells. -/
def InstantNumeral.ofText? (s : Text) : Option InstantNumeral := do
  let (negative, body) := Text.takeSign s
  let digits := body.takeWhile Text.isAsciiDigit
  let whole ← Text.readDigits? digits
  if instantNumeralBound ≤ whole then none
  else
    match body.dropWhile Text.isAsciiDigit with
    | [] => some (.integer (if negative then -whole else whole))
    | point :: places =>
      if point = '.' && places.all Text.isAsciiDigit then
        let n ← Text.readDigits? (digits ++ places)
        some (.fraction (.ofDecimal negative n (-(places.length : Int))))
      else none

/-- The instant that a floating-point number spelled in a text stands for. -/
def DateTime.ofFraction? (x : Binary64) : Option DateTime := do
  let (num, den) ← x.signedRatio?
  let (num, den) ←
    if secondsLimit * den < num.natAbs then
      (Binary64.ofRatio (num < 0) num.natAbs (1000 * den)).signedRatio?
    else some (num, den)
  DateTime.ofSeconds? (num.fdiv den) (Binary64.microseconds (num.fmod den).toNat den)

/-- The instant that a numeral stands for. -/
def DateTime.ofNumeral? : InstantNumeral → Option DateTime
  | .integer n => DateTime.ofNumber? n 0
  | .fraction x => DateTime.ofFraction? x

/-- The date that a numeral stands for: an integer of seconds that is a midnight. -/
def Date.ofNumeral? : InstantNumeral → Option Date
  | .integer n =>
    let (seconds, _) := wholeSeconds n
    if seconds % 86400 = 0 then (DateTime.ofSeconds? seconds 0).map DateTime.date else none
  | .fraction _ => none

end Recurrence
