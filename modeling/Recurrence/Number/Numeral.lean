import Recurrence.Number.Binary64
import Recurrence.Text.Digit
import Recurrence.Text.Integer

/-!
# Reading numerals of other bases, and with a fraction

An integer in base 2, 8, 10 or 16 is an optional sign, perhaps the mark of the base, and digits; above
nine, letters of either case are digits.  A number with a fraction has an optional sign, decimal digits
with at most one point, and perhaps an exponent; or it is one of the words for infinity and for no
number.  Blanks may stand around either.
-/

namespace Recurrence

namespace Text

/-- The value of a digit or a letter. -/
def digitOrLetter? (c : Char) : Option Nat :=
  match digitValue? c with
  | some d => some d
  | none =>
    if 'a' ≤ c && c ≤ 'z' then some (c.toNat - 'a'.toNat + 10)
    else if 'A' ≤ c && c ≤ 'Z' then some (c.toNat - 'A'.toNat + 10)
    else none

/-- The letter that marks a base behind a zero. -/
def baseMark? : Nat → Option Char
  | 2 => some 'b'
  | 8 => some 'o'
  | 16 => some 'x'
  | _ => none

/-- The text without the mark of a base in front of it. -/
def dropBaseMark (base : Nat) : Text → Text
  | '0' :: c :: rest => if some c.toLower = baseMark? base then rest else '0' :: c :: rest
  | s => s

/-- The integer that a text spells in a base other than ten. -/
def readInBase? (base : Nat) (s : Text) : Option Int := do
  let (negative, body) := takeSign (strip s)
  let digits ← (dropBaseMark base body).mapM digitOrLetter?
  if digits.isEmpty || digits.any (base ≤ ·) then none
  else
    let n : Int := (digits.foldl (fun n d => base * n + d) 0 : Nat)
    some (if negative then -n else n)

end Text

namespace Binary64

/-- The words for infinity. -/
def infinityWords : List Text := [['i', 'n', 'f'], "infinity".toList]

/-- The exponent that a text is; none if the text is empty. -/
def readExponent? : Text → Option Int
  | [] => some 0
  | c :: rest =>
    if c = 'e' || c = 'E' then
      let (negative, body) := Text.takeSign rest
      (Text.readDigits? body).map fun n => if negative then -(n : Int) else n
    else none

/-- The number that decimal digits, a point and an exponent spell. -/
def readDecimal? (negative : Bool) (s : Text) : Option Binary64 := do
  let whole := s.takeWhile Text.isDecimal
  let rest := s.dropWhile Text.isDecimal
  let (fraction, rest) :=
    match rest with
    | '.' :: rest => (rest.takeWhile Text.isDecimal, rest.dropWhile Text.isDecimal)
    | rest => ([], rest)
  let digits ← Text.readDigits? (whole ++ fraction)
  let exponent ← readExponent? rest
  some (.ofDecimal negative digits (exponent - fraction.length))

/-- The number that a text spells. -/
def ofText? (s : Text) : Option Binary64 :=
  let (negative, body) := Text.takeSign (Text.strip s)
  let word := Text.lower body
  if infinityWords.contains word then some (.infinite negative)
  else if word = ['n', 'a', 'n'] then some .nan
  else readDecimal? negative body

/-- The value with its sign turned. -/
def negate : Binary64 → Binary64
  | .finite negative mantissa exponent => .finite (!negative) mantissa exponent
  | .infinite negative => .infinite (!negative)
  | .nan => .nan

/-- The value `num / den`, where `num` has a sign. -/
def ofSignedRatio (num : Int) (den : Nat) : Binary64 :=
  ofRatio (num < 0) num.natAbs den

/-- A finite value as numerator and denominator. -/
def signedRatio? : Binary64 → Option (Int × Nat)
  | .finite negative mantissa exponent =>
    let (num, den) := ratio mantissa exponent
    some (if negative then -(num : Int) else num, den)
  | _ => none

/-- The sum of two values, rounded.  Values that are not finite are taken for no number. -/
def add (x y : Binary64) : Binary64 :=
  match x.signedRatio?, y.signedRatio? with
  | some (a, b), some (c, d) => ofSignedRatio (a * d + c * b) (b * d)
  | _, _ => .nan

/-- The product of a value and a natural number, rounded. -/
def scale (x : Binary64) (n : Nat) : Binary64 :=
  match x.signedRatio? with
  | some (a, b) => ofSignedRatio (a * n) b
  | none => x

end Binary64

end Recurrence
