import Recurrence.Text.Basic

/-!
# Binary floating point

A configuration may hold numbers with a fraction.  They are kept in the 64-bit binary format: a sign
and `mantissa · 2 ^ exponent` with at most 53 bits of mantissa, the two infinities, and one value
for "not a number".  Everything here is exact arithmetic on natural numbers: rounding a decimal to
the nearest representable value (a tie goes to the even mantissa), cutting off the fraction, and
finding the shortest decimal that reads back as the same value.
-/

namespace Recurrence

/-- A 64-bit binary floating-point value. -/
inductive Binary64
  /-- `mantissa · 2 ^ exponent`, negated if `negative`.  The mantissa is below `2 ^ 53`, and at
  least `2 ^ 52` unless the exponent is the least one, -1074. -/
  | finite (negative : Bool) (mantissa : Nat) (exponent : Int)
  /-- An infinity. -/
  | infinite (negative : Bool)
  /-- Not a number. -/
  | nan
deriving DecidableEq, Repr

namespace Binary64

/-- The least exponent of a value. -/
def minExponent : Int := -1074

/-- The greatest exponent of a value. -/
def maxExponent : Int := 971

/-! ## Rounding -/

/-- `num / den` rounded to the nearest integer; a tie goes to the even one. -/
def roundEven (num den : Nat) : Nat :=
  let q := num / den
  let twice := 2 * (num % den)
  if den < twice || (twice == den && q % 2 == 1) then q + 1 else q

/-- `num / den / 2 ^ e`, rounded. -/
def scaled (num den : Nat) (e : Int) : Nat :=
  if 0 ≤ e then roundEven num (den * Nat.pow 2 e.toNat)
  else roundEven (num * Nat.pow 2 (-e).toNat) den

/-- The exponent at which `num / den` has 53 bits before the point, but not below the least one. -/
def exponentFor (num den : Nat) : Int :=
  let guess : Int := (num.log2 : Int) - den.log2 - 52
  let fits : Bool :=
    if 0 ≤ guess then Nat.pow 2 52 * (den * Nat.pow 2 guess.toNat) ≤ num
    else Nat.pow 2 52 * den ≤ num * Nat.pow 2 (-guess).toNat
  max minExponent (if fits then guess else guess - 1)

/-- The value nearest to `num / den`; `den` is positive. -/
def ofRatio (negative : Bool) (num den : Nat) : Binary64 :=
  if num = 0 then .finite negative 0 minExponent
  else
    let e := exponentFor num den
    let m := scaled num den e
    let (m, e) := if m = Nat.pow 2 53 then (Nat.pow 2 52, e + 1) else (m, e)
    if maxExponent < e then .infinite negative else .finite negative m e

/-- The value nearest to `digits · 10 ^ scale`.  Numbers far beyond either end of the range are
settled by their order of magnitude alone. -/
def ofDecimal (negative : Bool) (digits : Nat) (scale : Int) : Binary64 :=
  let magnitude : Int := (Nat.toDigits 10 digits).length + scale
  if digits = 0 || magnitude < -400 then .finite negative 0 minExponent
  else if 400 < magnitude then .infinite negative
  else if 0 ≤ scale then ofRatio negative (digits * Nat.pow 10 scale.toNat) 1
  else ofRatio negative digits (Nat.pow 10 (-scale).toNat)

/-- The value nearest to an integer. -/
def ofInt (n : Int) : Binary64 :=
  ofRatio (n < 0) n.natAbs 1

/-! ## Reading a value -/

/-- A finite value without its sign, as numerator and denominator. -/
def ratio (mantissa : Nat) (exponent : Int) : Nat × Nat :=
  if 0 ≤ exponent then (mantissa * Nat.pow 2 exponent.toNat, 1)
  else (mantissa, Nat.pow 2 (-exponent).toNat)

/-- The integer part of a finite value, toward zero. -/
def truncate? : Binary64 → Option Int
  | .finite negative mantissa exponent =>
    let (num, den) := ratio mantissa exponent
    let q : Int := ((num / den : Nat) : Int)
    some (if negative then -q else q)
  | _ => none

/-- The value is a zero. -/
def isZero : Binary64 → Bool
  | .finite _ mantissa _ => mantissa == 0
  | _ => false

/-! ## Shortest decimal -/

/-- The decimal exponent of a positive ratio: `10 ^ k ≤ num / den < 10 ^ (k + 1)`. -/
def decimalExponent (num den : Nat) : Int :=
  if den ≤ num then ((Nat.toDigits 10 (num / den)).length : Int) - 1
  else
    let k := (Nat.toDigits 10 (den / num)).length
    if num * Nat.pow 10 (k - 1) = den then -((k : Int) - 1) else -(k : Int)

/-- The first `count` digits of a positive ratio whose decimal exponent is `k`, as a number, with the
distances below and above that they leave. -/
def leadingDigits (num den count : Nat) (k : Int) : Nat × Nat × Nat :=
  let shift : Int := count - 1 - k
  let (n, d) :=
    if 0 ≤ shift then (num * Nat.pow 10 shift.toNat, den)
    else (num, den * Nat.pow 10 (-shift).toNat)
  (n / d, n % d, d - n % d)

/-- The decimal of `count` digits nearest to the value among those that read back as it. -/
def decimalOf? (mantissa : Nat) (exponent : Int) (count : Nat) : Option (Nat × Int) :=
  let (num, den) := ratio mantissa exponent
  let k := decimalExponent num den
  let (low, below, above) := leadingDigits num den count k
  let scale : Int := k - count + 1
  let readsBack (digits : Nat) : Bool := ofDecimal false digits scale == .finite false mantissa exponent
  match readsBack low, readsBack (low + 1) with
  | true, true =>
    if below < above || (below == above && low % 2 == 0) then some (low, scale)
    else some (low + 1, scale)
  | true, false => some (low, scale)
  | false, true => some (low + 1, scale)
  | false, false => none

/-- The shortest decimal, of at most 17 digits, that reads back as a positive finite value. -/
def shortest (mantissa : Nat) (exponent : Int) : Nat × Int :=
  ((List.range 17).findSome? fun i => decimalOf? mantissa exponent (i + 1)).getD (0, 0)

/-- The digits of a number without its trailing zeros. -/
def significant (digits : Nat) : Text :=
  ((Nat.toDigits 10 digits).reverse.dropWhile (· == '0')).reverse

/-- How a positive decimal is written: with a point and at least one digit on either side when the
exponent of its first digit is from -4 to 15, otherwise as one digit, further digits after a point,
and an exponent with a sign and at least two digits. -/
def decimalText (digits : Nat) (scale : Int) : Text :=
  let ds := significant digits
  let k : Int := (Nat.toDigits 10 digits).length + scale - 1
  if -4 ≤ k && k < 16 then
    if k < 0 then ['0', '.'] ++ List.replicate (-k - 1).toNat '0' ++ ds
    else
      let whole := ds.take (k.toNat + 1)
      let fraction := ds.drop (k.toNat + 1)
      whole ++ List.replicate (k.toNat + 1 - whole.length) '0' ++ ['.']
        ++ (if fraction.isEmpty then ['0'] else fraction)
  else
    ds.take 1 ++ (if 1 < ds.length then '.' :: ds.drop 1 else []) ++ ['e']
      ++ (if k < 0 then ['-'] else ['+']) ++ Text.padded 2 k.natAbs

/-- The text of a value: its shortest decimal, `inf`, `-inf` or `nan`. -/
def toText : Binary64 → Text
  | .nan => ['n', 'a', 'n']
  | .infinite negative => (if negative then ['-'] else []) ++ ['i', 'n', 'f']
  | .finite negative mantissa exponent =>
    let magnitude :=
      if mantissa = 0 then ['0', '.', '0']
      else
        let (digits, scale) := shortest mantissa exponent
        decimalText digits scale
    (if negative then ['-'] else []) ++ magnitude

end Binary64

end Recurrence
