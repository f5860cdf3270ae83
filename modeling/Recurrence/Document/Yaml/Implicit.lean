import Recurrence.Document.Yaml.Timestamp

/-!
# Types of nodes

Every node has a type, named by a tag.  A node without a tag has the type of its form: a list, a
mapping, or a text.  A plain scalar, however, may be written like something other than a text: a word
for a truth value or for nothing, a number, a timestamp.

Numbers may have underscores among their digits.  Integers are written in base ten, two (`0b`), eight
(`0`) or sixteen (`0x`), or in base sixty with colons between the digits; the last may have a
fraction.
-/

namespace Recurrence.Yaml

/-- The type of a node. -/
inductive Kind
  /-- Nothing. -/
  | null
  /-- A truth value. -/
  | bool
  /-- An integer. -/
  | int
  /-- A number with a fraction. -/
  | float
  /-- Octets. -/
  | binary
  /-- A date or a date-time. -/
  | timestamp
  /-- A text. -/
  | text
  /-- A list. -/
  | list
  /-- A mapping. -/
  | map
  /-- A set: a mapping whose values do not matter. -/
  | set
  /-- A list of mappings with one entry each. -/
  | pairs
  /-- The key that takes over the entries of other mappings. -/
  | merge
  /-- The key whose value stands for the mapping. -/
  | default
  /-- A type that is not known here. -/
  | unknown
deriving DecidableEq

namespace Kind

/-- The types by the last part of their tags. -/
def names : List (String × Kind) :=
  [("null", .null), ("bool", .bool), ("int", .int), ("float", .float), ("binary", .binary),
    ("timestamp", .timestamp), ("str", .text), ("seq", .list), ("map", .map), ("set", .set),
    ("omap", .pairs), ("pairs", .pairs), ("merge", .merge), ("value", .default)]

/-- What the tags of the known types begin with. -/
def tagLead : Text := "tag:yaml.org,2002:".toList

/-- The type that a tag names. -/
def ofTag (tag : Text) : Kind :=
  if Text.startsWith tagLead tag then
    (names.lookup (String.ofList (tag.drop tagLead.length))).getD .unknown
  else .unknown

/-! ## Words -/

/-- The words for truth values. -/
def boolWords : List String :=
  ["yes", "Yes", "YES", "no", "No", "NO", "true", "True", "TRUE", "false", "False", "FALSE", "on",
    "On", "ON", "off", "Off", "OFF"]

/-- The words for nothing; the empty text is one of them. -/
def nullWords : List String :=
  ["~", "null", "Null", "NULL", ""]

/-- The words for infinity, behind a sign. -/
def infinityWords : List String :=
  [".inf", ".Inf", ".INF"]

/-- The words for a number that is none. -/
def nanWords : List String :=
  [".nan", ".NaN", ".NAN"]

/-- The text is one of some words. -/
def isWord (words : List String) (s : Text) : Bool :=
  words.contains (String.ofList s)

/-! ## Numbers -/

/-- A decimal digit or an underscore. -/
def isDigitOrMark (c : Char) : Bool :=
  isDigit c || c = '_'

/-- The text without a sign in front of it. -/
def dropSign : Text → Text
  | '-' :: rest => rest
  | '+' :: rest => rest
  | s => s

/-- A text that begins with a character of one kind and goes on with characters of another. -/
def hasForm (first other : Char → Bool) : Text → Bool
  | c :: rest => first c && rest.all other
  | [] => false

/-- A text of at least one character, all of one kind. -/
def isAll (p : Char → Bool) (s : Text) : Bool :=
  hasForm p p s

/-- A digit other than zero, and then digits and underscores. -/
def isPositive (s : Text) : Bool :=
  hasForm (fun c => isDigit c && c != '0') isDigitOrMark s

/-- A digit of base sixty: up to 59, in one digit or two. -/
def isSixtieth (s : Text) : Bool :=
  match s with
  | [c] => isDigit c
  | [c, d] => '0' ≤ c && c ≤ '5' && isDigit d
  | _ => false

/-- An integer in base sixty: at least two digits between colons. -/
def isSexagesimal (first : Text → Bool) (s : Text) : Bool :=
  match Text.splitOn ':' s with
  | digit :: next :: rest => first digit && (next :: rest).all isSixtieth
  | _ => false

/-- The text is written like an integer. -/
def isInteger (s : Text) : Bool :=
  let s := dropSign s
  match s with
  | '0' :: 'b' :: digits => isAll (fun c => c = '0' || c = '1' || c = '_') digits
  | '0' :: 'x' :: digits => isAll (fun c => (hexDigit? c).isSome || c = '_') digits
  | ['0'] => true
  | '0' :: digits => isAll (fun c => ('0' ≤ c && c ≤ '7') || c = '_') digits
  | s => isPositive s || isSexagesimal isPositive s

/-- An exponent with its sign, or nothing. -/
def isExponent : Text → Bool
  | [] => true
  | e :: sign :: digits => (e = 'e' || e = 'E') && (sign = '-' || sign = '+') && isAll isDigit digits
  | _ => false

/-- Digits and underscores, and then perhaps an exponent. -/
def isFraction (s : Text) : Bool :=
  isExponent (s.dropWhile isDigitOrMark)

/-- Digits in base sixty, at least two of them, then a point, digits and underscores. -/
def isSexagesimalFraction (s : Text) : Bool :=
  match Text.cutAt '.' s with
  | some (whole, fraction) =>
    isSexagesimal (hasForm isDigit isDigitOrMark) whole && fraction.all isDigitOrMark
  | none => false

/-- A number with a point. -/
def isPointed (s : Text) : Bool :=
  match Text.cutAt '.' s with
  | some (whole, fraction) => hasForm isDigit isDigitOrMark whole && isFraction fraction
  | none => false

/-- The text is written like a number with a fraction, like infinity, or like no number. -/
def isFloat (s : Text) : Bool :=
  let unsigned := dropSign s
  isPointed unsigned || isSexagesimalFraction unsigned || isWord infinityWords unsigned
    || isWord nanWords s
    || match s with
      | '.' :: digit :: rest => isDigit digit && isFraction rest
      | _ => false

/-! ## Timestamps -/

/-- The text is written like a timestamp.  A date alone must have two digits for month and day. -/
def isTimestamp (s : Text) : Bool :=
  match writtenTimestamp? s with
  | none => false
  | some t => t.time.isSome || (t.month.length = 2 && t.day.length = 2)

/-! ## Plain scalars -/

/-- The type of a plain scalar that has no break at its end. -/
def ofLine (s : Text) : Kind :=
  if isWord boolWords s then .bool
  else if isFloat s then .float
  else if isInteger s then .int
  else if s = ['<', '<'] then .merge
  else if isWord nullWords s then .null
  else if isTimestamp s then .timestamp
  else if s = ['='] then .default
  else if s = ['!'] || s = ['&'] || s = ['*'] then .unknown
  else .text

/-- The type of a plain scalar.  A break at its end does not matter, but for the empty text. -/
def ofPlain (s : Text) : Kind :=
  match s.reverse with
  | '\n' :: line => if line.isEmpty then .text else ofLine line.reverse
  | _ => ofLine s

end Kind

end Recurrence.Yaml
