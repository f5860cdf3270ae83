import Recurrence.Error
import Recurrence.Text.Integer

/-!
# Reading JSON

A JSON text is cut into tokens, and the tokens are read from left to right with a stack of the
collections that are open.  The first fault met decides: a fault of form, or a number with too many
digits.

Beyond the standard, `NaN`, `Infinity` and `-Infinity` are numbers.  A number with a fraction or an
exponent is a floating-point number, any other an integer.  Of several entries of one name the last
counts, at the place of the first.
-/

namespace Recurrence.Json

/-! ## Tokens -/

/-- A token. -/
inductive Token
  /-- The beginning of a mapping. -/
  | openMap
  /-- The end of a mapping. -/
  | closeMap
  /-- The beginning of a list. -/
  | openList
  /-- The end of a list. -/
  | closeList
  /-- The mark between a name and its value. -/
  | colon
  /-- The mark between members. -/
  | comma
  /-- A text in quotes. -/
  | text (s : Text)
  /-- A number or a word. -/
  | scalar (v : Value)
  /-- An integer with too many digits. -/
  | longInteger (count : Nat)
  /-- What is no token. -/
  | invalid

/-- White space between tokens. -/
def isSpace (c : Char) : Bool :=
  c = ' ' || c = '\t' || c = '\n' || c = '\r'

/-- The value of a hexadecimal digit. -/
def hexValue? (c : Char) : Option Nat :=
  if '0' ≤ c && c ≤ '9' then some (c.toNat - '0'.toNat)
  else if 'a' ≤ c && c ≤ 'f' then some (c.toNat - 'a'.toNat + 10)
  else if 'A' ≤ c && c ≤ 'F' then some (c.toNat - 'A'.toNat + 10)
  else none

/-- The number that some hexadecimal digits spell. -/
def ofHex? (digits : Text) : Option Nat :=
  (digits.mapM hexValue?).map fun ds => ds.foldl (fun n d => 16 * n + d) 0

/-- The character that stands for a letter behind a backslash. -/
def escaped? : Char → Option Char
  | '"' => some '"'
  | '\\' => some '\\'
  | '/' => some '/'
  | 'b' => some '\x08'
  | 'f' => some '\x0c'
  | 'n' => some '\n'
  | 'r' => some '\r'
  | 't' => some '\t'
  | _ => none

/-- The character of a surrogate pair; `none` if the two numbers are none. -/
def pair? (high low : Nat) : Option Char :=
  if 0xD800 ≤ high && high < 0xDC00 && 0xDC00 ≤ low && low < 0xE000 then
    some (Char.ofNat (0x10000 + (high - 0xD800) * 0x400 + (low - 0xDC00)))
  else none

/-- The character with a number; half of a surrogate pair has none and is replaced. -/
def charOf (n : Nat) : Char :=
  if n.isValidChar then Char.ofNat n else '\uFFFD'

/-- The text up to the closing quote, with the number of characters read; `none` if there is a fault
before it. -/
def takeText : Text → Option (Text × Nat)
  | [] => none
  | '"' :: _ => some ([], 1)
  | '\\' :: 'u' :: a :: b :: c :: d :: '\\' :: 'u' :: e :: f :: g :: h :: rest => do
    let high ← ofHex? [a, b, c, d]
    match (ofHex? [e, f, g, h]).bind (pair? high) with
    | some c =>
      let (s, used) ← takeText rest
      some (c :: s, used + 12)
    | none =>
      let (s, used) ← takeText ('\\' :: 'u' :: e :: f :: g :: h :: rest)
      some (charOf high :: s, used + 6)
  | '\\' :: 'u' :: a :: b :: c :: d :: rest => do
    let n ← ofHex? [a, b, c, d]
    let (s, used) ← takeText rest
    some (charOf n :: s, used + 6)
  | '\\' :: c :: rest => do
    let c ← escaped? c
    let (s, used) ← takeText rest
    some (c :: s, used + 2)
  | c :: rest => do
    if c < ' ' then none
    else
      let (s, used) ← takeText rest
      some (c :: s, used + 1)

/-- The digits at the front of a text. -/
def digits (s : Text) : Text :=
  s.takeWhile Text.isAsciiDigit

/-- The digits of the integer part at the front of a text: a zero, or a digit that is none and more
digits. -/
def wholePart (s : Text) : Text :=
  match s with
  | '0' :: _ => ['0']
  | s => digits s

/-- The digits of the fraction at the front of a text, behind a point. -/
def fractionPart : Text → Text
  | '.' :: rest => digits rest
  | _ => []

/-- The exponent at the front of a text, and the number of its characters. -/
def exponentPart : Text → Int × Nat
  | c :: rest =>
    if c = 'e' || c = 'E' then
      let (negative, body) := Text.takeSign rest
      let ds := digits body
      if ds.isEmpty then (0, 0)
      else
        let n : Int := ((Text.readDigits? ds).getD 0 : Nat)
        (if negative then -n else n, 1 + (rest.length - body.length) + ds.length)
    else (0, 0)
  | [] => (0, 0)

/-- A number behind its sign, with the number of characters read. -/
def takeNumber (negative : Bool) (s : Text) : Option (Token × Nat) :=
  let whole := wholePart s
  let fraction := fractionPart (s.drop whole.length)
  let point := if fraction.isEmpty then 0 else 1 + fraction.length
  let (exponent, used) := exponentPart (s.drop (whole.length + point))
  if whole.isEmpty then none
  else if point = 0 && used = 0 then
    let token :=
      if Text.digitLimit < whole.length then .longInteger whole.length
      else
        let n : Int := ((Text.readDigits? whole).getD 0 : Nat)
        .scalar (.int (if negative then -n else n))
    some (token, whole.length)
  else
    let n := (Text.readDigits? (whole ++ fraction)).getD 0
    some (.scalar (.float (.ofDecimal negative n (exponent - fraction.length))),
      whole.length + point + used)

/-- The words that are values. -/
def words : List (Text × Value) :=
  [("null".toList, .null), ("true".toList, .bool true), ("false".toList, .bool false),
    ("NaN".toList, .float .nan), ("Infinity".toList, .float (.infinite false)),
    ("-Infinity".toList, .float (.infinite true))]

/-- A word or a number, with the number of characters read. -/
def takeScalar (s : Text) : Option (Token × Nat) :=
  match words.find? fun (word, _) => Text.startsWith word s with
  | some (word, v) => some (.scalar v, word.length)
  | none =>
    match s with
    | '-' :: rest => (takeNumber true rest).map fun (token, used) => (token, used + 1)
    | s => takeNumber false s

/-- The token at the front of a text, with the number of characters read. -/
def takeToken : Text → Option (Token × Nat)
  | '{' :: _ => some (.openMap, 1)
  | '}' :: _ => some (.closeMap, 1)
  | '[' :: _ => some (.openList, 1)
  | ']' :: _ => some (.closeList, 1)
  | ':' :: _ => some (.colon, 1)
  | ',' :: _ => some (.comma, 1)
  | '"' :: rest => (takeText rest).map fun (s, used) => (.text s, used + 1)
  | s => takeScalar s

/-- The tokens of a text, up to the first fault; the first `skip` characters are read already. -/
def tokensFrom : (skip : Nat) → Text → List Token
  | _, [] => []
  | skip + 1, _ :: rest => tokensFrom skip rest
  | 0, c :: rest =>
    if isSpace c then tokensFrom 0 rest
    else
      match takeToken (c :: rest) with
      | none => [.invalid]
      | some (token, used) => token :: tokensFrom (used - 1) rest

/-! ## Values -/

/-- The entries of a mapping, latest first. -/
abbrev Entries := List (Text × Value)

/-- A collection that is open, its members latest first. -/
inductive Frame
  /-- A list. -/
  | list (xs : List Value)
  /-- A mapping, and the name whose value is being read. -/
  | map (entries : Entries) (name : Text)

/-- What may come next. -/
inductive Place
  /-- A value. -/
  | value
  /-- A value, or the end of the list just begun. -/
  | firstMember
  /-- A name, or the end of the mapping just begun. -/
  | firstName
  /-- A name, in a mapping that has some entries. -/
  | name (entries : Entries)
  /-- The mark behind a name, in a mapping that has some entries. -/
  | mark (entries : Entries) (name : Text)
  /-- What can follow a member of the innermost collection. -/
  | behind
  /-- Nothing: the whole has been read. -/
  | done (v : Value)

/-- How far the reading has come. -/
structure State where
  /-- What may come next. -/
  place : Place
  /-- The open collections, innermost first. -/
  stack : List Frame

/-- The reading before the first token. -/
def start : State := ⟨.value, []⟩

/-- Some entries with one more.  An entry of the same name is replaced where it is. -/
def addEntry (name : Text) (v : Value) (entries : Entries) : Entries :=
  if entries.any fun (n, _) => n == name then
    entries.map fun (n, old) => if n == name then (n, v) else (n, old)
  else (name, v) :: entries

/-- A mapping of some entries. -/
def mapOf (entries : Entries) : Value :=
  .map (entries.reverse.map fun (name, v) => (.text name, v))

/-- A value has been read, inside some collections. -/
def push (v : Value) : List Frame → State
  | [] => ⟨.done v, []⟩
  | .list xs :: outer => ⟨.behind, .list (v :: xs) :: outer⟩
  | .map entries name :: outer => ⟨.behind, .map (addEntry name v entries) name :: outer⟩

/-- The value that begins with a token. -/
def beginValue (token : Token) (stack : List Frame) : Except Error State :=
  match token with
  | .scalar v => .ok (push v stack)
  | .text t => .ok (push (.text t) stack)
  | .longInteger count => .error (.tooManyDigits count)
  | .openList => .ok ⟨.firstMember, .list [] :: stack⟩
  | .openMap => .ok ⟨.firstName, stack⟩
  | _ => .error .malformedJson

/-- The innermost collection ends, or its next member begins. -/
def followMember (token : Token) (stack : List Frame) : Except Error State :=
  match token, stack with
  | .comma, .list _ :: _ => .ok ⟨.value, stack⟩
  | .comma, .map entries _ :: outer => .ok ⟨.name entries, outer⟩
  | .closeList, .list xs :: outer => .ok (push (.list xs.reverse) outer)
  | .closeMap, .map entries _ :: outer => .ok (push (mapOf entries) outer)
  | _, _ => .error .malformedJson

/-- The reading goes on by one token. -/
def step (s : State) (token : Token) : Except Error State :=
  match s.place, token with
  | .value, token => beginValue token s.stack
  | .firstMember, .closeList => followMember .closeList s.stack
  | .firstMember, token => beginValue token s.stack
  | .firstName, .closeMap => .ok (push (mapOf []) s.stack)
  | .firstName, .text name => .ok ⟨.mark [] name, s.stack⟩
  | .name entries, .text name => .ok ⟨.mark entries name, s.stack⟩
  | .mark entries name, .colon => .ok ⟨.value, .map entries name :: s.stack⟩
  | .behind, token => followMember token s.stack
  | _, _ => .error .malformedJson

/-- The value that a JSON text spells. -/
def read (s : Text) : Except Error Value := do
  let final ← (tokensFrom 0 s).foldlM step start
  match final.place with
  | .done v => .ok v
  | _ => .error .malformedJson

end Recurrence.Json
