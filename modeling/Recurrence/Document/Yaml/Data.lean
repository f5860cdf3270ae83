import Recurrence.Document.Yaml.Merge
import Recurrence.Document.Yaml.Scanner
import Recurrence.Number.Numeral
import Recurrence.Text.Base64

/-!
# The data of a YAML document

Each node becomes a value, by its type.  A scalar that is declared to be of a type and is not written
like one makes its own error, as does a date that the calendar does not have; any other misfit between
a node and its type is a fault of the document.

Of several entries whose keys are equal the last counts, at the place of the first.  Numbers and truth
values are equal as keys if their numbers are.
-/

namespace Recurrence.Yaml

/-! ## Scalars -/

/-- The words for truth values, in small letters. -/
def truthOf : List (String × Bool) :=
  [("yes", true), ("no", false), ("true", true), ("false", false), ("on", true), ("off", false)]

/-- The truth value that a text is. -/
def boolOf (s : Text) : Except Error Value :=
  match truthOf.lookup (String.ofList (Text.lower s)) with
  | some b => .ok (.bool b)
  | none => .error (.noSuchKey (Text.quoted (Text.lower s)))

/-- A text without underscores. -/
def dropMarks (s : Text) : Text :=
  s.filter (· != '_')

/-- A sign in front of a text, and the rest; there must be a character. -/
def signOf (s : Text) : Except Error (Bool × Text) :=
  if s.isEmpty then .error .noSuchPosition else .ok (Text.takeSign s)

/-- The integer that a text is in base ten. -/
def decimalOf (s : Text) : Except Error Int :=
  match Text.readInteger s with
  | .ok n => .ok n
  | .error .notNumeral => .error (.notNumeral 10 s)
  | .error (.tooManyDigits count) => .error (.tooManyDigits count)

/-- The integer that a text is in another base. -/
def inBase (base : Nat) (s : Text) : Except Error Int :=
  match Text.readInBase? base s with
  | some n => .ok n
  | none => .error (.notNumeral base s)

/-- The number whose digits in base sixty these are. -/
def ofSixtieths (digits : List Int) : Int :=
  digits.foldl (fun n d => 60 * n + d) 0

/-- The integer that a text without sign and underscores is. -/
def unsignedOf (s : Text) : Except Error Int :=
  match s with
  | [] => .error .noSuchPosition
  | ['0'] => .ok 0
  | '0' :: 'b' :: digits => inBase 2 digits
  | '0' :: 'x' :: digits => inBase 16 digits
  | '0' :: _ => inBase 8 s
  | s =>
    if s.contains ':' then ((Text.splitOn ':' s).mapM decimalOf).map ofSixtieths else decimalOf s

/-- The integer that a text is. -/
def intOf (s : Text) : Except Error Value := do
  let (negative, body) ← signOf (dropMarks s)
  let n ← unsignedOf body
  .ok (.int (if negative then -n else n))

/-- The number that a part of a text is. -/
def partOf (s : Text) : Except Error Binary64 :=
  match Binary64.ofText? s with
  | some x => .ok x
  | none => .error (.notDecimal s)

/-- The sum of the digits of base sixty, the lowest first, each with the weight of its place. -/
def sumSixtieths : (weight : Nat) → (sum : Binary64) → List Binary64 → Binary64
  | _, sum, [] => sum
  | weight, sum, digit :: rest => sumSixtieths (60 * weight) (sum.add (digit.scale weight)) rest

/-- The number that a text without sign and underscores is. -/
def unsignedFloatOf (s : Text) : Except Error Binary64 :=
  if s = ".inf".toList then .ok (.infinite false)
  else if s = ".nan".toList then .ok .nan
  else if s.contains ':' then do
    let digits ← (Text.splitOn ':' s).mapM partOf
    .ok (sumSixtieths 1 (.ofInt 0) digits.reverse)
  else partOf s

/-- The number that a text is. -/
def floatOf (s : Text) : Except Error Value := do
  let (negative, body) ← signOf (Text.lower (dropMarks s))
  let x ← unsignedFloatOf body
  .ok (.float (if negative then x.negate else x))

/-- The octets that a text is in base 64. -/
def binaryOf (s : Text) : Except Error Value :=
  match if s.all Text.isAscii then Text.readBase64? s else none with
  | some octets => .ok (.bytes octets)
  | none => .error .malformedYaml

/-! ## Timestamps -/

/-- The number that some digits are. -/
def numberOf (digits : Text) : Nat :=
  (Text.readDigits? digits).getD 0

/-- The date with these parts. -/
def dateOf (t : WrittenTimestamp) : Except DatePartFault Date :=
  let year := numberOf t.year
  let month := numberOf t.month
  if year = 0 then .error (.year year)
  else if !(1 ≤ month && month ≤ 12) then .error .month
  else
    match Date.ofCivil? year month (numberOf t.day) with
    | some d => .ok d
    | none => .error .day

/-- The offset with these parts. -/
def offsetOf : Option WrittenOffset → Except DatePartFault (Option UtcOffset)
  | none => .ok none
  | some .universal => .ok (some .zero)
  | some (.signed negative hours minutes) =>
    let total : Int := 3600 * numberOf hours + 60 * numberOf minutes
    let seconds := if negative then -total else total
    if 86400 ≤ total then .error (.offset seconds) else .ok (some ⟨seconds⟩)

/-- The microseconds of a fraction; digits after the sixth are dropped. -/
def microsecondOf (fraction : Text) : Nat :=
  numberOf ((fraction ++ List.replicate 6 '0').take 6)

/-- The time of day with these parts. -/
def timeOf (t : WrittenTime) : Except DatePartFault TimeOfDay :=
  let hour := numberOf t.hour
  let minute := numberOf t.minute
  match TimeOfDay.ofParts? hour minute (numberOf t.second) (microsecondOf t.fraction) with
  | some time => .ok time
  | none => .error (if 24 ≤ hour then .hour else if 60 ≤ minute then .minute else .second)

/-- The date or date-time with these parts.  The offset is looked at first. -/
def stampOf (t : WrittenTimestamp) : Except DatePartFault Value :=
  match t.time with
  | none => (dateOf t).map .date
  | some time => do
    let offset ← offsetOf time.offset
    let date ← dateOf t
    let time ← timeOf time
    .ok (.dateTime ⟨date, time, offset⟩)

/-- The date or date-time that a text is. -/
def timestampOf (s : Text) : Except Error Value :=
  match writtenTimestamp? s with
  | some t => (stampOf t).mapError .invalidDatePart
  | none => .error .noSuchOperation

/-- The value of a scalar. -/
def scalarOf (kind : Kind) (s : Text) : Except Error Value :=
  match kind with
  | .null => .ok .null
  | .bool => boolOf s
  | .int => intOf s
  | .float => floatOf s
  | .binary => binaryOf s
  | .timestamp => timestampOf s
  | .text => .ok (.text s)
  | .list | .map | .set | .pairs | .merge | .default | .unknown => .error .malformedYaml

/-! ## Keys -/

/-- The number that a value is as a key. -/
def keyNumber? : Value → Option (Int × Nat)
  | .bool b => some (if b then 1 else 0, 1)
  | .int n => some (n, 1)
  | .float x => x.signedRatio?
  | _ => none

/-- The values are the same key. -/
def sameKey (a b : Value) : Bool :=
  match keyNumber? a, keyNumber? b with
  | some (n, d), some (m, e) => n * e == m * d
  | none, none =>
    match a, b with
    | .null, .null => true
    | .float (.infinite x), .float (.infinite y) => x == y
    | .text s, .text t => s == t
    | .bytes x, .bytes y => x == y
    | .date d, .date e => d == e
    | .dateTime t, .dateTime u => t.offset.isSome == u.offset.isSome && t.instant == u.instant
    | _, _ => false
  | _, _ => false

/-- The value can be a key. -/
def canBeKey : Value → Bool
  | .list _ | .map _ | .set _ | .enclosingList | .enclosingMap => false
  | _ => true

/-- The entries with one more; an entry with the same key has its value replaced. -/
def addEntry (entries : List (Value × Value)) (entry : Value × Value) : List (Value × Value) :=
  if entries.any fun (key, _) => sameKey key entry.1 then
    entries.map fun (key, value) => if sameKey key entry.1 then (key, entry.2) else (key, value)
  else entries ++ [entry]

/-! ## Nodes -/

mutual

/-- The scalar that a node stands for: itself, or, for a mapping, the value of its key `=`. -/
def scalarText? : Node → Option Text
  | .scalar _ s => some s
  | .map _ entries => defaultText? entries
  | _ => none

/-- The scalar that the first key `=` among some entries has as its value. -/
def defaultText? : List (Node × Node) → Option Text
  | [] => none
  | (key, value) :: rest => if key.kind = .default then scalarText? value else defaultText? rest

end

mutual

/-- The value of a node whose mappings are merged. -/
def valueOf : Node → Except Error Value
  | .scalar kind s => scalarOf kind s
  | .list kind members =>
    match kind with
    | .list => do .ok (.list (← valuesOf members))
    | .pairs => do .ok (.list (← pairsOf members))
    | _ => .error .malformedYaml
  | .map kind entries =>
    match kind with
    | .map => do .ok (.map ((← entriesOf entries).foldl addEntry []))
    | .set => do .ok (.set (((← entriesOf entries).foldl addEntry []).map Prod.fst))
    | kind =>
      match defaultText? entries with
      | some s => scalarOf kind s
      | none => .error .malformedYaml
  | .enclosingList => .ok .enclosingList
  | .enclosingMap => .ok .enclosingMap

/-- The values of some nodes. -/
def valuesOf : List Node → Except Error (List Value)
  | [] => .ok []
  | n :: rest => do
    let v ← valueOf n
    let rest ← valuesOf rest
    .ok (v :: rest)

/-- The keys and values of some entries. -/
def entriesOf : List (Node × Node) → Except Error (List (Value × Value))
  | [] => .ok []
  | (key, value) :: rest => do
    let key ← valueOf key
    if canBeKey key then
      let value ← valueOf value
      let rest ← entriesOf rest
      .ok ((key, value) :: rest)
    else .error .malformedYaml

/-- The pairs that mappings with one entry make. -/
def pairsOf : List Node → Except Error (List Value)
  | [] => .ok []
  | .map _ [(key, value)] :: rest => do
    let key ← valueOf key
    let value ← valueOf value
    let rest ← pairsOf rest
    .ok (.tuple [key, value] :: rest)
  | _ => .error .malformedYaml

end

/-- The value of the document that a text holds; nothing if there is none. -/
def read (s : Text) : Except Error Value := do
  let tokens ← tokens s
  match ofTokens? tokens with
  | none => .error .malformedYaml
  | some none => .ok .null
  | some (some n) => do valueOf (← n.merged)

end Recurrence.Yaml
