import Recurrence.Calendar.Time
import Recurrence.Number.Binary64
import Recurrence.Text.Integer
import Recurrence.Text.Quoted

/-!
# Values of any type

Most of the library knows the types of its data.  Three places do not: the entries of a
configuration file, the fields of an event that nobody has validated, and whatever is handed over as
a timestamp or a key.  A `Value` is such a datum.

A value has a *description*, in which texts are quoted and every type can be told apart, and a plain
text.  Messages show descriptions.
-/

namespace Recurrence

/-- A datum whose type is known only when it is looked at. -/
inductive Value
  /-- The absent value. -/
  | null
  /-- A truth value. -/
  | bool (b : Bool)
  /-- An integer of any size. -/
  | int (n : Int)
  /-- A floating-point number. -/
  | float (x : Binary64)
  /-- A text. -/
  | text (s : Text)
  /-- A list. -/
  | list (xs : List Value)
  /-- A mapping, in the order of first appearance of its keys. -/
  | map (entries : List (Value × Value))
  /-- A date. -/
  | date (d : Date)
  /-- A date with a time of day. -/
  | dateTime (t : DateTime)
  /-- A sequence of octets. -/
  | bytes (octets : List Nat)
  /-- A set, in order of first appearance. -/
  | set (xs : List Value)
  /-- A fixed sequence. -/
  | tuple (xs : List Value)
  /-- A list that this place is inside of. -/
  | enclosingList
  /-- A mapping that this place is inside of. -/
  | enclosingMap

namespace Value

/-! ## Descriptions -/

/-- Texts with a comma and a blank between neighbours. -/
def commaSeparated (xs : List Text) : Text :=
  Text.joinWith [',', ' '] xs

/-- A fixed sequence of descriptions; a single one keeps a comma behind it. -/
def describeTuple : List Text → Text
  | [x] => ['('] ++ x ++ [',', ')']
  | xs => ['('] ++ commaSeparated xs ++ [')']

/-- The description of a date. -/
def describeDate (d : Date) : Text :=
  "datetime.date(".toList
    ++ commaSeparated [Text.ofNat d.year, Text.ofNat d.month, Text.ofNat d.day] ++ [')']

/-- The description of a duration: whole days and the seconds left over, so that only the days are
ever negative. -/
def describeDuration (seconds : Int) : Text :=
  let days := seconds.fdiv 86400
  let left := seconds.fmod 86400
  let parts :=
    (if days = 0 then [] else ["days=".toList ++ Text.ofInt days])
      ++ (if left = 0 then [] else ["seconds=".toList ++ Text.ofInt left])
  "datetime.timedelta(".toList ++ commaSeparated (if parts.isEmpty then [['0']] else parts) ++ [')']

/-- The description of an offset. -/
def describeOffset (o : UtcOffset) : Text :=
  if o.seconds = 0 then "datetime.timezone.utc".toList
  else "datetime.timezone(".toList ++ describeDuration o.seconds ++ [')']

/-- The description of a date-time; seconds and microseconds are left out from the end while they
are zero. -/
def describeDateTime (t : DateTime) : Text :=
  let micro := t.time.microsecond.val
  let second := t.time.second.val
  "datetime.datetime(".toList
    ++ commaSeparated
      ([t.date.year, t.date.month, t.date.day, t.time.hour.val, t.time.minute.val].map Text.ofNat
        ++ (if second = 0 && micro = 0 then [] else [Text.ofNat second])
        ++ (if micro = 0 then [] else [Text.ofNat micro])
        ++ (match t.offset with
          | none => []
          | some o => ["tzinfo=".toList ++ describeOffset o])) ++ [')']

/-- The description of a date or a date-time. -/
def describeStamp : Stamp → Text
  | .date d => describeDate d
  | .dateTime t => describeDateTime t

/-- An octet as it stands between quotes. -/
def describeOctet (quote : Char) (octet : Nat) : Text :=
  let c := Char.ofNat octet
  if octet < 0x80 then (if c = quote || c = '\\' then ['\\', c] else
    if c = '\n' then ['\\', 'n'] else if c = '\r' then ['\\', 'r'] else if c = '\t' then ['\\', 't']
    else if 0x20 ≤ octet && octet < 0x7F then [c] else ['\\', 'x'] ++ Text.hexPadded 2 octet)
  else ['\\', 'x'] ++ Text.hexPadded 2 octet

/-- The description of octets: quoted like a text, behind a `b`. -/
def describeOctets (octets : List Nat) : Text :=
  let quote := if octets.contains 39 && !octets.contains 34 then '"' else '\''
  ['b', quote] ++ octets.flatMap (describeOctet quote) ++ [quote]

mutual

/-- The description of a value. -/
def describe : Value → Text
  | .null => "None".toList
  | .bool true => "True".toList
  | .bool false => "False".toList
  | .int n => Text.ofInt n
  | .float x => x.toText
  | .text s => Text.quoted s
  | .list xs => ['['] ++ commaSeparated (describeAll xs) ++ [']']
  | .map entries => ['{'] ++ commaSeparated (describeEntries entries) ++ ['}']
  | .date d => describeDate d
  | .dateTime t => describeDateTime t
  | .bytes octets => describeOctets octets
  | .set [] => "set()".toList
  | .set (x :: xs) => ['{'] ++ commaSeparated (describe x :: describeAll xs) ++ ['}']
  | .tuple xs => describeTuple (describeAll xs)
  | .enclosingList => "[...]".toList
  | .enclosingMap => ['{', '.', '.', '.', '}']

/-- The descriptions of the values of a list. -/
def describeAll : List Value → List Text
  | [] => []
  | x :: xs => describe x :: describeAll xs

/-- The descriptions of the entries of a mapping. -/
def describeEntries : List (Value × Value) → List Text
  | [] => []
  | (k, v) :: rest => (describe k ++ [':', ' '] ++ describe v) :: describeEntries rest

end

/-- The plain text of a value: a text itself, dates in ISO format, and otherwise the description. -/
def toText : Value → Text
  | .text s => s
  | .date d => d.toText
  | .dateTime t => t.date.toText ++ [' '] ++ t.time.toText ++ (t.offset.map UtcOffset.toText).getD []
  | v => v.describe

mutual

/-- No integer in the value has more digits than are converted, so that its text can be written. -/
def isWritable : Value → Bool
  | .int n => (Text.ofNat n.natAbs).length ≤ Text.digitLimit
  | .list xs | .set xs | .tuple xs => areWritable xs
  | .map entries => areEntriesWritable entries
  | _ => true

/-- The texts of all values of a list can be written. -/
def areWritable : List Value → Bool
  | [] => true
  | x :: xs => isWritable x && areWritable xs

/-- The texts of all keys and values of a mapping can be written. -/
def areEntriesWritable : List (Value × Value) → Bool
  | [] => true
  | (k, v) :: rest => isWritable k && isWritable v && areEntriesWritable rest

end

/-- The plain text of a value, if it can be written. -/
def text? (v : Value) : Option Text :=
  if v.isWritable then some v.toText else none

/-- The name of the type of a value, as messages give it. -/
def typeName : Value → String
  | .null => "NoneType"
  | .bool _ => "bool"
  | .int _ => "int"
  | .float _ => "float"
  | .text _ => "str"
  | .list _ | .enclosingList => "list"
  | .map _ | .enclosingMap => "dict"
  | .date _ => "date"
  | .dateTime _ => "datetime"
  | .bytes _ => "bytes"
  | .set _ => "set"
  | .tuple _ => "tuple"

/-- A value that counts as given: not null, false, zero or empty. -/
def isGiven : Value → Bool
  | .null => false
  | .bool b => b
  | .int n => n != 0
  | .float x => !x.isZero
  | .text s => !s.isEmpty
  | .list xs | .set xs | .tuple xs => !xs.isEmpty
  | .map entries => !entries.isEmpty
  | .bytes octets => !octets.isEmpty
  | .date _ | .dateTime _ | .enclosingList | .enclosingMap => true

end Value

end Recurrence
