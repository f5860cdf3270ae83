import Recurrence.Error

/-!
# Rule tables

A **rule** is a text of segments `KEY=VALUE` between semicolons.  Reading one or more rules gives a
`RuleTable`: for each key, in canonical form, the value that was given last, at the place where the
key was given first.  A value with commas is a list, any other value a single text.

Writing a table gives its **canonical rule**: the frequency, the interval and the weekdays first, as
far as the table has them, then all other entries in table order.
-/

namespace Recurrence

/-- The value of a key. -/
inductive RuleValue
  /-- A single text. -/
  | single (s : Text)
  /-- A list of texts. -/
  | list (xs : List Text)
deriving DecidableEq, Repr

namespace RuleValue

/-- The texts of a value. -/
def texts : RuleValue → List Text
  | .single s => [s]
  | .list xs => xs

/-- The value as one text, the texts of a list joined by commas. -/
def joined : RuleValue → Text
  | .single s => s
  | .list xs => Text.joinWith [','] xs

/-- The value as a datum: a list is a fixed sequence. -/
def toValue : RuleValue → Value
  | .single s => .text s
  | .list xs => .tuple (xs.map .text)

/-- The description of a value. -/
def describe : RuleValue → Text
  | .single s => Text.quoted s
  | .list xs => Value.describeTuple (xs.map Text.quoted)

end RuleValue

/-- Keys with their values, in the order in which the keys first appeared. -/
structure RuleTable where
  /-- The entries.  A table built by the operations below has each key once, in canonical form. -/
  entries : List (Text × RuleValue)
deriving DecidableEq, Repr

namespace RuleTable

/-! ## Entries -/

/-- The table without entries. -/
def empty : RuleTable := ⟨[]⟩

/-- The entries with the value of a key replaced, or with the key added at the end. -/
def insertEntry (key : Text) (value : RuleValue) :
    List (Text × RuleValue) → List (Text × RuleValue)
  | [] => [(key, value)]
  | (k, v) :: rest => if k = key then (k, value) :: rest else (k, v) :: insertEntry key value rest

/-- The table after `key` is given `value`. -/
def insert (t : RuleTable) (key : Text) (value : RuleValue) : RuleTable :=
  ⟨insertEntry (canonicalKey key) value t.entries⟩

theorem lookup_entry (k key : Text) (value : RuleValue) (rest : List (Text × RuleValue)) :
    ((key, value) :: rest).lookup k = if k = key then some value else rest.lookup k := by
  by_cases h : k = key
  · simp [h]
  · have : (k == key) = false := by simpa using h
    simp [List.lookup_cons, this, h]

theorem lookup_insertEntry (key k : Text) (value : RuleValue) (entries : List (Text × RuleValue)) :
    (insertEntry key value entries).lookup k
      = if k = key then some value else entries.lookup k := by
  induction entries with
  | nil => simp [insertEntry, lookup_entry]
  | cons entry rest ih =>
    obtain ⟨old, v⟩ := entry
    by_cases same : old = key
    · subst same
      by_cases h : k = old <;> simp [insertEntry, lookup_entry, h]
    · by_cases h : k = old
      · subst h
        simp [insertEntry, same]
      · simp [insertEntry, same, lookup_entry, h, ih]

/-- The table of a sequence of keys and values. -/
def ofPairs (pairs : List (Text × RuleValue)) : RuleTable :=
  pairs.foldl (fun t (key, value) => t.insert key value) empty

/-- The keys, in order. -/
def keys (t : RuleTable) : List Text :=
  t.entries.map Prod.fst

/-- The value of a key in canonical form. -/
def find? (t : RuleTable) (key : Text) : Option RuleValue :=
  t.entries.lookup key

/-- What an insertion does to look-up: the key has the new value, all others have what they had. -/
theorem find?_insert (t : RuleTable) (key k : Text) (value : RuleValue) :
    (t.insert key value).find? k = if k = canonicalKey key then some value else t.find? k :=
  lookup_insertEntry (canonicalKey key) k value t.entries

/-- The value of a key with a meaning. -/
def get? (t : RuleTable) (key : RuleKey) : Option RuleValue :=
  t.find? key.name

/-- The table has the key. -/
def has (t : RuleTable) (key : RuleKey) : Bool :=
  (t.get? key).isSome

/-- The texts of a key; none if the key is absent. -/
def valuesOf (t : RuleTable) (key : RuleKey) : List Text :=
  ((t.get? key).map RuleValue.texts).getD []

/-- The value of a key as one text. -/
def scalar? (t : RuleTable) (key : RuleKey) : Option Text :=
  (t.get? key).map RuleValue.joined

/-- The tables have the same keys with the same values, in whatever order. -/
def sameEntries (t u : RuleTable) : Bool :=
  t.entries.length == u.entries.length && t.entries.all fun (k, v) => u.find? k == some v

/-! ## Look-up by any name -/

/-- The value that a name stands for; an error if there is none. -/
def lookup (t : RuleTable) (name : KeyName) : Except Error RuleValue :=
  match name.canonical? with
  | none => .error (.noSuchKey name.describe)
  | some key =>
    match t.find? key with
    | some value => .ok value
    | none => .error (.noSuchKey (Text.quoted key))

/-- The value that a name stands for, if there is one. -/
def lookup? (t : RuleTable) (name : KeyName) : Option RuleValue :=
  name.canonical?.bind t.find?

/-- The name stands for an entry. -/
def contains (t : RuleTable) (name : KeyName) : Bool :=
  (t.lookup? name).isSome

/-- The texts of the value that a name stands for; none if there is no such entry. -/
def textsOf (t : RuleTable) (name : KeyName) : List Text :=
  ((t.lookup? name).map RuleValue.texts).getD []

/-- The value that a name stands for as one text. -/
def textOf? (t : RuleTable) (name : KeyName) : Option Text :=
  (t.lookup? name).map RuleValue.joined

/-! ## Tables of given items -/

/-- The value made of a given datum: a text is single, a collection becomes the list of the texts of
its members. -/
def valueOf : Value → Except Error RuleValue
  | .text s => .ok (.single s)
  | .list xs | .set xs | .tuple xs => (xs.mapM Value.written).map .list
  | .map entries => ((entries.map Prod.fst).mapM Value.written).map .list
  | v => .error (.notIterable v.typeName)

/-- The entries of a table as items, each value as a datum. -/
def items (t : RuleTable) : List (KeyName × Value) :=
  t.entries.map fun (key, value) => (.given (.text key), value.toValue)

/-- The key and the value of a given item. -/
def readItem (item : KeyName × Value) : Except Error (Text × RuleValue) := do
  let value ← valueOf item.2
  match item.1.canonical? with
  | some key => .ok (key, value)
  | none => .error (.noSuchKey item.1.describe)

/-- The table of given items. -/
def ofItems (items : List (KeyName × Value)) : Except Error RuleTable := do
  let pairs ← items.mapM readItem
  .ok (ofPairs pairs)

/-! ## Reading rules -/

/-- The segments of a rule that are not blank. -/
def segments (rule : Text) : List Text :=
  (Text.splitOn ';' rule).filter fun segment => !Text.isBlankText segment

/-- The value that stands after the `=` of a segment. -/
def readValue (s : Text) : RuleValue :=
  let s := Text.strip s
  if s.contains ',' then .list ((Text.splitOn ',' s).map Text.strip) else .single s

/-- The key and the value of a segment of a rule.  The key ends at the first `=`. -/
def readSegment (segment rule : Text) : Except RuleError (Text × RuleValue) :=
  match Text.cutAt '=' segment with
  | none => .error (.missingEquals segment rule)
  | some (key, value) =>
    if Text.isBlankText key then .error (.emptyKey segment rule)
    else .ok (Text.strip key, readValue value)

/-- The keys and values of a rule, in order. -/
def readRule (rule : Text) : Except RuleError (List (Text × RuleValue)) :=
  (segments rule).mapM fun segment => readSegment segment rule

/-- The table of some rules: the segments of all of them, merged. -/
def parse (rules : List Text) : Except RuleError RuleTable := do
  let pairs ← rules.mapM readRule
  .ok (ofPairs pairs.flatten)

/-! ## Writing rules -/

/-- The keys that a canonical rule begins with. -/
def leadingKeys : List RuleKey :=
  [.freq, .interval, .byDay]

/-- The key is one that a canonical rule begins with. -/
def isLeading (key : Text) : Bool :=
  leadingKeys.any fun k => k.name == key

/-- The entries in the order of a canonical rule. -/
def canonicalEntries (t : RuleTable) : List (Text × RuleValue) :=
  (leadingKeys.filterMap fun k => (t.get? k).map fun value => (k.name, value))
    ++ t.entries.filter fun (key, _) => !isLeading key

/-- One segment. -/
def writeSegment (key : Text) (value : RuleValue) : Text :=
  key ++ ['='] ++ value.joined

/-- The canonical rule. -/
def serialize (t : RuleTable) : Text :=
  Text.joinWith [';'] (t.canonicalEntries.map fun (key, value) => writeSegment key value)

/-- The description of a table. -/
def describe (t : RuleTable) : Text :=
  "RuleTable(".toList ++ ['{']
    ++ Value.commaSeparated
      (t.entries.map fun (key, value) => Text.quoted key ++ [':', ' '] ++ value.describe)
    ++ ['}', ')']

end RuleTable

end Recurrence
