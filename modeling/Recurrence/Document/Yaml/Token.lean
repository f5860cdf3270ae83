import Recurrence.Document.Yaml.Scalar

/-!
# Tokens of YAML

The token type, and the readers of the tokens that begin with an indicator and a word: anchors and
aliases, tags and directives.  Scalars have a module of their own.
-/

namespace Recurrence.Yaml

/-- A token. -/
inductive Token
  /-- The version of YAML that a document is written in. -/
  | version (major : Nat)
  /-- What a handle stands for in the tags of a document. -/
  | tagHandle (handle lead : Text)
  /-- Any other directive. -/
  | directive
  /-- The mark before a document. -/
  | documentStart
  /-- The mark behind a document. -/
  | documentEnd
  /-- The beginning of a list in lines. -/
  | blockListStart
  /-- The beginning of a mapping in lines. -/
  | blockMapStart
  /-- The end of a collection in lines. -/
  | blockEnd
  /-- The beginning of a list in brackets. -/
  | flowListStart
  /-- The end of a list in brackets. -/
  | flowListEnd
  /-- The beginning of a mapping in braces. -/
  | flowMapStart
  /-- The end of a mapping in braces. -/
  | flowMapEnd
  /-- The mark between members in brackets or braces. -/
  | flowEntry
  /-- The mark before a member of a list in lines. -/
  | blockEntry
  /-- The mark before a key. -/
  | key
  /-- The mark before a value. -/
  | value
  /-- The name of a node that stands elsewhere. -/
  | alias (name : Text)
  /-- The name of the node that follows. -/
  | anchor (name : Text)
  /-- The tag of the node that follows; without a handle it is written in full. -/
  | tag (handle : Option Text) (suffix : Text)
  /-- A scalar. -/
  | scalar (text : Text) (plain : Bool)
deriving DecidableEq

/-! ## Anchors and aliases -/

/-- The characters that may follow the name of a node, besides those that end a token. -/
def nameEnds : Text := "?:,]\x7d%@\x60".toList

/-- The name of a node at the front of a text, and the text behind it. -/
def takeName? (s : Text) : Option (Text × Text) :=
  let name := s.takeWhile isWordChar
  let rest := s.dropWhile isWordChar
  if name.isEmpty then none
  else if endsToken rest.head? || rest.head?.any nameEnds.contains then some (name, rest)
  else none

/-! ## Tags -/

/-- The characters of a tag that are not letters or digits. -/
def uriMarks : Text := "-;/?:@&=+$,_.!~*'()[]%".toList

/-- A character of a tag. -/
def isUriChar (c : Char) : Bool :=
  c.isAlphanum || uriMarks.contains c

/-- The text that some octets, latest first, are in UTF-8. -/
def textOfOctets? (octets : List Nat) : Option Text :=
  (String.fromUTF8? ⟨(octets.reverse.map UInt8.ofNat).toArray⟩).map String.toList

/-- The tag at the front of a text, and the text behind it.  Octets in hexadecimal behind a `%` are
collected, latest first, until they end, and stand for a text in UTF-8. -/
def uriFrom : (skip : Nat) → (octets : List Nat) → (out : Text) → Text → Option (Text × Text)
  | _, octets, out, [] => (textOfOctets? octets).map fun s => (out.reverse ++ s, [])
  | skip + 1, octets, out, _ :: rest => uriFrom skip octets out rest
  | 0, octets, out, c :: rest =>
    if c = '%' then
      match takeHex? 2 rest with
      | some n => uriFrom 2 (n :: octets) out rest
      | none => none
    else
      match textOfOctets? octets with
      | none => none
      | some s =>
        if isUriChar c then uriFrom 0 [] (c :: (s.reverse ++ out)) rest
        else some (out.reverse ++ s, c :: rest)

/-- A tag that is not empty, and the text behind it. -/
def takeUri? (s : Text) : Option (Text × Text) :=
  if s.head?.any isUriChar then uriFrom 0 [] [] s else none

/-- The handle of a tag, from one `!` to the next, and the text behind it.  A lone `!` before a blank
is a handle, too. -/
def takeHandle? : Text → Option (Text × Text)
  | '!' :: rest =>
    if rest.head? = some ' ' then some (['!'], rest)
    else
      match rest.dropWhile isWordChar with
      | '!' :: after => some (['!'] ++ rest.takeWhile isWordChar ++ ['!'], after)
      | _ => none
  | _ => none

/-- The tag behind a `!`, before what follows is looked at. -/
def takeTagBody? (s : Text) : Option (Token × Text) :=
  match s with
  | '<' :: rest => do
    let (suffix, rest) ← takeUri? rest
    match rest with
    | '>' :: rest => some (.tag none suffix, rest)
    | _ => none
  | s =>
    if endsToken s.head? then some (.tag none ['!'], s)
    else if (s.takeWhile fun c => !endsWord (some c)).contains '!' then do
      let (handle, rest) ← takeHandle? ('!' :: s)
      let (suffix, rest) ← takeUri? rest
      some (.tag (some handle) suffix, rest)
    else do
      let (suffix, rest) ← takeUri? s
      some (.tag (some ['!']) suffix, rest)

/-- The tag behind a `!`, and the text behind it. -/
def takeTag? (s : Text) : Option (Token × Text) := do
  let (token, rest) ← takeTagBody? s
  if endsWord rest.head? then some (token, rest) else none

/-! ## Directives -/

/-- A number at the front of a text, and the text behind it. -/
def takeNumber? (s : Text) : Option (Nat × Text) :=
  let digits := s.takeWhile Char.isDigit
  if digits.isEmpty then none
  else some (digits.foldl (fun n c => 10 * n + (c.toNat - '0'.toNat)) 0, s.dropWhile Char.isDigit)

/-- The version that a directive names, and the text behind it. -/
def takeVersion? (s : Text) : Option (Token × Text) := do
  let (major, s) ← takeNumber? (s.dropWhile (· = ' '))
  match s with
  | '.' :: s =>
    let (_, s) ← takeNumber? s
    if endsWord s.head? then some (.version major, s) else none
  | _ => none

/-- The handle that a directive names and what it stands for, and the text behind them. -/
def takeTagHandle? (s : Text) : Option (Token × Text) := do
  let (handle, s) ← takeHandle? (s.dropWhile (· = ' '))
  if s.head? = some ' ' then
    let (lead, s) ← takeUri? (s.dropWhile (· = ' '))
    if endsWord s.head? then some (.tagHandle handle lead, s) else none
  else none

/-- The directive behind a `%`, and the text behind its line. -/
def takeDirective? (s : Text) : Option (Token × Text) := do
  let name := s.takeWhile isWordChar
  let s := s.dropWhile isWordChar
  if name.isEmpty || !endsWord s.head? then none
  else
    let (token, s) ←
      if name = "YAML".toList then takeVersion? s
      else if name = "TAG".toList then takeTagHandle? s
      else some (.directive, s.dropWhile fun c => !isBreak c)
    let s ← restOfLine? s
    some (token, s)

end Recurrence.Yaml
