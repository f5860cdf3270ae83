import Recurrence.Document.Yaml.Token

/-!
# From text to tokens

The structure of a YAML text lies in its indentation.  The scanner keeps the column of each open
collection in lines; a token further left closes them, and one further right may open another.

Whether a scalar is a key shows only at the colon behind it.  So the scanner remembers, for each
level of brackets and braces, the last place where a key may have begun; when the colon comes, the
mark of the key, and perhaps that of a mapping, is put in at that place.  A key stands in one line and
has at most 1024 characters.
-/

namespace Recurrence.Yaml

/-- A place where a key may have begun. -/
structure PossibleKey where
  /-- The number of tokens before it. -/
  tokenCount : Nat
  /-- It must be a key, as it is indented like the keys of the mapping that it stands in. -/
  required : Bool
  /-- The number of characters before it. -/
  index : Nat
  /-- Its line. -/
  line : Nat
  /-- Its column. -/
  column : Nat

/-- How far a text has been scanned. -/
structure Scanner where
  /-- The text to come. -/
  rest : Text
  /-- The number of characters read. -/
  index : Nat
  /-- The line of the next character. -/
  line : Nat
  /-- The column of the next character. -/
  column : Nat
  /-- The number of open brackets and braces. -/
  flow : Nat
  /-- The column of the innermost collection in lines; -1 if there is none. -/
  indent : Int
  /-- The columns of the collections around it. -/
  outerIndents : List Int
  /-- A key may begin here. -/
  keyAllowed : Bool
  /-- The places where keys may have begun, by the number of open brackets and braces. -/
  keys : List (Nat × PossibleKey)
  /-- The tokens read, latest first. -/
  tokens : List Token

namespace Scanner

/-- The scanner at the beginning of a text. -/
def start (s : Text) : Scanner := ⟨s, 0, 0, 0, 0, -1, [], true, [], []⟩

/-! ## Moving on -/

/-- The scanner behind one character. -/
def pass (s : Scanner) (c : Char) : Scanner :=
  if isBreak c then { s with index := s.index + 1, line := s.line + 1, column := 0 }
  else
    { s with index := s.index + 1, column := if c = '\uFEFF' then s.column else s.column + 1 }

/-- The scanner before a later part of its text. -/
def moveTo (s : Scanner) (rest : Text) : Scanner :=
  { (s.rest.take (s.rest.length - rest.length)).foldl pass s with rest := rest }

/-- The scanner behind a number of characters. -/
def skip (s : Scanner) (count : Nat) : Scanner :=
  s.moveTo (s.rest.drop count)

/-- The scanner with one more token. -/
def push (s : Scanner) (token : Token) : Scanner :=
  { s with tokens := token :: s.tokens }

/-- The text from the next token on, and whether a break comes before it. -/
def toToken : (inComment broke : Bool) → Text → Bool × Text
  | _, broke, [] => (broke, [])
  | inComment, broke, c :: rest =>
    if isBreak c then toToken false true rest
    else if inComment then toToken true broke rest
    else if c = ' ' then toToken false broke rest
    else if c = '#' then toToken true broke rest
    else (broke, c :: rest)

/-- The scanner before the next token.  Behind a break a key may begin, but not within brackets or
braces. -/
def skipToToken (s : Scanner) : Scanner :=
  let text := if s.index = 0 && s.rest.head? = some '\uFEFF' then s.rest.drop 1 else s.rest
  let (broke, rest) := toToken false false text
  let moved := s.moveTo rest
  if broke && s.flow = 0 then { moved with keyAllowed := true } else moved

/-! ## Keys -/

/-- The most characters between the beginning of a key and what comes behind it. -/
def keyLimit : Nat := 1024

/-- The place where a key may have begun lies in an earlier line, or too far back. -/
def isStale (s : Scanner) (key : PossibleKey) : Bool :=
  key.line != s.line || keyLimit < s.index - key.index

/-- The stale places are forgotten; none of them may be required. -/
def dropStaleKeys (s : Scanner) : Except Error Scanner :=
  if s.keys.any fun (_, key) => s.isStale key && key.required then .error .malformedYaml
  else .ok { s with keys := s.keys.filter fun (_, key) => !s.isStale key }

/-- The place on the present level is forgotten; it may not be required. -/
def dropKey (s : Scanner) : Except Error Scanner :=
  match s.keys.lookup s.flow with
  | none => .ok s
  | some key =>
    if key.required then .error .malformedYaml
    else .ok { s with keys := s.keys.filter fun (level, _) => level != s.flow }

/-- A key may begin here. -/
def saveKey (s : Scanner) : Except Error Scanner :=
  if !s.keyAllowed then .ok s
  else do
    let s ← s.dropKey
    let required := s.flow = 0 && s.indent = s.column
    .ok { s with keys := (s.flow, ⟨s.tokens.length, required, s.index, s.line, s.column⟩) :: s.keys }

/-! ## Indentation -/

/-- The collections that are indented further than a column end. -/
def closeTo (column : Int) : (indent : Int) → (outer : List Int) → (tokens : List Token) →
    Int × List Int × List Token
  | indent, [], tokens => (indent, [], tokens)
  | indent, outer :: rest, tokens =>
    if column < indent then closeTo column outer rest (.blockEnd :: tokens)
    else (indent, outer :: rest, tokens)

/-- The collections in lines that are indented further than a column end.  Within brackets and braces
indentation does not count. -/
def unwind (s : Scanner) (column : Int) : Scanner :=
  if s.flow != 0 then s
  else
    let (indent, outer, tokens) := closeTo column s.indent s.outerIndents s.tokens
    { s with indent := indent, outerIndents := outer, tokens := tokens }

/-- A collection at a column begins, unless the innermost one is there already. -/
def opensAt (s : Scanner) (column : Nat) : Bool :=
  s.indent < column

/-- The scanner inside a collection at a column. -/
def indentTo (s : Scanner) (column : Nat) : Scanner :=
  { s with indent := column, outerIndents := s.indent :: s.outerIndents }

/-- A collection in lines begins here, if it does not go on. -/
def openHere (s : Scanner) (token : Token) : Scanner :=
  if s.opensAt s.column then (s.indentTo s.column).push token else s

/-! ## The tokens -/

/-- A token of some characters. -/
def plainToken (s : Scanner) (token : Token) (count : Nat) : Scanner :=
  (s.skip count).push token

/-- A mark before or behind a document. -/
def documentMark (s : Scanner) (token : Token) : Except Error Scanner := do
  let s ← (s.unwind (-1)).dropKey
  .ok ({ s with keyAllowed := false }.plainToken token 3)

/-- A directive. -/
def directive (s : Scanner) : Except Error Scanner := do
  let s ← (s.unwind (-1)).dropKey
  match takeDirective? (s.rest.drop 1) with
  | some (token, rest) => .ok (({ s with keyAllowed := false }.moveTo rest).push token)
  | none => .error .malformedYaml

/-- An opening bracket or brace. -/
def flowStart (s : Scanner) (token : Token) : Except Error Scanner := do
  let s ← s.saveKey
  .ok ({ s with flow := s.flow + 1, keyAllowed := true }.plainToken token 1)

/-- A closing bracket or brace. -/
def flowEnd (s : Scanner) (token : Token) : Except Error Scanner := do
  let s ← s.dropKey
  if s.flow = 0 then .error .malformedYaml
  else .ok ({ s with flow := s.flow - 1, keyAllowed := false }.plainToken token 1)

/-- A comma between members. -/
def flowEntry (s : Scanner) : Except Error Scanner := do
  let s ← s.dropKey
  .ok ({ s with keyAllowed := true }.plainToken .flowEntry 1)

/-- The mark before a member of a list in lines. -/
def blockEntry (s : Scanner) : Except Error Scanner := do
  if s.flow = 0 && !s.keyAllowed then .error .malformedYaml
  else
    let s := if s.flow = 0 then s.openHere .blockListStart else s
    let s ← s.dropKey
    .ok ({ s with keyAllowed := true }.plainToken .blockEntry 1)

/-- The mark before a key. -/
def keyMark (s : Scanner) : Except Error Scanner := do
  if s.flow = 0 && !s.keyAllowed then .error .malformedYaml
  else
    let s := if s.flow = 0 then s.openHere .blockMapStart else s
    let s ← s.dropKey
    .ok ({ s with keyAllowed := s.flow = 0 }.plainToken .key 1)

/-- Tokens put in where a key began, with the latest token first. -/
def insertAt (tokenCount : Nat) (new : List Token) (tokens : List Token) : List Token :=
  let behind := tokens.length - tokenCount
  tokens.take behind ++ new ++ tokens.drop behind

/-- The scalar or collection before the colon turns out to be a key. -/
def markKey (s : Scanner) (key : PossibleKey) : Scanner :=
  let s := { s with keys := s.keys.filter fun (level, _) => level != s.flow, keyAllowed := false }
  if s.flow = 0 && s.opensAt key.column then
    { s.indentTo key.column with tokens := insertAt key.tokenCount [.key, .blockMapStart] s.tokens }
  else { s with tokens := insertAt key.tokenCount [.key] s.tokens }

/-- The mark before a value. -/
def valueMark (s : Scanner) : Except Error Scanner := do
  match s.keys.lookup s.flow with
  | some key => .ok ((s.markKey key).plainToken .value 1)
  | none =>
    if s.flow = 0 && !s.keyAllowed then .error .malformedYaml
    else
      let s := if s.flow = 0 then s.openHere .blockMapStart else s
      let s ← { s with keyAllowed := s.flow = 0 }.dropKey
      .ok (s.plainToken .value 1)

/-- The name of a node behind an indicator. -/
def named (s : Scanner) (token : Text → Token) : Except Error Scanner := do
  let s ← s.saveKey
  match takeName? (s.rest.drop 1) with
  | some (name, rest) => .ok (({ s with keyAllowed := false }.moveTo rest).push (token name))
  | none => .error .malformedYaml

/-- A tag. -/
def tagged (s : Scanner) : Except Error Scanner := do
  let s ← s.saveKey
  match takeTag? (s.rest.drop 1) with
  | some (token, rest) => .ok (({ s with keyAllowed := false }.moveTo rest).push token)
  | none => .error .malformedYaml

/-- A block. -/
def block (s : Scanner) (folded : Bool) : Except Error Scanner := do
  let s ← { s with keyAllowed := true }.dropKey
  let (text, rest) ← blockScalar folded s.indent (s.rest.drop 1)
  .ok ((s.moveTo rest).push (.scalar text false))

/-- A scalar in quotes. -/
def quoted (s : Scanner) (quote : Char) : Except Error Scanner := do
  let s ← s.saveKey
  let (text, rest) ← quotedScalar quote (s.rest.drop 1)
  .ok (({ s with keyAllowed := false }.moveTo rest).push (.scalar text false))

/-- A plain scalar. -/
def plain (s : Scanner) : Except Error Scanner := do
  let s ← s.saveKey
  let scalar := plainScalar (s.flow != 0) (s.indent + 1) s.rest
  .ok (({ s with keyAllowed := scalar.brokeLine }.moveTo scalar.rest).push (.scalar scalar.text true))

/-- The characters that no plain scalar begins with, unless something other than a blank follows. -/
def indicators : Text := "-?:,[]\x7b\x7d#&*!|>'\"%@\x60".toList

/-- A plain scalar can begin with a character, given what follows it. -/
def beginsPlain (s : Scanner) (c : Char) (next : Option Char) : Bool :=
  if !isSpace c && !isBreak c && !indicators.contains c then true
  else !endsToken next && (c = '-' || (s.flow = 0 && (c = '?' || c = ':')))

/-- The next token. -/
def token (s : Scanner) (c : Char) (rest : Text) : Except Error Scanner :=
  let next := rest.head?
  let isMark := s.column = 0 && isSeparator (c :: rest)
  if c = '%' && s.column = 0 then s.directive
  else if isMark then s.documentMark (if c = '-' then .documentStart else .documentEnd)
  else if c = '[' then s.flowStart .flowListStart
  else if c = '{' then s.flowStart .flowMapStart
  else if c = ']' then s.flowEnd .flowListEnd
  else if c = '}' then s.flowEnd .flowMapEnd
  else if c = ',' then s.flowEntry
  else if c = '-' && endsToken next then s.blockEntry
  else if c = '?' && (s.flow != 0 || endsToken next) then s.keyMark
  else if c = ':' && (s.flow != 0 || endsToken next) then s.valueMark
  else if c = '*' then s.named .alias
  else if c = '&' then s.named .anchor
  else if c = '!' then s.tagged
  else if c = '|' && s.flow = 0 then s.block false
  else if c = '>' && s.flow = 0 then s.block true
  else if c = '\'' then s.quoted '\''
  else if c = '"' then s.quoted '"'
  else if s.beginsPlain c next then s.plain
  else .error .malformedYaml

/-- The tokens of the text, with at most `fuel` more of them read from it. -/
def finish : (fuel : Nat) → Scanner → Except Error (List Token)
  | 0, _ => .error .malformedYaml
  | fuel + 1, s => do
    let s ← s.skipToToken.dropStaleKeys
    match s.rest with
    | [] =>
      let s ← (s.unwind (-1)).dropKey
      .ok s.tokens.reverse
    | c :: rest =>
      let s ← (s.unwind s.column).token c rest
      finish fuel s

end Scanner

/-- The tokens of a text.  Each takes at least one character, so there are no more of them than
characters. -/
def tokens (s : Text) : Except Error (List Token) :=
  if s.all isAllowed then
    let text := normalizeBreaks s
    Scanner.finish (text.length + 1) (.start text)
  else .error .malformedYaml

end Recurrence.Yaml
