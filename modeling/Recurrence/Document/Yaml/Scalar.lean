import Recurrence.Document.Yaml.Character
import Recurrence.Error

/-!
# Scalars as they are written

A scalar is written plain, between quotes, or as a block of lines.  In each form a line break inside
the scalar is folded: a single one becomes a blank, and of several the first is dropped.  A block
may also keep its breaks.

Each reader goes through the text once, character by character, and gives back the scalar and the
text behind it.  The scalar is collected with its last character first.
-/

namespace Recurrence.Yaml

/-- What a folded break becomes, last character first: the first break, and the further ones, latest
first. -/
def fold (first : Char) (more : Text) : Text :=
  if first != '\n' then more ++ [first]
  else if more.isEmpty then [' ']
  else more

/-! ## Quoted scalars -/

/-- Where a reader of a quoted scalar stands. -/
inductive QuotedPlace
  /-- In a line, behind some blanks, latest first. -/
  | inLine (spaces : Text)
  /-- Behind a first break and more breaks, latest first; `lineStart` at the very start of a line. -/
  | behindBreak (first : Char) (more : Text) (lineStart : Bool)
  /-- Behind a break that a backslash took away, and more breaks. -/
  | behindEscapedBreak (more : Text) (lineStart : Bool)

/-- What the letter behind a backslash stands for. -/
def escapes : List (Char × Char) :=
  [('0', '\x00'), ('a', '\x07'), ('b', '\x08'), ('t', '\t'), ('\t', '\t'), ('n', '\n'),
    ('v', '\x0b'), ('f', '\x0c'), ('r', '\r'), ('e', '\x1b'), (' ', ' '), ('"', '"'), ('\\', '\\'),
    ('/', '/'), ('N', '\x85'), ('_', '\xa0'), ('L', '\u2028'), ('P', '\u2029')]

/-- The number of hexadecimal digits that follow a letter behind a backslash. -/
def escapeLengths : List (Char × Nat) :=
  [('x', 2), ('u', 4), ('U', 8)]

/-- The character with a number; half of a surrogate pair is replaced. -/
def characterOf (n : Nat) : Except Error Char :=
  if n.isValidChar then .ok (Char.ofNat n)
  else if n ≤ 0x10FFFF then .ok '\uFFFD'
  else .error (.noSuchCharacter n)

/-- The character that is written behind a backslash, and how many characters it takes. -/
def unescape : Text → Except Error (Char × Nat)
  | [] => .error .malformedYaml
  | c :: rest =>
    match escapes.lookup c with
    | some d => .ok (d, 1)
    | none =>
      match escapeLengths.lookup c with
      | none => .error .malformedYaml
      | some count =>
        match takeHex? count rest with
        | none => .error .malformedYaml
        | some n => (characterOf n).map fun c => (c, count + 1)

/-- What the reader of a quoted scalar has collected when it comes to a character of the scalar. -/
def QuotedPlace.settle (out : Text) : QuotedPlace → Text
  | .inLine spaces => spaces ++ out
  | .behindBreak first more _ => fold first more ++ out
  | .behindEscapedBreak more _ => more ++ out

/-- The reader stands at the very start of a line. -/
def QuotedPlace.atLineStart : QuotedPlace → Bool
  | .inLine _ => false
  | .behindBreak _ _ lineStart => lineStart
  | .behindEscapedBreak _ lineStart => lineStart

/-- The place behind a blank. -/
def QuotedPlace.afterSpace (c : Char) : QuotedPlace → QuotedPlace
  | .inLine spaces => .inLine (c :: spaces)
  | .behindBreak first more _ => .behindBreak first more false
  | .behindEscapedBreak more _ => .behindEscapedBreak more false

/-- The place behind a break. -/
def QuotedPlace.afterBreak (c : Char) : QuotedPlace → QuotedPlace
  | .inLine _ => .behindBreak c [] true
  | .behindBreak first more _ => .behindBreak first (c :: more) true
  | .behindEscapedBreak more _ => .behindEscapedBreak (c :: more) true

/-- The scalar from a place within the quotes on; the first `skip` characters are read already. -/
def quotedFrom (quote : Char) :
    (skip : Nat) → QuotedPlace → (out : Text) → Text → Except Error (Text × Text)
  | _, _, _, [] => .error .malformedYaml
  | skip + 1, place, out, _ :: rest => quotedFrom quote skip place out rest
  | 0, place, out, c :: rest =>
    if place.atLineStart && isSeparator (c :: rest) then .error .malformedYaml
    else if isSpace c then quotedFrom quote 0 (place.afterSpace c) out rest
    else if isBreak c then quotedFrom quote 0 (place.afterBreak c) out rest
    else
      let out := place.settle out
      if c = quote then
        if quote = '\'' && rest.head? = some '\'' then
          quotedFrom quote 1 (.inLine []) ('\'' :: out) rest
        else .ok (out.reverse, rest)
      else if quote = '"' && c = '\\' then
        if rest.head?.any isBreak then
          quotedFrom quote 1 (.behindEscapedBreak [] true) out rest
        else
          match unescape rest with
          | .error e => .error e
          | .ok (d, used) => quotedFrom quote used (.inLine []) (d :: out) rest
      else quotedFrom quote 0 (.inLine []) (c :: out) rest

/-- The scalar behind an opening quote, and the text behind the closing one. -/
def quotedScalar (quote : Char) (s : Text) : Except Error (Text × Text) :=
  quotedFrom quote 0 (.inLine []) [] s

/-! ## Plain scalars -/

/-- The characters that end a plain scalar inside a flow collection. -/
def flowIndicators : Text := ",?[]\x7b\x7d".toList

/-- The characters that, inside a flow collection, make a colon before them a mark. -/
def flowValueEnds : Text := ",[]\x7b\x7d".toList

/-- A plain scalar ends before the character, given what follows it. -/
def endsPlain (inFlow : Bool) (c : Char) (next : Option Char) : Bool :=
  isSpace c || isBreak c
    || (c = ':' && (endsToken next || (inFlow && next.any flowValueEnds.contains)))
    || (inFlow && flowIndicators.contains c)

/-- Where a reader of a plain scalar stands. -/
inductive PlainPlace
  /-- Among characters that are no blanks. -/
  | inWord
  /-- Behind some blanks, latest first. -/
  | behindSpaces (spaces : Text)
  /-- Behind a first break and more breaks, latest first, and in a column of the last line. -/
  | behindBreak (first : Char) (more : Text) (column : Nat)

/-- A plain scalar as it was read. -/
structure PlainScalar where
  /-- The scalar. -/
  text : Text
  /-- The text behind the scalar and what follows it of blanks and breaks. -/
  rest : Text
  /-- A break was read behind the scalar's last character. -/
  brokeLine : Bool

/-- What the reader of a plain scalar has collected when it comes to a character of the scalar. -/
def PlainPlace.settle (out : Text) : PlainPlace → Text
  | .inWord => out
  | .behindSpaces spaces => spaces ++ out
  | .behindBreak first more _ => fold first more ++ out

/-- The reader of a plain scalar stands behind a break. -/
def PlainPlace.brokeLine : PlainPlace → Bool
  | .behindBreak .. => true
  | _ => false

/-- At a place behind a break, the scalar does not go on: the line is not indented, or it begins with
a mark between documents. -/
def PlainPlace.mustEnd (inFlow : Bool) (indent : Int) (s : Text) : PlainPlace → Bool
  | .behindBreak _ _ column =>
    (column = 0 && isSeparator s) || (!inFlow && (column : Int) < indent)
  | _ => false

/-- The place behind a blank. -/
def PlainPlace.afterSpace : PlainPlace → PlainPlace
  | .inWord => .behindSpaces [' ']
  | .behindSpaces spaces => .behindSpaces (' ' :: spaces)
  | .behindBreak first more column => .behindBreak first more (column + 1)

/-- The place behind a break. -/
def PlainPlace.afterBreak (c : Char) : PlainPlace → PlainPlace
  | .behindBreak first more _ => .behindBreak first (c :: more) 0
  | _ => .behindBreak c [] 0

/-- A comment can begin at the place. -/
def PlainPlace.allowsComment : PlainPlace → Bool
  | .inWord => false
  | _ => true

/-- The scalar from a place on.  Its lines are indented by `indent` or more. -/
def plainFrom (inFlow : Bool) (indent : Int) : PlainPlace → (out : Text) → Text → PlainScalar
  | place, out, [] => ⟨out.reverse, [], place.brokeLine⟩
  | place, out, c :: rest =>
    if c = ' ' then plainFrom inFlow indent place.afterSpace out rest
    else if isBreak c then plainFrom inFlow indent (place.afterBreak c) out rest
    else if place.mustEnd inFlow indent (c :: rest) || (c = '#' && place.allowsComment)
        || endsPlain inFlow c rest.head? then
      ⟨out.reverse, c :: rest, place.brokeLine⟩
    else plainFrom inFlow indent .inWord (c :: place.settle out) rest

/-- The plain scalar at the front of a text. -/
def plainScalar (inFlow : Bool) (indent : Int) (s : Text) : PlainScalar :=
  plainFrom inFlow indent .inWord [] s

/-! ## Block scalars -/

/-- What becomes of the breaks at the end of a block. -/
inductive Chomping
  /-- None is kept. -/
  | strip
  /-- One is kept. -/
  | clip
  /-- All are kept. -/
  | keep
deriving DecidableEq

/-- How a block is announced. -/
structure BlockHeader where
  /-- What becomes of the breaks at its end. -/
  chomping : Chomping
  /-- How much further it is indented, if that is said. -/
  increment : Option Nat

/-- A sign that says what becomes of the breaks at the end of a block. -/
def chomping? : Text → Option (Chomping × Text)
  | '+' :: rest => some (.keep, rest)
  | '-' :: rest => some (.strip, rest)
  | _ => none

/-- A digit that says how much further a block is indented. -/
def increment? : Text → Option (Nat × Text)
  | c :: rest => if '0' ≤ c && c ≤ '9' then some (c.toNat - '0'.toNat, rest) else none
  | [] => none

/-- The announcement behind the mark of a block, and the text behind its line. -/
def blockHeader? (s : Text) : Option (BlockHeader × Text) := do
  let (first, s) :=
    match chomping? s with
    | some (chomping, s) => (some chomping, s)
    | none => (none, s)
  let (increment, s) :=
    match increment? s with
    | some (n, s) => (some n, s)
    | none => (none, s)
  let (second, s) :=
    match if first.isNone && increment.isSome then chomping? s else none with
    | some (chomping, s) => (some chomping, s)
    | none => (none, s)
  if increment = some 0 || !endsWord s.head? then none
  else
    let s ← restOfLine? s
    some (⟨(first.or second).getD .clip, increment⟩, s)

/-- The breaks before the first line of a block, latest first, the widest indentation among them and
of that line, the latter's own, and the text behind it. -/
def blockIndentation : (breaks : Text) → (widest column : Nat) → Text → Text × Nat × Nat × Text
  | breaks, widest, column, [] => (breaks, widest, column, [])
  | breaks, widest, column, c :: rest =>
    if c = ' ' then blockIndentation breaks (max widest (column + 1)) (column + 1) rest
    else if isBreak c then blockIndentation (c :: breaks) widest 0 rest
    else (breaks, widest, column, c :: rest)

/-- The breaks before a line of a block, latest first, its indentation as far as it counts, and the
text behind it. -/
def blockBreaks (indent : Nat) : (breaks : Text) → (column : Nat) → Text → Text × Nat × Text
  | breaks, column, [] => (breaks, column, [])
  | breaks, column, c :: rest =>
    if c = ' ' && column < indent then blockBreaks indent breaks (column + 1) rest
    else if isBreak c then blockBreaks indent (c :: breaks) 0 rest
    else (breaks, column, c :: rest)

/-- Where a reader of a block stands. -/
inductive BlockPlace
  /-- In a line; `leadingSpace` if it begins with a blank. -/
  | inLine (leadingSpace : Bool)
  /-- Behind the break of such a line and more breaks, latest first, and in a column of the last
  line. -/
  | behindBreak (leadingSpace : Bool) (first : Char) (more : Text) (column : Nat)

/-- What stands between two lines of a block, last character first. -/
def joinLines (folded leadingSpace : Bool) (first : Char) (more : Text) (next : Char) : Text :=
  if folded && first = '\n' && !leadingSpace && !isSpace next then
    if more.isEmpty then [' '] else more
  else more ++ [first]

/-- The end of a block: its last break, if it has one, and more breaks, latest first. -/
def chomp (chomping : Chomping) (last : Text) (more : Text) : Text :=
  match chomping with
  | .strip => []
  | .clip => last
  | .keep => more ++ last

/-- A block from a place on, and the text behind it. -/
def blockFrom (folded : Bool) (chomping : Chomping) (indent : Nat) :
    BlockPlace → (out : Text) → Text → Text × Text
  | .inLine _, out, [] => (out.reverse, [])
  | .behindBreak _ first more _, out, [] => ((chomp chomping [first] more ++ out).reverse, [])
  | .inLine leadingSpace, out, c :: rest =>
    if isBreak c then
      blockFrom folded chomping indent (.behindBreak leadingSpace c [] 0) out rest
    else blockFrom folded chomping indent (.inLine leadingSpace) (c :: out) rest
  | .behindBreak leadingSpace first more column, out, c :: rest =>
    if c = ' ' && column < indent then
      blockFrom folded chomping indent (.behindBreak leadingSpace first more (column + 1)) out rest
    else if isBreak c then
      blockFrom folded chomping indent (.behindBreak leadingSpace first (c :: more) 0) out rest
    else if column = indent then
      blockFrom folded chomping indent (.inLine (isSpace c))
        (c :: (joinLines folded leadingSpace first more c ++ out)) rest
    else ((chomp chomping [first] more ++ out).reverse, c :: rest)

/-- The block behind its mark, in a collection that is indented by `indent`, and the text behind
it. -/
def blockScalar (folded : Bool) (indent : Int) (s : Text) : Except Error (Text × Text) :=
  match blockHeader? s with
  | none => .error .malformedYaml
  | some (header, s) =>
    let least := (max 1 (indent + 1)).toNat
    let (breaks, width, column, rest) :=
      match header.increment with
      | none =>
        let (breaks, widest, column, rest) := blockIndentation [] 0 0 s
        (breaks, max least widest, column, rest)
      | some n =>
        let width := least + n - 1
        let (breaks, column, rest) := blockBreaks width [] 0 s
        (breaks, width, column, rest)
    match rest with
    | c :: _ =>
      if column = width then
        .ok (blockFrom folded header.chomping width (.inLine (isSpace c)) breaks rest)
      else .ok ((chomp header.chomping [] breaks).reverse, rest)
    | [] => .ok ((chomp header.chomping [] breaks).reverse, [])

end Recurrence.Yaml
