import Recurrence.Text.Basic
import Recurrence.Text.Digit
import Recurrence.Text.Letter

/-!
# The words and numbers of a timestamp

A timestamp in free form is cut into **tokens**: words, numbers, and single other characters; a blank
of any kind becomes the token of one space, and NUL characters are dropped beforehand.

Letters and digits are collected as long as they fit.  A point keeps a word or a number going, since
it may belong to either (`a.m.`, `12.5`), and what follows the point decides how it goes on; a comma
keeps a number of two digits or more going, since it may be a decimal mark.  Such a *dotted* piece is
taken apart again at its points and commas unless it looks like one number with a fraction.  In a
number with a fraction the comma is replaced by a point.
-/

namespace Recurrence.Timestamp

/-- What the characters collected so far look like. -/
inductive Shape
  /-- Letters. -/
  | word
  /-- Digits. -/
  | number
  /-- A piece with a point, last going on as a word. -/
  | dottedWord
  /-- A piece with a point or comma, last going on as a number. -/
  | dottedNumber
deriving DecidableEq, Repr

/-- A token that is being collected. -/
structure Piece where
  /-- What it looks like. -/
  shape : Shape
  /-- Its characters, last first. -/
  reversed : Text
  /-- Another character was looked at while the piece was going on as a word. -/
  sawLetters : Bool
deriving DecidableEq, Repr

namespace Piece

/-- The piece with one more character. -/
def push (p : Piece) (shape : Shape) (c : Char) : Piece :=
  ⟨shape, c :: p.reversed, p.sawLetters⟩

/-- The piece when a further character is looked at. -/
def look (p : Piece) : Piece :=
  match p.shape with
  | .word | .dottedWord => { p with sawLetters := true }
  | .number | .dottedNumber => p

/-- The last character of a piece. -/
def lastIs (p : Piece) (c : Char) : Bool :=
  p.reversed.head? == some c

/-- The piece with a further character, if the character fits. -/
def extend? (p : Piece) (c : Char) : Option Piece :=
  match p.shape with
  | .word =>
    if Text.isLetter c then some (p.push .word c)
    else if c = '.' then some (p.push .dottedWord c)
    else none
  | .number =>
    if Text.isDigit c then some (p.push .number c)
    else if c = '.' || (c = ',' && 2 ≤ p.reversed.length) then some (p.push .dottedNumber c)
    else none
  | .dottedWord =>
    if c = '.' || Text.isLetter c then some (p.push .dottedWord c)
    else if Text.isDigit c && p.lastIs '.' then some (p.push .dottedNumber c)
    else none
  | .dottedNumber =>
    if c = '.' || Text.isDigit c then some (p.push .dottedNumber c)
    else if Text.isLetter c && p.lastIs '.' then some (p.push .dottedWord c)
    else none

/-- A point or a comma. -/
def isMark (c : Char) : Bool :=
  c = '.' || c = ','

/-- A text cut at its points and commas, the marks being pieces of their own. -/
def cutAtMarks : Text → List Text
  | [] => []
  | c :: rest =>
    if isMark c then [c] :: cutAtMarks rest
    else
      match cutAtMarks rest with
      | [] => [[c]]
      | piece :: pieces =>
        if piece.any isMark then [c] :: piece :: pieces else (c :: piece) :: pieces

/-- A decimal comma replaced by a point, unless there is a point already. -/
def withPoint (s : Text) : Text :=
  if s.contains '.' then s else s.map fun c => if c = ',' then '.' else c

/-- The tokens of a finished piece. -/
def tokens (p : Piece) : List Text :=
  let s := p.reversed.reverse
  match p.shape with
  | .word | .number => [s]
  | .dottedWord | .dottedNumber =>
    if p.sawLetters || 1 < s.count '.' || p.reversed.head?.any isMark then cutAtMarks s
    else if p.shape == .dottedNumber then [withPoint s]
    else [s]

end Piece

/-- The piece that a character begins; `none` if the character is a token of its own. -/
def beginPiece? (c : Char) : Option Piece :=
  if Text.isLetter c then some ⟨.word, [c], false⟩
  else if Text.isDigit c then some ⟨.number, [c], false⟩
  else none

/-- The token of a character that begins no piece. -/
def loneToken (c : Char) : Text :=
  if Text.isBlank c then [' '] else [c]

/-- The tokens of the characters after the piece that is being collected, and of that piece. -/
def tokensFrom : Option Piece → Text → List Text
  | none, [] => []
  | some p, [] => p.tokens
  | none, c :: rest =>
    match beginPiece? c with
    | some p => tokensFrom (some p) rest
    | none => loneToken c :: tokensFrom none rest
  | some p, c :: rest =>
    match p.look.extend? c with
    | some q => tokensFrom (some q) rest
    | none =>
      p.look.tokens ++
        match beginPiece? c with
        | some q => tokensFrom (some q) rest
        | none => loneToken c :: tokensFrom none rest

/-- The tokens of a timestamp. -/
def tokens (s : Text) : List Text :=
  tokensFrom none (s.filter fun c => c.toNat != 0)

end Recurrence.Timestamp
