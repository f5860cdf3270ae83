import Recurrence.Text.Ranges

/-!
# Text

A text is a list of characters.  This module holds the operations that the rest of the library
builds on: blanks and stripping, cutting at a separator and joining again, and decimal numerals.

Blank are the characters that Unicode calls white space, and the four separators U+001C to U+001F.
-/

namespace Recurrence

/-- A text: its characters in order. -/
abbrev Text := List Char

namespace Text

/-! ## Blanks -/

/-- The code points of blank characters. -/
def blankRanges : CodeRanges := [
    (0x9, 0xD), (0x1C, 0x20), (0x85, 0x85), (0xA0, 0xA0), (0x1680, 0x1680), (0x2000, 0x200A),
    (0x2028, 0x2029), (0x202F, 0x202F), (0x205F, 0x205F), (0x3000, 0x3000)]

/-- White space of any script. -/
def isBlank (c : Char) : Bool :=
  blankRanges.holds c.toNat

/-- The text without its leading blanks. -/
def stripLeft (s : Text) : Text :=
  s.dropWhile isBlank

/-- The text without its trailing blanks. -/
def stripRight (s : Text) : Text :=
  (s.reverse.dropWhile isBlank).reverse

/-- The text without the blanks at its two ends. -/
def strip (s : Text) : Text :=
  stripRight (stripLeft s)

/-- A text with nothing in it but blanks. -/
def isBlankText (s : Text) : Bool :=
  s.all isBlank

/-! ## Cutting and joining -/

/-- The pieces between the separators: one more piece than there are separators. -/
def splitOn (sep : Char) : Text → List Text
  | [] => [[]]
  | c :: rest =>
    if c = sep then [] :: splitOn sep rest
    else
      match splitOn sep rest with
      | [] => [[c]]
      | piece :: pieces => (c :: piece) :: pieces

/-- The text before the first separator and the text after it; `none` if there is no separator. -/
def cutAt (sep : Char) : Text → Option (Text × Text)
  | [] => none
  | c :: rest =>
    if c = sep then some ([], rest)
    else (cutAt sep rest).map fun (before, after) => (c :: before, after)

/-- The texts one after the other, with `sep` between neighbours. -/
def joinWith (sep : Text) : List Text → Text
  | [] => []
  | [s] => s
  | s :: t :: rest => s ++ sep ++ joinWith sep (t :: rest)

theorem splitOn_ne_nil (sep : Char) (s : Text) : splitOn sep s ≠ [] := by
  cases s with
  | nil => simp [splitOn]
  | cons c rest =>
    by_cases h : c = sep
    · simp [splitOn, h]
    · simp only [splitOn, h, if_false]
      split <;> simp

/-- The text begins with `lead`. -/
def startsWith (lead s : Text) : Bool :=
  lead.isPrefixOf s

/-! ## Size -/

/-- The number of octets that a text takes in UTF-8. -/
def octetCount : Text → Nat
  | [] => 0
  | c :: rest => c.utf8Size + octetCount rest

/-! ## ASCII letters -/

/-- A character of the ASCII block. -/
def isAscii (c : Char) : Bool :=
  c.toNat < 0x80

/-- A capital letter of the ASCII block. -/
def isAsciiUpper (c : Char) : Bool :=
  'A' ≤ c && c ≤ 'Z'

/-- The text with ASCII capitals made small.  For a comparison with an ASCII word that has no `k`,
this is as good as any full lower-case mapping: no other letter becomes one of its letters. -/
def lower (s : Text) : Text :=
  s.map Char.toLower

/-! ## Numerals -/

/-- The decimal numeral of a natural number. -/
def ofNat (n : Nat) : Text :=
  Nat.toDigits 10 n

/-- The decimal numeral of an integer, with `-` before a negative one. -/
def ofInt : Int → Text
  | .ofNat n => ofNat n
  | .negSucc n => '-' :: ofNat (n + 1)

/-- The text brought to a width by repeating `fill` in front of it. -/
def padLeft (fill : Char) (width : Nat) (s : Text) : Text :=
  List.replicate (width - s.length) fill ++ s

/-- A number in at least `width` digits. -/
def padded (width n : Nat) : Text :=
  padLeft '0' width (ofNat n)

end Text

end Recurrence
