import Recurrence.Text.Ranges
import Recurrence.Text.Basic

/-!
# The characters of YAML

A YAML text consists of printable characters.  Its line breaks are line feed, line separator and
paragraph separator; carriage return and next line are taken for line feeds.  Within a line, tokens
are kept apart by blanks.  The end of the text ends a token just as a break does.
-/

namespace Recurrence.Yaml

/-- The code points that a YAML text may have. -/
def allowedRanges : Text.CodeRanges := [
    (0x9, 0xA), (0xD, 0xD), (0x20, 0x7E), (0x85, 0x85), (0xA0, 0xD7FF), (0xE000, 0xFFFD),
    (0x10000, 0x10FFFF)]

/-- A YAML text may have the character. -/
def isAllowed (c : Char) : Bool :=
  allowedRanges.holds c.toNat

/-- A line break, once all of them are written in one way. -/
def isBreak (c : Char) : Bool :=
  c = '\n' || c = '\u2028' || c = '\u2029'

/-- The text with carriage returns and next lines written as line feeds. -/
def normalizeBreaks : Text → Text
  | [] => []
  | c :: rest =>
    if c = '\r' then
      match normalizeBreaks rest with
      | '\n' :: after => if rest.head? = some '\n' then '\n' :: after else '\n' :: '\n' :: after
      | after => '\n' :: after
    else if c = '\x85' then '\n' :: normalizeBreaks rest
    else c :: normalizeBreaks rest

/-- A blank or a tab. -/
def isSpace (c : Char) : Bool :=
  c = ' ' || c = '\t'

/-- Nothing, a line break or a blank: what ends a directive or a tag. -/
def endsWord (c : Option Char) : Bool :=
  c.all fun c => c = ' ' || isBreak c

/-- Nothing, a line break, a blank or a tab: what must follow an indicator. -/
def endsToken (c : Option Char) : Bool :=
  c.all fun c => isSpace c || isBreak c

/-- A letter, a digit, a hyphen or an underscore. -/
def isWordChar (c : Char) : Bool :=
  c.isAlphanum || c = '-' || c = '_'

/-- The text begins with a mark between documents, `---` or `...`, that nothing is written to. -/
def isSeparator (s : Text) : Bool :=
  (Text.startsWith ['-', '-', '-'] s || Text.startsWith ['.', '.', '.'] s) && endsToken s[3]?

/-- What is left of a line that holds nothing more, behind its break; `none` if it holds something
other than blanks and a comment. -/
def restOfLine? (s : Text) : Option Text :=
  let s := s.dropWhile (· = ' ')
  let s := if s.head? = some '#' then s.dropWhile (fun c => !isBreak c) else s
  match s with
  | [] => some []
  | c :: rest => if isBreak c then some rest else none

/-- The value of a hexadecimal digit. -/
def hexDigit? (c : Char) : Option Nat :=
  if '0' ≤ c && c ≤ '9' then some (c.toNat - '0'.toNat)
  else if 'a' ≤ c && c ≤ 'f' then some (c.toNat - 'a'.toNat + 10)
  else if 'A' ≤ c && c ≤ 'F' then some (c.toNat - 'A'.toNat + 10)
  else none

/-- The number that the first `count` characters spell in hexadecimal digits. -/
def takeHex? (count : Nat) (s : Text) : Option Nat :=
  if s.length < count then none
  else ((s.take count).mapM hexDigit?).map fun ds => ds.foldl (fun n d => 16 * n + d) 0

end Recurrence.Yaml
