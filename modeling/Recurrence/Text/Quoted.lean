import Recurrence.Text.Basic
import Recurrence.Text.Printable

/-!
# Quoted text

Messages show a text in quotes so that its ends and its invisible characters can be seen.  The quote
is `'`, unless the text has a `'` and no `"`.  The quote in force and the backslash are preceded by a
backslash; line feed, carriage return and tab are `\n`, `\r` and `\t`; any other character that is
not printable is written in hexadecimal, in two, four or eight digits.
-/

namespace Recurrence.Text

/-- A number in at least `width` hexadecimal digits. -/
def hexPadded (width n : Nat) : Text :=
  padLeft '0' width (Nat.toDigits 16 n)

/-- A character as it stands between quotes. -/
def quotedChar (quote c : Char) : Text :=
  if c = quote || c = '\\' then ['\\', c]
  else if c = '\n' then ['\\', 'n']
  else if c = '\r' then ['\\', 'r']
  else if c = '\t' then ['\\', 't']
  else if isPrintable c then [c]
  else if c.toNat ≤ 0xFF then ['\\', 'x'] ++ hexPadded 2 c.toNat
  else if c.toNat ≤ 0xFFFF then ['\\', 'u'] ++ hexPadded 4 c.toNat
  else ['\\', 'U'] ++ hexPadded 8 c.toNat

/-- The quote that a text is written in. -/
def quoteFor (s : Text) : Char :=
  if s.contains '\'' && !s.contains '"' then '"' else '\''

/-- The text in quotes. -/
def quoted (s : Text) : Text :=
  [quoteFor s] ++ s.flatMap (quotedChar (quoteFor s)) ++ [quoteFor s]

end Recurrence.Text
