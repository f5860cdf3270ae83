import Recurrence.Text.Basic

/-!
# Base 64

Three octets are written as four characters, each for six bits.  A last group may be shorter and is
then filled up with `=`.  Characters that mean nothing are passed over, and so is everything behind
the filling.
-/

namespace Recurrence.Text

/-- The six bits that a character stands for. -/
def sextet? (c : Char) : Option Nat :=
  if 'A' ≤ c && c ≤ 'Z' then some (c.toNat - 'A'.toNat)
  else if 'a' ≤ c && c ≤ 'z' then some (c.toNat - 'a'.toNat + 26)
  else if '0' ≤ c && c ≤ '9' then some (c.toNat - '0'.toNat + 52)
  else if c = '+' then some 62
  else if c = '/' then some 63
  else none

/-- The octets behind the characters of a group that have been read, with the bits that they left
over; `filling` counts the `=` since the last of them. -/
def octetsFrom : (inGroup filling left : Nat) → Text → Option (List Nat)
  | inGroup, _, _, [] => if inGroup = 0 then some [] else none
  | inGroup, filling, left, c :: rest =>
    if c = '=' then
      if 2 ≤ inGroup then
        if 4 ≤ inGroup + filling + 1 then some [] else octetsFrom inGroup (filling + 1) left rest
      else octetsFrom inGroup filling left rest
    else
      match sextet? c with
      | none => octetsFrom inGroup filling left rest
      | some bits =>
        match inGroup with
        | 0 => octetsFrom 1 0 bits rest
        | 1 => (octetsFrom 2 0 (bits % 16) rest).map ((4 * left + bits / 16) :: ·)
        | 2 => (octetsFrom 3 0 (bits % 4) rest).map ((16 * left + bits / 4) :: ·)
        | _ => (octetsFrom 0 0 0 rest).map ((64 * left + bits) :: ·)

/-- The octets that a text in base 64 stands for; `none` if the last group is not complete. -/
def readBase64? (s : Text) : Option (List Nat) :=
  octetsFrom 0 0 0 s

end Recurrence.Text
