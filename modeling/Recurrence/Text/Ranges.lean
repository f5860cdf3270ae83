/-!
# Classes of characters as ranges

A class of characters that a standard fixes is data: the code points of its members, as closed
ranges in ascending order.  Membership stops at the first range that does not end before the code
point, so a character near the start of the table is found at once.
-/

namespace Recurrence.Text

/-- Closed ranges of code points, ascending and disjoint. -/
abbrev CodeRanges := List (Nat × Nat)

/-- A code point lies in one of the ranges. -/
def CodeRanges.holds : CodeRanges → Nat → Bool
  | [], _ => false
  | (first, last) :: rest, n => if n ≤ last then decide (first ≤ n) else CodeRanges.holds rest n

@[simp] theorem CodeRanges.holds_nil (n : Nat) : CodeRanges.holds [] n = false := rfl

theorem CodeRanges.holds_cons (first last n : Nat) (rest : CodeRanges) :
    CodeRanges.holds ((first, last) :: rest) n =
      if n ≤ last then decide (first ≤ n) else CodeRanges.holds rest n := rfl

end Recurrence.Text
