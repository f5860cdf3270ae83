import Mathlib.Algebra.Group.Nat.Defs
import Recurrence.Proofs.Text.Cutting
import Recurrence.Text.Integer
import Recurrence.Text.Letter

/-! # Numerals of a given width

Dates and times are written with numbers brought to a width by zeros in front.  Such a
text consists of the ten ASCII digits, which are digits to every class of characters
(`forall_isDigit`), and it reads as the number it was made from
(`isNumeral_padded`, `IsNumeral.readDigits?_eq`).
-/
namespace Recurrence.Text
variable {s : Text} {c : Char} {width n : Nat}

/-! ## Digits -/

/-- What holds of the ten digits by inspection holds of every digit. -/
theorem forall_isDigit (P : Char → Prop) (h : ∀ k : Fin 10, P (Nat.digitChar k))
    (hc : c.isDigit = true) : P c := by
  have hrange : 48 ≤ c.toNat ∧ c.toNat ≤ 57 := by
    simpa [Char.isDigit, UInt32.le_iff_toNat_le] using hc
  have hchar : Nat.digitChar (c.toNat - 48) = c := by
    apply Char.toNat_inj.mp
    rw [Nat.toNat_digitChar_of_lt_ten (by omega)]
    omega
  rw [← hchar]
  exact h ⟨c.toNat - 48, by omega⟩

theorem digitValue?_of_isDigit (hc : c.isDigit = true) : digitValue? c = some (c.toNat - 48) :=
  forall_isDigit (fun c => digitValue? c = some (c.toNat - 48)) (by decide) hc

theorem isDecimal_of_isDigit (hc : c.isDigit = true) : isDecimal c = true :=
  forall_isDigit (isDecimal · = true) (by decide) hc

theorem isDigit_of_isDigit (hc : c.isDigit = true) : isDigit c = true :=
  forall_isDigit (isDigit · = true) (by decide) hc

theorem isLetter_of_isDigit (hc : c.isDigit = true) : isLetter c = false :=
  forall_isDigit (isLetter · = false) (by decide) hc

theorem isBlank_of_isDigit (hc : c.isDigit = true) : isBlank c = false :=
  forall_isDigit (isBlank · = false) (by decide) hc

theorem isDigit_of_mem_ofNat (hc : c ∈ ofNat n) : c.isDigit = true :=
  Nat.isDigit_of_mem_toDigits (by decide) (by decide) hc

theorem ofNat_injective : Function.Injective ofNat := by
  have hvalue : ∀ k, Nat.ofDigitChars 10 (ofNat k) 0 = k :=
    fun k => Nat.ofDigitChars_toDigits (by decide) (by decide)
  intro n m h
  rw [← hvalue n, h, hvalue]

theorem mem_ofInt {n : Int} (hc : c ∈ ofInt n) : c = '-' ∨ c.isDigit = true := by
  cases n with
  | ofNat n => exact .inr (isDigit_of_mem_ofNat hc)
  | negSucc n => exact (List.mem_cons.mp hc).imp_right isDigit_of_mem_ofNat

theorem ofInt_injective : Function.Injective ofInt := by
  -- A numeral with a sign is not one without.
  have hsign : ∀ k digits, ofNat k ≠ '-' :: digits := fun k digits h =>
    nomatch isDigit_of_mem_ofNat (h ▸ List.mem_cons_self : '-' ∈ ofNat k)
  intro n m h
  cases n with
  | ofNat n =>
    cases m with
    | ofNat m => exact congrArg Int.ofNat (ofNat_injective h)
    | negSucc m => exact absurd h (hsign n _)
  | negSucc n =>
    cases m with
    | ofNat m => exact absurd h.symm (hsign m _)
    | negSucc m =>
      have hdigits : n + 1 = m + 1 := ofNat_injective (List.cons.inj h).2
      exact congrArg Int.negSucc (Nat.succ.inj hdigits)

/-- The ten digits by their values make up the number that they do as characters. -/
theorem ofDigits_map_toNat (s : Text) :
    ofDigits (s.map fun c => c.toNat - 48) = Nat.ofDigitChars 10 s 0 := by
  rw [ofDigits, List.foldl_map]
  rfl

/-! ## Numerals -/

/-- The text has so many digits, and they make up the number. -/
structure IsNumeral (width n : Nat) (s : Text) : Prop where
  /-- There is a digit. -/
  pos : 0 < width
  /-- There are digits only. -/
  isDigit : ∀ c ∈ s, c.isDigit = true
  /-- Their number. -/
  length_eq : s.length = width
  /-- What they make up. -/
  value_eq : Nat.ofDigitChars 10 s 0 = n

theorem isDigit_of_mem_padded (hc : c ∈ padded width n) : c.isDigit = true := by
  rcases List.mem_append.mp hc with hzero | hdigit
  · rw [List.eq_of_mem_replicate hzero]
    rfl
  · exact isDigit_of_mem_ofNat hdigit

theorem isNumeral_padded (hwidth : 0 < width) (h : n < 10 ^ width) :
    IsNumeral width n (padded width n) := by
  have hlength : (ofNat n).length ≤ width := (Nat.length_toDigits_le_iff (by decide) hwidth).mpr h
  refine ⟨hwidth, fun c => isDigit_of_mem_padded, ?_, ?_⟩
  · rw [padded, padLeft, List.length_append, List.length_replicate]
    omega
  · have hzeros : ∀ k, Nat.ofDigitChars 10 (List.replicate k '0') 0 = 0 := by
      intro k
      induction k with
      | zero => rfl
      | succ k ih => simpa [List.replicate_succ, Nat.ofDigitChars] using ih
    rw [padded, padLeft, Nat.ofDigitChars_append, hzeros, ofNat,
      Nat.ofDigitChars_toDigits (by decide) (by decide)]

namespace IsNumeral

theorem ne_nil (h : IsNumeral width n s) : s ≠ [] :=
  List.ne_nil_of_length_pos (h.length_eq ▸ h.pos)

/-- Numerals written one after the other are a numeral. -/
theorem append {t : Text} {width' n' : Nat} (hs : IsNumeral width n s)
    (ht : IsNumeral width' n' t) : ∃ k, IsNumeral (width + width') k (s ++ t) := by
  refine ⟨_, Nat.add_pos_left hs.pos width', fun c hc => ?_, ?_, rfl⟩
  · rcases List.mem_append.mp hc with h | h
    · exact hs.isDigit c h
    · exact ht.isDigit c h
  · rw [List.length_append, hs.length_eq, ht.length_eq]

/-- A numeral has no character that is not a digit. -/
theorem not_mem (h : IsNumeral width n s) (hc : c.isDigit = false) : c ∉ s :=
  fun hmem => ne_true_of_eq_false hc (h.isDigit c hmem)

theorem mapM_digitValue? (h : ∀ c ∈ s, c.isDigit = true) :
    s.mapM digitValue? = some (s.map fun c => c.toNat - 48) := by
  induction s with
  | nil => rfl
  | cons c s ih =>
    rw [List.mapM_cons, digitValue?_of_isDigit (h c List.mem_cons_self),
      ih fun d hd => h d (List.mem_cons_of_mem c hd)]
    rfl

theorem readDigits?_eq (h : IsNumeral width n s) : readDigits? s = some n := by
  rw [readDigits?, List.isEmpty_eq_false_iff.mpr h.ne_nil, mapM_digitValue? h.isDigit]
  exact congrArg some ((ofDigits_map_toNat s).trans h.value_eq)

end IsNumeral

end Recurrence.Text
