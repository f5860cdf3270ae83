import Recurrence.Proofs.Text.Digits
import Recurrence.Timestamp.Token

/-! # The tokens of dates and times

A numeral is one token as long as no digit and no decimal mark follows it
(`tokensFrom_numeral`), a letter on its own is one (`tokensFrom_letter`), and so is a
character that is neither letter nor digit (`tokensFrom_lone`).  A text written with
such parts is cut into them.
-/
namespace Recurrence.Timestamp
open Text

/-- A word or a number ends where the text does, or before a character that does not fit. -/
theorem tokensFrom_of_extend?_eq_none {p : Piece} {rest : Text}
    (hshape : p.shape = .word ∨ p.shape = .number)
    (h : ∀ c ∈ rest.head?, p.look.extend? c = none) :
    tokensFrom (some p) rest = p.reversed.reverse :: tokensFrom none rest := by
  have hlast : p.tokens = [p.reversed.reverse] := by
    rcases hshape with hshape | hshape <;> simp [Piece.tokens, hshape]
  have hlook : p.look.tokens = [p.reversed.reverse] := by
    rcases hshape with hshape | hshape <;> simp [Piece.look, Piece.tokens, hshape]
  cases rest with
  | nil => exact hlast
  | cons c rest =>
    simp only [tokensFrom, h c rfl, hlook, List.singleton_append]

/-- Digits are collected one after the other. -/
theorem tokensFrom_digits {s : Text} (hs : ∀ c ∈ s, c.isDigit = true) (reversed rest : Text) :
    tokensFrom (some ⟨.number, reversed, false⟩) (s ++ rest) =
      tokensFrom (some ⟨.number, s.reverse ++ reversed, false⟩) rest := by
  induction s generalizing reversed with
  | nil => rfl
  | cons c s ih =>
    have hextend : (Piece.look ⟨.number, reversed, false⟩).extend? c =
        some ⟨.number, c :: reversed, false⟩ := by
      simp [Piece.look, Piece.extend?, Piece.push, isDigit_of_isDigit (hs c List.mem_cons_self)]
    rw [List.cons_append, List.reverse_cons, List.append_assoc]
    simp only [tokensFrom, hextend]
    exact ih (fun d hd => hs d (List.mem_cons_of_mem c hd)) (c :: reversed)

theorem tokensFrom_numeral {s rest : Text} {width n : Nat} (h : IsNumeral width n s)
    (hrest : ∀ c ∈ rest.head?, isDigit c = false ∧ Piece.isMark c = false) :
    tokensFrom none (s ++ rest) = s :: tokensFrom none rest := by
  obtain ⟨c, s, rfl⟩ := List.exists_cons_of_ne_nil h.ne_nil
  have hc := h.isDigit c List.mem_cons_self
  have hbegin : beginPiece? c = some ⟨.number, [c], false⟩ := by
    simp [beginPiece?, isLetter_of_isDigit hc, isDigit_of_isDigit hc]
  simp only [List.cons_append, tokensFrom, hbegin]
  rw [tokensFrom_digits fun d hd => h.isDigit d (List.mem_cons_of_mem c hd),
    tokensFrom_of_extend?_eq_none (.inr rfl), List.reverse_append, List.reverse_reverse]
  · rfl
  · intro d hd
    obtain ⟨hdigit, hmark⟩ := hrest d hd
    have hmarks : d ≠ '.' ∧ d ≠ ',' := by simpa [Piece.isMark] using hmark
    simp [Piece.look, Piece.extend?, hdigit, hmarks]

theorem tokensFrom_letter {c : Char} {rest : Text} (hc : isLetter c = true)
    (hrest : ∀ d ∈ rest.head?, isLetter d = false ∧ Piece.isMark d = false) :
    tokensFrom none (c :: rest) = [c] :: tokensFrom none rest := by
  have hbegin : beginPiece? c = some ⟨.word, [c], false⟩ := by simp [beginPiece?, hc]
  simp only [tokensFrom, hbegin]
  refine tokensFrom_of_extend?_eq_none (.inl rfl) fun d hd => ?_
  obtain ⟨hletter, hmark⟩ := hrest d hd
  have hmarks : d ≠ '.' ∧ d ≠ ',' := by simpa [Piece.isMark] using hmark
  simp [Piece.look, Piece.extend?, hletter, hmarks]

theorem tokensFrom_lone {c : Char} (hletter : isLetter c = false) (hdigit : isDigit c = false)
    (hblank : isBlank c = false) (rest : Text) :
    tokensFrom none (c :: rest) = [c] :: tokensFrom none rest := by
  have hbegin : beginPiece? c = none := by simp [beginPiece?, hletter, hdigit]
  simp [tokensFrom, hbegin, loneToken, hblank]

end Recurrence.Timestamp
