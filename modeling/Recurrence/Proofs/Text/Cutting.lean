import Mathlib.Data.List.DropRight
import Recurrence.Text.Basic

/-! # Stripping, cutting and joining

A stripped text has no blank at either end (`isTrimmed_strip`), and a text without
blanks at its ends is its own stripped form (`IsTrimmed.strip_eq`).  Pieces that hold
no separator come back from the text that joins them (`splitOn_joinWith`), so a text
tells its pieces (`splitOn_eq_iff`), and a cut is at the first separator
(`cutAt_eq_some`).  None of these operations makes up a character.
-/
namespace Recurrence.Text
variable {s t piece : Text} {pieces : List Text} {c sep : Char}

/-! ## Texts without blanks at their ends -/

/-- Neither end of the text is blank. -/
structure IsTrimmed (s : Text) : Prop where
  /-- The first character, if there is one, is no blank. -/
  head : ∀ h : s ≠ [], isBlank (s.head h) = false
  /-- The last character, if there is one, is no blank. -/
  last : ∀ h : s ≠ [], isBlank (s.getLast h) = false

theorem strip_eq_rdropWhile (s : Text) : strip s = (stripLeft s).rdropWhile isBlank := rfl

theorem head_stripLeft (h : stripLeft s ≠ []) : isBlank ((stripLeft s).head h) = false :=
  List.head_dropWhile_not isBlank h

theorem stripLeft_eq_self (h : ∀ h : s ≠ [], isBlank (s.head h) = false) : stripLeft s = s := by
  cases s with
  | nil => rfl
  | cons c rest =>
    have hc : ¬ isBlank c := by simpa using h (List.cons_ne_nil c rest)
    exact List.dropWhile_cons_of_neg hc

theorem IsTrimmed.strip_eq (h : IsTrimmed s) : strip s = s := by
  rw [strip_eq_rdropWhile, stripLeft_eq_self h.head, List.rdropWhile_eq_self_iff]
  intro hne
  simp [h.last hne]

theorem isTrimmed_strip (s : Text) : IsTrimmed (strip s) := by
  constructor
  · intro h
    -- What is stripped on the right is a prefix, so it begins as the text stripped on the left.
    have hlead : strip s <+: stripLeft s := List.rdropWhile_prefix isBlank (stripLeft s)
    rw [hlead.head h]
    exact head_stripLeft (hlead.ne_nil h)
  · intro h
    exact eq_false_of_ne_true (List.rdropWhile_last_not isBlank (stripLeft s) h)

theorem mem_of_mem_strip (h : c ∈ strip s) : c ∈ s :=
  (List.dropWhile_sublist isBlank).subset
    ((List.rdropWhile_prefix isBlank (stripLeft s)).subset h)

theorem isBlankText_eq_false_iff : isBlankText s = false ↔ ∃ c ∈ s, isBlank c = false := by
  simp [isBlankText]

/-- Stripping leaves something of a text that is not blank. -/
theorem strip_ne_nil (h : isBlankText s = false) : strip s ≠ [] := by
  obtain ⟨c, hc, hblank⟩ := isBlankText_eq_false_iff.mp h
  intro hnil
  rw [strip_eq_rdropWhile, List.rdropWhile_eq_nil_iff] at hnil
  by_cases hleft : stripLeft s = []
  · rw [List.dropWhile_eq_nil_iff.mp hleft c hc] at hblank
    cases hblank
  · -- The text stripped on the left begins with a character that is no blank.
    exact absurd (hnil _ (List.head_mem hleft)) (ne_true_of_eq_false (head_stripLeft hleft))

theorem IsTrimmed.isBlankText_eq_false (h : IsTrimmed s) (hne : s ≠ []) :
    isBlankText s = false :=
  isBlankText_eq_false_iff.mpr ⟨s.head hne, List.head_mem hne, h.head hne⟩

theorem IsTrimmed.append_cons (hs : IsTrimmed s) (ht : IsTrimmed t) (hc : isBlank c = false) :
    IsTrimmed (s ++ c :: t) := by
  constructor
  · intro h
    rw [List.head_append]
    split
    · simpa using hc
    · exact hs.head _
  · intro h
    rw [List.getLast_append_of_ne_nil h (List.cons_ne_nil c t)]
    rcases eq_or_ne t [] with rfl | hne
    · simpa using hc
    · rw [List.getLast_cons hne]
      exact ht.last hne

/-! ## Splitting -/

theorem splitOn_cons_self (sep : Char) (s : Text) : splitOn sep (sep :: s) = [] :: splitOn sep s :=
  if_pos rfl

/-- A character that is no separator joins the first piece of the rest. -/
theorem splitOn_cons_of_ne (h : c ≠ sep) :
    ∃ first others, splitOn sep s = first :: others ∧
      splitOn sep (c :: s) = (c :: first) :: others := by
  rcases hs : splitOn sep s with _ | ⟨first, others⟩
  · exact absurd hs (splitOn_ne_nil sep s)
  · exact ⟨first, others, rfl, by simp only [splitOn, if_neg h, hs]⟩

/-- The pieces hold the characters of the text, apart from the separators. -/
theorem mem_of_mem_splitOn (h : piece ∈ splitOn sep s) (hc : c ∈ piece) : c ∈ s ∧ c ≠ sep := by
  induction s generalizing piece with
  | nil =>
    rw [splitOn, List.mem_singleton] at h
    rw [h] at hc
    cases hc
  | cons d s ih =>
    rcases eq_or_ne d sep with rfl | hd
    · rw [splitOn_cons_self, List.mem_cons] at h
      rcases h with rfl | h
      · cases hc
      · exact (ih h hc).imp_left (List.mem_cons_of_mem d)
    · obtain ⟨first, others, hs, hcons⟩ := splitOn_cons_of_ne (s := s) hd
      rw [hcons, List.mem_cons] at h
      rw [hs] at ih
      rcases h with rfl | h
      · rcases List.mem_cons.mp hc with rfl | hc
        · exact ⟨List.mem_cons_self, hd⟩
        · exact (ih List.mem_cons_self hc).imp_left (List.mem_cons_of_mem d)
      · exact (ih (List.mem_cons_of_mem first h) hc).imp_left (List.mem_cons_of_mem d)

theorem not_mem_of_mem_splitOn (h : piece ∈ splitOn sep s) : sep ∉ piece :=
  fun hsep => (mem_of_mem_splitOn h hsep).2 rfl

/-- What comes before the first separator belongs to the first piece. -/
theorem splitOn_append (h : sep ∉ s) (t : Text) :
    splitOn sep (s ++ t) = (splitOn sep t).modifyHead (s ++ ·) := by
  obtain ⟨piece, others, ht⟩ := List.exists_cons_of_ne_nil (splitOn_ne_nil sep t)
  rw [ht]
  induction s with
  | nil => exact ht
  | cons c s ih =>
    rw [List.mem_cons, not_or] at h
    obtain ⟨first, rest, hs, hcons⟩ := splitOn_cons_of_ne (s := s ++ t) (Ne.symm h.1)
    rw [ih h.2] at hs
    obtain ⟨rfl, rfl⟩ := List.cons.inj hs
    exact hcons

theorem splitOn_append_cons (h : sep ∉ s) : splitOn sep (s ++ sep :: t) = s :: splitOn sep t := by
  rw [splitOn_append h, splitOn_cons_self, List.modifyHead_cons, List.append_nil]

theorem splitOn_of_not_mem (h : sep ∉ s) : splitOn sep s = [s] := by
  simpa [splitOn] using splitOn_append h []

/-- A separator between two texts keeps their pieces apart. -/
theorem splitOn_append_sep (sep : Char) (s t : Text) :
    splitOn sep (s ++ sep :: t) = splitOn sep s ++ splitOn sep t := by
  induction s with
  | nil => exact splitOn_cons_self sep t
  | cons c s ih =>
    rcases eq_or_ne c sep with rfl | hc
    · rw [List.cons_append, splitOn_cons_self, splitOn_cons_self, ih, List.cons_append]
    · obtain ⟨first, others, hs, hcons⟩ := splitOn_cons_of_ne (s := s) hc
      obtain ⟨first', others', hs', hcons'⟩ := splitOn_cons_of_ne (s := s ++ sep :: t) hc
      rw [ih, hs] at hs'
      obtain ⟨rfl, rfl⟩ := List.cons.inj hs'
      rw [List.cons_append, hcons', hcons]
      rfl

/-! ## Joining -/

theorem joinWith_cons_cons (sep piece next : Text) (rest : List Text) :
    joinWith sep (piece :: next :: rest) = piece ++ sep ++ joinWith sep (next :: rest) := rfl

theorem mem_joinWith (h : c ∈ joinWith [sep] pieces) : c = sep ∨ ∃ piece ∈ pieces, c ∈ piece := by
  induction pieces with
  | nil => cases h
  | cons piece rest ih =>
    cases rest with
    | nil => exact .inr ⟨piece, List.mem_cons_self, h⟩
    | cons next rest =>
      rw [joinWith_cons_cons, List.append_assoc, List.mem_append, List.singleton_append,
        List.mem_cons] at h
      rcases h with h | h | h
      · exact .inr ⟨piece, List.mem_cons_self, h⟩
      · exact .inl h
      · exact (ih h).imp_right fun ⟨p, hp, hc⟩ => ⟨p, List.mem_cons_of_mem piece hp, hc⟩

/-- **Pieces without the separator come back from their joined text.** -/
theorem splitOn_joinWith (hne : pieces ≠ []) (h : ∀ piece ∈ pieces, sep ∉ piece) :
    splitOn sep (joinWith [sep] pieces) = pieces := by
  induction pieces with
  | nil => exact absurd rfl hne
  | cons piece rest ih =>
    cases rest with
    | nil => exact splitOn_of_not_mem (h piece List.mem_cons_self)
    | cons next rest =>
      have hrest := ih (List.cons_ne_nil next rest) fun p hp => h p (List.mem_cons_of_mem piece hp)
      rw [joinWith_cons_cons, List.append_assoc, List.singleton_append,
        splitOn_append_cons (h piece List.mem_cons_self), hrest]

/-- The pieces of a text, joined again, are the text. -/
theorem joinWith_splitOn (sep : Char) (s : Text) : joinWith [sep] (splitOn sep s) = s := by
  induction s with
  | nil => rfl
  | cons c s ih =>
    rcases eq_or_ne c sep with rfl | hc
    · obtain ⟨first, others, hs⟩ := List.exists_cons_of_ne_nil (splitOn_ne_nil c s)
      rw [splitOn_cons_self, hs, joinWith_cons_cons, ← hs, ih]
      rfl
    · obtain ⟨first, others, hs, hcons⟩ := splitOn_cons_of_ne (s := s) hc
      rw [hs] at ih
      rw [hcons, ← ih]
      cases others <;> rfl

/-- **The pieces of a text are the texts without a separator that make it up.** -/
theorem splitOn_eq_iff :
    splitOn sep s = pieces ↔
      pieces ≠ [] ∧ joinWith [sep] pieces = s ∧ ∀ piece ∈ pieces, sep ∉ piece := by
  constructor
  · rintro rfl
    exact ⟨splitOn_ne_nil sep s, joinWith_splitOn sep s, fun _ => not_mem_of_mem_splitOn⟩
  · rintro ⟨hne, rfl, hpieces⟩
    exact splitOn_joinWith hne hpieces

/-- A separator in the text makes at least two pieces. -/
theorem two_le_length_splitOn (h : sep ∈ s) : 2 ≤ (splitOn sep s).length := by
  obtain ⟨before, after, rfl, hbefore⟩ := List.eq_append_cons_of_mem h
  rw [splitOn_append_cons hbefore, List.length_cons]
  have := List.length_pos_of_ne_nil (splitOn_ne_nil sep after)
  omega

theorem mem_joinWith_self (h : 2 ≤ pieces.length) : sep ∈ joinWith [sep] pieces := by
  match pieces, h with
  | _ :: _ :: _, _ => simp [joinWith_cons_cons]

theorem isTrimmed_joinWith (hsep : isBlank sep = false) (h : ∀ piece ∈ pieces, IsTrimmed piece) :
    IsTrimmed (joinWith [sep] pieces) := by
  induction pieces with
  | nil => exact ⟨fun h => absurd rfl h, fun h => absurd rfl h⟩
  | cons piece rest ih =>
    cases rest with
    | nil => exact h piece List.mem_cons_self
    | cons next rest =>
      rw [joinWith_cons_cons, List.append_assoc, List.singleton_append]
      exact (h piece List.mem_cons_self).append_cons
        (ih fun p hp => h p (List.mem_cons_of_mem piece hp)) hsep

/-! ## Cutting -/

/-- A cut is at the first separator. -/
theorem cutAt_eq_some {before after : Text} :
    cutAt sep s = some (before, after) ↔ sep ∉ before ∧ s = before ++ sep :: after := by
  induction s generalizing before with
  | nil => simp [cutAt]
  | cons c s ih =>
    rw [cutAt]
    rcases eq_or_ne c sep with rfl | hc
    · rw [if_pos rfl]
      cases before with
      | nil => simp [eq_comm]
      | cons d before => simp +contextual [eq_comm]
    · rw [if_neg hc, Option.map_eq_some_iff]
      constructor
      · rintro ⟨⟨before', after'⟩, hcut, heq⟩
        cases heq
        obtain ⟨hnot, rfl⟩ := ih.mp hcut
        exact ⟨by simp [hc.symm, hnot], rfl⟩
      · rintro ⟨hnot, heq⟩
        cases before with
        | nil => exact absurd (List.cons.inj heq).1 hc
        | cons d before =>
          obtain ⟨rfl, rfl⟩ := List.cons.inj heq
          rw [List.mem_cons, not_or] at hnot
          exact ⟨(before, after), ih.mpr ⟨hnot.2, rfl⟩, rfl⟩

end Recurrence.Text
