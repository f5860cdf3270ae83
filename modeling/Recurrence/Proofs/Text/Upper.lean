import Recurrence.Proofs.Text.Cutting
import Recurrence.Text.Upper

/-! # The upper case of a text is its own upper case

A character keeps its place in an upper-case text, or gives way to letters of the
case tables (`mem_upperChar`).  These letters, `upperImages`, are finitely many.  No
table maps any of them further, none is blank, and none separates the parts of a
rule (`upperImages_settled`).  Hence the upper case of a text is its own upper case
(`upper_upper`), and its blanks and separators are those of the text
(`mem_of_mem_upper`).

The tables list some fourteen hundred letters.  To compare every image with every
entry is slow in the kernel, so each side is first made one number, with a bit for
each member (`bitSet`); the sides are disjoint if the numbers have no bit in common.
-/
namespace Recurrence.Text

/-! ## Sets of code points as bits -/

/-- The number that has the bits of the given numbers. -/
def bitSet (ns : List Nat) : Nat :=
  ns.foldr (fun n bits => bits ||| 1 <<< n) 0

theorem testBit_bitSet (ns : List Nat) (i : Nat) : (bitSet ns).testBit i = decide (i ∈ ns) := by
  induction ns with
  | nil => simp [bitSet]
  | cons n ns ih =>
    have hcons : bitSet (n :: ns) = bitSet ns ||| 1 <<< n := rfl
    rw [hcons, Nat.testBit_or, ih, Nat.one_shiftLeft, Nat.testBit_two_pow]
    rcases eq_or_ne n i with rfl | h
    · simp
    · simp [h, h.symm]

theorem not_mem_of_bitSet_and {ns ms : List Nat} (h : bitSet ns &&& bitSet ms = 0) {i : Nat}
    (hi : i ∈ ns) : i ∉ ms := by
  have hbit := congrArg (Nat.testBit · i) h
  simpa [Nat.testBit_and, testBit_bitSet, hi] using hbit

/-- The code points of the ranges. -/
def CodeRanges.members (ranges : CodeRanges) : List Nat :=
  ranges.flatMap fun (first, last) => List.range' first (last + 1 - first)

theorem CodeRanges.mem_members {ranges : CodeRanges} {n : Nat} (h : ranges.holds n = true) :
    n ∈ ranges.members := by
  induction ranges with
  | nil => cases h
  | cons range rest ih =>
    obtain ⟨first, last⟩ := range
    rw [members, List.flatMap_cons, List.mem_append, List.mem_range'_1]
    rw [holds_cons] at h
    split at h
    · have hfirst : first ≤ n := of_decide_eq_true h
      exact .inl (by omega)
    · exact .inr (ih h)

/-! ## The case tables -/

/-- The letters of a run. -/
def CaseRun.letters (r : CaseRun) : List Nat :=
  (List.range ((r.last - r.first) / r.stride + 1)).map fun i => r.first + r.stride * i

/-- Where a run puts a letter. -/
def CaseRun.image (r : CaseRun) (n : Nat) : Nat :=
  ((n : Int) + r.shift).toNat

/-- The letters that have an upper case other than themselves. -/
def caseLetters : List Nat :=
  caseRuns.flatMap CaseRun.letters ++ caseExpansions.map Prod.fst

/-- The letters that stand in the place of another in an upper-case text. -/
def upperImages : List Nat :=
  (caseRuns.flatMap fun r => r.letters.map r.image) ++ caseExpansions.flatMap Prod.snd

theorem CaseRun.mem_letters {r : CaseRun} {n : Nat} (hfirst : r.first ≤ n) (hlast : n ≤ r.last)
    (hstride : (n - r.first) % r.stride = 0) : n ∈ r.letters := by
  rw [letters, List.mem_map]
  refine ⟨(n - r.first) / r.stride, ?_, ?_⟩
  · rw [List.mem_range, Nat.lt_succ_iff]
    exact Nat.div_le_div_right (Nat.sub_le_sub_right hlast r.first)
  · rw [Nat.mul_div_cancel' (Nat.dvd_of_mod_eq_zero hstride), Nat.add_sub_cancel' hfirst]

theorem exists_run_of_upperInRuns {runs : List CaseRun} {n m : Nat}
    (h : upperInRuns runs n = some m) : ∃ r ∈ runs, n ∈ r.letters ∧ m = r.image n := by
  induction runs with
  | nil => cases h
  | cons r rest ih =>
    rw [upperInRuns] at h
    split at h
    · rename_i hlast
      split at h
      · rename_i hin
        simp only [Bool.and_eq_true, decide_eq_true_eq, beq_iff_eq] at hin
        cases h
        exact ⟨r, List.mem_cons_self, CaseRun.mem_letters hin.1 hlast hin.2, rfl⟩
      · cases h
    · obtain ⟨r', hr', hm⟩ := ih h
      exact ⟨r', List.mem_cons_of_mem r hr', hm⟩

theorem mem_of_caseExpansions {n : Nat} {ns : List Nat} (h : caseExpansions.lookup n = some ns) :
    (n, ns) ∈ caseExpansions := by
  obtain ⟨before, after, hsplit, -⟩ := List.lookup_eq_some_iff.mp h
  rw [hsplit]
  exact List.mem_append_right before List.mem_cons_self

/-- The separators of a rule: one ends a segment, the other ends its key. -/
def separators : List Char := [';', '=']

theorem bitSet_upperImages_and :
    bitSet upperImages &&&
      bitSet (caseLetters ++ blankRanges.members ++ separators.map Char.toNat) = 0 := by
  decide +kernel

theorem upperImages_valid : ∀ n ∈ upperImages, n.isValidChar := by
  decide +kernel

theorem caseExpansions_ne_nil : ∀ entry ∈ caseExpansions, entry.2 ≠ [] := by
  decide +kernel

/-- **Upper-case letters stay as they are**, and none of them is a blank or a separator. -/
theorem upperImages_settled {n : Nat} (h : n ∈ upperImages) :
    upperChar (Char.ofNat n) = [Char.ofNat n] ∧ isBlank (Char.ofNat n) = false ∧
      Char.ofNat n ∉ separators := by
  have hcode : (Char.ofNat n).toNat = n := by
    rw [Char.ofNat, dif_pos (upperImages_valid n h)]
    rfl
  have hnot := not_mem_of_bitSet_and bitSet_upperImages_and h
  simp only [List.mem_append, not_or] at hnot
  obtain ⟨⟨hletter, hblank⟩, hsep⟩ := hnot
  have hruns : upperInRuns caseRuns n = none := by
    rw [Option.eq_none_iff_forall_ne_some]
    intro m hm
    obtain ⟨r, hr, hn, -⟩ := exists_run_of_upperInRuns hm
    exact hletter (List.mem_append_left _ (List.mem_flatMap.mpr ⟨r, hr, hn⟩))
  have hlookup : caseExpansions.lookup n = none := by
    rw [Option.eq_none_iff_forall_ne_some]
    intro ns hns
    exact hletter (List.mem_append_right _ (List.mem_map_of_mem (mem_of_caseExpansions hns)))
  refine ⟨?_, ?_, ?_⟩
  · rw [upperChar, hcode, hruns, hlookup]
  · rw [isBlank, hcode]
    exact eq_false_of_ne_true fun hholds => hblank (CodeRanges.mem_members hholds)
  · intro hmem
    exact hsep (List.mem_map.mpr ⟨_, hmem, hcode⟩)

/-! ## Upper case of a character and of a text -/

theorem upperChar_ne_nil (c : Char) : upperChar c ≠ [] := by
  rw [upperChar]
  split
  · exact List.cons_ne_nil _ []
  · split
    · rename_i ns hns
      simpa using caseExpansions_ne_nil _ (mem_of_caseExpansions hns)
    · exact List.cons_ne_nil _ []

/-- What stands in the place of a character is the character itself, if no table maps it, and
otherwise letters of the tables. -/
theorem mem_upperChar {c d : Char} (h : d ∈ upperChar c) :
    (d = c ∧ upperChar c = [c]) ∨ ∃ n ∈ upperImages, d = Char.ofNat n := by
  rw [upperChar] at h
  split at h
  · rename_i n hn
    obtain ⟨r, hr, hletter, rfl⟩ := exists_run_of_upperInRuns hn
    refine .inr ⟨_, List.mem_append_left _ (List.mem_flatMap.mpr ⟨r, hr, ?_⟩), by simpa using h⟩
    exact List.mem_map_of_mem hletter
  · split at h
    · rename_i ns hns
      obtain ⟨n, hn, rfl⟩ := List.mem_map.mp h
      have hentry := mem_of_caseExpansions hns
      exact .inr ⟨n, List.mem_append_right _ (List.mem_flatMap.mpr ⟨_, hentry, hn⟩), rfl⟩
    · rename_i hruns _ hlookup
      exact .inl ⟨List.mem_singleton.mp h, by rw [upperChar, hruns, hlookup]⟩

theorem upperChar_of_mem_upperChar {c d : Char} (h : d ∈ upperChar c) : upperChar d = [d] := by
  rcases mem_upperChar h with ⟨rfl, hself⟩ | ⟨n, hn, rfl⟩
  · exact hself
  · exact (upperImages_settled hn).1

/-- A blank or a separator in an upper-case text stood in the text already. -/
theorem eq_of_mem_upperChar {c d : Char} (h : d ∈ upperChar c)
    (hd : isBlank d = true ∨ d ∈ separators) : d = c := by
  rcases mem_upperChar h with ⟨rfl, -⟩ | ⟨n, hn, rfl⟩
  · rfl
  · obtain ⟨-, hblank, hsep⟩ := upperImages_settled hn
    rcases hd with hd | hd
    · rw [hblank] at hd
      cases hd
    · exact absurd hd hsep

theorem isBlank_of_mem_upperChar {c d : Char} (h : d ∈ upperChar c) (hc : isBlank c = false) :
    isBlank d = false := by
  refine eq_false_of_ne_true fun hd => ?_
  rw [eq_of_mem_upperChar h (.inl hd), hc] at hd
  cases hd

theorem mem_of_mem_upper {s : Text} {d : Char} (h : d ∈ upper s)
    (hd : isBlank d = true ∨ d ∈ separators) : d ∈ s := by
  obtain ⟨c, hc, hdc⟩ := List.mem_flatMap.mp h
  exact eq_of_mem_upperChar hdc hd ▸ hc

theorem upper_eq_self {s : Text} (h : ∀ c ∈ s, upperChar c = [c]) : upper s = s := by
  induction s with
  | nil => rfl
  | cons c s ih =>
    rw [upper_cons, h c List.mem_cons_self, ih fun d hd => h d (List.mem_cons_of_mem c hd)]
    rfl

/-- **Upper case does not change an upper-case text.** -/
theorem upper_upper (s : Text) : upper (upper s) = upper s := by
  refine upper_eq_self fun d hd => ?_
  obtain ⟨c, -, hdc⟩ := List.mem_flatMap.mp hd
  exact upperChar_of_mem_upperChar hdc

theorem upper_ne_nil {s : Text} (h : s ≠ []) : upper s ≠ [] := by
  cases s with
  | nil => exact absurd rfl h
  | cons c s => simp [upperChar_ne_nil]

/-- A text without blanks at its ends has none at the ends of its upper case. -/
theorem isTrimmed_upper {s : Text} (hs : IsTrimmed s) : IsTrimmed (upper s) := by
  constructor
  · intro h
    cases s with
    | nil => exact absurd rfl h
    | cons c rest =>
      have hc : isBlank c = false := hs.head (List.cons_ne_nil c rest)
      simp only [upper_cons, List.head_append_of_ne_nil (upperChar_ne_nil c)]
      exact isBlank_of_mem_upperChar (List.head_mem _) hc
  · intro h
    rcases List.eq_nil_or_concat' s with rfl | ⟨front, c, rfl⟩
    · exact absurd rfl h
    · have hc : isBlank c = false := by simpa using hs.last (by simp)
      simp only [upper_append, upper_cons, upper_nil, List.append_nil,
        List.getLast_append_of_ne_nil _ (upperChar_ne_nil c)]
      exact isBlank_of_mem_upperChar (List.getLast_mem _) hc

end Recurrence.Text
