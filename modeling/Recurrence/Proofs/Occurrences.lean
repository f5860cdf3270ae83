import Recurrence.Occurrences
import Recurrence.Proofs.Expression.Selection

/-! # What an enumeration of occurrences returns

Whether a date counts as a match (`IsCounted`) is said without any range: there is
no count and the expression is true on the date, or the date is one of the first
`count` dates from the start on where it is.  A range only cuts this down, because
the matches up to the end of a range are a prefix of all matches
(`Expression.matchesFrom_until`, `Expression.firstMatches_until`).

Start and exceptions come on top: an occurrence is a date of the range that counts
or is the start, and is not excluded (`mem_occurrences`).
-/
namespace Recurrence

theorem pairwise_insertDate {d : Date} {dates : List Date} (h : dates.Pairwise (· < ·)) :
    (insertDate d dates).Pairwise (· < ·) := by
  induction dates with
  | nil => exact List.pairwise_singleton ..
  | cons e rest ih =>
    obtain ⟨he, hrest⟩ := List.pairwise_cons.mp h
    simp only [insertDate]
    split
    · rename_i hde
      refine List.pairwise_cons.mpr ⟨fun f hf => ?_, h⟩
      rcases List.mem_cons.mp hf with rfl | hf
      · exact hde
      · exact Nat.lt_trans hde (he f hf)
    · rename_i hle
      split
      · exact h
      · rename_i hne
        refine List.pairwise_cons.mpr ⟨fun f hf => ?_, ih hrest⟩
        rcases mem_insertDate.mp hf with rfl | hf
        · have hday : f.dayNumber ≠ e.dayNumber := fun heq => hne (Date.ext_dayNumber heq)
          rw [Date.lt_iff] at hle ⊢
          omega
        · exact he f hf

/-! ## The matches that count -/

namespace Expression

/-- The dates from the start on on which the expression is true. -/
def matchesFrom (e : Expression) (start : Date) : List Date :=
  (datesFromTo start .last).filter e.matchesOn

theorem mem_matchesFrom {e : Expression} {start d : Date} :
    d ∈ e.matchesFrom start ↔ start ≤ d ∧ e.matchesOn d = true := by
  rw [matchesFrom, List.mem_filter, mem_datesFromTo]
  exact and_congr_left' (and_iff_left d.le_last)

theorem pairwise_matchesFrom (e : Expression) (start : Date) :
    (e.matchesFrom start).Pairwise (· < ·) :=
  (pairwise_datesFromTo ..).filter _

/-- The matches up to some date come first. -/
theorem matchesFrom_until (e : Expression) (start final : Date) :
    ∃ later, e.matchesFrom start = (datesFromTo start final).filter e.matchesOn ++ later ∧
      ∀ d ∈ later, final < d := by
  have hlast : final ≤ Date.last := final.le_last
  obtain ⟨rest, hrest, hafter⟩ := datesFromTo_prefix start hlast
  refine ⟨rest.filter e.matchesOn, ?_, fun d hd => hafter d (List.mem_of_mem_filter hd)⟩
  rw [matchesFrom, hrest, List.filter_append]

/-- The first `n` dates from the start on, in calendar order, on which the expression
is true. -/
def firstMatches (e : Expression) (start : Date) (n : Nat) : List Date :=
  ((datesFromTo start .last).filter e.matchesOn).take n

/-- Counting up to some date finds a prefix of the first matches; the others come
after that date. -/
theorem firstMatches_until (e : Expression) (start final : Date) (n : Nat) :
    ∃ later, e.firstMatches start n =
        ((datesFromTo start final).filter e.matchesOn).take n ++ later ∧
      ∀ d ∈ later, final < d := by
  obtain ⟨later, hlater, hafter⟩ := e.matchesFrom_until start final
  refine ⟨later.take (n - ((datesFromTo start final).filter e.matchesOn).length), ?_,
    fun d hd => hafter d (List.mem_of_mem_take hd)⟩
  rw [← List.take_append, ← hlater]
  rfl

end Expression

/-- The date is one of the matches that count.  Without a positive count all matches
do, also those before the start. -/
def IsCounted (e : Expression) (start : Date) (count : Int) (d : Date) : Prop :=
  if count ≤ 0 then e.evaluate (.date d) = .ok true else d ∈ e.firstMatches start count.toNat

theorem IsCounted.evaluate {e : Expression} {start : Date} {count : Int} {d : Date}
    (h : IsCounted e start count d) : e.evaluate (.date d) = .ok true := by
  unfold IsCounted at h
  split at h
  · exact h
  · exact Expression.matchesOn_iff.mp (List.mem_filter.mp (List.mem_of_mem_take h)).2

theorem pairwise_countedMatches {range : DateRange} {e : Expression} {start : Date} {count : Int}
    {found : List Date} (h : countedMatches range e start count = .ok found) :
    found.Pairwise (· < ·) := by
  unfold countedMatches at h
  split at h
  · rw [Expression.dates_eq_ok h]
    exact (pairwise_datesFromTo ..).filter _
  · obtain ⟨dates, hdates, rfl⟩ := except_map_eq_ok.mp h
    rw [Expression.dates_eq_ok hdates]
    exact (((pairwise_datesFromTo ..).filter _).take).filter _

/-- The matches found for a range are the dates of the range that count. -/
theorem mem_countedMatches {range : DateRange} {e : Expression} {start : Date} {count : Int}
    {found : List Date} (h : countedMatches range e start count = .ok found) (d : Date) :
    d ∈ found ↔ range.holds d ∧ IsCounted e start count d := by
  unfold countedMatches at h
  unfold IsCounted
  split at h
  · rename_i hcount
    rw [if_pos hcount, Expression.dates_eq_ok h, ← Expression.matchesOn_iff, DateRange.holds_iff]
    exact List.mem_filter.trans (and_congr_left' mem_datesFromTo)
  · rename_i hcount
    obtain ⟨dates, hdates, rfl⟩ := except_map_eq_ok.mp h
    obtain ⟨later, hlater, hafter⟩ := e.firstMatches_until start range.last count.toNat
    have hprefix : e.firstMatches start count.toNat = dates ++ later := by
      rw [hlater, Expression.dates_eq_ok hdates]
      rfl
    -- What is counted after the end of the range is not in the range.
    rw [if_neg hcount, hprefix, List.mem_filter, List.mem_append, and_comm]
    refine and_congr_right fun hd => (or_iff_left fun hlate => ?_).symm
    exact Date.not_le.mpr (hafter d hlate) (DateRange.holds_iff.mp hd).2

/-! ## Occurrences -/

theorem pairwise_occurrences {range : DateRange} {e : Expression} {start : Date} {count : Int}
    {excluded dates : List Date} (h : occurrences range e start count excluded = .ok dates) :
    dates.Pairwise (· < ·) := by
  obtain ⟨found, hfound, h⟩ := except_bind_eq_ok.mp h
  cases h
  have hsorted := pairwise_countedMatches hfound
  refine List.Pairwise.filter _ ?_
  split
  · exact pairwise_insertDate hsorted
  · exact hsorted

/-- A date of the range occurs if it counts or is the start, unless it is excluded. -/
theorem mem_occurrences {range : DateRange} {e : Expression} {start : Date} {count : Int}
    {excluded dates : List Date} (h : occurrences range e start count excluded = .ok dates)
    (d : Date) :
    d ∈ dates ↔ range.holds d ∧ (IsCounted e start count d ∨ d = start) ∧ d ∉ excluded := by
  obtain ⟨found, hfound, h⟩ := except_bind_eq_ok.mp h
  cases h
  have hinsert : d ∈ (if range.holds start then insertDate start found else found) ↔
      range.holds d ∧ (IsCounted e start count d ∨ d = start) := by
    split
    · rename_i hstart
      rw [mem_insertDate, mem_countedMatches hfound]
      constructor
      · rintro (rfl | ⟨hd, hcounted⟩)
        · exact ⟨hstart, Or.inr rfl⟩
        · exact ⟨hd, Or.inl hcounted⟩
      · rintro ⟨hd, hcounted | rfl⟩
        · exact Or.inr ⟨hd, hcounted⟩
        · exact Or.inl rfl
    · rename_i hstart
      rw [mem_countedMatches hfound]
      refine and_congr_right fun hd => (or_iff_left ?_).symm
      rintro rfl
      exact hstart hd
  rw [List.mem_filter, hinsert, and_assoc]
  simp

/-- **The meaning of an enumeration.**  Whatever the range, the expression, the
start, the count and the exceptions: the dates that are returned ascend, and they
are those that the expression and the count give for the range, with the start if
the range holds it, and without the dates of the exceptions. -/
theorem mem_occurrences_iff {range : DateRange} {e : Expression} {start : Stamp} {count : Int}
    {exceptions : List Stamp} {dates : List Date}
    (returned : occurrences range e start.civilDate count (exceptions.map Stamp.civilDate) =
      .ok dates) :
    dates.Pairwise (· < ·) ∧
      ∀ d, d ∈ dates ↔
        ((range.holds d ∧ IsCounted e start.civilDate count d) ∨
          (d = start.civilDate ∧ range.holds start.civilDate)) ∧
        ∀ x ∈ exceptions, x.civilDate ≠ d := by
  refine ⟨pairwise_occurrences returned, fun d => ?_⟩
  rw [mem_occurrences returned]
  have hexcluded : d ∉ exceptions.map Stamp.civilDate ↔ ∀ x ∈ exceptions, x.civilDate ≠ d := by
    simp
  rw [hexcluded, ← and_assoc]
  refine and_congr_left' ?_
  constructor
  · rintro ⟨hd, hcounted | rfl⟩
    · exact Or.inl ⟨hd, hcounted⟩
    · exact Or.inr ⟨rfl, hd⟩
  · rintro (⟨hd, hcounted⟩ | ⟨rfl, hstart⟩)
    · exact ⟨hd, Or.inl hcounted⟩
    · exact ⟨hstart, Or.inr rfl⟩

/-- Three Tuesdays are counted from Monday 2025-01-06 on, and the first of them is
excluded: in January the start and the other two remain. -/
theorem mem_occurrences_tuesdays :
    ∃ (range : DateRange) (e : Expression) (start : Stamp) (exceptions : List Stamp)
      (dates : List Date),
      occurrences range e start.civilDate 3 (exceptions.map Stamp.civilDate) = .ok dates ∧
      dates.map Date.dayNumber = [739257, 739265, 739272] ∧
      ∀ d, d ∈ dates ↔
        ((range.holds d ∧ IsCounted e start.civilDate 3 d) ∨
          (d = start.civilDate ∧ range.holds start.civilDate)) ∧
        ∀ x ∈ exceptions, x.civilDate ≠ d :=
  ⟨⟨⟨739252, by decide, by decide⟩, ⟨739282, by decide, by decide⟩⟩, .leaf (.weekday 1),
    .date ⟨739257, by decide, by decide⟩, [.date ⟨739258, by decide, by decide⟩], _, by rfl, by rfl,
    (mem_occurrences_iff (by rfl)).2⟩

/-! ## Failures -/

/-- With an expression that can be evaluated on every date, only the count may be
refused, and whether it is does not depend on the range. -/
theorem occurrences_total {e : Expression} (he : ∀ d, ∃ b, e.evaluate (.date d) = .ok b)
    {count : Int} (hcount : count < limitBound) (range : DateRange) (start : Date)
    (excluded : List Date) :
    ∃ dates, occurrences range e start count excluded = .ok dates := by
  have hfound : ∃ found, countedMatches range e start count = .ok found := by
    unfold countedMatches
    split
    · exact selectDates_total he _ _ (by simp)
    · have hlimit : ∀ n, some count = some n → n < limitBound := by
        rintro n ⟨rfl⟩
        exact hcount
      obtain ⟨dates, hdates⟩ := selectDates_total he start range.last hlimit
      exact ⟨_, except_map_eq_ok.mpr ⟨dates, hdates, rfl⟩⟩
  obtain ⟨found, hfound⟩ := hfound
  exact ⟨_, except_bind_eq_ok.mpr ⟨found, hfound, rfl⟩⟩

theorem occurrences_limitTooLarge {count : Int} (hcount : limitBound ≤ count) (range : DateRange)
    (e : Expression) (start : Date) (excluded : List Date) :
    occurrences range e start count excluded = .error .limitTooLarge := by
  have hpos : ¬ count ≤ 0 := fun hle => absurd (Int.le_trans hcount hle) (by decide)
  have hfound : countedMatches range e start count = .error .limitTooLarge := by
    simp [countedMatches, Expression.dates, selectDates, hpos, hcount, Except.map]
  rw [occurrences, hfound]
  rfl

/-! ## Two ranges -/

/-- The occurrences in a range are those of any larger range that lie in it. -/
theorem occurrences_filter {inner outer : DateRange} (hsub : ∀ d, inner.holds d → outer.holds d)
    {e : Expression} {start : Date} {count : Int} {excluded xs ys : List Date}
    (hx : occurrences inner e start count excluded = .ok xs)
    (hy : occurrences outer e start count excluded = .ok ys) : xs = ys.filter inner.holds := by
  -- Both ascend, so they are equal if they have the same members.
  refine (pairwise_occurrences hx).eq_of_mem_iff ((pairwise_occurrences hy).filter _) ?_
  intro d
  rw [List.mem_filter, mem_occurrences hx, mem_occurrences hy]
  constructor
  · rintro ⟨hd, hrest⟩
    exact ⟨⟨hsub d hd, hrest⟩, hd⟩
  · rintro ⟨⟨-, hrest⟩, hd⟩
    exact ⟨hd, hrest⟩

/-! ## How many -/

/-- A start that matches is the first of the first matches. -/
theorem Expression.start_mem_firstMatches {e : Expression} {start : Date}
    (h : e.evaluate (.date start) = .ok true) {n : Nat} (hn : 0 < n) :
    start ∈ e.firstMatches start n := by
  have hdays : daysFromTo start .last = (lastDayNumber - start.dayNumber) + 1 := by
    have := start.le_last
    show lastDayNumber + 1 - start.dayNumber = _
    omega
  obtain ⟨m, rfl⟩ := Nat.exists_eq_add_of_lt hn
  rw [Expression.firstMatches, datesFromTo_eq, hdays, datesFrom_cons (Date.ofDayNumber?_dayNumber _),
    List.filter_cons_of_pos (Expression.matchesOn_iff.mpr h), Nat.zero_add, List.take_succ_cons]
  exact List.mem_cons_self

/-- At most `count` matches occur, and at most the start on top of them. -/
theorem length_occurrences {range : DateRange} {e : Expression} {start : Date} {count : Int}
    {excluded dates : List Date} (h : occurrences range e start count excluded = .ok dates)
    (hcount : 0 < count) :
    (dates.length : Int) ≤ count ∨
      ((dates.length : Int) = count + 1 ∧ start ∈ dates ∧
        e.evaluate (.date start) ≠ .ok true) := by
  have hnodup : dates.Nodup := (pairwise_occurrences h).imp Date.ne_of_lt
  have hlength : (e.firstMatches start count.toNat).length ≤ count.toNat :=
    List.length_take_le ..
  have hmem : ∀ d ∈ dates, d ∈ start :: e.firstMatches start count.toNat := by
    intro d hd
    have hd := ((mem_occurrences h d).mp hd).2.1
    rw [IsCounted, if_neg (Int.not_le.mpr hcount)] at hd
    exact List.mem_cons.mpr hd.symm
  -- The start is one date too many only if it is there without being a match.
  by_cases hstart : start ∈ dates ∧ start ∉ e.firstMatches start count.toNat
  · have hle := hnodup.length_le_of_subset hmem
    rw [List.length_cons] at hle
    by_cases hfull : (dates.length : Int) ≤ count
    · exact Or.inl hfull
    · refine Or.inr ⟨by omega, hstart.1, fun htrue => hstart.2 ?_⟩
      exact Expression.start_mem_firstMatches htrue (by omega)
  · have hsub : dates ⊆ e.firstMatches start count.toNat := by
      intro d hd
      rcases List.mem_cons.mp (hmem d hd) with rfl | hfirst
      · exact not_not.mp fun hnot => hstart ⟨hd, hnot⟩
      · exact hfirst
    have hle := hnodup.length_le_of_subset hsub
    exact Or.inl (by omega)

end Recurrence
