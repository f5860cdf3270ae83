import Recurrence.Proofs.Calendar.Step
import Recurrence.Proofs.Rule.Keys
import Recurrence.Proofs.Rule.Meaning

/-! # Stepping from occurrence to occurrence

Rules with nothing but a frequency and an interval can be read as a recipe: go on by
the interval, in days, weeks, months or years, and take the date there if there is
one.  `Frequency.step?` is that recipe in closed form.  Its dates ascend
(`Frequency.pairwise_stepsFrom`), they end with the calendar, and they are exactly
the dates on which the rules let a series recur
(`RuleTable.IsPlain.exists_step?_iff_recurs`).
-/
namespace Recurrence

namespace Frequency

/-- The date `i` steps after the start, if the calendar has it: so many days or weeks
later, or on the start's day of the month in the month or the year so many months or
years later. -/
def step? (f : Frequency) (start : Date) (interval i : Nat) : Option Date :=
  match f with
  | .daily => start.addDays? (i * interval : Nat)
  | .weekly => start.addDays? (7 * (i * interval) : Nat)
  | .monthly =>
    let month := start.month - 1 + i * interval
    Date.ofCivil? (start.year + month / 12) (month % 12 + 1) start.day
  | .yearly => Date.ofCivil? (start.year + i * interval) start.month start.day

/-- The dates that the first so many steps reach, from the start itself on. -/
def stepsFrom (f : Frequency) (start : Date) (interval steps : Nat) : List Date :=
  (List.range steps).filterMap (f.step? start interval)

/-- The two dates have the same place in the unit that the frequency counts. -/
def SamePlace (f : Frequency) (start d : Date) : Prop :=
  match f with
  | .daily => True
  | .weekly => d.weekday = start.weekday
  | .monthly => d.day = start.day
  | .yearly => d.month = start.month ∧ d.day = start.day

theorem samePlace_self (f : Frequency) (start : Date) : f.SamePlace start start := by
  cases f with
  | daily => trivial
  | weekly | monthly => rfl
  | yearly => exact ⟨rfl, rfl⟩

/-- A step goes on by so many intervals of units and keeps the place in the unit. -/
theorem step?_eq_some {f : Frequency} {start d : Date} {interval i : Nat} :
    f.step? start interval i = some d ↔
      f.unit.number d = f.unit.number start + i * interval ∧ f.SamePlace start d := by
  unfold step?
  generalize i * interval = n
  cases f with
  | daily =>
    rw [Date.addDays?_eq_some]
    show _ ↔ d.dayNumber = start.dayNumber + n ∧ True
    rw [and_true]
    omega
  | weekly =>
    rw [Date.addDays?_eq_some]
    show _ ↔ (d.dayNumber - 1) / 7 = (start.dayNumber - 1) / 7 + n ∧
      (d.dayNumber - 1) % 7 = (start.dayNumber - 1) % 7
    have hd := d.one_le
    have hs := start.one_le
    omega
  | monthly =>
    rw [Date.ofCivil?_eq_some, ← and_assoc]
    refine and_congr_left' ?_
    show _ ↔ 12 * d.year + d.month = 12 * start.year + start.month + n
    have hd1 := d.one_le_month
    have hd12 := d.month_le
    have hs1 := start.one_le_month
    have hs12 := start.month_le
    omega
  | yearly => exact Date.ofCivil?_eq_some

variable {f : Frequency} {start d e : Date} {interval i j : Nat}

theorem step?_zero (f : Frequency) (start : Date) (interval : Nat) :
    f.step? start interval 0 = some start := by
  rw [step?_eq_some, Nat.zero_mul]
  exact ⟨rfl, f.samePlace_self start⟩

/-- More steps lead to a later date. -/
theorem step?_lt (hpos : 0 < interval) (hij : i < j) (hd : f.step? start interval i = some d)
    (he : f.step? start interval j = some e) : d < e := by
  have hmul : i * interval < j * interval := Nat.mul_lt_mul_of_pos_right hij hpos
  have hd := (step?_eq_some.mp hd).1
  have he := (step?_eq_some.mp he).1
  exact f.unit.lt_of_number_lt (by omega)

theorem pairwise_stepsFrom (f : Frequency) (start : Date) (hpos : 0 < interval) (steps : Nat) :
    (f.stepsFrom start interval steps).Pairwise (· < ·) := by
  refine List.Pairwise.filterMap _ ?_ List.pairwise_lt_range
  intro i j hij d hd e he
  exact step?_lt hpos hij hd he

/-- The calendar ends before there are as many steps as days in it. -/
theorem le_of_step?_eq_some (hpos : 0 < interval) (hd : f.step? start interval i = some d) :
    i ≤ lastDayNumber :=
  calc i ≤ i * interval := Nat.le_mul_of_pos_right i hpos
    _ ≤ f.unit.number start + i * interval := Nat.le_add_left ..
    _ = f.unit.number d := (step?_eq_some.mp hd).1.symm
    _ ≤ lastDayNumber := f.unit.number_le_last d

theorem mem_stepsFrom (hpos : 0 < interval) {steps : Nat} (hsteps : lastDayNumber < steps) :
    d ∈ f.stepsFrom start interval steps ↔ ∃ i, f.step? start interval i = some d := by
  rw [stepsFrom, List.mem_filterMap]
  constructor
  · rintro ⟨i, -, hd⟩
    exact ⟨i, hd⟩
  · rintro ⟨i, hd⟩
    exact ⟨i, List.mem_range.mpr (Nat.lt_of_le_of_lt (le_of_step?_eq_some hpos hd) hsteps), hd⟩

/-- Steps reach what is not before the start, whole intervals of units away from it,
and in the same place there. -/
theorem exists_step?_iff (hpos : 0 < interval) :
    (∃ i, f.step? start interval i = some d) ↔
      start ≤ d ∧ (interval : Int) ∣ (f.unit.number d : Int) - f.unit.number start ∧
        f.SamePlace start d := by
  constructor
  · rintro ⟨i, hd⟩
    obtain ⟨hnumber, hplace⟩ := step?_eq_some.mp hd
    refine ⟨?_, ⟨i, ?_⟩, hplace⟩
    · rcases Nat.eq_zero_or_pos i with rfl | hi
      · rw [step?_zero] at hd
        cases hd
        exact Nat.le_refl _
      · exact Date.le_of_lt (step?_lt hpos hi (step?_zero f start interval) hd)
    · rw [hnumber, Nat.mul_comm]
      push_cast
      omega
  · rintro ⟨hle, hdvd, hplace⟩
    have hmono := f.unit.number_mono hle
    rw [← Int.ofNat_sub hmono, Int.natCast_dvd_natCast] at hdvd
    obtain ⟨i, hi⟩ := hdvd
    exact ⟨i, step?_eq_some.mpr ⟨by rw [Nat.mul_comm, ← hi]; omega, hplace⟩⟩

end Frequency

/-! ## Rules without lists -/

namespace RuleTable

/-- The rules say how often a series recurs, every how many units, and perhaps how
many times, and nothing else that is read. -/
structure IsPlain (t : RuleTable) (f : Frequency) (interval : Interval) (count : Int) : Prop where
  /-- There is a frequency. -/
  frequency : t.frequency = .ok (some f)
  /-- The interval is read, or is one unit if there is none. -/
  interval : t.interval.result = .ok interval
  /-- The count is read, or is zero if there is none. -/
  count : t.count = .ok count
  /-- There are no weekdays. -/
  noByDay : t.has .byDay = false
  /-- There are no months. -/
  noByMonth : t.has .byMonth = false
  /-- There are no days of the month. -/
  noByMonthDay : t.has .byMonthDay = false
  /-- There is no end. -/
  noUntil : t.has .until = false

variable {t : RuleTable} {today : Date} {f : Frequency} {interval : Interval} {count : Int}

theorem scalar?_eq_none {key : RuleKey} (h : t.has key = false) : t.scalar? key = none := by
  rw [has, Option.isSome_eq_false_iff, Option.isNone_iff_eq_none] at h
  rw [scalar?, h]
  rfl

/-- Without lists a frequency asks for the start's place in every `k`-th unit. -/
theorem IsPlain.frequencyAsks_iff (h : t.IsPlain f interval count) (start d : Date) (k : Int) :
    t.FrequencyAsks start k d f ↔
      k ∣ (f.unit.number d : Int) - f.unit.number start ∧ f.SamePlace start d := by
  cases f with
  | daily => exact ⟨fun hdvd => ⟨hdvd, trivial⟩, And.left⟩
  | weekly =>
    simp only [FrequencyAsks, h.noByDay]
    rfl
  | monthly =>
    simp only [FrequencyAsks, h.noByDay, h.noByMonthDay]
    rfl
  | yearly =>
    simp only [FrequencyAsks, h.noByDay, h.noByMonth]
    rfl

/-- **A series may recur on the dates that steps reach, and on no others.** -/
theorem IsPlain.exists_step?_iff_recurs (h : t.IsPlain f interval count) (start d : Date) :
    (∃ i, f.step? start interval.count i = some d) ↔ t.Recurs today start d := by
  obtain ⟨word, hword, hf⟩ : ∃ word, t.scalar? .freq = some word ∧ Frequency.parse word = .ok f := by
    have hfreq := h.frequency
    unfold RuleTable.frequency at hfreq
    split at hfreq
    · cases hfreq
    · rename_i word hword
      obtain ⟨g, hg, hsome⟩ := except_map_eq_ok.mp hfreq
      cases hsome
      exact ⟨word, hword, hg⟩
  have hinterval := hasInterval_of_interval h.interval
  rw [Frequency.exists_step?_iff interval.one_le, ← h.frequencyAsks_iff]
  constructor
  · rintro ⟨hle, hasks⟩
    refine ⟨hle, fun text htext => ?_, fun other hother => ?_⟩
    · rw [scalar?_eq_none h.noUntil] at htext
      cases htext
    · rw [hword] at hother
      cases hother
      exact ⟨f, interval.count, hf, hinterval, hasks⟩
  · rintro ⟨hle, -, hasked⟩
    obtain ⟨g, k, hg, hk, hasks⟩ := hasked word hword
    rw [hf] at hg
    cases hg
    rw [hk.unique hinterval] at hasks
    exact ⟨hle, hasks⟩

/-- Without lists no part of a rule is there to be refused. -/
theorem IsPlain.exists_frequencyPart (h : t.IsPlain f interval count) (start : Date) :
    ∃ days, t.frequencyPart start interval f = .ok days := by
  cases f with
  | daily => exact ⟨_, rfl⟩
  | weekly =>
    refine ⟨.leaf (.weekday start.weekday), ?_⟩
    rw [frequencyPart, h.noByDay]
    rfl
  | monthly =>
    refine ⟨.leaf (.dayOfMonthRange start.day start.day), ?_⟩
    rw [frequencyPart, monthlyPart, h.noByDay, h.noByMonthDay]
    rfl
  | yearly =>
    refine ⟨.and (.leaf (.month start.month)) (.leaf (.dayOfMonth start.day)), ?_⟩
    rw [frequencyPart, yearlyPart, h.noByDay, h.noByMonth]
    rfl

/-- Such rules make an expression for every start that has a day before it. -/
theorem IsPlain.exists_expression (h : t.IsPlain f interval count) {start : Date}
    (hstart : Date.first < start) : ∃ e, (t.expression today start).result = .ok e := by
  have hday : 1 < start.dayNumber := hstart
  obtain ⟨eve, heve⟩ : ∃ eve, start.addDays? (-1) = some eve :=
    ⟨⟨start.dayNumber - 1, by omega, by have := start.le_last; omega⟩,
      Date.addDays?_eq_some.mpr (by show ((start.dayNumber - 1 : Nat) : Int) = _; omega)⟩
  have hfirst : startPart start = .ok (.leaf (.after (.date eve))) := by rw [startPart, heve]
  obtain ⟨days, hdays⟩ := h.exists_frequencyPart start
  have hrecurrence : (t.recurrenceParts start).result = .ok (unitPart start interval f ++ [days]) := by
    rw [recurrenceParts_eq_of_frequency h.frequency]
    exact Outcome.result_bind_eq_ok.mpr ⟨interval, h.interval,
      Outcome.result_bind_eq_ok.mpr ⟨days, hdays, rfl⟩⟩
  have hlast : t.endPart today = .ok [] := by
    rw [endPart, untilDate, scalar?_eq_none h.noUntil]
    rfl
  refine ⟨_, Outcome.result_bind_eq_ok.mpr ⟨_, Outcome.result_bind_eq_ok.mpr ⟨_, hfirst,
    Outcome.result_bind_eq_ok.mpr ⟨_, hrecurrence,
    Outcome.result_bind_eq_ok.mpr ⟨[], mapError_eq_ok.mpr hlast, rfl⟩⟩⟩, rfl⟩⟩

end RuleTable

end Recurrence
