import Recurrence.Proofs.Outcome
import Recurrence.Rule.Expression

/-! # The keys that an expression is made of

Building an expression reads the frequency and the end, and with a frequency also
the interval and the keys of that frequency (`RuleTable.keysRead`).  Tables that
agree on these make the same expression, with the same warnings, or fail alike
(`RuleTable.expression_congr`).  To set any other key changes no expression
(`RuleTable.expression_insert`), and the count is such a key.
-/
namespace Recurrence

/-! ## Look-up after an insertion -/

theorem RuleKey.canonicalKey_name (key : RuleKey) : canonicalKey key.name = key.name := by
  cases key <;> decide

theorem RuleKey.name_inj {key other : RuleKey} : key.name = other.name ↔ key = other := by
  constructor
  · intro h
    cases key <;> cases other <;> first | rfl | exact absurd h (by decide)
  · rintro rfl
    rfl

theorem RuleTable.get?_insert (t : RuleTable) (key other : RuleKey) (value : RuleValue) :
    (t.insert key.name value).get? other = if other = key then some value else t.get? other := by
  simp only [get?, find?_insert, RuleKey.canonicalKey_name, RuleKey.name_inj]

theorem RuleTable.get?_insert_of_ne (t : RuleTable) {key : Text} {other : RuleKey}
    (h : canonicalKey key ≠ other.name) (value : RuleValue) :
    (t.insert key value).get? other = t.get? other := by
  rw [get?, find?_insert, if_neg h.symm, get?]

/-! ## What each part reads -/

/-- The keys, beside the interval, that a frequency reads from a table. -/
def Frequency.keysRead (t : RuleTable) : Frequency → List RuleKey
  | .daily => []
  | .weekly => [.byDay]
  | .monthly => if t.has .byDay then [.byDay] else [.byDay, .byMonthDay]
  | .yearly => [.byMonth, .byDay]

theorem Frequency.keysRead_monthly (t : RuleTable) :
    keysRead t .monthly = if t.has .byDay then [.byDay] else [.byDay, .byMonthDay] := rfl

theorem Frequency.mem_keysRead {f : Frequency} {t : RuleTable} {key : RuleKey}
    (h : key ∈ f.keysRead t) : key = .byDay ∨ key = .byMonth ∨ key = .byMonthDay := by
  cases f with
  | monthly =>
    rw [keysRead_monthly] at h
    split at h <;> grind
  | daily | weekly | yearly => grind [keysRead]

/-- All keys that building an expression reads from a table. -/
def RuleTable.keysRead (t : RuleTable) : List RuleKey :=
  .freq :: .until ::
    match t.frequency with
    | .ok (some f) => .interval :: f.keysRead t
    | _ => []

theorem RuleTable.keysRead_of_frequency {t : RuleTable} {f : Frequency}
    (h : t.frequency = .ok (some f)) :
    t.keysRead = .freq :: .until :: .interval :: f.keysRead t := by
  rw [keysRead, h]

theorem RuleTable.count_not_mem_keysRead (t : RuleTable) : .count ∉ t.keysRead := by
  unfold keysRead
  split
  · rename_i f _
    simp only [List.mem_cons, reduceCtorEq, false_or]
    intro hkey
    rcases Frequency.mem_keysRead hkey with h | h | h <;> cases h
  · simp

namespace RuleTable
variable {t u : RuleTable} {today : Date}

theorem has_congr {key : RuleKey} (h : t.get? key = u.get? key) : t.has key = u.has key :=
  congrArg Option.isSome h

theorem valuesOf_congr {key : RuleKey} (h : t.get? key = u.get? key) :
    t.valuesOf key = u.valuesOf key :=
  congrArg (fun value => (value.map RuleValue.texts).getD []) h

theorem scalar?_congr {key : RuleKey} (h : t.get? key = u.get? key) :
    t.scalar? key = u.scalar? key :=
  congrArg (Option.map RuleValue.joined) h

theorem frequency_congr (h : t.get? .freq = u.get? .freq) : t.frequency = u.frequency := by
  rw [frequency, frequency, scalar?_congr h]

theorem interval_congr (h : t.get? .interval = u.get? .interval) : t.interval = u.interval := by
  rw [interval, interval, unitCount, unitCount, scalar?_congr h]

theorem endPart_congr (h : t.get? .until = u.get? .until) : t.endPart today = u.endPart today := by
  rw [endPart, endPart, untilDate, untilDate, scalar?_congr h]

theorem weekdaysPart_congr (h : t.get? .byDay = u.get? .byDay) :
    t.weekdaysPart = u.weekdaysPart := by
  rw [weekdaysPart, weekdaysPart, valuesOf_congr h]

theorem numbersPart_congr {key : RuleKey} (h : t.get? key = u.get? key) (matcher : Int → Matcher) :
    t.numbersPart key matcher = u.numbersPart key matcher := by
  rw [numbersPart, numbersPart, valuesOf_congr h]

theorem monthlyPart_congr (hday : t.get? .byDay = u.get? .byDay)
    (hmonthDay : t.has .byDay = false → t.get? .byMonthDay = u.get? .byMonthDay) (start : Date) :
    t.monthlyPart start = u.monthlyPart start := by
  rw [monthlyPart, monthlyPart, ← has_congr hday, weekdaysPart_congr hday]
  cases hby : t.has .byDay with
  | true => rfl
  | false => rw [has_congr (hmonthDay hby), numbersPart_congr (hmonthDay hby)]

theorem yearlyPart_congr (hmonth : t.get? .byMonth = u.get? .byMonth)
    (hday : t.get? .byDay = u.get? .byDay) (start : Date) :
    t.yearlyPart start = u.yearlyPart start := by
  rw [yearlyPart, yearlyPart, has_congr hmonth, has_congr hday, weekdaysPart_congr hday,
    numbersPart_congr hmonth]

theorem frequencyPart_congr {f : Frequency}
    (h : ∀ key ∈ f.keysRead t, t.get? key = u.get? key) (start : Date) (interval : Interval) :
    t.frequencyPart start interval f = u.frequencyPart start interval f := by
  cases f with
  | daily => rfl
  | weekly =>
    have hday : t.get? .byDay = u.get? .byDay := h _ List.mem_cons_self
    rw [frequencyPart, frequencyPart, has_congr hday, weekdaysPart_congr hday]
  | monthly =>
    -- Days of the month are read only in a table without weekdays.
    rw [Frequency.keysRead_monthly] at h
    split at h
    · rename_i hby
      exact monthlyPart_congr (h _ List.mem_cons_self) (fun hno => by rw [hby] at hno; cases hno)
        start
    · exact monthlyPart_congr (h _ List.mem_cons_self)
        (fun _ => h _ (List.mem_cons_of_mem _ List.mem_cons_self)) start
  | yearly =>
    exact yearlyPart_congr (h _ List.mem_cons_self)
      (h _ (List.mem_cons_of_mem _ List.mem_cons_self)) start

/-! ## The whole -/

theorem recurrenceParts_eq_of_frequency {f : Frequency} (h : t.frequency = .ok (some f))
    (start : Date) :
    t.recurrenceParts start = t.interval >>= fun interval =>
      liftM (t.frequencyPart start interval f) >>= fun days =>
      pure (unitPart start interval f ++ [days]) := by
  rw [recurrenceParts, h, Outcome.liftM_ok_bind]

theorem recurrenceParts_congr (hfreq : t.get? .freq = u.get? .freq)
    (hread : ∀ f, t.frequency = .ok (some f) →
      t.get? .interval = u.get? .interval ∧ ∀ key ∈ f.keysRead t, t.get? key = u.get? key)
    (start : Date) : t.recurrenceParts start = u.recurrenceParts start := by
  have hsame : t.frequency = u.frequency := frequency_congr hfreq
  rcases hf : t.frequency with err | (_ | f)
  · rw [recurrenceParts, recurrenceParts, ← hsame, hf]
    rfl
  · rw [recurrenceParts, recurrenceParts, ← hsame, hf]
    rfl
  · obtain ⟨hinterval, hkeys⟩ := hread f hf
    rw [recurrenceParts_eq_of_frequency hf, recurrenceParts_eq_of_frequency (hsame ▸ hf),
      interval_congr hinterval]
    simp only [frequencyPart_congr hkeys]

/-- **An expression is made of the frequency, the end, and what the frequency
reads.** -/
theorem expression_congr (h : ∀ key ∈ t.keysRead, t.get? key = u.get? key) (start : Date) :
    t.expression today start = u.expression today start := by
  have hfreq : t.get? .freq = u.get? .freq := h _ (by simp [keysRead])
  have huntil : t.get? .until = u.get? .until := h _ (by simp [keysRead])
  have hread : ∀ f, t.frequency = .ok (some f) →
      t.get? .interval = u.get? .interval ∧ ∀ key ∈ f.keysRead t, t.get? key = u.get? key := by
    intro f hf
    rw [keysRead_of_frequency hf] at h
    exact ⟨h _ (by simp), fun key hkey => h _ (by simp [hkey])⟩
  rw [expression, expression, parts, parts, recurrenceParts_congr hfreq hread,
    endPart_congr huntil]

/-- To set a key that is not read changes no expression. -/
theorem expression_insert (t : RuleTable) {key : Text}
    (h : ∀ other ∈ t.keysRead, canonicalKey key ≠ other.name) (value : RuleValue) (start : Date) :
    (t.insert key value).expression today start = t.expression today start :=
  (expression_congr (fun other hother => (t.get?_insert_of_ne (h other hother) value).symm)
    start).symm

/-- To give a table a count changes no expression. -/
theorem expression_insert_count (t : RuleTable) (value : RuleValue) (start : Date) :
    (t.insert RuleKey.count.name value).expression today start = t.expression today start := by
  refine t.expression_insert (fun other hother => ?_) value start
  rw [RuleKey.canonicalKey_name, ne_eq, RuleKey.name_inj]
  rintro rfl
  exact t.count_not_mem_keysRead hother

end RuleTable

end Recurrence
