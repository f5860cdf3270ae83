import Recurrence.Phrase
import Recurrence.Proofs.Rule.Failure

/-! # What keeps a phrase from being made

Building an expression checks what the frequency reads (`RuleTable.IsChecked`), and a
phrase is made of some of the same keys.  The interval is said only beside a
frequency, where it has been checked.  The weekdays are said beside any frequency and
without one, but have been checked only if the frequency is not daily.  So the phrase
of a table that has an expression may fail for its weekdays alone, once its end can be
put into the zone (`RuleTable.result_phrase_eq_error`).
-/
namespace Recurrence

/-! ## What a build has checked -/

namespace RuleTable
variable {t : RuleTable} {today start : Date}

/-- All that an expression is made of can be read. -/
structure IsChecked (t : RuleTable) (today : Date) : Prop where
  /-- The frequency. -/
  frequency : ∃ f, t.frequency = .ok f
  /-- With a frequency, the interval. -/
  interval : ∀ f, t.frequency = .ok (some f) → ∃ k, t.interval.result = .ok k
  /-- With a frequency that is not daily, the weekdays. -/
  weekdays : ∀ f, t.frequency = .ok (some f) → f ≠ .daily →
    ∀ token ∈ t.valuesOf .byDay, ∃ day, ByDay.parse token = .ok day
  /-- The end. -/
  ending : ∀ value, t.scalar? .until = some value →
    ∃ last, Timestamp.parse today (.text value) = .ok last

theorem valuesOf_of_not_has {key : RuleKey} (h : ¬t.has key) : t.valuesOf key = [] := by
  rw [valuesOf, Option.not_isSome_iff_eq_none.mp h]
  rfl

theorem parse_of_weekdaysPart {e : Expression} (h : t.weekdaysPart = .ok e) :
    ∀ token ∈ t.valuesOf .byDay, ∃ day, ByDay.parse token = .ok day := by
  obtain ⟨days, hdays, -⟩ := except_bind_eq_ok.mp h
  exact fun token hmem => exists_eq_ok_of_mem hdays hmem

/-- Every frequency but the daily one reads the weekdays if there are any. -/
theorem parse_of_frequencyPart {interval : Interval} {f : Frequency} {e : Expression}
    (h : t.frequencyPart start interval f = .ok e) (hf : f ≠ .daily) :
    ∀ token ∈ t.valuesOf .byDay, ∃ day, ByDay.parse token = .ok day := by
  by_cases has : t.has .byDay
  · obtain ⟨days, hdays⟩ : ∃ days, t.weekdaysPart = .ok days := by
      cases f with
      | daily => exact absurd rfl hf
      | weekly => exact ⟨e, by rwa [frequencyPart, if_pos has] at h⟩
      | monthly => exact ⟨e, by rwa [frequencyPart, monthlyPart, if_pos has] at h⟩
      | yearly =>
        rw [frequencyPart, yearlyPart_eq, if_pos has] at h
        obtain ⟨months, -, h⟩ := except_bind_eq_ok.mp h
        obtain ⟨days, hdays, -⟩ := except_bind_eq_ok.mp h
        exact ⟨days, hdays⟩
    exact parse_of_weekdaysPart hdays
  · rw [valuesOf_of_not_has has]
    exact fun token hmem => nomatch hmem

/-- A table from which an expression was built has been checked. -/
theorem isChecked_of_expression {e : Expression}
    (h : (t.expression today start).result = .ok e) : t.IsChecked today := by
  obtain ⟨parts, hparts, -⟩ := Outcome.result_bind_eq_ok.mp h
  obtain ⟨first, -, hparts⟩ := Outcome.result_bind_eq_ok.mp hparts
  obtain ⟨recurrence, hrecurrence, hparts⟩ := Outcome.result_bind_eq_ok.mp hparts
  obtain ⟨last, hlast, -⟩ := Outcome.result_bind_eq_ok.mp hparts
  obtain ⟨found, hfound, hrecurrence⟩ := Outcome.result_bind_eq_ok.mp hrecurrence
  have hfrequency : t.frequency = .ok found := mapError_eq_ok.mp hfound
  have hread : ∀ f, t.frequency = .ok (some f) → ∃ k, t.interval.result = .ok k ∧
      ∃ days, t.frequencyPart start k f = .ok days := by
    intro f hf
    cases hfrequency.symm.trans hf
    obtain ⟨k, hk, hrecurrence⟩ := Outcome.result_bind_eq_ok.mp hrecurrence
    obtain ⟨days, hdays, -⟩ := Outcome.result_bind_eq_ok.mp hrecurrence
    exact ⟨k, hk, days, hdays⟩
  refine ⟨⟨found, hfrequency⟩, fun f hf => ?_, fun f hf hdaily => ?_, fun value hvalue => ?_⟩
  · obtain ⟨k, hk, -⟩ := hread f hf
    exact ⟨k, hk⟩
  · obtain ⟨k, -, days, hdays⟩ := hread f hf
    exact parse_of_frequencyPart hdays hdaily
  · obtain ⟨date, hdate, -⟩ := except_map_eq_ok.mp (mapError_eq_ok.mp hlast)
    rw [untilDate, hvalue] at hdate
    obtain ⟨time, htime, -⟩ := except_map_eq_ok.mp hdate
    exact ⟨time, htime⟩

end RuleTable

/-! ## The clauses -/

/-- The token is the first of some weekday tokens that is refused, and its weekday is unknown. -/
def ByDay.IsFirstUnknown (tokens : List Text) (token : Text) : Prop :=
  ∃ before after, tokens = before ++ token :: after ∧
    (∀ other ∈ before, ∃ day, parse other = .ok day) ∧
    parse token = .error (.rule (.unknownWeekdayToken token))

/-- The end of the table, if it has one, can be put into the zone. -/
def RuleTable.EndsIn (t : RuleTable) (today : Date) (zone : Zone) : Prop :=
  ∀ value last, t.scalar? .until = some value → Timestamp.parse today (.text value) = .ok last →
    ∃ shown, zone.localize last = .ok shown

namespace Phrase
variable {t : RuleTable} {today : Date} {zone : Zone}

theorem result_intervalClause (h : t.IsChecked today) :
    ∃ clause, (intervalClause t).result = .ok clause := by
  obtain ⟨found, hfrequency⟩ := h.frequency
  unfold intervalClause
  split
  · exact ⟨_, rfl⟩
  · rename_i word hword
    split
    · exact ⟨_, rfl⟩
    · -- The word is the frequency, and with a frequency the interval has been checked.
      have hread : t.frequency = (Frequency.parse word).map some := by
        rw [RuleTable.frequency, hword]
      obtain ⟨f, hf, rfl⟩ := except_map_eq_ok.mp (hread.symm.trans hfrequency)
      obtain ⟨k, hk⟩ := h.interval f hfrequency
      exact ⟨_, Outcome.result_bind_eq_ok.mpr ⟨f, mapError_eq_ok.mpr hf,
        Outcome.result_bind_eq_ok.mpr ⟨k, hk, rfl⟩⟩⟩

theorem weekdaysClause_eq_error {err : Error} :
    weekdaysClause t = .error err ↔ (t.valuesOf .byDay).mapM ByDay.parse = .error err := by
  unfold weekdaysClause
  split
  · rename_i hnil
    rw [hnil, List.mapM_nil]
    simp [pure, Except.pure]
  · rename_i hcons
    rw [except_bind_eq_error]
    simp

theorem endClause_eq_ok (h : t.IsChecked today) (hzone : t.EndsIn today zone) :
    ∃ clause, endClause t today zone = .ok clause := by
  unfold endClause
  split
  · exact ⟨_, rfl⟩
  · rename_i value hvalue
    obtain ⟨last, hlast⟩ := h.ending value hvalue
    obtain ⟨shown, hshown⟩ := hzone value last hvalue hlast
    exact ⟨_, except_bind_eq_ok.mpr ⟨last, mapError_eq_ok.mpr hlast,
      except_bind_eq_ok.mpr ⟨shown, hshown, rfl⟩⟩⟩

end Phrase

/-! ## The whole -/

namespace RuleTable
variable {t : RuleTable} {today : Date} {zone : Zone} {err : Error}

/-- A phrase fails if and only if its weekdays do. -/
theorem result_phrase_eq_error_iff_weekdays (h : t.IsChecked today) (hzone : t.EndsIn today zone) :
    (t.phrase today zone).result = .error err ↔
      (t.valuesOf .byDay).mapM ByDay.parse = .error err := by
  obtain ⟨interval, hinterval⟩ := Phrase.result_intervalClause h
  obtain ⟨last, hlast⟩ := Phrase.endClause_eq_ok h hzone
  rw [phrase, Outcome.result_bind_of_eq_ok hinterval, Outcome.result_bind_eq_error,
    ← Phrase.weekdaysClause_eq_error]
  constructor
  · rintro (hweekdays | ⟨weekdays, -, hrest⟩)
    · exact hweekdays
    · -- The end has a clause, and clauses are only joined.
      rw [hlast] at hrest
      rcases Outcome.result_bind_eq_error.mp hrest with hend | ⟨clause, -, hjoin⟩
      · cases hend
      · split at hjoin <;> cases hjoin
  · exact .inl

/-- **The phrase of a table that has an expression fails only for its weekdays.** -/
theorem result_phrase_eq_error (h : t.IsChecked today) (hzone : t.EndsIn today zone)
    (hshort : ∀ token ∈ t.valuesOf .byDay, ByDay.ordinalLength token ≤ Text.digitLimit) :
    (t.phrase today zone).result = .error err ↔
      (t.frequency = .ok none ∨ t.frequency = .ok (some .daily)) ∧
        ∃ token, ByDay.IsFirstUnknown (t.valuesOf .byDay) token ∧
          err = .rule (.unknownWeekdayToken token) := by
  rw [result_phrase_eq_error_iff_weekdays h hzone, mapM_eq_error]
  constructor
  · rintro ⟨before, token, after, htokens, hbefore, htoken⟩
    have hmem : token ∈ t.valuesOf .byDay := by simp [htokens]
    rcases ByDay.parse_eq_error htoken with rfl | ⟨hlong, -⟩
    · refine ⟨?_, token, ⟨before, after, htokens, hbefore, htoken⟩, rfl⟩
      obtain ⟨_ | f, hf⟩ := h.frequency
      · exact .inl hf
      · by_cases hdaily : f = .daily
        · exact .inr (hdaily ▸ hf)
        · obtain ⟨day, hday⟩ := h.weekdays f hf hdaily token hmem
          cases htoken.symm.trans hday
    · exact absurd hlong (Nat.not_lt.mpr (hshort token hmem))
  · rintro ⟨-, token, ⟨before, after, htokens, hbefore, htoken⟩, rfl⟩
    exact ⟨before, token, after, htokens, hbefore, htoken⟩

end RuleTable

end Recurrence
