import Recurrence.Proofs.Rule.Meaning
import Recurrence.Proofs.Rule.Reading

/-! # How building an expression fails

`RuleTable.Fault` lists what may keep a rule table and a start from having an
expression, each cause with the place where it lies: the start, a key with its value,
a weekday token.  A build that fails does so by one of these faults
(`RuleTable.fault_of_expression`).  A table that was read from rules has no empty list
(`RuleTable.IsRead.valuesOf_ne_nil`), so one of them never comes up there.
-/
namespace Recurrence

/-! ## What a single text causes -/

namespace ByDay

/-- The number of digits in the ordinal of a weekday token; zero if it has none. -/
def ordinalLength (token : Text) : Nat :=
  match takeOrdinal? (Text.strip token).upper with
  | some (_, digits, _) => digits.length
  | none => 0

/-- A weekday token is refused if its weekday is unknown or its ordinal is too long. -/
theorem parse_eq_error {token : Text} {err : Error} (h : parse token = .error err) :
    err = .rule (.unknownWeekdayToken token) ∨
      Text.digitLimit < ordinalLength token ∧ err = .tooManyDigits (ordinalLength token) := by
  unfold parse at h
  dsimp only at h
  split at h
  · split at h
    · cases h
    · cases h
      exact .inl rfl
  · rename_i negative digits rest hdigits
    split at h
    · cases h
      exact .inl rfl
    · split at h
      · rename_i hlong
        cases h
        rw [ordinalLength, hdigits]
        exact .inr ⟨hlong, rfl⟩
      · cases h

end ByDay

theorem parseNumber_eq_error {key : RuleKey} {value : Text} {err : RuleError}
    (h : parseNumber key value = .error err) : err = .notAnInteger key value := by
  unfold parseNumber at h
  split at h
  · cases h
  · cases h
    rfl

theorem Frequency.parse_eq_error {value : Text} {err : RuleError}
    (h : parse value = .error err) : err = .unsupportedFrequency value := by
  unfold parse at h
  split at h
  · cases h
  · cases h
    rfl

theorem Timestamp.parse_eq_error {today : Date} {value : Value} {err : RuleError}
    (h : parse today value = .error err) : err = .unreadableTimestamp value := by
  unfold parse at h
  split at h
  · split at h
    · cases h
    · cases h
      rfl
  · cases h
    rfl

/-! ## What keeps rules from having an expression -/

namespace RuleTable

/-- The error is what a part of the rules, or the start, causes. -/
inductive Fault (t : RuleTable) (today start : Date) : Error → Prop
  /-- No day comes before the start. -/
  | firstDate : start = .first → Fault t today start .outsideCalendar
  /-- The frequency is none of the four. -/
  | frequency (value : Text) : t.scalar? .freq = some value →
      Frequency.parse value = .error (.unsupportedFrequency value) →
      Fault t today start (.rule (.unsupportedFrequency value))
  /-- The interval is no integer. -/
  | interval (value : Text) : t.scalar? .interval = some value →
      parseNumber .interval value = .error (.notAnInteger .interval value) →
      Fault t today start (.rule (.notAnInteger .interval value))
  /-- A month, or a day of the month, is no integer. -/
  | number (key : RuleKey) (value : Text) : value ∈ t.valuesOf key →
      parseNumber key value = .error (.notAnInteger key value) →
      Fault t today start (.rule (.notAnInteger key value))
  /-- A weekday token has no weekday. -/
  | weekday (token : Text) : token ∈ t.valuesOf .byDay →
      ByDay.parse token = .error (.rule (.unknownWeekdayToken token)) →
      Fault t today start (.rule (.unknownWeekdayToken token))
  /-- The ordinal of a weekday token has too many digits. -/
  | ordinal (token : Text) : token ∈ t.valuesOf .byDay →
      Text.digitLimit < ByDay.ordinalLength token →
      Fault t today start (.tooManyDigits (ByDay.ordinalLength token))
  /-- A key has an empty list. -/
  | emptyList (key : RuleKey) : t.has key = true → t.valuesOf key = [] →
      Fault t today start (.emptyCombination .or)
  /-- The end is no timestamp. -/
  | ending (value : Text) : t.scalar? .until = some value →
      Timestamp.parse today (.text value) = .error (.unreadableTimestamp (.text value)) →
      Fault t today start (.rule (.unreadableTimestamp (.text value)))

variable {t : RuleTable} {today start : Date} {err : Error}

/-! ## The parts -/

theorem startPart_eq_error :
    startPart start = .error err ↔ start = .first ∧ err = .outsideCalendar := by
  have hone := start.one_le
  have hlast := start.le_last
  unfold startPart Date.addDays? Date.ofDayNumber?
  by_cases hfirst : start = .first
  · subst hfirst
    rw [dif_neg (by decide)]
    simp [eq_comm]
  · have hday : start.dayNumber ≠ 1 := fun h => hfirst (Date.ext_dayNumber h)
    rw [dif_pos ⟨by omega, by omega⟩]
    simp [hfirst]

theorem frequency_eq_error {err : RuleError} :
    t.frequency = .error err ↔ ∃ value, t.scalar? .freq = some value ∧
      Frequency.parse value = .error (.unsupportedFrequency value) ∧
      err = .unsupportedFrequency value := by
  unfold frequency
  cases t.scalar? .freq with
  | none => simp
  | some value =>
    simp only [except_map_eq_error, Option.some.injEq, exists_eq_left']
    exact except_eq_error_iff Frequency.parse_eq_error

theorem result_unitCount_eq_error :
    t.unitCount.result = .error err ↔ ∃ value, t.scalar? .interval = some value ∧
      parseNumber .interval value = .error (.notAnInteger .interval value) ∧
      err = .rule (.notAnInteger .interval value) := by
  unfold unitCount
  cases t.scalar? .interval with
  | none => simp [Outcome.ok]
  | some value =>
    simp only [Option.some.injEq, exists_eq_left']
    constructor
    · intro h
      rcases Outcome.result_bind_eq_error.mp h with hnumber | ⟨n, -, h⟩
      · obtain ⟨fault, hfault, rfl⟩ := mapError_eq_error.mp hnumber
        obtain rfl := parseNumber_eq_error hfault
        exact ⟨hfault, rfl⟩
      · split at h <;> cases h
    · rintro ⟨h, rfl⟩
      rw [h]
      rfl

/-- An interval is refused only if it is no integer: what is read is never less than one. -/
theorem result_interval_eq_error :
    t.interval.result = .error err ↔ ∃ value, t.scalar? .interval = some value ∧
      parseNumber .interval value = .error (.notAnInteger .interval value) ∧
      err = .rule (.notAnInteger .interval value) := by
  rw [← result_unitCount_eq_error, interval, Outcome.result_bind_eq_error]
  constructor
  · rintro (h | ⟨n, hn, h⟩)
    · exact h
    · have hpos := (result_unitCount_eq_ok.mp hn).one_le
      have hneg := (Interval.ofInt_eq_error.mp h).1
      omega
  · exact .inl

theorem untilDate_eq_error {err : RuleError} :
    t.untilDate today = .error err ↔ ∃ value, t.scalar? .until = some value ∧
      Timestamp.parse today (.text value) = .error (.unreadableTimestamp (.text value)) ∧
      err = .unreadableTimestamp (.text value) := by
  unfold untilDate
  cases t.scalar? .until with
  | none => simp
  | some value =>
    simp only [except_map_eq_error, Option.some.injEq, exists_eq_left']
    exact except_eq_error_iff Timestamp.parse_eq_error

/-- Texts are read one by one and joined: a text is not read, or there is none. -/
theorem anyOf_eq_error {α : Type} {read : Text → Except Error α} {part : α → Expression}
    {values : List Text}
    (h : (values.mapM read >>= fun xs => Expression.anyOf (xs.map part)) = .error err) :
    (∃ value ∈ values, read value = .error err) ∨ values = [] ∧ err = .emptyCombination .or := by
  rcases except_bind_eq_error.mp h with hread | ⟨xs, hxs, hjoin⟩
  · obtain ⟨before, value, after, rfl, -, hvalue⟩ := mapM_eq_error.mp hread
    exact .inl ⟨value, by simp, hvalue⟩
  · have hlength := (mapM_eq_ok.mp hxs).length_eq
    cases xs with
    | nil =>
      cases hjoin
      exact .inr ⟨List.eq_nil_of_length_eq_zero hlength, rfl⟩
    | cons x xs => cases hjoin

theorem fault_of_weekdaysPart (has : t.has .byDay = true) (h : t.weekdaysPart = .error err) :
    t.Fault today start err := by
  rcases anyOf_eq_error h with ⟨token, hmem, htoken⟩ | ⟨hnil, rfl⟩
  · rcases ByDay.parse_eq_error htoken with rfl | ⟨hlong, rfl⟩
    · exact .weekday token hmem htoken
    · exact .ordinal token hmem hlong
  · exact .emptyList .byDay has hnil

theorem fault_of_numbersPart {key : RuleKey} {matcher : Int → Matcher} (has : t.has key = true)
    (h : t.numbersPart key matcher = .error err) : t.Fault today start err := by
  rcases anyOf_eq_error h with ⟨value, hmem, hvalue⟩ | ⟨hnil, rfl⟩
  · obtain ⟨fault, hfault, rfl⟩ := mapError_eq_error.mp hvalue
    obtain rfl := parseNumber_eq_error hfault
    exact .number key value hmem hfault
  · exact .emptyList key has hnil

theorem fault_of_monthlyPart (h : t.monthlyPart start = .error err) : t.Fault today start err := by
  unfold monthlyPart at h
  split at h
  · rename_i has
    exact fault_of_weekdaysPart has h
  · split at h
    · rename_i has
      exact fault_of_numbersPart has h
    · cases h

theorem fault_of_yearlyPart (h : t.yearlyPart start = .error err) : t.Fault today start err := by
  rw [yearlyPart_eq] at h
  rcases except_bind_eq_error.mp h with hmonths | ⟨months, -, h⟩
  · split at hmonths
    · rename_i has
      exact fault_of_numbersPart has hmonths
    · cases hmonths
  · rcases except_bind_eq_error.mp h with hdays | ⟨days, -, h⟩
    · split at hdays
      · rename_i has
        exact fault_of_weekdaysPart has hdays
      · cases hdays
    · cases h

theorem fault_of_frequencyPart {interval : Interval} {f : Frequency}
    (h : t.frequencyPart start interval f = .error err) : t.Fault today start err := by
  cases f with
  | daily => cases h
  | weekly =>
    change (if t.has .byDay then t.weekdaysPart else .ok (.leaf (.weekday start.weekday))) = _ at h
    split at h
    · rename_i has
      exact fault_of_weekdaysPart has h
    · cases h
  | monthly => exact fault_of_monthlyPart h
  | yearly => exact fault_of_yearlyPart h

theorem fault_of_recurrenceParts (h : (t.recurrenceParts start).result = .error err) :
    t.Fault today start err := by
  rcases Outcome.result_bind_eq_error.mp h with hfreq | ⟨found, hfound, h⟩
  · obtain ⟨fault, hfault, rfl⟩ := mapError_eq_error.mp hfreq
    obtain ⟨value, hvalue, hparse, rfl⟩ := frequency_eq_error.mp hfault
    exact .frequency value hvalue hparse
  · cases found with
    | none => cases h
    | some f =>
      rcases Outcome.result_bind_eq_error.mp h with hinterval | ⟨interval, -, h⟩
      · obtain ⟨value, hvalue, hnumber, rfl⟩ := result_interval_eq_error.mp hinterval
        exact .interval value hvalue hnumber
      · rcases Outcome.result_bind_eq_error.mp h with hdays | ⟨days, -, h⟩
        · exact fault_of_frequencyPart hdays
        · cases h

theorem fault_of_endPart {err : RuleError} (h : t.endPart today = .error err) :
    t.Fault today start (.rule err) := by
  obtain ⟨value, hvalue, hlast, rfl⟩ := untilDate_eq_error.mp (except_map_eq_error.mp h)
  exact .ending value hvalue hlast

/-! ## The whole -/

/-- **A build fails only by a fault of the rules or of the start.** -/
theorem fault_of_expression (h : (t.expression today start).result = .error err) :
    t.Fault today start err := by
  rcases Outcome.result_bind_eq_error.mp h with hparts | ⟨parts, hparts, hjoin⟩
  · rcases Outcome.result_bind_eq_error.mp hparts with hfirst | ⟨first, -, h⟩
    · obtain ⟨hstart, rfl⟩ := startPart_eq_error.mp hfirst
      exact .firstDate hstart
    · rcases Outcome.result_bind_eq_error.mp h with hrecurrence | ⟨recurrence, -, h⟩
      · exact fault_of_recurrenceParts hrecurrence
      · rcases Outcome.result_bind_eq_error.mp h with hlast | ⟨last, -, h⟩
        · obtain ⟨fault, hfault, rfl⟩ := mapError_eq_error.mp hlast
          exact fault_of_endPart hfault
        · cases h
  · -- The first part is always there, so there is something to combine.
    obtain ⟨first, -, h⟩ := Outcome.result_bind_eq_ok.mp hparts
    obtain ⟨recurrence, -, h⟩ := Outcome.result_bind_eq_ok.mp h
    obtain ⟨last, -, h⟩ := Outcome.result_bind_eq_ok.mp h
    cases h
    cases hjoin

/-! ## Tables that were read -/

theorem texts_readValue_ne_nil (s : Text) : (readValue s).texts ≠ [] := by
  unfold readValue
  dsimp only
  split
  · exact fun h => Text.splitOn_ne_nil _ _ (List.map_eq_nil_iff.mp h)
  · exact List.cons_ne_nil _ _

/-- No list of a table that was read is empty. -/
theorem IsRead.valuesOf_ne_nil (h : t.IsRead) {key : RuleKey} (has : t.has key = true) :
    t.valuesOf key ≠ [] := by
  obtain ⟨value, hvalue⟩ := Option.isSome_iff_exists.mp has
  have hentry : IsReadEntry key.name value :=
    h.entry _ ((find?_eq_some_iff h.distinct).mp hvalue)
  rw [valuesOf, hvalue, Option.map_some, Option.getD_some, ← hentry.reread]
  exact texts_readValue_ne_nil _

end RuleTable

end Recurrence
