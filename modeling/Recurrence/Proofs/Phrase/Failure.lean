import Recurrence.Proofs.Phrase.Content

/-! # What a phrase in a named zone fails with

Nearly all that keeps a table from having a phrase is a rule error, and rule errors are
what callers are told to expect.  `RuleTable.Escapes` lists the others.  A name may be
that of an area or too long for a file; the ordinal of a weekday may have too many
digits; and the end, although it can be read, may have no date in the zone
(`Zone.Refuses`): its offset is a day or more, or its instant lies outside the calendar
in universal time or by the clock of the zone.  These are all
(`RuleTable.result_phraseIn_cases`).
-/
namespace Recurrence

/-! ## The clauses -/

namespace RuleTable

/-- How often can be read: if a frequency and an interval are there, they are one. -/
def IsCadenceReadable (t : RuleTable) : Prop :=
  t.has .freq = true → t.has .interval = true → ∃ unit k, t.RecursEvery unit k

end RuleTable

namespace Phrase
variable {t : RuleTable} {today : Date} {zone : Zone} {err : Error}

theorem exists_result_intervalClause :
    (∃ clause, (intervalClause t).result = .ok clause) ↔ t.IsCadenceReadable := by
  constructor
  · rintro ⟨clause, hclause⟩ hfreq hinterval
    obtain ⟨cadence, -, hcadence, hkeys⟩ := cadence_of_intervalClause hclause
    rw [hfreq, hinterval] at hkeys
    obtain ⟨⟨unit, k⟩, rfl⟩ := Option.isSome_iff_exists.mp hkeys
    exact ⟨unit, k, (hcadence unit k).mpr rfl⟩
  · intro h
    unfold intervalClause
    split
    · exact ⟨_, rfl⟩
    · rename_i word hword
      split
      · exact ⟨_, rfl⟩
      · rename_i hinterval
        have hfreq : t.has .freq = true := by
          rw [← t.isSome_scalar?, hword]
          rfl
        obtain ⟨unit, k, -, hk, word', f, hword', hf, -⟩ := h hfreq (by simpa using hinterval)
        cases hword.symm.trans hword'
        rcases hread : t.interval.result with err | interval
        · -- An interval is refused only if it is no integer, and then it is no interval.
          obtain ⟨value, hvalue, hnumber, -⟩ := RuleTable.result_interval_eq_error.mp hread
          rw [RuleTable.HasInterval, hvalue] at hk
          obtain ⟨n, hn, -⟩ := hk
          cases hnumber.symm.trans hn
        · exact ⟨_, Outcome.result_bind_eq_ok.mpr ⟨f, mapError_eq_ok.mpr hf,
            Outcome.result_bind_eq_ok.mpr ⟨interval, hread, rfl⟩⟩⟩

theorem isRuleError_of_intervalClause (h : (intervalClause t).result = .error err) :
    err.isRuleError = true := by
  unfold intervalClause at h
  split at h
  · cases h
  · split at h
    · cases h
    · rcases Outcome.result_bind_eq_error.mp h with hf | ⟨f, -, h⟩
      · obtain ⟨r, -, rfl⟩ := mapError_eq_error.mp hf
        rfl
      · rcases Outcome.result_bind_eq_error.mp h with hinterval | ⟨interval, -, h⟩
        · obtain ⟨value, -, -, rfl⟩ := RuleTable.result_interval_eq_error.mp hinterval
          rfl
        · cases h

theorem exists_weekdaysClause :
    (∃ clause, weekdaysClause t = .ok clause) ↔ ∃ days, t.AsksFor days := by
  constructor
  · rintro ⟨clause, hclause⟩
    obtain ⟨days, hdays, -⟩ := asksFor_of_weekdaysClause hclause
    exact ⟨days, hdays⟩
  · rintro ⟨days, hdays⟩
    rcases h : weekdaysClause t with err | clause
    · cases (weekdaysClause_eq_error.mp h).symm.trans (mapM_eq_ok.mpr hdays)
    · exact ⟨clause, rfl⟩

theorem endClause_eq_error :
    endClause t today zone = .error err ↔ ∃ value, t.scalar? .until = some value ∧
      ((∃ r, Timestamp.parse today (.text value) = .error r ∧ .rule r = err) ∨
        ∃ last, Timestamp.parse today (.text value) = .ok last ∧
          zone.localize last = .error err) := by
  unfold endClause
  cases t.scalar? .until with
  | none => simp
  | some value =>
    simp only [Option.some.injEq, exists_eq_left', except_bind_eq_error, mapError_eq_error,
      mapError_eq_ok, reduceCtorEq, and_false, exists_false, or_false]

end Phrase

/-! ## The whole -/

namespace RuleTable
open Phrase
variable {t : RuleTable} {today : Date} {name : Text} {zone : Zone} {err : Error}

/-- The error is none that callers are told to expect, and keeps the table from having a phrase in
the zone of that name.  Whatever a phrase is made of before has been read. -/
inductive Escapes (t : RuleTable) (today : Date) (name : Text) : Error → Prop
  /-- The name is that of an area. -/
  | area : Zone.find name = .error .area → Escapes t today name .isDirectory
  /-- The name is too long for a file. -/
  | nameTooLong : Zone.find name = .error .tooLong → Escapes t today name .nameTooLong
  /-- The ordinal of a weekday has too many digits. -/
  | ordinal (zone : Zone) (before : List Text) (token : Text) (after : List Text) :
      Zone.find name = .ok zone → t.IsCadenceReadable →
      t.valuesOf .byDay = before ++ token :: after →
      (∀ other ∈ before, ∃ day, ByDay.parse other = .ok day) →
      ByDay.parse token = .error (.tooManyDigits (ByDay.ordinalLength token)) →
      Escapes t today name (.tooManyDigits (ByDay.ordinalLength token))
  /-- The end is a timestamp that is refused in the zone. -/
  | ending (zone : Zone) (days : List ByDay) (value : Text) (last : DateTime) (o : UtcOffset)
      (err : Error) :
      Zone.find name = .ok zone → t.IsCadenceReadable → t.AsksFor days →
      t.scalar? .until = some value → Timestamp.parse today (.text value) = .ok last →
      last.offset = some o → zone.Refuses last o err → Escapes t today name err

/-- A phrase fails in one of its clauses, if the clauses before it do not. -/
theorem result_phrase_eq_error_iff :
    (t.phrase today zone).result = .error err ↔ (intervalClause t).result = .error err ∨
      t.IsCadenceReadable ∧ (weekdaysClause t = .error err ∨
        (∃ days, t.AsksFor days) ∧ endClause t today zone = .error err) := by
  rw [← exists_result_intervalClause, ← exists_weekdaysClause, phrase,
    Outcome.result_bind_eq_error]
  constructor
  · rintro (hcadence | ⟨clause, hclause, h⟩)
    · exact .inl hcadence
    · refine .inr ⟨⟨clause, hclause⟩, ?_⟩
      rcases Outcome.result_bind_eq_error.mp h with hweekdays | ⟨clause', hclause', h⟩
      · exact .inl hweekdays
      · rcases Outcome.result_bind_eq_error.mp h with hend | ⟨clause'', -, h⟩
        · exact .inr ⟨⟨clause', hclause'⟩, hend⟩
        · split at h <;> cases h
  · rintro (hcadence | ⟨⟨clause, hclause⟩, h⟩)
    · exact .inl hcadence
    · refine .inr ⟨clause, hclause, Outcome.result_bind_eq_error.mpr ?_⟩
      rcases h with hweekdays | ⟨⟨clause', hclause'⟩, hend⟩
      · exact .inl hweekdays
      · exact .inr ⟨clause', hclause', Outcome.result_bind_eq_error.mpr (.inl hend)⟩

theorem Escapes.result_phraseIn (h : t.Escapes today name err) :
    (t.phraseIn today name).result = .error err ∧ err.isRuleError = false := by
  rw [phraseIn, Outcome.result_bind_eq_error]
  cases h with
  | area hfind => exact ⟨.inl (Zone.resolve_eq_error.mpr (.inr (.inl ⟨hfind, rfl⟩))), rfl⟩
  | nameTooLong hfind => exact ⟨.inl (Zone.resolve_eq_error.mpr (.inr (.inr ⟨hfind, rfl⟩))), rfl⟩
  | ordinal zone before token after hfind hcadence htokens hbefore htoken =>
    have hweekdays : weekdaysClause t = .error (.tooManyDigits (ByDay.ordinalLength token)) :=
      weekdaysClause_eq_error.mpr
        (mapM_eq_error.mpr ⟨before, token, after, htokens, hbefore, htoken⟩)
    exact ⟨.inr ⟨zone, Zone.resolve_eq_ok.mpr hfind,
      result_phrase_eq_error_iff.mpr (.inr ⟨hcadence, .inl hweekdays⟩)⟩, rfl⟩
  | ending zone days value last o err hfind hcadence hdays hvalue hlast ho hrefuses =>
    have hend : endClause t today zone = .error err :=
      endClause_eq_error.mpr ⟨value, hvalue,
        .inr ⟨last, hlast, Zone.localize_eq_error.mpr ⟨o, ho, hrefuses⟩⟩⟩
    exact ⟨.inr ⟨zone, Zone.resolve_eq_ok.mpr hfind,
      result_phrase_eq_error_iff.mpr (.inr ⟨hcadence, .inr ⟨⟨days, hdays⟩, hend⟩⟩)⟩,
      hrefuses.isRuleError_eq⟩

theorem escapes_of_result_phraseIn (h : (t.phraseIn today name).result = .error err)
    (hother : err.isRuleError = false) : t.Escapes today name err := by
  rcases Outcome.result_bind_eq_error.mp h with hname | ⟨zone, hzone, h⟩
  · rcases Zone.resolve_eq_error.mp hname with ⟨-, rfl⟩ | ⟨hfind, rfl⟩ | ⟨hfind, rfl⟩
    · cases hother
    · exact .area hfind
    · exact .nameTooLong hfind
  · have hfind := Zone.resolve_eq_ok.mp hzone
    rcases result_phrase_eq_error_iff.mp h with hcadence | ⟨hcadence, h⟩
    · cases (isRuleError_of_intervalClause hcadence).symm.trans hother
    · rcases h with hweekdays | ⟨⟨days, hdays⟩, hend⟩
      · obtain ⟨before, token, after, htokens, hbefore, htoken⟩ :=
          mapM_eq_error.mp (weekdaysClause_eq_error.mp hweekdays)
        rcases ByDay.parse_eq_error htoken with rfl | ⟨-, rfl⟩
        · cases hother
        · exact .ordinal zone before token after hfind hcadence htokens hbefore htoken
      · obtain ⟨value, hvalue, ⟨r, -, rfl⟩ | ⟨last, hlast, hlocal⟩⟩ := endClause_eq_error.mp hend
        · cases hother
        · obtain ⟨o, ho, hrefuses⟩ := Zone.localize_eq_error.mp hlocal
          exact .ending zone days value last o err hfind hcadence hdays hvalue hlast ho hrefuses

/-- **A table has a phrase in the zone of a name, or fails with a rule error, or another error
escapes.**  The others are those of a name that is an area or too long, of an ordinal that is too
long, and of an end that is refused in the zone.  None of them becomes a rule error. -/
theorem result_phraseIn_cases (t : RuleTable) (today : Date) (name : Text) :
    ((∃ p, (t.phraseIn today name).result = .ok p) ∨
      (∃ r, (t.phraseIn today name).result = .error (.rule r)) ∨
      ∃ err, t.Escapes today name err ∧ (t.phraseIn today name).result = .error err) ∧
    ∀ err, t.Escapes today name err →
      (t.phraseIn today name).result = .error err ∧ err.isRuleError = false := by
  refine ⟨?_, fun err => Escapes.result_phraseIn⟩
  rcases h : (t.phraseIn today name).result with err | p
  · cases hrule : err.isRuleError with
    | true =>
      cases err with
      | rule r => exact .inr (.inl ⟨r, rfl⟩)
      | _ => cases hrule
    | false => exact .inr (.inr ⟨err, escapes_of_result_phraseIn h hrule, rfl⟩)
  · exact .inl ⟨p, rfl⟩

set_option maxRecDepth 100000 in
/-- Midnight of 0001-01-01 in universal time is read, and five hours earlier there is no date. -/
theorem result_phraseIn_outsideCalendar :
    ∃ t, parse ["UNTIL=00010101T000000Z".toList] = .ok t ∧
      (∃ last, Timestamp.parse .epoch (.text "00010101T000000Z".toList) = .ok last) ∧
      ∃ err, (t.phraseIn .epoch "Etc/GMT+5".toList).result = .error err ∧ err.isRuleError = false :=
  ⟨_, by rfl, ⟨_, by rfl⟩, _, by rfl, by rfl⟩

end RuleTable

end Recurrence
