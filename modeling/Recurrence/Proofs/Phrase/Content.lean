import Recurrence.Proofs.Phrase
import Recurrence.Proofs.Zone
import Recurrence.Series

/-! # What a phrase says

A phrase says up to three things of a table: how often (`RuleTable.RecursEvery`), on
which weekdays (`RuleTable.AsksFor`), and the date of the end by the clock of a zone
(`RuleTable.EndsOn`).  Whenever a table has a phrase, the three are its content
(`RuleTable.Tells`), and the phrase is made of nothing else
(`RuleTable.exists_tells`).  So the phrase is "Never" if there is nothing to say
(`RuleTable.phrase_eq_never_iff`); a frequency alone is not said, though.
-/
namespace Recurrence

/-! ## What is said -/

namespace RuleTable

/-- The table has a frequency of the unit, and an interval of so many units beside it. -/
def RecursEvery (t : RuleTable) (unit : TimeUnit) (k : Int) : Prop :=
  t.has .interval = true ∧ t.HasInterval k ∧
    ∃ word f, t.scalar? .freq = some word ∧ Frequency.parse word = .ok f ∧ f.unit = unit

/-- The weekday tokens of the table ask for these, in order. -/
def AsksFor (t : RuleTable) (days : List ByDay) : Prop :=
  List.Forall₂ (fun token day => ByDay.parse token = .ok day) (t.valuesOf .byDay) days

/-- The table has an end, and it is on the date by the clock of the zone. -/
def EndsOn (t : RuleTable) (today : Date) (zone : Zone) (d : Date) : Prop :=
  ∃ value last, t.scalar? .until = some value ∧
    Timestamp.parse today (.text value) = .ok last ∧ zone.Shows last d

end RuleTable

namespace Phrase

/-- All that a phrase says. -/
@[ext]
structure Content where
  /-- How often: every so many units. -/
  cadence : Option (TimeUnit × Int)
  /-- On which weekdays. -/
  weekdays : List ByDay
  /-- Until which date. -/
  last : Option Date

/-- The clause for some weekdays, if there are any. -/
def weekdaysText : List ByDay → Option Text
  | [] => none
  | days => some ("on ".toList ++ joinNames (days.map dayName))

namespace Content

/-- The clauses that say it, one for each thing there is to say. -/
def clauses (c : Content) : List Text :=
  [c.cadence.map fun (unit, k) => pluralize k unit.word.toList, weekdaysText c.weekdays,
    c.last.map fun d => "until ".toList ++ d.inWords].filterMap id

/-- The phrase that says it. -/
def text (c : Content) : Text :=
  match c.clauses with
  | [] => "Never".toList
  | clauses => Text.joinWith [' '] ("Every".toList :: clauses)

theorem text_cases (c : Content) :
    (c.clauses = [] ∧ c.text = "Never".toList) ∨
      (c.clauses ≠ [] ∧ ∃ rest, c.text = "Every ".toList ++ rest) := by
  rw [text]
  generalize c.clauses = clauses
  cases clauses with
  | nil => exact .inl ⟨rfl, rfl⟩
  | cons clause clauses => exact .inr ⟨List.cons_ne_nil clause clauses, _, rfl⟩

end Content

end Phrase

namespace RuleTable
open Phrase

/-- The content is what a phrase says of the table: each thing for which the keys are there. -/
structure Tells (t : RuleTable) (today : Date) (zone : Zone) (c : Content) : Prop where
  /-- How often. -/
  cadence : ∀ unit k, t.RecursEvery unit k ↔ c.cadence = some (unit, k)
  /-- It takes both keys to say how often. -/
  isSome_cadence : c.cadence.isSome = (t.has .freq && t.has .interval)
  /-- On which weekdays. -/
  weekdays : t.AsksFor c.weekdays
  /-- Until which date. -/
  last : ∀ d, t.EndsOn today zone d ↔ c.last = some d
  /-- An end is always said. -/
  isSome_last : c.last.isSome = t.has .until

variable {t : RuleTable}

theorem isSome_scalar? (t : RuleTable) (key : RuleKey) : (t.scalar? key).isSome = t.has key :=
  Option.isSome_map

theorem AsksFor.unique {days days' : List ByDay} (h : t.AsksFor days) (h' : t.AsksFor days') :
    days = days' :=
  Except.ok.inj ((mapM_eq_ok.mpr h).symm.trans (mapM_eq_ok.mpr h'))

end RuleTable

/-! ## The clauses -/

namespace Phrase
variable {t : RuleTable} {today : Date} {zone : Zone} {clause : Option Text}

theorem cadence_of_intervalClause (h : (intervalClause t).result = .ok clause) :
    ∃ cadence : Option (TimeUnit × Int),
      clause = cadence.map (fun (unit, k) => pluralize k unit.word.toList) ∧
      (∀ unit k, t.RecursEvery unit k ↔ cadence = some (unit, k)) ∧
      cadence.isSome = (t.has .freq && t.has .interval) := by
  rw [← t.isSome_scalar? .freq]
  unfold intervalClause at h
  split at h
  · rename_i hfreq
    cases h
    refine ⟨none, rfl, fun unit k => ?_, by rw [hfreq]; rfl⟩
    simp [RuleTable.RecursEvery, hfreq]
  · rename_i word hfreq
    split at h
    · rename_i hinterval
      have hinterval : t.has .interval = false := by simpa using hinterval
      cases h
      refine ⟨none, rfl, fun unit k => ?_, by rw [hinterval, Bool.and_false]; rfl⟩
      simp [RuleTable.RecursEvery, hinterval]
    · rename_i hinterval
      have hinterval : t.has .interval = true := by simpa using hinterval
      obtain ⟨f, hf, h⟩ := Outcome.result_bind_eq_ok.mp h
      obtain ⟨interval, hread, h⟩ := Outcome.result_bind_eq_ok.mp h
      cases h
      have hf : Frequency.parse word = .ok f := mapError_eq_ok.mp hf
      have hcount := RuleTable.hasInterval_of_interval hread
      refine ⟨some (f.unit, interval.count), rfl, fun unit k => ?_,
        by rw [hfreq, hinterval]; rfl⟩
      rw [Option.some.injEq, Prod.mk.injEq]
      constructor
      · rintro ⟨-, hk, word', f', hfreq', hf', rfl⟩
        cases hfreq.symm.trans hfreq'
        cases hf.symm.trans hf'
        exact ⟨rfl, hcount.unique hk⟩
      · rintro ⟨rfl, rfl⟩
        exact ⟨hinterval, hcount, word, f, hfreq, hf, rfl⟩

theorem asksFor_of_weekdaysClause (h : weekdaysClause t = .ok clause) :
    ∃ days, t.AsksFor days ∧ clause = weekdaysText days := by
  unfold weekdaysClause at h
  split at h
  · rename_i hnone
    cases h
    refine ⟨[], ?_, rfl⟩
    rw [RuleTable.AsksFor, hnone]
    exact .nil
  · rename_i hsome
    obtain ⟨days, hdays, h⟩ := except_bind_eq_ok.mp h
    cases h
    have hasks : t.AsksFor days := mapM_eq_ok.mp hdays
    refine ⟨days, hasks, ?_⟩
    cases days with
    | nil => exact absurd (List.forall₂_nil_right_iff.mp hasks) hsome
    | cons day days => rfl

theorem last_of_endClause (h : endClause t today zone = .ok clause) :
    ∃ last : Option Date, clause = last.map (fun d => "until ".toList ++ d.inWords) ∧
      (∀ d, t.EndsOn today zone d ↔ last = some d) ∧ last.isSome = t.has .until := by
  rw [← t.isSome_scalar? .until]
  unfold endClause at h
  split at h
  · rename_i huntil
    cases h
    refine ⟨none, rfl, fun d => ?_, by rw [huntil]; rfl⟩
    simp [RuleTable.EndsOn, huntil]
  · rename_i value huntil
    obtain ⟨last, hlast, h⟩ := except_bind_eq_ok.mp h
    obtain ⟨shown, hshown, h⟩ := except_bind_eq_ok.mp h
    cases h
    have hlast : Timestamp.parse today (.text value) = .ok last := mapError_eq_ok.mp hlast
    refine ⟨some shown.date, rfl, fun d => ?_, by rw [huntil]; rfl⟩
    rw [Option.some.injEq]
    constructor
    · rintro ⟨value', last', huntil', hlast', hd⟩
      cases huntil.symm.trans huntil'
      cases hlast.symm.trans hlast'
      exact (Zone.shows_iff_of_localize hshown).mp hd
    · intro hd
      exact ⟨value, last, huntil, hlast, (Zone.shows_iff_of_localize hshown).mpr hd⟩

end Phrase

/-! ## The whole -/

namespace RuleTable
open Phrase
variable {t : RuleTable} {today : Date} {zone : Zone} {p : Text}

/-- **A phrase says the content of its table, and nothing else.** -/
theorem exists_tells (h : (t.phrase today zone).result = .ok p) :
    ∃ c, t.Tells today zone c ∧ p = c.text := by
  obtain ⟨clause, hclause, h⟩ := Outcome.result_bind_eq_ok.mp h
  obtain ⟨clause', hclause', h⟩ := Outcome.result_bind_eq_ok.mp h
  obtain ⟨clause'', hclause'', h⟩ := Outcome.result_bind_eq_ok.mp h
  obtain ⟨cadence, rfl, hcadence, hkeys⟩ := cadence_of_intervalClause hclause
  obtain ⟨days, hdays, rfl⟩ := asksFor_of_weekdaysClause hclause'
  obtain ⟨last, rfl, hlast, hkey⟩ := last_of_endClause hclause''
  refine ⟨⟨cadence, days, last⟩, ⟨hcadence, hkeys, hdays, hlast, hkey⟩, ?_⟩
  -- The clauses of the table are those of the content.
  have hclauses : [cadence.map fun (unit, k) => pluralize k unit.word.toList, weekdaysText days,
      last.map fun d => "until ".toList ++ d.inWords].filterMap id =
      Content.clauses ⟨cadence, days, last⟩ := rfl
  rw [hclauses] at h
  rw [Content.text]
  generalize Content.clauses ⟨cadence, days, last⟩ = clauses at h ⊢
  cases clauses with
  | nil | cons =>
    cases h
    rfl

/-! ## Nothing to say -/

theorem Tells.clauses_eq_nil_iff {c : Content} (h : t.Tells today zone c) :
    c.clauses = [] ↔ (t.has .freq = false ∨ t.has .interval = false) ∧
      t.valuesOf .byDay = [] ∧ t.has .until = false := by
  obtain ⟨cadence, days, last⟩ := c
  have hcadence : cadence = none ↔ t.has .freq = false ∨ t.has .interval = false := by
    rw [← Bool.and_eq_false_iff, ← h.isSome_cadence, Option.isSome_eq_false_iff,
      Option.isNone_iff_eq_none]
  have hdays : days = [] ↔ t.valuesOf .byDay = [] := by
    have hlength := h.weekdays.length_eq
    rw [← List.length_eq_zero_iff, ← hlength, List.length_eq_zero_iff]
  have hlast : last = none ↔ t.has .until = false := by
    rw [← h.isSome_last, Option.isSome_eq_false_iff, Option.isNone_iff_eq_none]
  rw [← hcadence, ← hdays, ← hlast]
  cases cadence <;> cases days <;> cases last <;> simp [Content.clauses, weekdaysText]

/-- **A phrase is "Never" if and only if there is nothing to say, and else begins with "Every".**
There is nothing to say of rules without weekdays and without an end that lack a frequency or an
interval. -/
theorem phrase_eq_never_iff {rules : List Text} (hread : parse rules = .ok t)
    (h : (t.phrase today zone).result = .ok p) :
    (p = "Never".toList ↔ (t.has .freq = false ∨ t.has .interval = false) ∧
      t.has .byDay = false ∧ t.has .until = false) ∧
    (p ≠ "Never".toList → ∃ rest, p = "Every ".toList ++ rest) := by
  obtain ⟨c, hc, rfl⟩ := exists_tells h
  have hdays : t.valuesOf .byDay = [] ↔ t.has .byDay = false := by
    constructor
    · intro hnil
      exact eq_false_of_ne_true fun has => (isRead_of_parse hread).valuesOf_ne_nil has hnil
    · intro has
      exact valuesOf_of_not_has (ne_true_of_eq_false has)
  rw [← hdays, ← hc.clauses_eq_nil_iff]
  rcases c.text_cases with ⟨hnil, hnever⟩ | ⟨hne, rest, hevery⟩
  · exact ⟨⟨fun _ => hnil, fun _ => hnever⟩, fun hother => absurd hnever hother⟩
  · refine ⟨⟨fun hnever => ?_, fun hnil => absurd hnil hne⟩, fun _ => ⟨rest, hevery⟩⟩
    cases hevery.symm.trans hnever

set_option maxRecDepth 100000 in
/-- The weekday of a weekly rule is said although its frequency is not. -/
theorem phrase_eq_never_iff_tuesdays :
    ∃ t zone p, parse ["FREQ=WEEKLY;BYDAY=TU".toList] = .ok t ∧
      Zone.resolve "UTC".toList = .ok zone ∧ (t.phrase .epoch zone).result = .ok p ∧
      ((p = "Never".toList ↔ (t.has .freq = false ∨ t.has .interval = false) ∧
          t.has .byDay = false ∧ t.has .until = false) ∧
        (p ≠ "Never".toList → ∃ rest, p = "Every ".toList ++ rest)) ∧
      p = "Every on Tuesday".toList :=
  ⟨⟨[("FREQ".toList, .single "WEEKLY".toList), ("BYDAY".toList, .single "TU".toList)]⟩,
    ⟨0, [], .fixed 0⟩, "Every on Tuesday".toList, by rfl, by rfl, by rfl,
    @phrase_eq_never_iff _ .epoch ⟨0, [], .fixed 0⟩ _ ["FREQ=WEEKLY;BYDAY=TU".toList] (by rfl)
      (by rfl),
    rfl⟩

set_option maxRecDepth 100000 in
/-- A daily series recurs every day, and its phrase says "Never". -/
theorem phrase_eq_never_daily :
    ∃ s : Series, ((EventData.mk (.dateTime (.ofDate ⟨739257, by decide, by decide⟩))
        (.list [.text "FREQ=DAILY".toList]) (.list [])).series .epoch).result = .ok s ∧
      s.frequency = .ok (some .daily) ∧
      s.dates ⟨⟨739257, by decide, by decide⟩, ⟨739259, by decide, by decide⟩⟩ =
        .ok [⟨739257, by decide, by decide⟩, ⟨739258, by decide, by decide⟩,
          ⟨739259, by decide, by decide⟩] ∧
      (s.phraseIn .epoch "UTC".toList).result = .ok "Never".toList :=
  ⟨_, by rfl, by rfl, by rfl, by rfl⟩

end RuleTable

end Recurrence
