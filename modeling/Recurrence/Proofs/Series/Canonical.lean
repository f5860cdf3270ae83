import Recurrence.Proofs.Rule.Canonical
import Recurrence.Proofs.Series.Failure

/-! # The series of a canonical rule

An event whose rules are replaced by their canonical rule is read as the same series,
with the rules in canonical order (`EventData.series_ofTexts_serialize`).  Questions look
keys up, and the order makes no difference to that, so the series answers as before.
-/
namespace Recurrence
variable {today : Date}

namespace RuleTable
variable {t u : RuleTable}

/-- The words of a phrase are found by looking up keys. -/
theorem phraseIn_congr (h : ∀ key, t.get? key = u.get? key) (zone : Text) :
    t.phraseIn today zone = u.phraseIn today zone := by
  have hinterval : Phrase.intervalClause t = Phrase.intervalClause u := by
    simp only [Phrase.intervalClause, scalar?_congr (h .freq), has_congr (h .interval),
      interval_congr (h .interval)]
  have hweekdays : Phrase.weekdaysClause t = Phrase.weekdaysClause u := by
    simp only [Phrase.weekdaysClause, valuesOf_congr (h .byDay)]
  have hend : ∀ z, Phrase.endClause t today z = Phrase.endClause u today z := by
    simp only [Phrase.endClause, scalar?_congr (h .until), implies_true]
  simp only [phraseIn, phrase, hinterval, hweekdays, hend]

theorem count_congr (h : t.get? .count = u.get? .count) : t.count = u.count := by
  rw [count, count, scalar?_congr h]

theorem get?_canonical (t : RuleTable) (key : RuleKey) : t.canonical.get? key = t.get? key :=
  find?_canonical t key.name

end RuleTable

namespace Series

/-- The series with its rules in canonical order. -/
def canonical (s : Series) : Series :=
  { s with rules := s.rules.canonical }

theorem serialize_canonical (s : Series) : s.canonical.serialize = s.serialize :=
  RuleTable.serialize_canonical s.rules

theorem phraseIn_canonical (s : Series) (zone : Text) :
    s.canonical.phraseIn today zone = s.phraseIn today zone :=
  RuleTable.phraseIn_congr s.rules.get?_canonical zone

theorem dates_canonical (s : Series) (range : DateRange) :
    s.canonical.dates range = s.dates range :=
  rfl

end Series

/-- **The canonical rule in the place of the rules gives the series in canonical order.** -/
theorem EventData.series_ofTexts_serialize {start : Stamp} {rules exceptions : List Text}
    {s : Series} (h : ((ofTexts start rules exceptions).series today).result = .ok s) :
    ((ofTexts start [s.serialize] exceptions).series today).result = .ok s.canonical := by
  obtain ⟨hstart, hrules, hexceptions, hexpression, hcount⟩ := series_eq_ok.mp h
  rw [ruleTable_ofTexts] at hrules
  have hread := RuleTable.isRead_of_parse (mapError_eq_ok.mp hrules)
  refine series_eq_ok.mpr ⟨hstart, ?_, hexceptions, ?_, ?_⟩
  · rw [ruleTable_ofTexts]
    exact mapError_eq_ok.mpr hread.parse_eq_canonical
  · exact (congrArg Outcome.result (RuleTable.expression_congr
      (fun key _ => s.rules.get?_canonical key) s.start.date)).trans hexpression
  · exact (RuleTable.count_congr (s.rules.get?_canonical .count)).trans hcount

end Recurrence
