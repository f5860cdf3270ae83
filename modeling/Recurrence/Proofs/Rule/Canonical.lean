import Recurrence.Proofs.Rule.Keys
import Recurrence.Proofs.Rule.Reading

/-! # The canonical rule

A canonical rule lists the entries of a table in another order, with the frequency,
the interval and the weekdays first.  The table in that order, `canonical`, has the
same entries (`find?_canonical`) and the same canonical rule (`serialize_canonical`),
and it is what the canonical rule of a table reads as, if the table was read itself
(`IsRead.parse_eq_canonical`).  So the canonical rule tells apart what differs in its
entries, and nothing else (`parse_serialize`).
-/
namespace Recurrence.RuleTable
open Text
variable {t u : RuleTable} {key : Text}

/-! ## The table in canonical order -/

/-- The entries of some keys, as far as the table has them. -/
def entriesOf (t : RuleTable) (ks : List RuleKey) : List (Text × RuleValue) :=
  ks.filterMap fun k => (t.get? k).map fun value => (k.name, value)

/-- The table in the order of its canonical rule. -/
def canonical (t : RuleTable) : RuleTable :=
  ⟨t.canonicalEntries⟩

theorem canonicalEntries_eq (t : RuleTable) :
    t.canonicalEntries =
      t.entriesOf leadingKeys ++ t.entries.filter fun entry => !isLeading entry.1 := rfl

theorem isLeading_iff : isLeading key = true ↔ key ∈ leadingKeys.map RuleKey.name := by
  simp [isLeading]

theorem entriesOf_cons (t : RuleTable) (k : RuleKey) (ks : List RuleKey) :
    t.entriesOf (k :: ks) =
      match t.get? k with
      | none => t.entriesOf ks
      | some value => (k.name, value) :: t.entriesOf ks := by
  rw [entriesOf, List.filterMap_cons]
  cases t.get? k <;> rfl

theorem map_fst_entriesOf (t : RuleTable) (ks : List RuleKey) :
    (t.entriesOf ks).map Prod.fst = (ks.filter t.has).map RuleKey.name := by
  induction ks with
  | nil => rfl
  | cons k ks ih =>
    rw [entriesOf_cons, List.filter_cons, has]
    cases t.get? k with
    | none => exact ih
    | some value => exact congrArg (k.name :: ·) ih

theorem lookup_entriesOf (t : RuleTable) (ks : List RuleKey) (key : Text) :
    (t.entriesOf ks).lookup key = if key ∈ ks.map RuleKey.name then t.find? key else none := by
  induction ks with
  | nil => rfl
  | cons k ks ih =>
    rw [entriesOf_cons]
    by_cases hkey : key = k.name
    · have hfind : t.find? key = t.get? k := by rw [hkey, get?]
      rw [List.map_cons, if_pos (hkey ▸ List.mem_cons_self), hfind]
      cases hk : t.get? k with
      | none => simp [ih, hfind, hk]
      | some value => simp [hkey]
    · cases t.get? k with
      | none => simp [ih, hkey]
      | some value => simp [lookup_entry, ih, hkey]

theorem isLeading_of_mem (h : key ∈ (leadingKeys.filter t.has).map RuleKey.name) :
    isLeading key = true :=
  isLeading_iff.mpr (List.map_subset _ (List.filter_subset_self _) h)

theorem lookup_filter (keep : Text → Bool) (entries : List (Text × RuleValue)) (key : Text) :
    (entries.filter fun entry => keep entry.1).lookup key =
      if keep key then entries.lookup key else none := by
  induction entries with
  | nil => simp
  | cons entry rest ih =>
    obtain ⟨k, value⟩ := entry
    rw [List.filter_cons, lookup_entry]
    split
    · rename_i hkeep
      rw [lookup_entry, ih]
      split
      · rename_i hkey
        rw [hkey, if_pos hkeep]
      · rfl
    · rename_i hkeep
      rw [ih]
      by_cases hkey : key = k
      · rw [if_neg (hkey ▸ hkeep), if_neg (hkey ▸ hkeep)]
      · rw [if_neg hkey]

/-- The canonical order changes no value. -/
theorem find?_canonical (t : RuleTable) (key : Text) : t.canonical.find? key = t.find? key := by
  rw [find?, canonical, canonicalEntries_eq, List.lookup_append, lookup_entriesOf,
    lookup_filter fun k => !isLeading k]
  by_cases hkey : isLeading key = true
  · simp [hkey, isLeading_iff.mp hkey]
  · rw [if_neg (mt isLeading_iff.mpr hkey), if_pos (by simpa using hkey)]
    rfl

theorem keys_canonical (t : RuleTable) :
    t.canonical.keys = (leadingKeys.filter t.has).map RuleKey.name ++
      t.keys.filter fun key => !isLeading key := by
  rw [keys, canonical, canonicalEntries_eq, List.map_append, map_fst_entriesOf, keys,
    List.filter_map]
  rfl

theorem nodup_keys_canonical (h : t.keys.Nodup) : t.canonical.keys.Nodup := by
  rw [keys_canonical, List.nodup_append]
  refine ⟨?_, h.filter _, ?_⟩
  · have hkeys : leadingKeys.Nodup := by decide
    exact (hkeys.filter _).map fun _ _ hname => RuleKey.name_inj.mp hname
  · rintro key hkey _ hother rfl
    simp [isLeading_of_mem hkey] at hother

/-- **The table in canonical order has the same canonical rule.** -/
theorem serialize_canonical (t : RuleTable) : t.canonical.serialize = t.serialize := by
  have hleading : t.canonical.entriesOf leadingKeys = t.entriesOf leadingKeys := by
    simp only [entriesOf, get?, find?_canonical]
  have hothers : (t.canonicalEntries.filter fun entry => !isLeading entry.1) =
      t.entries.filter fun entry => !isLeading entry.1 := by
    rw [canonicalEntries_eq, List.filter_append, List.filter_filter, List.filter_eq_nil_iff.mpr]
    · simp
    · intro entry hentry
      have hkey := List.mem_map_of_mem (f := Prod.fst) hentry
      rw [map_fst_entriesOf] at hkey
      simp [isLeading_of_mem hkey]
  have hentries : t.canonical.canonicalEntries = t.canonicalEntries := by
    rw [canonicalEntries_eq, hleading, canonical, hothers, canonicalEntries_eq]
  rw [serialize, serialize, hentries]

/-! ## Reading a canonical rule -/

namespace IsRead
variable (h : t.IsRead)
include h

theorem canonicalEntry {entry : Text × RuleValue} (hentry : entry ∈ t.canonicalEntries) :
    IsReadEntry entry.1 entry.2 := by
  refine h.entry entry ?_
  have hfind := (find?_eq_some_iff (nodup_keys_canonical h.distinct)).mpr hentry
  rw [find?_canonical] at hfind
  exact (find?_eq_some_iff h.distinct).mp hfind

/-- **The canonical rule reads as the table in canonical order.** -/
theorem parse_eq_canonical : parse [t.serialize] = .ok t.canonical := by
  have hsegments : segments t.serialize =
      t.canonicalEntries.map fun entry => writeSegment entry.1 entry.2 := by
    refine segments_joinWith fun piece hpiece => ?_
    obtain ⟨entry, hentry, rfl⟩ := List.mem_map.mp hpiece
    exact ⟨(h.canonicalEntry hentry).not_mem_writeSegment,
      IsReadEntry.isBlankText_writeSegment entry.1 entry.2⟩
  have hread : readRule t.serialize = .ok t.canonicalEntries := by
    rw [readRule, hsegments, mapM_eq_ok, List.forall₂_map_left_iff, List.forall₂_same]
    exact fun entry hentry => (h.canonicalEntry hentry).readSegment_writeSegment t.serialize
  have hrows : [t.serialize].mapM readRule = .ok [t.canonicalEntries] :=
    mapM_eq_ok.mpr (.cons hread .nil)
  refine parse_eq_ok.mpr ⟨_, hrows, ?_⟩
  rw [List.flatten_singleton]
  exact ofPairs_eq_self (fun entry hentry => (h.canonicalEntry hentry).canonical)
    (nodup_keys_canonical h.distinct)

/-- Tables that were read and have one canonical rule have the same values. -/
theorem find?_eq_of_serialize_eq (hu : u.IsRead) (hrule : u.serialize = t.serialize) (key : Text) :
    u.find? key = t.find? key := by
  have hcanonical : u.canonical = t.canonical := by
    have hparse := hu.parse_eq_canonical
    rw [hrule, h.parse_eq_canonical] at hparse
    exact (Except.ok.inj hparse).symm
  rw [← find?_canonical u, hcanonical, find?_canonical]

end IsRead

/-- **The canonical rule of a table that was read says the whole table.**  It reads as a table with
the same entries, the frequency, the interval and the weekdays first and the others in their order,
and that table is written the same way.  So rules with one canonical rule have one table. -/
theorem parse_serialize {rules : List Text} (h : parse rules = .ok t) :
    ∃ u, parse [t.serialize] = .ok u ∧
      (u.sameEntries t = true ∧ ∀ key, u.find? key = t.find? key) ∧
      u.keys = ([.freq, .interval, .byDay].filter t.has).map RuleKey.name ++
        t.keys.filter (· ∉ [RuleKey.freq, .interval, .byDay].map RuleKey.name) ∧
      u.serialize = t.serialize ∧
      ∀ rules' t', parse rules' = .ok t' → t'.serialize = t.serialize →
        t'.sameEntries t = true ∧ ∀ key, t'.find? key = t.find? key := by
  have hread := isRead_of_parse h
  have hsame : t.canonical.sameEntries t = true :=
    (sameEntries_iff (nodup_keys_canonical hread.distinct) hread.distinct).mpr (find?_canonical t)
  refine ⟨t.canonical, hread.parse_eq_canonical, ⟨hsame, find?_canonical t⟩, ?_,
    serialize_canonical t, fun rules' t' h' hrule => ?_⟩
  · have hothers : ∀ key,
        (!isLeading key) = decide (key ∉ [RuleKey.freq, .interval, .byDay].map RuleKey.name) := by
      intro key
      rw [decide_not, Bool.not_inj_iff, Bool.eq_iff_iff, isLeading_iff, decide_eq_true_iff]
      rfl
    rw [keys_canonical, leadingKeys, List.filter_congr fun key _ => hothers key]
  · have hread' := isRead_of_parse h'
    have hfind := hread.find?_eq_of_serialize_eq hread' hrule
    exact ⟨(sameEntries_iff hread'.distinct hread.distinct).mpr hfind, hfind⟩

set_option maxRecDepth 100000 in
/-- A key in small letters, one that grows in upper case, a part that is empty, an `=` in a value
and a frequency given twice: the canonical rule is `FREQ=WEEKLY;BYDAY=MO,,WE;STRASSE=A=B`. -/
theorem parse_serialize_strasse :
    ∃ t u, parse ["straße = A=B ; byday= MO,,WE ;".toList, "freq=DAILY;Freq=WEEKLY".toList] = .ok t ∧
      t.keys = ["STRASSE".toList, "BYDAY".toList, "FREQ".toList] ∧
      t.serialize = "FREQ=WEEKLY;BYDAY=MO,,WE;STRASSE=A=B".toList ∧
      parse [t.serialize] = .ok u ∧ u.sameEntries t = true ∧
      u.keys = ["FREQ".toList, "BYDAY".toList, "STRASSE".toList] ∧
      u.serialize = t.serialize := by
  obtain ⟨t, h, hkeys, hrule, hhas⟩ : ∃ t,
      parse ["straße = A=B ; byday= MO,,WE ;".toList, "freq=DAILY;Freq=WEEKLY".toList] = .ok t ∧
      t.keys = ["STRASSE".toList, "BYDAY".toList, "FREQ".toList] ∧
      t.serialize = "FREQ=WEEKLY;BYDAY=MO,,WE;STRASSE=A=B".toList ∧
      [.freq, .interval, .byDay].filter t.has = [.freq, .byDay] := ⟨_, by rfl, by rfl, by rfl, by rfl⟩
  obtain ⟨u, hparse, ⟨hsame, -⟩, horder, hagain, -⟩ := parse_serialize h
  refine ⟨t, u, h, hkeys, hrule, hparse, hsame, ?_, hagain⟩
  rw [horder, hhas, hkeys]
  decide

end Recurrence.RuleTable
