import Recurrence.Proofs.Rule.Reading

/-! # The grammar of rules

What rules spell is said here without reading them.  A rule is cut at its semicolons,
and each piece that is not blank has to be a key, an `=` and a value (`Spells`).
Reading succeeds if and only if none of them lacks a key, and makes the table that
lists the keys in the order in which they first appear, each with the value that it is
given last (`parse_iff_spells`).  Only the sequence of the pieces matters, so it makes
no difference at which semicolons the input is cut into rules.
-/
namespace Recurrence.RuleTable
open Text

/-! ## Segments -/

/-- The value that a text stands for: the text without the blanks around it, or, if
there are commas in that, the texts between the commas, each without the blanks
around it. -/
inductive SpellsValue (s : Text) : RuleValue → Prop
  /-- A text without commas. -/
  | single (unseparated : ',' ∉ strip s) : SpellsValue s (.single (strip s))
  /-- A text with commas. -/
  | list {parts : List Text} (separated : ',' ∈ strip s) (joined : joinWith [','] parts = strip s)
      (apart : ∀ part ∈ parts, ',' ∉ part) : SpellsValue s (.list (parts.map strip))

/-- A segment lacks a key: there is no `=` in it, or nothing but blanks before the first one. -/
def LacksKey (segment : Text) : Prop :=
  '=' ∉ segment ∨ ∃ before after, segment = before ++ '=' :: after ∧ '=' ∉ before ∧
    ∀ c ∈ before, isBlank c = true

/-- The entry that a segment spells.  The key stands before the first `=` and is stripped and put
in upper case; the value stands behind it. -/
def Spells (segment : Text) (entry : Text × RuleValue) : Prop :=
  ∃ before after, segment = before ++ '=' :: after ∧ '=' ∉ before ∧
    (∃ c ∈ before, isBlank c = false) ∧ entry.1 = upper (strip before) ∧ SpellsValue after entry.2

theorem spellsValue_iff {s : Text} {value : RuleValue} :
    SpellsValue s value ↔ readValue s = value := by
  by_cases h : ',' ∈ strip s
  · have hsplit : joinWith [','] (splitOn ',' (strip s)) = strip s := joinWith_splitOn ',' (strip s)
    rw [readValue_of_mem h]
    constructor
    · rintro (hno | ⟨-, hjoined, hapart⟩)
      · exact absurd h hno
      · rename_i parts
        have hne : parts ≠ [] := by
          rintro rfl
          rw [← hjoined] at h
          cases h
        rw [splitOn_eq_iff.mpr ⟨hne, hjoined, hapart⟩]
    · rintro rfl
      exact .list h hsplit fun _ => not_mem_of_mem_splitOn
  · rw [readValue_of_not_mem h]
    constructor
    · rintro (_ | ⟨hyes, -, -⟩)
      · rfl
      · exact absurd hyes h
    · rintro rfl
      exact .single h

theorem spells_iff (rule : Text) {segment : Text} {entry : Text × RuleValue} :
    Spells segment entry ↔
      ∃ pair, readSegment segment rule = .ok pair ∧ entry = (canonicalKey pair.1, pair.2) := by
  obtain ⟨key, value⟩ := entry
  constructor
  · rintro ⟨before, after, hsegment, hbefore, hkey, rfl, hvalue⟩
    refine ⟨(strip before, value), readSegment_eq_ok.mpr ⟨before, after, hbefore, hsegment,
      isBlankText_eq_false_iff.mpr hkey, rfl, (spellsValue_iff.mp hvalue).symm⟩, ?_⟩
    rw [canonicalKey, (isTrimmed_strip before).strip_eq]
  · rintro ⟨⟨k, v⟩, hread, heq⟩
    obtain ⟨before, after, hbefore, hsegment, hblank, rfl, rfl⟩ := readSegment_eq_ok.mp hread
    cases heq
    refine ⟨before, after, hsegment, hbefore, isBlankText_eq_false_iff.mp hblank, ?_,
      spellsValue_iff.mpr rfl⟩
    rw [canonicalKey, (isTrimmed_strip before).strip_eq]

/-- A segment that is refused is one that lacks a key, and the error is that of a malformed rule. -/
theorem lacksKey_of_readSegment {segment rule : Text} {err : RuleError}
    (h : readSegment segment rule = .error err) :
    LacksKey segment ∧ err.errorClass = .malformedRule := by
  rw [readSegment] at h
  split at h
  · rename_i hcut
    cases h
    refine ⟨.inl fun hmem => ?_, rfl⟩
    obtain ⟨before, after, hsegment, hbefore⟩ := List.eq_append_cons_of_mem hmem
    cases hcut.symm.trans (cutAt_eq_some.mpr ⟨hbefore, hsegment⟩)
  · rename_i before after hcut
    obtain ⟨hbefore, hsegment⟩ := cutAt_eq_some.mp hcut
    split at h
    · rename_i hblank
      cases h
      exact ⟨.inr ⟨before, after, hsegment, hbefore, List.all_eq_true.mp hblank⟩, rfl⟩
    · cases h

theorem not_spells_of_lacksKey {segment : Text} {entry : Text × RuleValue} (h : LacksKey segment) :
    ¬Spells segment entry := by
  rintro ⟨before, after, rfl, hbefore, ⟨c, hc, hblank⟩, -⟩
  rcases h with hno | ⟨before', after', hsegment, hbefore', hblanks⟩
  · simp at hno
  · -- There is one first `=` only.
    have hcut := cutAt_eq_some.mpr ⟨hbefore', hsegment⟩
    cases (cutAt_eq_some.mpr ⟨hbefore, rfl⟩).symm.trans hcut
    exact absurd (hblanks c hc) (ne_true_of_eq_false hblank)

/-! ## The last entry of a key -/

section
variable {pairs : List (Text × RuleValue)} {key : Text} {value : RuleValue}

/-- The pairs with their keys in canonical form. -/
def canonicalPairs (pairs : List (Text × RuleValue)) : List (Text × RuleValue) :=
  pairs.map fun pair => (canonicalKey pair.1, pair.2)

theorem canonicalPairs_concat (pairs : List (Text × RuleValue)) (pair : Text × RuleValue) :
    canonicalPairs (pairs ++ [pair]) = canonicalPairs pairs ++ [(canonicalKey pair.1, pair.2)] :=
  List.map_append

/-- The keys of a table of pairs stand in the order of their first appearance. -/
theorem keys_ofPairs (pairs : List (Text × RuleValue)) :
    (ofPairs pairs).keys = ((canonicalPairs pairs).map Prod.fst).eraseDups := by
  -- Pairs are put in from the first to the last, so the last one is split off.
  induction pairs using List.reverseRecOn with
  | nil => rfl
  | append_singleton pairs pair ih =>
    rw [ofPairs_concat, keys, insert, map_fst_insertEntry, ← keys, ih, canonicalPairs_concat,
      List.map_append, List.eraseDups_append, List.map_cons, List.map_nil]
    split
    · rename_i hold
      simp [List.removeAll, List.mem_eraseDups.mp hold]
    · rename_i hnew
      rw [List.removeAll, List.filter_cons_of_pos (by simpa using hnew)]
      rfl

/-- Look-up in a table of pairs finds the last value of a key. -/
theorem find?_ofPairs (pairs : List (Text × RuleValue)) (key : Text) :
    (ofPairs pairs).find? key = (canonicalPairs pairs).reverse.lookup key := by
  induction pairs using List.reverseRecOn with
  | nil => rfl
  | append_singleton pairs pair ih =>
    rw [ofPairs_concat, find?_insert, ih, canonicalPairs_concat, List.reverse_concat, lookup_entry]

theorem lookup_reverse_eq_some :
    pairs.reverse.lookup key = some value ↔
      ∃ earlier later, pairs = earlier ++ (key, value) :: later ∧ key ∉ later.map Prod.fst := by
  rw [List.lookup_eq_some_iff]
  constructor
  · rintro ⟨later, earlier, hsplit, hlater⟩
    refine ⟨earlier.reverse, later.reverse, ?_, ?_⟩
    · rw [← List.reverse_reverse pairs, hsplit]
      simp
    · simpa using fun v hmem => by simpa using hlater (key, v) hmem
  · rintro ⟨earlier, later, rfl, hlater⟩
    refine ⟨later.reverse, earlier.reverse, by simp, fun pair hmem => ?_⟩
    have hne : key ≠ pair.1 := fun heq =>
      hlater (heq ▸ List.mem_map_of_mem (List.mem_reverse.mp hmem))
    simpa using hne

end

/-- A table that has each key once is told by its keys, in order, and by look-up. -/
theorem eq_of_keys_eq {t u : RuleTable} (ht : t.keys.Nodup) (hkeys : t.keys = u.keys)
    (hfind : ∀ key, t.find? key = u.find? key) : t = u := by
  have hentries : ∀ v : RuleTable, v.keys.Nodup →
      v.keys.filterMap (fun key => (v.find? key).map (key, ·)) = v.entries := by
    intro v hv
    rw [keys, List.filterMap_map]
    refine (List.filterMap_congr fun entry hentry => ?_).trans List.filterMap_some
    rw [Function.comp_apply, (find?_eq_some_iff hv).mpr hentry]
    rfl
  have hsame := hentries t ht
  simp only [hfind, hkeys, hentries u (hkeys ▸ ht)] at hsame
  cases t
  cases u
  cases hsame
  rfl

/-! ## Rules -/

/-- What stands against the members of two lists in a row is a row for each. -/
theorem forall₂_append_left {α β : Type} {R : α → β → Prop} {xs ys : List α} {zs : List β} :
    List.Forall₂ R (xs ++ ys) zs ↔
      ∃ us vs, List.Forall₂ R xs us ∧ List.Forall₂ R ys vs ∧ zs = us ++ vs := by
  induction xs generalizing zs with
  | nil => simp
  | cons x xs ih =>
    rw [List.cons_append, List.forall₂_cons_left_iff]
    constructor
    · rintro ⟨z, rest, hz, hrest, rfl⟩
      obtain ⟨us, vs, hus, hvs, rfl⟩ := ih.mp hrest
      exact ⟨z :: us, vs, .cons hz hus, hvs, rfl⟩
    · rintro ⟨us, vs, hus, hvs, rfl⟩
      obtain ⟨u, rest, hu, hrest, rfl⟩ := List.forall₂_cons_left_iff.mp hus
      exact ⟨u, rest ++ vs, hu, ih.mpr ⟨rest, vs, hrest, hvs, rfl⟩, rfl⟩

/-- The segments of a rule spell what is read from it, with canonical keys. -/
theorem forall₂_spells_segments {rule : Text} {entries : List (Text × RuleValue)} :
    List.Forall₂ Spells (segments rule) entries ↔
      ∃ row, readRule rule = .ok row ∧ entries = canonicalPairs row := by
  simp only [readRule, mapM_eq_ok]
  induction segments rule generalizing entries with
  | nil => simp [canonicalPairs]
  | cons segment rest ih =>
    simp only [List.forall₂_cons_left_iff, spells_iff rule, ih]
    constructor
    · rintro ⟨_, _, ⟨pair, hpair, rfl⟩, ⟨row, hrow, rfl⟩, rfl⟩
      exact ⟨pair :: row, ⟨pair, row, hpair, hrow, rfl⟩, rfl⟩
    · rintro ⟨_, ⟨pair, row, hpair, hrow, rfl⟩, rfl⟩
      exact ⟨_, _, ⟨pair, hpair, rfl⟩, ⟨row, hrow, rfl⟩, rfl⟩

theorem forall₂_spells_flatMap {rules : List Text} {entries : List (Text × RuleValue)} :
    List.Forall₂ Spells (rules.flatMap segments) entries ↔
      ∃ rows, rules.mapM readRule = .ok rows ∧ entries = canonicalPairs rows.flatten := by
  simp only [mapM_eq_ok]
  induction rules generalizing entries with
  | nil => simp [canonicalPairs]
  | cons rule rest ih =>
    simp only [List.flatMap_cons, forall₂_append_left, forall₂_spells_segments, ih,
      List.forall₂_cons_left_iff]
    constructor
    · rintro ⟨_, _, ⟨row, hrow, rfl⟩, ⟨rows, hrows, rfl⟩, rfl⟩
      exact ⟨row :: rows, ⟨row, rows, hrow, hrows, rfl⟩, by simp [canonicalPairs]⟩
    · rintro ⟨_, ⟨row, rows, hrow, hrows, rfl⟩, rfl⟩
      exact ⟨_, _, ⟨row, hrow, rfl⟩, ⟨rows, hrows, rfl⟩, by simp [canonicalPairs]⟩

/-- **Reading makes the table that the entries of the segments call for.** -/
theorem parse_eq_ok_iff {rules : List Text} {t : RuleTable} :
    parse rules = .ok t ↔
      ∃ entries, List.Forall₂ Spells (rules.flatMap segments) entries ∧
        t.keys = (entries.map Prod.fst).eraseDups ∧
        ∀ key, t.find? key = entries.reverse.lookup key := by
  rw [parse_eq_ok]
  constructor
  · rintro ⟨rows, hrows, rfl⟩
    exact ⟨_, forall₂_spells_flatMap.mpr ⟨rows, hrows, rfl⟩, keys_ofPairs _, find?_ofPairs _⟩
  · rintro ⟨entries, hspells, hkeys, hfind⟩
    obtain ⟨rows, hrows, rfl⟩ := forall₂_spells_flatMap.mp hspells
    refine ⟨rows, hrows, eq_of_keys_eq (nodup_keys_ofPairs _) ?_ fun key => ?_⟩
    · rw [keys_ofPairs, hkeys]
    · rw [find?_ofPairs, hfind]

/-- Rules are refused for one of their segments. -/
theorem exists_segment_of_parse_eq_error {rules : List Text} {err : RuleError}
    (h : parse rules = .error err) :
    ∃ rule ∈ rules, ∃ segment ∈ segments rule, readSegment segment rule = .error err := by
  rcases except_bind_eq_error.mp h with h | ⟨_, -, h⟩
  · obtain ⟨_, rule, _, rfl, -, hrule⟩ := mapM_eq_error.mp h
    obtain ⟨_, segment, _, hsegments, -, hsegment⟩ := mapM_eq_error.mp hrule
    exact ⟨rule, by simp, segment, by simp [hsegments], hsegment⟩
  · cases h

theorem segments_append_sep (rule other : Text) :
    segments (rule ++ ';' :: other) = segments rule ++ segments other := by
  rw [segments, splitOn_append_sep, List.filter_append]
  rfl

/-- Rules are refused if and only if a segment lacks a key. -/
theorem exists_parse_eq_error_iff {rules : List Text} :
    (∃ err, parse rules = .error err) ↔ ∃ segment ∈ rules.flatMap segments, LacksKey segment := by
  constructor
  · rintro ⟨err, h⟩
    obtain ⟨rule, hrule, segment, hsegment, hread⟩ := exists_segment_of_parse_eq_error h
    exact ⟨segment, List.mem_flatMap.mpr ⟨rule, hrule, hsegment⟩, (lacksKey_of_readSegment hread).1⟩
  · rintro ⟨segment, hsegment, hlacks⟩
    rcases h : parse rules with err | t
    · exact ⟨err, rfl⟩
    · obtain ⟨rule, hrule, hmem⟩ := List.mem_flatMap.mp hsegment
      obtain ⟨rows, hrows, -⟩ := parse_eq_ok.mp h
      obtain ⟨row, hrow⟩ := exists_eq_ok_of_mem hrows hrule
      obtain ⟨pair, hpair⟩ := exists_eq_ok_of_mem hrow hmem
      exact absurd ((spells_iff rule).mpr ⟨pair, hpair, rfl⟩) (not_spells_of_lacksKey hlacks)

/-- A list that is spelled has at least two members. -/
theorem two_le_length_of_spellsValue {s : Text} {xs : List Text} (h : SpellsValue s (.list xs)) :
    2 ≤ xs.length := by
  cases h with
  | list separated joined apart =>
    rename_i parts
    rw [List.length_map]
    match parts, joined with
    | [], joined =>
      rw [← joined] at separated
      cases separated
    | [part], joined =>
      rw [← joined] at separated
      exact absurd separated (apart part List.mem_cons_self)
    | _ :: _ :: _, _ => simp

theorem two_le_length_of_parse {rules : List Text} {t : RuleTable} (h : parse rules = .ok t)
    {key : Text} {xs : List Text} (hfind : t.find? key = some (.list xs)) : 2 ≤ xs.length := by
  obtain ⟨rows, hrows, rfl⟩ := parse_eq_ok.mp h
  have hmem := (find?_eq_some_iff (nodup_keys_ofPairs _)).mp hfind
  obtain ⟨⟨k, value⟩, hpair, heq⟩ := exists_pair_of_mem_ofPairs hmem
  cases heq
  obtain ⟨rule, -, segment, -, hread⟩ := exists_segment_of_mem hrows hpair
  obtain ⟨_, after, -, -, -, -, hvalue⟩ := (spells_iff rule).mpr ⟨_, hread, rfl⟩
  exact two_le_length_of_spellsValue hvalue

/-- Rules with the same segments make the same table, or are refused alike. -/
theorem toOption_parse_congr {rules rules' : List Text}
    (h : rules.flatMap segments = rules'.flatMap segments) :
    (parse rules).toOption = (parse rules').toOption := by
  have hiff : ∀ t, parse rules = .ok t ↔ parse rules' = .ok t := by
    intro t
    rw [parse_eq_ok_iff, parse_eq_ok_iff, h]
  rcases hrules : parse rules with err | t
  · rcases hrules' : parse rules' with err' | t
    · rfl
    · cases hrules.symm.trans ((hiff t).mpr hrules')
  · rw [(hiff t).mp hrules]

/-- **Reading accepts the grammar, no more and no less.**  Rules are refused if and only if one of
the pieces between their semicolons, not being blank, lacks a key, and then as malformed.  If they
are not refused, every piece spells an entry; the table has their keys, in the order in which they
first appear, and for each key the value of the last entry that has it; a value that is a list has
two members at least.  To write two rules as one, with a semicolon between them, gives the same
table, or is refused as well. -/
theorem parse_iff_spells (rules : List Text) :
    ((∃ err, parse rules = .error err) ↔
      ∃ rule ∈ rules, ∃ segment ∈ splitOn ';' rule,
        (∃ c ∈ segment, isBlank c = false) ∧ LacksKey segment) ∧
    (∀ err, parse rules = .error err → err.errorClass = .malformedRule) ∧
    (∀ t, parse rules = .ok t ↔
      ∃ entries, List.Forall₂ Spells (rules.flatMap segments) entries ∧
        t.keys = (entries.map Prod.fst).eraseDups ∧
        ∀ key value, t.find? key = some value ↔
          ∃ earlier later, entries = earlier ++ (key, value) :: later ∧
            key ∉ later.map Prod.fst) ∧
    (∀ t, parse rules = .ok t → ∀ key xs, t.find? key = some (.list xs) → 2 ≤ xs.length) ∧
    ∀ before rule other after,
      (parse (before ++ rule :: other :: after)).toOption =
        (parse (before ++ (rule ++ ';' :: other) :: after)).toOption := by
  refine ⟨?_, fun err h => ?_, fun t => ?_, fun t h key xs hfind => ?_,
    fun before rule other after => toOption_parse_congr ?_⟩
  · rw [exists_parse_eq_error_iff]
    simp only [List.mem_flatMap, segments, List.mem_filter, Bool.not_eq_true',
      isBlankText_eq_false_iff]
    constructor
    · rintro ⟨segment, ⟨rule, hrule, hmem, hblank⟩, hlacks⟩
      exact ⟨rule, hrule, segment, hmem, hblank, hlacks⟩
    · rintro ⟨rule, hrule, segment, hmem, hblank, hlacks⟩
      exact ⟨segment, ⟨rule, hrule, hmem, hblank⟩, hlacks⟩
  · obtain ⟨rule, -, segment, -, hread⟩ := exists_segment_of_parse_eq_error h
    exact (lacksKey_of_readSegment hread).2
  · simp only [parse_eq_ok_iff, ← lookup_reverse_eq_some, ← Option.ext_iff]
  · exact two_le_length_of_parse h hfind
  · simp only [List.flatMap_append, List.flatMap_cons, segments_append_sep, List.append_assoc]

set_option maxRecDepth 100000 in
/-- Blank pieces, a key in small letters that comes again in the next rule, and a list with empty
members: the table has two keys, and so has that of the same text written as one rule.  A piece
that begins with `=` is refused. -/
theorem parse_iff_spells_twoRules :
    ∃ t, parse [" freq=DAILY ; byday = mo ,, ;;".toList, "Freq=weekly".toList] = .ok t ∧
      t.keys = ["FREQ".toList, "BYDAY".toList] ∧
      t.find? "FREQ".toList = some (.single "weekly".toList) ∧
      t.find? "BYDAY".toList = some (.list ["mo".toList, [], []]) ∧
      2 ≤ ["mo".toList, [], []].length ∧
      (parse [" freq=DAILY ; byday = mo ,, ;;;Freq=weekly".toList]).toOption = some t ∧
      ∃ err, parse ["FREQ=DAILY; =x".toList] = .error err ∧ err.errorClass = .malformedRule := by
  obtain ⟨t, h, hkeys, hfreq, hdays⟩ : ∃ t,
      parse [" freq=DAILY ; byday = mo ,, ;;".toList, "Freq=weekly".toList] = .ok t ∧
      t.keys = ["FREQ".toList, "BYDAY".toList] ∧
      t.find? "FREQ".toList = some (.single "weekly".toList) ∧
      t.find? "BYDAY".toList = some (.list ["mo".toList, [], []]) :=
    ⟨_, by rfl, by rfl, by rfl, by rfl⟩
  obtain ⟨-, -, -, hlist, hcut⟩ :=
    parse_iff_spells [" freq=DAILY ; byday = mo ,, ;;".toList, "Freq=weekly".toList]
  have hone := hcut [] " freq=DAILY ; byday = mo ,, ;;".toList "Freq=weekly".toList []
  obtain ⟨err, herr⟩ : ∃ err, parse ["FREQ=DAILY; =x".toList] = .error err := ⟨_, by rfl⟩
  exact ⟨t, h, hkeys, hfreq, hdays, hlist t h _ _ hdays, hone.symm.trans (congrArg _ h), err, herr,
    (parse_iff_spells ["FREQ=DAILY; =x".toList]).2.1 err herr⟩

end Recurrence.RuleTable
