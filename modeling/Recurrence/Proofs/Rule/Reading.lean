import Recurrence.Proofs.Outcome
import Recurrence.Proofs.Rule.Entries

/-! # What reading makes, writing keeps

Reading strips, cuts and changes case, so the text of a rule is lost; but what it
makes is settled.  An entry that was read is written as a segment that reads as the
same entry (`IsReadEntry.readSegment_writeSegment`), and all entries of a table that
was read are of this kind (`isRead_of_parse`).
-/
namespace Recurrence
open Text

/-! ## Values -/

namespace RuleTable
variable {s : Text}

theorem readValue_of_mem (h : ',' ∈ strip s) :
    readValue s = .list ((splitOn ',' (strip s)).map strip) := by
  simp [readValue, h]

theorem readValue_of_not_mem (h : ',' ∉ strip s) : readValue s = .single (strip s) := by
  simp [readValue, h]

/-- **A value reads as it was written.** -/
theorem readValue_joined_readValue (s : Text) : readValue (readValue s).joined = readValue s := by
  by_cases h : ',' ∈ strip s
  · have hparts : ∀ part ∈ (splitOn ',' (strip s)).map strip, IsTrimmed part ∧ ',' ∉ part := by
      intro part hpart
      obtain ⟨piece, hpiece, rfl⟩ := List.mem_map.mp hpart
      exact ⟨isTrimmed_strip piece, fun hmem =>
        not_mem_of_mem_splitOn hpiece (mem_of_mem_strip hmem)⟩
    rw [readValue_of_mem h, RuleValue.joined]
    generalize hxs : (splitOn ',' (strip s)).map strip = parts at hparts ⊢
    have hlength : 2 ≤ parts.length := by
      rw [← hxs, List.length_map]
      exact two_le_length_splitOn h
    -- No part begins or ends with a blank, so the joined text is stripped already.
    have hjoined : strip (joinWith [','] parts) = joinWith [','] parts :=
      (isTrimmed_joinWith (by decide) fun part hpart => (hparts part hpart).1).strip_eq
    have hne : parts ≠ [] := List.ne_nil_of_length_pos (by omega)
    have hcomma : ',' ∈ strip (joinWith [','] parts) := hjoined.symm ▸ mem_joinWith_self hlength
    rw [readValue_of_mem hcomma, hjoined,
      splitOn_joinWith hne fun part hpart => (hparts part hpart).2,
      List.map_congr_left fun part hpart => (hparts part hpart).1.strip_eq, List.map_id']
  · have hstrip : strip (strip s) = strip s := (isTrimmed_strip s).strip_eq
    rw [readValue_of_not_mem h, RuleValue.joined, readValue_of_not_mem (hstrip.symm ▸ h), hstrip]

/-- The text of a value has no character that was not read, apart from the commas that join it. -/
theorem mem_of_mem_joined_readValue {c : Char} (h : c ∈ (readValue s).joined) : c = ',' ∨ c ∈ s := by
  by_cases hcomma : ',' ∈ strip s
  · rw [readValue_of_mem hcomma] at h
    refine (mem_joinWith h).imp_right ?_
    rintro ⟨part, hpart, hc⟩
    obtain ⟨piece, hpiece, rfl⟩ := List.mem_map.mp hpart
    exact mem_of_mem_strip (mem_of_mem_splitOn hpiece (mem_of_mem_strip hc)).1
  · rw [readValue_of_not_mem hcomma] at h
    exact .inr (mem_of_mem_strip h)

/-! ## Segments -/

theorem not_mem_of_mem_segments {segment rule : Text} (h : segment ∈ segments rule) :
    ';' ∉ segment :=
  not_mem_of_mem_splitOn (List.mem_of_mem_filter h)

/-- Segments that are not blank come back from the rule that they make. -/
theorem segments_joinWith {pieces : List Text}
    (h : ∀ piece ∈ pieces, ';' ∉ piece ∧ isBlankText piece = false) :
    segments (joinWith [';'] pieces) = pieces := by
  cases pieces with
  | nil => rfl
  | cons piece rest =>
    rw [segments, splitOn_joinWith (List.cons_ne_nil piece rest) fun p hp => (h p hp).1,
      List.filter_eq_self]
    intro p hp
    rw [(h p hp).2]
    rfl

/-- A segment is an entry if there is a key before its first `=`. -/
theorem readSegment_eq_ok {segment rule key : Text} {value : RuleValue} :
    readSegment segment rule = .ok (key, value) ↔
      ∃ before after, '=' ∉ before ∧ segment = before ++ '=' :: after ∧
        isBlankText before = false ∧ key = strip before ∧ value = readValue after := by
  rw [readSegment]
  constructor
  · intro h
    split at h
    · cases h
    · rename_i before after hcut
      obtain ⟨hbefore, hsegment⟩ := cutAt_eq_some.mp hcut
      split at h
      · cases h
      · rename_i hblank
        cases h
        exact ⟨before, after, hbefore, hsegment, eq_false_of_ne_true hblank, rfl, rfl⟩
  · rintro ⟨before, after, hbefore, hsegment, hblank, rfl, rfl⟩
    simp [cutAt_eq_some.mpr ⟨hbefore, hsegment⟩, hblank]

/-- What an entry is like that was read: the key is canonical, is not empty and has no separator in
it, and the value is what its own text reads as. -/
structure IsReadEntry (key : Text) (value : RuleValue) : Prop where
  /-- The key is canonical. -/
  canonical : canonicalKey key = key
  /-- The key is not empty. -/
  nonempty : key ≠ []
  /-- Nothing in the key separates. -/
  unseparated : ∀ c ∈ key, c ∉ separators
  /-- The value reads as it is written. -/
  reread : readValue value.joined = value
  /-- Nothing in the value ends the segment. -/
  unended : ';' ∉ value.joined

theorem isReadEntry_of_readSegment {segment rule key : Text} {value : RuleValue}
    (h : readSegment segment rule = .ok (key, value)) (hsegment : ';' ∉ segment) :
    IsReadEntry (canonicalKey key) value := by
  obtain ⟨before, after, hbefore, rfl, hblank, rfl, rfl⟩ := readSegment_eq_ok.mp h
  rw [List.mem_append, List.mem_cons, not_or, not_or] at hsegment
  obtain ⟨hbefore', -, hafter⟩ := hsegment
  constructor
  case canonical => exact canonicalKey_canonicalKey _
  case nonempty =>
    have hstrip := (isTrimmed_strip before).isBlankText_eq_false (strip_ne_nil hblank)
    exact canonicalKey_ne_nil hstrip
  case unseparated =>
    intro c hc hsep
    have hmem : c ∈ before := mem_of_mem_strip (mem_of_mem_canonicalKey hc hsep)
    rcases List.mem_cons.mp hsep with rfl | hsep
    · exact hbefore' hmem
    · rw [List.mem_singleton.mp hsep] at hmem
      exact hbefore hmem
  case reread => exact readValue_joined_readValue after
  case unended =>
    intro hmem
    rcases mem_of_mem_joined_readValue hmem with hcomma | hmem
    · exact absurd hcomma (by decide)
    · exact hafter hmem

namespace IsReadEntry
variable {key : Text} {value : RuleValue} (h : IsReadEntry key value)
include h

theorem isTrimmed_key : IsTrimmed key :=
  h.canonical ▸ isTrimmed_canonicalKey key

/-- **An entry that was read is read again from its segment.** -/
theorem readSegment_writeSegment (rule : Text) :
    readSegment (writeSegment key value) rule = .ok (key, value) := by
  refine readSegment_eq_ok.mpr ⟨key, value.joined, fun hmem => ?_, ?_, ?_, ?_, h.reread.symm⟩
  · exact h.unseparated '=' hmem (by decide)
  · rw [writeSegment, List.append_assoc, List.singleton_append]
  · exact h.isTrimmed_key.isBlankText_eq_false h.nonempty
  · exact h.isTrimmed_key.strip_eq.symm

theorem not_mem_writeSegment : ';' ∉ writeSegment key value := by
  simp only [writeSegment, List.mem_append, List.mem_singleton, not_or]
  exact ⟨⟨fun hmem => h.unseparated ';' hmem (by decide), by decide⟩, h.unended⟩

omit h in
theorem isBlankText_writeSegment (key : Text) (value : RuleValue) :
    isBlankText (writeSegment key value) = false :=
  isBlankText_eq_false_iff.mpr ⟨'=', by simp [writeSegment], by decide⟩

end IsReadEntry

/-! ## Tables -/

theorem parse_eq_ok {rules : List Text} {t : RuleTable} :
    parse rules = .ok t ↔ ∃ pairs, rules.mapM readRule = .ok pairs ∧ ofPairs pairs.flatten = t := by
  simp only [parse, except_bind_eq_ok, Except.ok.injEq]

/-- The keys and values of the rules are those of their segments. -/
theorem exists_segment_of_mem {rules : List Text} {pairs : List (List (Text × RuleValue))}
    (h : rules.mapM readRule = .ok pairs) {pair : Text × RuleValue} (hpair : pair ∈ pairs.flatten) :
    ∃ rule ∈ rules, ∃ segment ∈ segments rule, readSegment segment rule = .ok pair := by
  obtain ⟨rule, hrule, row, hrow, hmem⟩ :=
    (exists_mem_of_mapM_eq_ok h (pair ∈ ·)).mp (List.mem_flatten.mp hpair)
  obtain ⟨segment, hsegment, _, hread, rfl⟩ :=
    (exists_mem_of_mapM_eq_ok hrow (· = pair)).mp ⟨pair, hmem, rfl⟩
  exact ⟨rule, hrule, segment, hsegment, hread⟩

/-- What a table is like that was read: each key stands once, and all entries are as read. -/
structure IsRead (t : RuleTable) : Prop where
  /-- The keys are distinct. -/
  distinct : t.keys.Nodup
  /-- Each entry is as read. -/
  entry : ∀ entry ∈ t.entries, IsReadEntry entry.1 entry.2

theorem isRead_of_parse {rules : List Text} {t : RuleTable} (h : parse rules = .ok t) :
    t.IsRead := by
  obtain ⟨pairs, hpairs, rfl⟩ := parse_eq_ok.mp h
  refine ⟨nodup_keys_ofPairs _, fun entry hentry => ?_⟩
  obtain ⟨⟨key, value⟩, hpair, rfl⟩ := exists_pair_of_mem_ofPairs hentry
  obtain ⟨rule, -, segment, hsegment, hread⟩ := exists_segment_of_mem hpairs hpair
  exact isReadEntry_of_readSegment hread (not_mem_of_mem_segments hsegment)

end RuleTable

end Recurrence
