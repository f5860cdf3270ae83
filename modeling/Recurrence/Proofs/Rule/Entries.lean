import Mathlib.Data.List.Induction
import Mathlib.Data.List.Nodup
import Mathlib.Data.List.Perm.Subperm
import Recurrence.Proofs.Text.Upper
import Recurrence.Rule.Table

/-! # Tables that have each key once

The canonical form of a key is its own canonical form (`canonicalKey_canonicalKey`),
so a key that a table lists can be looked up under that name.  A table made of pairs has each key once (`nodup_keys_ofPairs`), in canonical form,
with the value of one of the pairs (`exists_pair_of_mem_ofPairs`).  In such a table
the entries and look-up say the same (`find?_eq_some_iff`), and two tables have the
same entries if look-up cannot tell them apart (`sameEntries_iff`).  Pairs that have
each key once already, in canonical form, are the entries of their table
(`ofPairs_eq_self`).
-/
namespace Recurrence
open Text

/-! ## Canonical keys -/

theorem isTrimmed_canonicalKey (key : Text) : IsTrimmed (canonicalKey key) :=
  isTrimmed_upper (isTrimmed_strip key)

/-- **The canonical form of a key is canonical.** -/
theorem canonicalKey_canonicalKey (key : Text) :
    canonicalKey (canonicalKey key) = canonicalKey key := by
  conv_lhs => rw [canonicalKey, (isTrimmed_canonicalKey key).strip_eq, canonicalKey, upper_upper]
  rfl

theorem canonicalKey_ne_nil {key : Text} (h : isBlankText key = false) : canonicalKey key ≠ [] :=
  upper_ne_nil (strip_ne_nil h)

theorem mem_of_mem_canonicalKey {key : Text} {c : Char} (h : c ∈ canonicalKey key)
    (hc : c ∈ separators) : c ∈ key :=
  mem_of_mem_strip (mem_of_mem_upper h (.inr hc))

namespace RuleTable
variable {t u : RuleTable} {entries pairs : List (Text × RuleValue)} {key : Text}
  {value : RuleValue}

/-! ## Insertion -/

theorem insertEntry_of_not_mem (h : key ∉ entries.map Prod.fst) :
    insertEntry key value entries = entries ++ [(key, value)] := by
  induction entries with
  | nil => rfl
  | cons entry rest ih =>
    rw [List.map_cons, List.mem_cons, not_or] at h
    rw [insertEntry, if_neg (Ne.symm h.1), ih h.2, List.cons_append]

/-- A key keeps its place; a new key comes last. -/
theorem map_fst_insertEntry (key : Text) (value : RuleValue) (entries : List (Text × RuleValue)) :
    (insertEntry key value entries).map Prod.fst =
      if key ∈ entries.map Prod.fst then entries.map Prod.fst
      else entries.map Prod.fst ++ [key] := by
  induction entries with
  | nil => rfl
  | cons entry rest ih =>
    rw [insertEntry]
    split
    · rename_i h
      simp [h]
    · rename_i h
      rw [List.map_cons, ih]
      split <;> simp_all [eq_comm]

theorem mem_insertEntry {entry : Text × RuleValue} (h : entry ∈ insertEntry key value entries) :
    entry = (key, value) ∨ entry ∈ entries := by
  induction entries with
  | nil => exact .inl (List.mem_singleton.mp h)
  | cons old rest ih =>
    rw [insertEntry] at h
    split at h
    · rename_i hkey
      rw [hkey] at h
      exact (List.mem_cons.mp h).imp_right (List.mem_cons_of_mem old)
    · rcases List.mem_cons.mp h with rfl | h
      · exact .inr List.mem_cons_self
      · exact (ih h).imp_right (List.mem_cons_of_mem old)

theorem nodup_keys_insert (h : t.keys.Nodup) (key : Text) (value : RuleValue) :
    (t.insert key value).keys.Nodup := by
  rw [keys, insert, map_fst_insertEntry]
  split
  · exact h
  · rename_i hnew
    refine List.nodup_append.mpr ⟨h, List.nodup_singleton _, ?_⟩
    rintro k hk _ hmem rfl
    exact hnew (List.mem_singleton.mp hmem ▸ hk)

/-! ## Tables of pairs -/

/-- What holds of the empty table and outlasts the insertion of any of the pairs holds of their
table. -/
theorem ofPairs_induction {P : RuleTable → Prop} (hempty : P empty)
    (hinsert : ∀ t, P t → ∀ pair ∈ pairs, P (t.insert pair.1 pair.2)) : P (ofPairs pairs) :=
  List.foldlRecOn pairs _ hempty hinsert

theorem nodup_keys_ofPairs (pairs : List (Text × RuleValue)) : (ofPairs pairs).keys.Nodup :=
  ofPairs_induction (P := fun t => t.keys.Nodup) List.nodup_nil
    fun _ h pair _ => nodup_keys_insert h pair.1 pair.2

theorem exists_pair_of_mem_ofPairs {entry : Text × RuleValue}
    (h : entry ∈ (ofPairs pairs).entries) :
    ∃ pair ∈ pairs, entry = (canonicalKey pair.1, pair.2) := by
  revert entry
  refine ofPairs_induction (P := fun t => ∀ {entry}, entry ∈ t.entries →
    ∃ pair ∈ pairs, entry = (canonicalKey pair.1, pair.2)) (fun h => by cases h) ?_
  intro t ih pair hpair entry h
  rcases mem_insertEntry h with rfl | h
  · exact ⟨pair, hpair, rfl⟩
  · exact ih h

theorem ofPairs_concat (pairs : List (Text × RuleValue)) (pair : Text × RuleValue) :
    ofPairs (pairs ++ [pair]) = (ofPairs pairs).insert pair.1 pair.2 := by
  rw [ofPairs, List.foldl_concat]
  rfl

/-- **Pairs with distinct canonical keys are the entries of their table.** -/
theorem ofPairs_eq_self (hkeys : ∀ pair ∈ pairs, canonicalKey pair.1 = pair.1)
    (hdistinct : (pairs.map Prod.fst).Nodup) : ofPairs pairs = ⟨pairs⟩ := by
  induction pairs using List.reverseRecOn with
  | nil => rfl
  | append_singleton pairs pair ih =>
    rw [List.map_append, List.nodup_append] at hdistinct
    obtain ⟨hpairs, -, hnew⟩ := hdistinct
    have hmem : pair.1 ∉ pairs.map Prod.fst := fun h => hnew _ h _ (by simp) rfl
    rw [ofPairs_concat, ih (fun p hp => hkeys p (List.mem_append_left _ hp)) hpairs, insert,
      hkeys pair (by simp), insertEntry_of_not_mem hmem]

/-! ## Look-up -/

theorem find?_eq_none_iff : t.find? key = none ↔ key ∉ t.keys := by
  rw [find?, List.lookup_eq_none_iff, keys, List.mem_map, not_exists]
  simp only [bne_iff_ne, not_and]
  exact forall₂_congr fun _ _ => ne_comm

/-- Look-up finds the entries of a table that has each key once. -/
theorem find?_eq_some_iff (h : t.keys.Nodup) :
    t.find? key = some value ↔ (key, value) ∈ t.entries := by
  obtain ⟨entries⟩ := t
  rw [find?]
  rw [keys] at h
  induction entries with
  | nil => simp
  | cons entry rest ih =>
    obtain ⟨k, v⟩ := entry
    rw [List.map_cons, List.nodup_cons] at h
    rw [lookup_entry, List.mem_cons, Prod.mk.injEq, ← ih h.2]
    split
    · rename_i hkey
      -- The key is not among the rest, so look-up in the rest fails.
      have hrest : rest.lookup key = none := by
        rw [hkey]
        exact (find?_eq_none_iff (t := ⟨rest⟩)).mpr h.1
      rw [hrest]
      simp [hkey, eq_comm]
    · rename_i hkey
      simp [hkey]

theorem nodup_entries (h : t.keys.Nodup) : t.entries.Nodup :=
  List.Nodup.of_map Prod.fst h

/-- **Tables have the same entries if and only if every key has the same value in both.** -/
theorem sameEntries_iff (ht : t.keys.Nodup) (hu : u.keys.Nodup) :
    t.sameEntries u = true ↔ ∀ key, t.find? key = u.find? key := by
  rw [sameEntries, Bool.and_eq_true, beq_iff_eq, List.all_eq_true]
  simp only [beq_iff_eq]
  constructor
  · rintro ⟨hlength, hall⟩ key
    have hsub : t.entries ⊆ u.entries := fun entry h => (find?_eq_some_iff hu).mp (hall entry h)
    have hperm : t.entries.Perm u.entries :=
      (List.subperm_of_subset (nodup_entries ht) hsub).perm_of_length_le (Nat.le_of_eq hlength.symm)
    refine Option.ext fun value => ?_
    rw [find?_eq_some_iff ht, find?_eq_some_iff hu, hperm.mem_iff]
  · intro h
    have hperm : t.entries.Perm u.entries := by
      refine (List.perm_ext_iff_of_nodup (nodup_entries ht) (nodup_entries hu)).mpr ?_
      rintro ⟨key, value⟩
      rw [← find?_eq_some_iff ht, ← find?_eq_some_iff hu, h key]
    exact ⟨hperm.length_eq, fun entry hentry => (h _).symm.trans ((find?_eq_some_iff ht).mpr hentry)⟩

end RuleTable

end Recurrence
