import Recurrence.Proofs.Rule.Canonical
import Recurrence.Proofs.Rule.Grammar

/-! # Tables of given items

A table may also be made of items that a caller gives: names of keys with data.  Each
item gives a pair (`Gives`), as long as its texts can be written (`exists_gives_iff`),
and the table of the pairs has, under each key in canonical form, what was given last
(`find?_ofItems`).  To ask for the entry of a name
in any way is to look up the canonical form of the name (`Finds`, `Lacks`).  The
canonical rule has one segment for each entry (`canonicalEntries_perm`), and the items
of a table make the table again (`ofItems_items`).
-/
namespace Recurrence.RuleTable
open Text
variable {t : RuleTable} {name : KeyName} {key : Text} {value : RuleValue}
  {items : List (KeyName × Value)} {pairs : List (Text × RuleValue)}

/-! ## Ways to ask for an entry -/

/-- Every way to ask for what a name stands for finds the value. -/
structure Finds (t : RuleTable) (name : KeyName) (value : RuleValue) : Prop where
  /-- Look-up that may fail. -/
  lookup : t.lookup name = .ok value
  /-- Look-up that may find nothing. -/
  lookup? : t.lookup? name = some value
  /-- The question whether there is an entry. -/
  contains : t.contains name = true
  /-- The texts of the value. -/
  textsOf : t.textsOf name = value.texts
  /-- The value as one text. -/
  textOf? : t.textOf? name = some value.joined

/-- Every way to ask for what a name stands for finds nothing, under the key that is looked for. -/
structure Lacks (t : RuleTable) (name : KeyName) (key : Text) : Prop where
  /-- Look-up that may fail. -/
  lookup : t.lookup name = .error (.noSuchKey (quoted key))
  /-- Look-up that may find nothing. -/
  lookup? : t.lookup? name = none
  /-- The question whether there is an entry. -/
  contains : t.contains name = false
  /-- The texts of the value. -/
  textsOf : t.textsOf name = []
  /-- The value as one text. -/
  textOf? : t.textOf? name = none

theorem lookup?_eq_find? (h : name.canonical? = some key) : t.lookup? name = t.find? key := by
  rw [lookup?, h, Option.bind_some]

theorem finds_of_find? (hname : name.canonical? = some key) (h : t.find? key = some value) :
    t.Finds name value := by
  have hvalue : t.lookup? name = some value := (lookup?_eq_find? hname).trans h
  constructor
  case lookup => simp only [lookup, hname, h]
  case lookup? => exact hvalue
  case contains => rw [contains, hvalue, Option.isSome_some]
  case textsOf => rw [textsOf, hvalue, Option.map_some, Option.getD_some]
  case textOf? => rw [textOf?, hvalue, Option.map_some]

theorem lacks_of_find? (hname : name.canonical? = some key) (h : t.find? key = none) :
    t.Lacks name key := by
  have hvalue : t.lookup? name = none := (lookup?_eq_find? hname).trans h
  constructor
  case lookup => simp only [lookup, hname, h]
  case lookup? => exact hvalue
  case contains => rw [contains, hvalue, Option.isSome_none]
  case textsOf => rw [textsOf, hvalue, Option.map_none, Option.getD_none]
  case textOf? => rw [textOf?, hvalue, Option.map_none]

/-! ## What items give -/

/-- An item gives its value under the canonical form of its name. -/
def Gives (item : KeyName × Value) (pair : Text × RuleValue) : Prop :=
  item.1.canonical? = some pair.1 ∧ valueOf item.2 = .ok pair.2

/-- The value is what the items give last under the key. -/
def GivenLast (items : List (KeyName × Value)) (key : Text) (value : RuleValue) : Prop :=
  ∃ earlier item later, items = earlier ++ item :: later ∧ Gives item (key, value) ∧
    ∀ other ∈ later, other.1.canonical? ≠ some key

/-- A key with a meaning or a text is the name, and a text or a list is given. -/
structure IsItem (item : KeyName × Value) : Prop where
  /-- What names the entry. -/
  name : (∃ key, item.1 = .known key) ∨ ∃ s, item.1 = .given (.text s)
  /-- What is given. -/
  value : (∃ s, item.2 = .text s) ∨ ∃ xs, item.2 = .list xs

/-- The text of each member of a list can be written: no integer in it has too many digits. -/
def HasTexts (item : KeyName × Value) : Prop :=
  ∀ xs, item.2 = .list xs → ∀ v ∈ xs, v.isWritable = true

theorem exists_written_iff {v : Value} : (∃ s, v.written = .ok s) ↔ v.isWritable = true := by
  unfold Value.written Value.text?
  cases v.isWritable <;> simp

/-- An item gives a pair if and only if its texts can be written. -/
theorem IsItem.exists_gives_iff {item : KeyName × Value} (h : IsItem item) :
    (∃ pair, Gives item pair) ↔ HasTexts item := by
  obtain ⟨name, datum⟩ := item
  obtain ⟨hname, hdatum⟩ := h
  obtain ⟨key, hkey⟩ : ∃ key, name.canonical? = some key := by
    rcases hname with ⟨key, rfl⟩ | ⟨s, rfl⟩
    · exact ⟨key.name, rfl⟩
    · exact ⟨canonicalKey s, rfl⟩
  rcases hdatum with ⟨s, rfl⟩ | ⟨xs, rfl⟩
  · exact iff_of_true ⟨(key, .single s), hkey, rfl⟩ nofun
  · constructor
    · rintro ⟨⟨key, value⟩, -, hvalue⟩ xs ⟨⟩ v hv
      obtain ⟨texts, htexts, -⟩ := except_map_eq_ok.mp hvalue
      exact exists_written_iff.mp (exists_eq_ok_of_mem htexts hv)
    · intro hwritable
      obtain ⟨texts, htexts⟩ := exists_mapM_eq_ok fun v hv =>
        exists_written_iff.mpr (hwritable xs rfl v hv)
      exact ⟨(key, .list texts), hkey, except_map_eq_ok.mpr ⟨texts, htexts, rfl⟩⟩

/-- A name stands for a key in canonical form. -/
theorem canonicalKey_of_canonical? (h : name.canonical? = some key) : canonicalKey key = key := by
  unfold KeyName.canonical? at h
  split at h
  · cases h
    exact RuleKey.canonicalKey_name _
  · cases h
    exact canonicalKey_canonicalKey _
  · cases h

theorem readItem_eq_ok {item : KeyName × Value} {pair : Text × RuleValue} :
    readItem item = .ok pair ↔ Gives item pair := by
  obtain ⟨name, datum⟩ := item
  obtain ⟨key, value⟩ := pair
  rw [readItem, except_bind_eq_ok, Gives]
  cases name.canonical? <;> simp [and_comm]

theorem ofItems_eq_ok :
    ofItems items = .ok t ↔ ∃ pairs, List.Forall₂ Gives items pairs ∧ ofPairs pairs = t := by
  simp only [ofItems, except_bind_eq_ok, mapM_eq_ok, readItem_eq_ok, Except.ok.injEq]

/-- Items make a table if and only if their texts can be written. -/
theorem exists_ofItems_iff (h : ∀ item ∈ items, IsItem item) :
    (∃ t, ofItems items = .ok t) ↔ ∀ item ∈ items, HasTexts item := by
  constructor
  · rintro ⟨t, ht⟩ item hitem
    obtain ⟨pairs, hpairs, -⟩ := except_bind_eq_ok.mp ht
    obtain ⟨pair, hpair⟩ := exists_eq_ok_of_mem hpairs hitem
    exact (h item hitem).exists_gives_iff.mp ⟨pair, readItem_eq_ok.mp hpair⟩
  · intro htexts
    obtain ⟨pairs, hpairs⟩ := exists_mapM_eq_ok fun item hitem => by
      obtain ⟨pair, hpair⟩ := (h item hitem).exists_gives_iff.mpr (htexts item hitem)
      exact ⟨pair, readItem_eq_ok.mpr hpair⟩
    exact ⟨ofPairs pairs, except_bind_eq_ok.mpr ⟨pairs, hpairs, rfl⟩⟩

theorem canonicalPairs_of_gives (h : List.Forall₂ Gives items pairs) :
    canonicalPairs pairs = pairs := by
  induction h with
  | nil => rfl
  | cons hgives _ ih =>
    rw [canonicalPairs, List.map_cons, canonicalKey_of_canonical? hgives.1, ← canonicalPairs, ih]

/-- The keys of the pairs are those that the names stand for. -/
theorem mem_keys_of_gives (h : List.Forall₂ Gives items pairs) :
    key ∈ pairs.map Prod.fst ↔ ∃ item ∈ items, item.1.canonical? = some key := by
  induction h with
  | nil => simp
  | cons hgives _ ih => simp [ih, hgives.1, eq_comm]

/-- **Look-up finds what was given last**, in a table of items. -/
theorem find?_ofItems (h : ofItems items = .ok t) :
    t.find? key = some value ↔ GivenLast items key value := by
  obtain ⟨pairs, hpairs, rfl⟩ := ofItems_eq_ok.mp h
  rw [find?_ofPairs, canonicalPairs_of_gives hpairs, lookup_reverse_eq_some]
  constructor
  · rintro ⟨earlier, later, rfl, hlater⟩
    -- The items are cut where their pairs are.
    obtain ⟨before, rest, -, hrest, rfl⟩ := forall₂_append_left.mp hpairs.flip
    obtain ⟨item, after, hitem, hafter, rfl⟩ := List.forall₂_cons_left_iff.mp hrest
    refine ⟨before, item, after, rfl, hitem, fun other hother hname => hlater ?_⟩
    exact (mem_keys_of_gives hafter.flip).mpr ⟨other, hother, hname⟩
  · rintro ⟨before, item, after, rfl, hitem, hafter⟩
    obtain ⟨earlier, rest, -, hrest, rfl⟩ := forall₂_append_left.mp hpairs
    obtain ⟨⟨k, v⟩, later, hgives, hlater, rfl⟩ := List.forall₂_cons_left_iff.mp hrest
    cases hgives.1.symm.trans hitem.1
    cases hgives.2.symm.trans hitem.2
    refine ⟨earlier, later, rfl, fun hmem => ?_⟩
    obtain ⟨other, hother, hname⟩ := (mem_keys_of_gives hlater).mp hmem
    exact hafter other hother hname

theorem nodup_keys_ofItems (h : ofItems items = .ok t) : t.keys.Nodup := by
  obtain ⟨pairs, -, rfl⟩ := ofItems_eq_ok.mp h
  exact nodup_keys_ofPairs pairs

theorem mem_keys_ofItems (h : ofItems items = .ok t) :
    key ∈ t.keys ↔ ∃ item ∈ items, item.1.canonical? = some key := by
  obtain ⟨pairs, hpairs, rfl⟩ := ofItems_eq_ok.mp h
  rw [keys_ofPairs, canonicalPairs_of_gives hpairs, List.mem_eraseDups, mem_keys_of_gives hpairs]

theorem canonicalKey_of_mem_ofItems (h : ofItems items = .ok t) (hkey : key ∈ t.keys) :
    canonicalKey key = key := by
  obtain ⟨pairs, hpairs, rfl⟩ := ofItems_eq_ok.mp h
  obtain ⟨entry, hentry, rfl⟩ := List.mem_map.mp hkey
  obtain ⟨pair, -, rfl⟩ := exists_pair_of_mem_ofPairs hentry
  exact canonicalKey_canonicalKey pair.1

/-! ## The entries of a table -/

/-- **The canonical rule has each entry once.** -/
theorem canonicalEntries_perm (h : t.keys.Nodup) : t.canonicalEntries.Perm t.entries := by
  have hcanonical : t.canonical.keys.Nodup := nodup_keys_canonical h
  refine (List.perm_ext_iff_of_nodup (nodup_entries hcanonical) (nodup_entries h)).mpr ?_
  rintro ⟨key, value⟩
  rw [← find?_eq_some_iff h, ← find?_canonical t]
  exact (find?_eq_some_iff hcanonical).symm

theorem valueOf_toValue (value : RuleValue) : valueOf value.toValue = .ok value := by
  cases value with
  | single s => rfl
  | list xs =>
    refine except_map_eq_ok.mpr ⟨xs, mapM_eq_ok.mpr ?_, rfl⟩
    rw [List.forall₂_map_left_iff, List.forall₂_same]
    exact fun s _ => rfl

/-- **The items of a table make the table again.** -/
theorem ofItems_items (hdistinct : t.keys.Nodup) (h : ∀ key ∈ t.keys, canonicalKey key = key) :
    ofItems t.items = .ok t := by
  have hentries : ∀ entry ∈ t.entries, canonicalKey entry.1 = entry.1 :=
    fun entry hentry => h entry.1 (List.mem_map_of_mem hentry)
  refine ofItems_eq_ok.mpr ⟨t.entries, ?_, ofPairs_eq_self hentries hdistinct⟩
  rw [RuleTable.items, List.forall₂_map_left_iff, List.forall₂_same]
  rintro ⟨key, value⟩ hentry
  exact ⟨congrArg some (hentries _ hentry), valueOf_toValue value⟩

/-! ## The whole -/

/-- **A table of items represents what was given.**  Items named by texts or by keys with a meaning,
with texts or lists for values, make a table if the members of the lists can be written.  Its keys
are distinct and in canonical form, so each of them finds an entry.  A text names the entry under
its canonical form, stripped and in upper case, and every way to ask for it finds the value that was
given last under that key; if none was given, every way finds nothing.  The canonical rule consists
of one segment for each entry, in some order, and the items of the table make the same table, in the
same order. -/
theorem ofItems_represents (hitems : ∀ item ∈ items, IsItem item) :
    ((∃ t, ofItems items = .ok t) ↔ ∀ item ∈ items, HasTexts item) ∧
    ∀ t, ofItems items = .ok t →
      (t.keys.Nodup ∧ ∀ key ∈ t.keys,
        canonicalKey key = key ∧ ∃ value, t.Finds (.given (.text key)) value) ∧
      (∀ name : Text,
        (∃ value, GivenLast items (strip name).upper value ∧
            ((strip name).upper, value) ∈ t.entries ∧ t.Finds (.given (.text name)) value) ∨
          (∀ item ∈ items, item.1.canonical? ≠ some (strip name).upper) ∧
            (strip name).upper ∉ t.keys ∧ t.Lacks (.given (.text name)) (strip name).upper) ∧
      (∃ entries : List (Text × RuleValue), entries.Perm t.entries ∧
        t.serialize = joinWith [';'] (entries.map fun entry => writeSegment entry.1 entry.2)) ∧
      ofItems t.items = .ok t := by
  refine ⟨exists_ofItems_iff hitems, fun t ht => ?_⟩
  have hdistinct := nodup_keys_ofItems ht
  have hcanonical : ∀ key ∈ t.keys, canonicalKey key = key :=
    fun _ hkey => canonicalKey_of_mem_ofItems ht hkey
  refine ⟨⟨hdistinct, fun key hkey => ⟨hcanonical key hkey, ?_⟩⟩, fun name => ?_,
    ⟨t.canonicalEntries, canonicalEntries_perm hdistinct, rfl⟩, ofItems_items hdistinct hcanonical⟩
  · obtain ⟨⟨_, value⟩, hentry, rfl⟩ := List.mem_map.mp hkey
    exact ⟨value, finds_of_find? (congrArg some (hcanonical _ hkey))
      ((find?_eq_some_iff hdistinct).mpr hentry)⟩
  · have hname : (KeyName.given (.text name)).canonical? = some (strip name).upper := rfl
    cases hfind : t.find? (strip name).upper with
    | some value =>
      exact .inl ⟨value, (find?_ofItems ht).mp hfind, (find?_eq_some_iff hdistinct).mp hfind,
        finds_of_find? hname hfind⟩
    | none =>
      have habsent := find?_eq_none_iff.mp hfind
      exact .inr ⟨fun item hitem hkey => habsent ((mem_keys_ofItems ht).mpr ⟨item, hitem, hkey⟩),
        habsent, lacks_of_find? hname hfind⟩

set_option maxRecDepth 100000 in
/-- Names that differ in case, in blanks and in letters that grow in upper case are one key.  It
keeps the place where it was given first, has the value that was given last, and is found by yet
another name. -/
theorem ofItems_represents_strasse :
    ∃ items t, items =
        [(.given (.text " straße".toList), .list [.text "a".toList, .int 1]),
          (.known .freq, .text "DAILY".toList), (.given (.text "STRASSE".toList), .text "b".toList),
          (.given (.text "Freq ".toList), .list [.text "WEEKLY".toList])] ∧
      ofItems items = .ok t ∧ t.keys = ["STRASSE".toList, "FREQ".toList] ∧
      t.Finds (.given (.text "ſtraße".toList)) (.single "b".toList) ∧
      t.Lacks (.given (.text "strase".toList)) "STRASE".toList ∧ ofItems t.items = .ok t := by
  obtain ⟨items, hlist, hitems, hread⟩ : ∃ items, items =
        [(.given (.text " straße".toList), .list [.text "a".toList, .int 1]),
          (.known .freq, .text "DAILY".toList), (.given (.text "STRASSE".toList), .text "b".toList),
          (.given (.text "Freq ".toList), .list [.text "WEEKLY".toList])] ∧
      (∀ item ∈ items, IsItem item) ∧
      ofItems items = .ok ⟨[("STRASSE".toList, .single "b".toList),
        ("FREQ".toList, .list ["WEEKLY".toList])]⟩ := by
    refine ⟨_, rfl, ?_, by rfl⟩
    simp only [List.forall_mem_cons]
    exact ⟨⟨.inr ⟨_, rfl⟩, .inr ⟨_, rfl⟩⟩, ⟨.inl ⟨_, rfl⟩, .inl ⟨_, rfl⟩⟩,
      ⟨.inr ⟨_, rfl⟩, .inl ⟨_, rfl⟩⟩, ⟨.inr ⟨_, rfl⟩, .inr ⟨_, rfl⟩⟩, fun _ h => nomatch h⟩
  obtain ⟨-, hname, -, hagain⟩ := (ofItems_represents hitems).2 _ hread
  have hlong : (strip "ſtraße".toList).upper = "STRASSE".toList := by rfl
  have hshort : (strip "strase".toList).upper = "STRASE".toList := by rfl
  refine ⟨items, _, hlist, hread, rfl, ?_, ?_, hagain⟩
  · rcases hname "ſtraße".toList with ⟨value, -, hentry, hfinds⟩ | ⟨-, habsent, -⟩
    · rw [hlong] at hentry
      obtain rfl : value = .single "b".toList := by simpa using hentry
      exact hfinds
    · rw [hlong] at habsent
      exact absurd List.mem_cons_self habsent
  · rcases hname "strase".toList with ⟨value, -, hentry, -⟩ | ⟨-, -, hlacks⟩
    · rw [hshort] at hentry
      simp at hentry
    · exact hlacks

end Recurrence.RuleTable
