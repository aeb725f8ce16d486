import Mathlib.Data.List.Nodup
import Mathlib.Tactic.Common
import VariantRepair.Cache
import VariantRepair.Proofs.Test.Name
import VariantRepair.Proofs.Value.Field

/-!
# The entries of a cache

Entries are looked up by their keys, and stored as a value that depends on the outcomes alone.
-/

/-!
## Cache entries by key

The entries of a cache are a list in which every key has one outcome. Looked at by key, putting an
outcome in changes what is known of its own key and of no other. The tests that were run are a list
without repetitions, which noting a run makes longer by at most that one.
-/

namespace VariantRepair.Cache

/-- Putting in an outcome changes what is known of its key. -/
lemma lookup_insertEntry (entries : List (CacheKey × Bool)) (key key' : CacheKey) (passed : Bool) :
    (insertEntry key passed entries).lookup key'
      = if key' = key then some passed else entries.lookup key' :=
  lookup_put entries key key' passed

lemma query_add (c : Cache) (digest digest' : String) (test test' : Test) (passed : Bool) :
    (c.add digest test passed).query digest' test'
      = if (digest', test') = (digest, test) then some passed else c.query digest' test' :=
  lookup_insertEntry c.entries (digest, test) (digest', test') passed

@[simp] lemma query_recordEvaluation (c : Cache) (digest digest' : String) (test test' : Test) :
    (c.recordEvaluation digest test).query digest' test' = c.query digest' test' := by
  rw [recordEvaluation]
  split_ifs <;> rfl

@[simp] lemma path_recordEvaluation (c : Cache) (digest : String) (test : Test) :
    (c.recordEvaluation digest test).path = c.path := by
  rw [recordEvaluation]
  split_ifs <;> rfl

@[simp] lemma entries_recordEvaluation (c : Cache) (digest : String) (test : Test) :
    (c.recordEvaluation digest test).entries = c.entries := by
  rw [recordEvaluation]
  split_ifs <;> rfl

lemma mem_evaluated_recordEvaluation (c : Cache) (digest : String) (test : Test) (key : CacheKey) :
    key ∈ (c.recordEvaluation digest test).evaluated
      ↔ key ∈ c.evaluated ∨ key = (digest, test) := by
  rw [recordEvaluation]
  split_ifs with hknown
  · refine ⟨.inl, ?_⟩
    rintro (hkey | rfl)
    · exact hkey
    · simpa using hknown
  · rw [List.mem_append, List.mem_singleton]

lemma nodup_evaluated_recordEvaluation {c : Cache} (h : c.evaluated.Nodup) (digest : String)
    (test : Test) : (c.recordEvaluation digest test).evaluated.Nodup := by
  rw [recordEvaluation]
  split_ifs with hknown
  · exact h
  · refine List.nodup_append.mpr ⟨h, List.nodup_singleton _, ?_⟩
    rintro key hkey _ hnew rfl
    obtain rfl := List.mem_singleton.mp hnew
    exact hknown (by simpa using hkey)

end VariantRepair.Cache

/-!
## The stored value of a cache

The entries of a cache are stored in the order of their keys, each test by its name, and read back
as they were stored. The stored value depends on the outcomes alone: caches that know the same
outcomes are stored alike, whatever the order in which their entries came.
-/

namespace VariantRepair.Cache

variable {entries entries' : List (CacheKey × Bool)} {key : CacheKey} {passed : Bool}

/-- Entries as a cache file keeps them: every key has one outcome, and the name of every test is
read back. -/
structure IsStorable (entries : List (CacheKey × Bool)) : Prop where
  nodup : (entries.map Prod.fst).Nodup
  readable : ∀ e ∈ entries, e.1.2.IsReadable

/-! ### Entries and keys -/

lemma lookup_eq_none_iff : entries.lookup key = none ↔ key ∉ entries.map Prod.fst := by
  induction entries with
  | nil => simp
  | cons e entries ih =>
    rw [List.lookup_cons, List.map_cons, List.mem_cons, not_or]
    by_cases hkey : key = e.1
    · simp [hkey]
    · rw [beq_eq_false_iff_ne.mpr hkey]
      simpa [hkey] using ih

lemma lookup_eq_some_iff (hnodup : (entries.map Prod.fst).Nodup) :
    entries.lookup key = some passed ↔ (key, passed) ∈ entries := by
  induction entries with
  | nil => simp
  | cons e entries ih =>
    obtain ⟨k, p⟩ := e
    obtain ⟨hk, hnodup⟩ := List.nodup_cons.mp hnodup
    rw [List.lookup_cons, List.mem_cons]
    by_cases hkey : key = k
    · subst hkey
      have hnone : (key, passed) ∉ entries := fun h =>
        hk (List.mem_map.mpr ⟨(key, passed), h, rfl⟩)
      simp [hnone, eq_comm]
    · rw [beq_eq_false_iff_ne.mpr hkey]
      simp [hkey, ih hnodup]

lemma map_fst_replace (entries : List (CacheKey × Bool)) (key : CacheKey) (passed : Bool) :
    (entries.map fun e => if e.1 == key then (key, passed) else e).map Prod.fst
      = entries.map Prod.fst := by
  rw [List.map_map]
  refine List.map_congr_left fun e _ => ?_
  by_cases hkey : e.1 = key <;> simp [hkey]

/-- An outcome with a new key is put at the end. -/
lemma insertEntry_of_notMem (h : key ∉ entries.map Prod.fst) :
    insertEntry key passed entries = entries ++ [(key, passed)] := by
  rw [insertEntry, lookup_eq_none_iff.mpr h, Option.isSome_none, if_neg Bool.false_ne_true]

lemma map_fst_insertEntry (entries : List (CacheKey × Bool)) (key : CacheKey) (passed : Bool) :
    (insertEntry key passed entries).map Prod.fst
      = if key ∈ entries.map Prod.fst then entries.map Prod.fst
        else entries.map Prod.fst ++ [key] := by
  split_ifs with hkey
  · have hknown : (entries.lookup key).isSome := by
      rw [Option.isSome_iff_ne_none, Ne, lookup_eq_none_iff, not_not]
      exact hkey
    rw [insertEntry, if_pos hknown, map_fst_replace]
  · rw [insertEntry_of_notMem hkey, List.map_append]
    rfl

lemma mem_insertEntry {e : CacheKey × Bool} (h : e ∈ insertEntry key passed entries) :
    e = (key, passed) ∨ e ∈ entries := by
  rw [insertEntry] at h
  split_ifs at h
  · obtain ⟨e', he', rfl⟩ := List.mem_map.mp h
    by_cases hkey : e'.1 = key
    · exact .inl (by simp [hkey])
    · exact .inr (by simpa [hkey] using he')
  · rcases List.mem_append.mp h with h | h
    · exact .inr h
    · exact .inl (List.mem_singleton.mp h)

namespace IsStorable

lemma nil : IsStorable [] := ⟨List.nodup_nil, nofun⟩

lemma insertEntry (h : IsStorable entries) (hkey : key.2.IsReadable) (passed : Bool) :
    IsStorable (insertEntry key passed entries) where
  nodup := by
    rw [map_fst_insertEntry]
    split_ifs with hmem
    · exact h.nodup
    · refine List.nodup_append.mpr ⟨h.nodup, List.nodup_singleton key, ?_⟩
      rintro k hk _ hkey rfl
      obtain rfl := List.mem_singleton.mp hkey
      exact hmem hk
  readable e he := by
    rcases mem_insertEntry he with rfl | he
    · exact hkey
    · exact h.readable e he

lemma perm (h : IsStorable entries) (hperm : entries'.Perm entries) : IsStorable entries' where
  nodup := (hperm.map Prod.fst).nodup_iff.mpr h.nodup
  readable e he := h.readable e (hperm.subset he)

end IsStorable

lemma lookup_of_perm (hnodup : (entries.map Prod.fst).Nodup) (hperm : entries'.Perm entries)
    (key : CacheKey) : entries'.lookup key = entries.lookup key := by
  have hnodup' : (entries'.map Prod.fst).Nodup := (hperm.map Prod.fst).nodup_iff.mpr hnodup
  refine Option.ext fun passed => ?_
  rw [lookup_eq_some_iff hnodup, lookup_eq_some_iff hnodup']
  exact hperm.mem_iff

/-- Entries that know the same outcomes are the same up to order. -/
lemma perm_of_lookup (hnodup : (entries.map Prod.fst).Nodup)
    (hnodup' : (entries'.map Prod.fst).Nodup)
    (h : ∀ key, entries.lookup key = entries'.lookup key) : entries.Perm entries' := by
  refine (List.perm_ext_iff_of_nodup hnodup.of_map hnodup'.of_map).mpr ?_
  rintro ⟨key, passed⟩
  rw [← lookup_eq_some_iff hnodup, ← lookup_eq_some_iff hnodup', h key]

/-! ### The order of keys -/

lemma total_testLe (a b : Test) : a.le b ∨ b.le a := by
  rw [Test.le, Test.le]
  cases a.polarity <;> cases b.polarity <;> simp
  · exact Nat.le_total _ _
  · exact Nat.le_total _ _

lemma trans_testLe {a b c : Test} (hab : a.le b) (hbc : b.le c) : a.le c := by
  rw [Test.le] at *
  cases ha : a.polarity <;> cases hb : b.polarity <;> cases hc : c.polarity <;>
    simp_all
  · omega
  · omega

lemma antisymm_testLe {a b : Test} (hab : a.le b) (hba : b.le a) : a = b := by
  obtain ⟨p, i, hi⟩ := a
  obtain ⟨q, j, hj⟩ := b
  rw [Test.le] at *
  cases p <;> cases q <;> simp_all
  · omega
  · omega

lemma keyLe_iff {a b : CacheKey} : keyLe a b ↔ a.1 < b.1 ∨ a.1 = b.1 ∧ a.2.le b.2 := by
  rw [keyLe]
  by_cases h : a.1 = b.1
  · simp [h]
  · simp [h]

lemma lt_or_eq_or_gt (s t : String) : s < t ∨ s = t ∨ t < s := by
  by_cases hlt : s < t
  · exact .inl hlt
  · by_cases hgt : t < s
    · exact .inr (.inr hgt)
    · exact .inr (.inl (String.le_antisymm (String.not_lt.mp hgt) (String.not_lt.mp hlt)))

lemma total_keyLe (a b : CacheKey) : keyLe a b ∨ keyLe b a := by
  rw [keyLe_iff, keyLe_iff]
  rcases lt_or_eq_or_gt a.1 b.1 with h | h | h
  · exact .inl (.inl h)
  · rcases total_testLe a.2 b.2 with ht | ht
    · exact .inl (.inr ⟨h, ht⟩)
    · exact .inr (.inr ⟨h.symm, ht⟩)
  · exact .inr (.inl h)

lemma trans_keyLe {a b c : CacheKey} (hab : keyLe a b) (hbc : keyLe b c) : keyLe a c := by
  rw [keyLe_iff] at *
  rcases hab with hab | ⟨hab, hab'⟩ <;> rcases hbc with hbc | ⟨hbc, hbc'⟩
  · exact .inl (String.lt_trans hab hbc)
  · exact .inl (hbc ▸ hab)
  · exact .inl (hab ▸ hbc)
  · exact .inr ⟨hab.trans hbc, trans_testLe hab' hbc'⟩

lemma antisymm_keyLe {a b : CacheKey} (hab : keyLe a b) (hba : keyLe b a) : a = b := by
  rw [keyLe_iff] at *
  rcases hab with hab | ⟨hab, hab'⟩ <;> rcases hba with hba | ⟨hba, hba'⟩
  · exact absurd hba (String.lt_asymm hab)
  · exact absurd hba.symm (String.ne_of_lt hab)
  · exact absurd hab.symm (String.ne_of_lt hba)
  · exact Prod.ext hab (antisymm_testLe hab' hba')

/-! ### Stored entries -/

/-- Entries in the order in which they are stored. -/
def sorted (entries : List (CacheKey × Bool)) : List (CacheKey × Bool) :=
  entries.mergeSort fun a b => keyLe a.1 b.1

lemma sorted_perm (entries : List (CacheKey × Bool)) : (sorted entries).Perm entries :=
  List.mergeSort_perm entries _

lemma pairwise_sorted (entries : List (CacheKey × Bool)) :
    (sorted entries).Pairwise fun a b => keyLe a.1 b.1 := by
  apply List.pairwise_mergeSort
  · intro a b c
    exact trans_keyLe
  · intro a b
    exact Bool.or_eq_true_iff.mpr (total_keyLe a.1 b.1)

/-- Entries that know the same outcomes are stored in the same order. -/
lemma sorted_eq_of_lookup (hnodup : (entries.map Prod.fst).Nodup)
    (hnodup' : (entries'.map Prod.fst).Nodup)
    (h : ∀ key, entries.lookup key = entries'.lookup key) : sorted entries = sorted entries' := by
  have hperm : (sorted entries).Perm (sorted entries') :=
    ((sorted_perm _).trans (perm_of_lookup hnodup hnodup' h)).trans (sorted_perm _).symm
  refine List.Perm.eq_of_pairwise ?_ (pairwise_sorted _) (pairwise_sorted _) hperm
  rintro ⟨key, passed⟩ ⟨key', passed'⟩ hmem hmem' hle hge
  -- a key has one outcome
  obtain rfl : key = key' := antisymm_keyLe hle hge
  have hpassed := (lookup_eq_some_iff hnodup).mpr ((sorted_perm _).subset hmem)
  have hpassed' := (lookup_eq_some_iff hnodup').mpr ((sorted_perm _).subset hmem')
  rw [h, hpassed'] at hpassed
  rw [Option.some.inj hpassed]

lemma entryOf?_entryValue {e : CacheKey × Bool} (h : e.1.2.IsReadable) :
    entryOf? (entryValue e) = some e := by
  unfold entryValue
  rw [entryOf?, Value.items?]
  simp only [Test.parseValue_name h]

lemma isReadable_of_entryOf? {v : Value} {e : CacheKey × Bool} (h : entryOf? v = some e) :
    e.1.2.IsReadable := by
  rw [entryOf?] at h
  split at h
  · split at h
    · next hparse =>
      obtain rfl := Option.some.inj h
      exact Test.isReadable_of_parseValue hparse
    · cases h
  · cases h

/-- Stored entries are read one by one. -/
lemma entriesOf_map (h : IsStorable (entries ++ entries')) :
    entriesOf entries (entries'.map entryValue) = .ok (entries ++ entries') := by
  induction entries' generalizing entries with
  | nil => rw [List.map_nil, entriesOf, List.append_nil]
  | cons e rest ih =>
    have hassoc : entries ++ e :: rest = entries ++ [e] ++ rest := by simp
    have hnew : e.1 ∉ entries.map Prod.fst := by
      have hnodup := h.nodup
      rw [List.map_append, List.map_cons] at hnodup
      exact fun hmem => (List.nodup_append.mp hnodup).2.2 _ hmem _ List.mem_cons_self rfl
    rw [List.map_cons, entriesOf, entryOf?_entryValue (h.readable e (by simp))]
    dsimp only
    rw [insertEntry_of_notMem hnew, hassoc]
    exact ih (hassoc ▸ h)

/-- What is read from stored values can be stored. -/
lemma isStorable_of_entriesOf {vs : List Value} (h : IsStorable entries)
    (hread : entriesOf entries vs = .ok entries') : IsStorable entries' := by
  induction vs generalizing entries with
  | nil =>
    obtain rfl := Except.ok.inj hread
    exact h
  | cons v vs ih =>
    rw [entriesOf] at hread
    split at hread
    · next key passed hentry => exact ih (h.insertEntry (isReadable_of_entryOf? hentry) _) hread
    · cases hread

/-! ### Stored caches -/

lemma toValue_eq (c : Cache) : c.toValue = .map [(.str "format", .str format),
    (.str "version", .int version), (.str "entries", .list ((sorted c.entries).map entryValue))] :=
  rfl

/-- A stored cache is read as it was, in the order in which it was stored. -/
lemma ofValue_toValue {c : Cache} (h : IsStorable c.entries) :
    ofValue c.toValue = .ok (sorted c.entries) := by
  have hformat : (some (Value.str format) != some (Value.str format)) = false := by
    change (!(Value.str format == Value.str format)) = false
    rw [Value.str_beq, beq_self_eq_true]
    rfl
  have hversion : (Value.int version != Value.int version) = false := by
    rw [bne, Value.int_beq, beq_self_eq_true]
    rfl
  have hentries : entriesOf [] ((sorted c.entries).map entryValue) = .ok (sorted c.entries) :=
    entriesOf_map (h.perm (sorted_perm _))
  rw [toValue_eq, ofValue]
  simp only [Value.field, Value.lookup, List.find?_cons, Value.str_beq]
  simp [hformat, hversion, hentries]

lemma ofRecord_toValue {c : Cache} (h : IsStorable c.entries) :
    ofRecord (.value c.toValue) = .ok (sorted c.entries) := by
  rw [ofRecord, ofValue_toValue h]

/-- What is read from a record can be stored. -/
lemma isStorable_of_ofRecord {r : Record} (h : ofRecord r = .ok entries) : IsStorable entries := by
  cases r with
  | value v =>
    rw [ofRecord, ofValue.eq_def] at h
    split at h
    · dsimp only at h
      split_ifs at h
      split at h
      · exact isStorable_of_entriesOf .nil h
      · cases h
    · cases h
  | snapshot a => cases h
  | damaged => cases h

/-- Caches that know the same outcomes are stored alike. -/
theorem toValue_eq_of_query {c c' : Cache} (hnodup : (c.entries.map Prod.fst).Nodup)
    (hnodup' : (c'.entries.map Prod.fst).Nodup)
    (h : ∀ digest test, c.query digest test = c'.query digest test) : c.toValue = c'.toValue := by
  rw [toValue_eq, toValue_eq, sorted_eq_of_lookup hnodup hnodup' fun key => h key.1 key.2]

end VariantRepair.Cache
