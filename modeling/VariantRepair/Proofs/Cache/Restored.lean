import Mathlib.Tactic.Common
import Mathlib.Data.List.Forall2
import Mathlib.Data.String.Basic
import VariantRepair.Proofs.Cache.File
import VariantRepair.Proofs.Host.Texts

/-!
# Restoring a cache

A cache that is restored takes the entries of its file, all of them or none. It takes them just when
the file holds a mapping with the format and the version of caches and a list of entries; of entries
with one key the last one stays. Whatever else is at its path, the cache has no entries afterwards.
-/

namespace VariantRepair.Cache

variable {c : Cache} {entries es : List (CacheKey × Bool)} {vs : List Value} {v : Value}
  {ps : List (Value × Value)}

/-! ### Entries one after another -/

/-- Entries put in one after another. -/
def gather (es : List (CacheKey × Bool)) : List (CacheKey × Bool) :=
  es.foldl (fun entries e => insertEntry e.1 e.2 entries) []

/-- Of entries with one key the last one stays. -/
lemma lookup_gather (es : List (CacheKey × Bool)) (key : CacheKey) :
    (gather es).lookup key = es.reverse.lookup key := by
  have hgather : gather es = putAll [] es := rfl
  rw [hgather, lookup_putAll, List.lookup_nil, Option.or_none]

/-! ### Stored entries -/

/-- A stored value is an entry: three items, which are a digest, the name of a test, and an
outcome. -/
def IsEntry (v : Value) (e : CacheKey × Bool) : Prop :=
  ∃ name, v.items? = some [.str e.1.1, name, .bool e.2] ∧ Test.parseValue name = .ok e.1.2

lemma entryOf?_eq_some_iff {e : CacheKey × Bool} : entryOf? v = some e ↔ IsEntry v e := by
  obtain ⟨⟨digest, test⟩, passed⟩ := e
  constructor
  · intro h
    rw [entryOf?] at h
    split at h
    · next name _ hitems =>
      split at h
      · next hparse =>
        cases h
        exact ⟨name, hitems, hparse⟩
      · cases h
    · cases h
  · rintro ⟨name, hitems, hparse⟩
    rw [entryOf?, hitems]
    simp only [hparse]

/-- Entries are put in one after another. -/
lemma entriesOf_of_forall₂ (h : List.Forall₂ IsEntry vs es) (entries : List (CacheKey × Bool)) :
    entriesOf entries vs
      = .ok (es.foldl (fun entries e => insertEntry e.1 e.2 entries) entries) := by
  induction h generalizing entries with
  | nil => rfl
  | cons hentry _ ih =>
    rw [entriesOf, entryOf?_eq_some_iff.mpr hentry]
    exact ih _

lemma forall₂_of_entriesOf {entries' : List (CacheKey × Bool)}
    (h : entriesOf entries vs = .ok entries') : ∃ es, List.Forall₂ IsEntry vs es := by
  induction vs generalizing entries with
  | nil => exact ⟨[], .nil⟩
  | cons v vs ih =>
    rw [entriesOf] at h
    split at h
    · next key passed hentry =>
      obtain ⟨es, hes⟩ := ih h
      exact ⟨(key, passed) :: es, .cons (entryOf?_eq_some_iff.mp hentry) hes⟩
    · cases h

/-- The first value that is no entry is named. -/
lemma find?_of_entriesOf {f : Failure} (h : entriesOf entries vs = .error f) :
    ∃ v, vs.find? (fun v => (entryOf? v).isNone) = some v ∧
      f = .naming v fun shown => bad (.malformedEntry shown) := by
  induction vs generalizing entries with
  | nil => cases h
  | cons v vs ih =>
    rw [entriesOf] at h
    rw [List.find?_cons]
    split at h
    · next hentry =>
      rw [hentry]
      exact ih h
    · next hentry =>
      rw [hentry]
      exact ⟨v, rfl, (Except.error.inj h).symm⟩

/-! ### Stored caches -/

/-- A stored mapping is a cache with some entries: it has the format of caches, the version, and a
list of the entries. -/
structure Holds (ps : List (Value × Value)) (es : List (CacheKey × Bool)) : Prop where
  format : Value.field "format" ps = some (.str format)
  version : ∃ v, Value.field "version" ps = some v ∧ (v == .int version) = true
  entries : ∃ vs, Value.field "entries" ps = some (.list vs) ∧ List.Forall₂ IsEntry vs es

/-- What a message names when a mapping is no cache: a version other than that of caches, or else
the first value in the list of entries that is none. -/
def named? (ps : List (Value × Value)) : Option Value :=
  if Value.field "format" ps != some (.str format) then none
  else
    let stored := (Value.field "version" ps).getD .null
    if stored != .int version then some stored
    else
      match Value.field "entries" ps with
      | some (.list vs) => vs.find? fun v => (entryOf? v).isNone
      | _ => none

lemma field_ne_str_iff {s : String} {key : String} :
    (Value.field key ps != some (.str s)) = true ↔ Value.field key ps ≠ some (.str s) := by
  cases hfield : Value.field key ps with
  | none => simp [bne]
  | some v =>
    change (!(v == .str s)) = true ↔ _
    rw [Bool.not_eq_true', ← Bool.not_eq_true, Value.beq_str_iff, Ne, Option.some.injEq]

lemma ofValue_of_holds (h : Holds ps es) : ofValue (.map ps) = .ok (gather es) := by
  obtain ⟨stored, hversion, hstored⟩ := h.version
  obtain ⟨vs, hentries, hvs⟩ := h.entries
  have hformat : ¬ (Value.field "format" ps != some (.str format)) = true := by
    rw [field_ne_str_iff, not_not]
    exact h.format
  rw [ofValue, if_neg hformat, hversion, hentries]
  simp only [Option.getD_some, bne, hstored, Bool.not_true, Bool.false_eq_true, if_false]
  exact entriesOf_of_forall₂ hvs []

lemma holds_of_ofValue (h : ofValue (.map ps) = .ok entries) : ∃ es, Holds ps es := by
  rw [ofValue] at h
  split_ifs at h with hformat
  dsimp only at h
  split_ifs at h with hversion
  split at h
  · next vs hentries =>
    obtain ⟨es, hes⟩ := forall₂_of_entriesOf h
    refine ⟨es, ⟨?_, ?_, vs, hentries, hes⟩⟩
    · by_contra hne
      exact hformat (field_ne_str_iff.mpr hne)
    · have hversion : ((Value.field "version" ps).getD .null == .int version) = true := by
        simpa [bne] using hversion
      cases hfield : Value.field "version" ps with
      | none =>
        rw [hfield] at hversion
        revert hversion
        decide +kernel
      | some stored =>
        rw [hfield] at hversion
        exact ⟨stored, rfl, hversion⟩
  · cases h

lemma naming_of_not_isOverlong (h : v.isOverlong = false) (f : String → Failure) :
    Failure.naming v f = f v.display := by
  rw [Failure.naming, Value.shown, h]
  rfl

/-- A mapping that is no cache is refused for that, unless what the message names cannot be
written. -/
lemma bad_of_ofValue {f : Failure} (h : ofValue (.map ps) = .error f)
    (hnamed : ∀ v, named? ps = some v → v.isOverlong = false) : ∃ fault, f = bad fault := by
  rw [ofValue] at h
  rw [named?] at hnamed
  split_ifs at h hnamed with hformat
  · cases h
    exact ⟨_, rfl⟩
  · dsimp only at h hnamed
    split_ifs at h hnamed with hversion
    · cases h
      exact ⟨_, naming_of_not_isOverlong (hnamed _ rfl) _⟩
    · cases hentries : Value.field "entries" ps with
      | none =>
        rw [hentries] at h
        cases h
        exact ⟨_, rfl⟩
      | some stored =>
        rw [hentries] at h hnamed
        cases stored with
        | list vs =>
          obtain ⟨v, hfind, rfl⟩ := find?_of_entriesOf h
          exact ⟨_, naming_of_not_isOverlong (hnamed v hfind) _⟩
        | _ =>
          cases h
          exact ⟨_, rfl⟩

/-! ### Files -/

open Host

variable {m : Machine} {path : String}

/-- What can be wrong with a record is refused as a bad cache file, unless what the message names
cannot be written. -/
lemma bad_of_ofRecord {r : Record} {f : Failure} (h : ofRecord r = .error f)
    (hnamed : ∀ ps v, r = .value (.map ps) → named? ps = some v → v.isOverlong = false) :
    ∃ fault, f = bad fault := by
  cases r with
  | value v =>
    cases v with
    | map ps => exact bad_of_ofValue h fun v => hnamed ps v rfl
    | _ =>
      cases h
      exact ⟨_, rfl⟩
  | snapshot a =>
    cases h
    exact ⟨_, rfl⟩
  | damaged =>
    cases h
    exact ⟨_, rfl⟩

/-- The stored value of the cache file is read, or it is refused as a bad cache file. -/
lemma run_readStored_cases (hlook : LooksUp m c.path.text) :
    (∃ r, FileAt m c.path.text (.record r) ∧ c.readStored.run m = (.ok r, m)) ∨
      ∃ fault, c.readStored.run m = (.error (bad fault), m) := by
  obtain ⟨found, hfound⟩ := run_look_of_looksUp hlook
  have hisFile : ∃ b, (isFile c.path.text).run m = (.ok b, m) := by
    rw [isFile, run_bind_of_ok hfound]
    split
    · exact ⟨true, rfl⟩
    · exact ⟨false, rfl⟩
  obtain ⟨b, hb⟩ := hisFile
  rw [readStored, run_bind_of_ok hb]
  cases b with
  | false => exact .inr ⟨_, run_bind_of_error rfl _⟩
  | true =>
    cases hrecord : (readRecord c.path.text).run m with
    | mk answer m' =>
      obtain rfl := run_eq_of_preserves (fun I => preserves_readRecord _) hrecord
      cases answer with
      | ok r => exact .inl ⟨r, find_of_run_readRecord hrecord, run_tryCatch_of_ok hrecord _⟩
      | error f => exact .inr ⟨_, run_tryCatch_of_error hrecord _⟩

/-- Entries are read, or the file is refused as a bad cache file. -/
lemma run_readEntries_cases (hlook : LooksUp m c.path.text)
    (hnamed : ∀ ps v, FileAt m c.path.text (.record (.value (.map ps))) → named? ps = some v →
      v.isOverlong = false) :
    (∃ entries, c.readEntries.run m = (.ok entries, m)) ∨
      ∃ fault, c.readEntries.run m = (.error (bad fault), m) := by
  obtain ⟨r, hfile, hstored⟩ | ⟨fault, hstored⟩ := run_readStored_cases hlook
  · rw [readEntries, run_bind_of_ok hstored]
    cases hr : ofRecord r with
    | ok entries => exact .inl ⟨entries, rfl⟩
    | error f =>
      obtain ⟨fault, rfl⟩ := bad_of_ofRecord hr fun ps v hps => hnamed ps v (hps ▸ hfile)
      exact .inr ⟨fault, rfl⟩
  · exact .inr ⟨fault, run_bind_of_error hstored _⟩

/-- A cache whose file is refused has no entries. -/
lemma run_restore_of_bad (hlook : LooksUp m c.path.text) {fault : CacheFault}
    (h : c.readEntries.run m = (.error (bad fault), m)) :
    ∃ err, c.restore.run m = (.ok (false, { c with entries := [] }), { m with err }) := by
  obtain ⟨found, hfound⟩ := run_look_of_looksUp hlook
  have hexists : (fileExists c.path.text).run m = (.ok found.isSome, m) := run_bind_of_ok hfound _
  rw [restore]
  cases hsome : found.isSome with
  | true =>
    rw [hsome] at hexists
    exact ⟨_, (run_bind_of_ok ((run_tryCatch_of_error (run_bind_of_error h _) _).trans
      ((run_bind_of_ok hexists _).trans rfl)) _).trans rfl⟩
  | false =>
    rw [hsome] at hexists
    exact ⟨_, (run_bind_of_ok ((run_tryCatch_of_error (run_bind_of_error h _) _).trans
      ((run_bind_of_ok hexists _).trans rfl)) _).trans rfl⟩

lemma holds_of_ofRecord {r : Record} (h : ofRecord r = .ok entries) :
    ∃ ps es, r = .value (.map ps) ∧ Holds ps es := by
  cases r with
  | value v =>
    cases v with
    | map ps =>
      obtain ⟨es, hes⟩ := holds_of_ofValue h
      exact ⟨ps, es, rfl, hes⟩
    | _ => cases h
  | _ => cases h

/-- What is at the path of a cache decides what it restores. -/
lemma run_readEntries_of_holds (hfile : FileAt m c.path.text (.record (.value (.map ps))))
    (h : Holds ps es) : c.readEntries.run m = (.ok (gather es), m) :=
  run_readEntries_of_file hfile (ofValue_of_holds h)

/-- A stored cache with some entries. -/
def storedEntries (vs : List Value) : List (Value × Value) :=
  [(.str "format", .str format), (.str "version", .int version), (.str "entries", .list vs)]

/-- A machine with a record in the file `c`. -/
def machineWith (r : Record) : Machine :=
  let m := Machine.ofDirectory ["w"] "7"
  { m with files := m.files.set ["w", "c"] (.file (.record r)) }

lemma find_machineWith (r : Record) :
    (machineWith r).files.find (machineWith r).directory "c"
      = .ok (["w", "c"], .file (.record r)) :=
  FileTree.find_eq_ok_iff.mpr
    ⟨FileTree.locate_of_name (by decide) (by decide) (by decide +kernel) rfl, rfl⟩

lemma looksUp_machineWith (r : Record) : LooksUp (machineWith r) "c" := by
  intro _ h
  rw [find_machineWith] at h
  cases h

lemma eq_of_fileAt_machineWith {r : Record} {content : Content}
    (h : FileAt (machineWith r) "c" content) : content = .record r := by
  obtain ⟨-, place, hfind⟩ := h
  rw [find_machineWith] at hfind
  cases hfind
  rfl

lemma named_machineWith (h : (named? ps).all (fun v => !v.isOverlong) = true) :
    ∀ ps' v, FileAt (machineWith (.value (.map ps))) "c" (.record (.value (.map ps'))) →
      named? ps' = some v → v.isOverlong = false := by
  intro ps' v hfile hnamed
  cases eq_of_fileAt_machineWith hfile
  rw [hnamed] at h
  simpa using h

/-- A version that is too long to be written. -/
def longVersion : List (Value × Value) :=
  [(.str "format", .str format), (.str "version", .int (Number.tenTo Number.digitLimit))]

end VariantRepair.Cache
