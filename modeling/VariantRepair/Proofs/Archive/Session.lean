import VariantRepair.Proofs.Archive.Stored

/-!
# Saving sources

A source that is saved for the first time gets its files; later ones change its metadata. If saving
fails, the files of all variants are as they were, and of the metadata that the archive knows those
parts stay by which the source is found.

Sources are saved one after another, and between any two of them the archive may be opened again.
The directory holds the files of all variants that were saved, and the archive knows them. A source
that was saved is read back with its carriage returns as line feeds; so it is the source itself
exactly when it has none.
-/

namespace VariantRepair.Archive

open Host

section Step

variable {m m' : Machine} {a a' : Archive} {q : Place} {d source suffix : String} {note : Note}
  {metadata : List (Value × Value)} {r : Except Failure String}
  {disk : String → Option Stored}

/-! ### What an archive knows -/

/-- An archive knows the variants that its directory has the files of, with the digests and the
source files that the metadata files name. -/
structure Remembers (a : Archive) (disk : String → Option Stored) : Prop where
  nodup : (a.index.map Prod.fst).Nodup
  known : ∀ d, (a.index.lookup d).isSome = (disk d).isSome
  isMeta : ∀ d v metadata, disk d = some v → a.index.lookup d = some metadata →
    IsMeta d (sourceName d v.suffix) metadata

namespace Remembers

lemma insertMeta (h : Remembers a disk) {v : Stored}
    (hmeta : IsMeta d (sourceName d v.suffix) metadata) :
    Remembers { a with index := insertMeta a.index d metadata }
      (Function.update disk d (some v)) where
  nodup := nodup_keys_insertMeta h.nodup
  known d' := by
    dsimp only
    rw [lookup_insertMeta]
    by_cases hd : d' = d
    · subst hd
      rw [if_pos rfl, Function.update_self]
      rfl
    · rw [if_neg hd, Function.update_of_ne hd, h.known]
  isMeta d' v' metadata' hv' hlookup := by
    rw [lookup_insertMeta] at hlookup
    by_cases hd : d' = d
    · subst hd
      rw [Function.update_self] at hv'
      rw [if_pos rfl] at hlookup
      obtain rfl := Option.some.inj hv'
      exact Option.some.inj hlookup ▸ hmeta
    · rw [Function.update_of_ne hd] at hv'
      rw [if_neg hd] at hlookup
      exact h.isMeta d' v' metadata' hv' hlookup

/-- What the files hold is remembered. -/
lemma of_lookup (hnodup : (a.index.map Prod.fst).Nodup)
    (hlookup : ∀ d, a.index.lookup d = (disk d).map Stored.metadata) {directory : Path}
    (h : Stores m directory q disk) : Remembers a disk where
  nodup := hnodup
  known d := by rw [hlookup, Option.isSome_map]
  isMeta d v metadata hv hmetadata := by
    rw [hlookup, hv, Option.map_some] at hmetadata
    exact Option.some.inj hmetadata ▸ (h.stored d v hv).isMeta

end Remembers

/-- The source of metadata that name a file is in that file. -/
lemma IsMeta.sourcePath {file : String} (h : IsMeta d file metadata) (a : Archive)
    (suffix : String) : a.sourcePath d suffix metadata = .ok (a.directory.child file) := by
  rw [Archive.sourcePath, h.file]
  rfl

/-! ### Steps -/

/-- The metadata file is written, or nothing changes. -/
lemma run_writeMeta_cases (a : Archive) (d : String) (metadata : List (Value × Value))
    (m : Machine) :
    (∃ f, (a.writeMeta d metadata).run m = (.error f, m)) ∨
      (Value.map metadata).isOverlong = false ∧
        ∃ place old, Opens m (a.directory.child (metaName d)).text place old ∧
          (a.writeMeta d metadata).run m = (.ok (), { m with
            files := m.files.set place
              (.file (.ofText (Json.write Json.blockLayout (.map metadata)))) }) := by
  rw [Archive.writeMeta]
  by_cases hlong : (Value.map metadata).isOverlong = true
  · rw [if_pos hlong]
    exact .inl ⟨_, rfl⟩
  · rw [if_neg hlong]
    rcases run_writeContent_cases (a.directory.child (metaName d)).text
      (.ofText (Json.write Json.blockLayout (.map metadata))) m with hfails | hwrites
    · exact .inl hfails
    · exact .inr ⟨Bool.eq_false_iff.mpr hlong, hwrites⟩

/-- The suffix that a source is saved with: an empty one stands for that of the archive. -/
def suffixFor (a : Archive) (suffix : String) : String :=
  if suffix.isEmpty then a.suffix else suffix

/-- The steps of saving a source for the first time. -/
def saveFirst (a : Archive) (source suffix : String) (note : Note) :
    Action (List (Value × Value)) := do
  writeText (a.directory.child (sourceName (shortDigest source) suffix)).text source
  match newMeta (shortDigest source) (sourceName (shortDigest source) suffix) note with
  | .error e => throw e
  | .ok metadata =>
    a.writeMeta (shortDigest source) metadata
    return metadata

/-- The steps of saving a source again whose metadata are changed. -/
def saveAgain (a : Archive) (source suffix : String) (metadata : List (Value × Value)) :
    Action String := do
  let path ← ofExcept (a.sourcePath (shortDigest source) suffix metadata)
  if !(← fileExists path.text) then writeText path.text source
  a.writeMeta (shortDigest source) metadata
  return shortDigest source

lemma run_save_first (hlookup : a.index.lookup (shortDigest source) = none)
    {answer : Except Failure (List (Value × Value))}
    (h : (a.saveFirst source (a.suffixFor suffix) note).run m = (answer, m')) :
    (a.save source suffix note).run m
      = (match answer with
        | .error e => (a, .error e)
        | .ok metadata =>
          ({ a with index := insertMeta a.index (shortDigest source) metadata },
            .ok (shortDigest source)), m') := by
  rw [save, hlookup]
  refine (run_answer_of_run h).trans ?_
  cases answer <;> rfl

lemma run_save_again (hlookup : a.index.lookup (shortDigest source) = some metadata)
    {renoted : List (Value × Value)} {failure : Option Failure}
    (hrenote : renote metadata note = (renoted, failure))
    (h : (failure.elim
      (({ a with index := insertMeta a.index (shortDigest source) renoted } : Archive).saveAgain
        source (a.suffixFor suffix) renoted) fun f => throw f : Action String).run m = (r, m')) :
    (a.save source suffix note).run m
      = (({ a with index := insertMeta a.index (shortDigest source) renoted }, r), m') := by
  rw [save, hlookup]
  dsimp only
  rw [hrenote]
  refine (run_answer_of_run (r := r) ?_).trans rfl
  rw [← h]
  cases failure <;> rfl

/-- What the files of a variant hold after its source was saved. -/
inductive Takes (a : Archive) (disk : String → Option Stored) (source suffix : String)
    (note : Note) : Stored → Prop
  | first {metadata : List (Value × Value)} (hnew : disk (shortDigest source) = none)
      (hmeta : newMeta (shortDigest source) (sourceName (shortDigest source) suffix) note
        = .ok metadata) :
      Takes a disk source suffix note { source, suffix, metadata }
  | again {old : Stored} {known metadata : List (Value × Value)}
      (hold : disk (shortDigest source) = some old)
      (hknown : a.index.lookup (shortDigest source) = some known)
      (hmeta : renote known note = (metadata, none)) :
      Takes a disk source suffix note { old with metadata }

/-- What becomes of an archive and its files when a source is saved. -/
structure Saves (m : Machine) (a : Archive) (q : Place) (disk : String → Option Stored)
    (source suffix : String) (note : Note) (a' : Archive) (r : Except Failure String)
    (m' : Machine) : Prop where
  directory_eq : a'.directory = a.directory
  suffix_eq : a'.suffix = a.suffix
  outcome : (∃ f, r = .error f ∧ Stores m' a.directory q disk ∧ Remembers a' disk) ∨
    r = .ok (shortDigest source) ∧
      ∃ v, Takes a disk source (a.suffixFor suffix) note v ∧
        Stores m' a.directory q (Function.update disk (shortDigest source) (some v)) ∧
        a' = { a with index := insertMeta a.index (shortDigest source) v.metadata }

section Save

variable (h : Stores m a.directory q disk) (hmemory : Remembers a disk) (hnote : note.IsFree)

include h hmemory hnote

/-- Saving a source for the first time. -/
lemma saves_first (hsuffix : IsSuffix (a.suffixFor suffix))
    (hlookup : a.index.lookup (shortDigest source) = none)
    (hrun : (a.save source suffix note).run m = ((a', r), m')) :
    Saves m a q disk source suffix note a' r m' := by
  have hnew : disk (shortDigest source) = none := by
    have hknown := hmemory.known (shortDigest source)
    rw [hlookup] at hknown
    exact Option.not_isSome_iff_eq_none.mp (by rw [← hknown]; nofun)
  have hfails {f : Failure} {m₁ : Machine} (hstores : Stores m₁ a.directory q disk)
      (h : (a.saveFirst source (a.suffixFor suffix) note).run m = (.error f, m₁)) :
      Saves m a q disk source suffix note a' r m' := by
    rw [run_save_first hlookup h] at hrun
    cases hrun
    exact ⟨rfl, rfl, .inl ⟨f, rfl, hstores, hmemory⟩⟩
  let file := sourceName (shortDigest source) (a.suffixFor suffix)
  rcases run_writeContent_cases (a.directory.child file).text (.ofText source) m with
    ⟨f, hwrite⟩ | ⟨place, old, hopens, hwrite⟩
  · exact hfails h (run_bind_of_error hwrite _)
  have hsource := hopens.hasText source
  have hstores := h.writeSource (isDigest_shortDigest source) hsuffix hnew hopens (.ofText source)
  have hrest : (a.saveFirst source (a.suffixFor suffix) note).run m = _ := run_bind_of_ok hwrite _
  cases hmeta : newMeta (shortDigest source) file note with
  | error e =>
    rw [hmeta] at hrest
    exact hfails hstores hrest
  | ok metadata =>
    rw [hmeta] at hrest
    rcases run_writeMeta_cases a (shortDigest source) metadata _ with
      ⟨f, hwriteMeta⟩ | ⟨hshort, place', old', hopens', hwriteMeta⟩
    · exact hfails hstores (hrest.trans (run_bind_of_error hwriteMeta _))
    · rw [run_save_first hlookup (hrest.trans (run_bind_of_ok hwriteMeta _))] at hrun
      cases hrun
      let v : Stored := { source, suffix := a.suffixFor suffix, metadata }
      exact ⟨rfl, rfl, .inr ⟨rfl, v, .first hnew hmeta,
        hstores.writeMeta (v := v) rfl hsuffix (isMeta_newMeta hnote hmeta) hshort hsource hopens',
        rfl⟩⟩

/-- Saving a source again. -/
lemma saves_again (hlookup : a.index.lookup (shortDigest source) = some metadata)
    (hrun : (a.save source suffix note).run m = ((a', r), m')) :
    Saves m a q disk source suffix note a' r m' := by
  obtain ⟨v, hv⟩ : ∃ v, disk (shortDigest source) = some v := by
    have hknown := hmemory.known (shortDigest source)
    rw [hlookup] at hknown
    exact Option.isSome_iff_exists.mp hknown.symm
  have hstored := h.stored _ v hv
  have hmeta := (hmemory.isMeta _ v _ hv hlookup).renote hnote
  cases hrenote : renote metadata note with
  | mk renoted failure =>
    rw [hrenote] at hmeta
    have hfails {f : Failure} (hsave : (a.save source suffix note).run m
        = (({ a with index := insertMeta a.index (shortDigest source) renoted }, .error f), m)) :
        Saves m a q disk source suffix note a' r m' := by
      rw [hsave] at hrun
      cases hrun
      have hsame : Function.update disk (shortDigest source) (some v) = disk :=
        hv ▸ Function.update_eq_self _ _
      exact ⟨rfl, rfl, .inl ⟨f, rfl, h, hsame ▸ hmemory.insertMeta hmeta⟩⟩
    cases failure with
    | some f => exact hfails (run_save_again hlookup hrenote rfl)
    | none =>
      let b : Archive := { a with index := insertMeta a.index (shortDigest source) renoted }
      have hpath : (ofExcept (b.sourcePath (shortDigest source) (a.suffixFor suffix) renoted) :
          Action Path).run m
            = (.ok (a.directory.child (sourceName (shortDigest source) v.suffix)), m) := by
        rw [hmeta.sourcePath]
        rfl
      obtain ⟨hnul, place, hfind⟩ := hstored.source
      have hsave : (b.saveAgain source (a.suffixFor suffix) renoted).run m = _ :=
        (run_bind_of_ok hpath _).trans (run_bind_of_ok (run_fileExists_of_find hnul hfind) _)
      rcases run_writeMeta_cases b (shortDigest source) renoted m with
        ⟨f, hwriteMeta⟩ | ⟨hshort, place', old', hopens', hwriteMeta⟩
      · exact hfails (run_save_again hlookup hrenote
          (hsave.trans (run_bind_of_error hwriteMeta _)))
      · rw [run_save_again hlookup hrenote (hsave.trans (run_bind_of_ok hwriteMeta _))] at hrun
        cases hrun
        exact ⟨rfl, rfl, .inr ⟨rfl, { v with metadata := renoted }, .again hv hlookup hrenote,
          h.writeMeta (v := { v with metadata := renoted }) hstored.digest hstored.suffix hmeta
            hshort hstored.source hopens', rfl⟩⟩

/-- Saving a source. -/
lemma saves_of_run (hsuffix : IsSuffix (a.suffixFor suffix))
    (hrun : (a.save source suffix note).run m = ((a', r), m')) :
    Saves m a q disk source suffix note a' r m' := by
  cases hlookup : a.index.lookup (shortDigest source) with
  | none => exact saves_first h hmemory hnote hsuffix hlookup hrun
  | some metadata => exact saves_again h hmemory hnote hlookup hrun

end Save

end Step

/-! ### One saving after another -/

/-- A source that was saved, with its suffix, what was noted about it, and what saving it came
to. -/
structure Saving where
  source : String
  suffix : String
  note : Note
  result : Except Failure String

variable {directory : String} {m m' : Machine} {a a' : Archive} {q : Place}
  {disk : String → Option Stored} {source suffix d : String} {note : Note}
  {r : Except Failure String} {log : List Saving} {x : Saving}

/-- Sources were saved one after another in a directory that had no metadata files before. The
archive may have been opened again between any two of them. -/
inductive Session (directory : String) : List Saving → Archive → Machine → Prop
  | opened {suffix : String} {m : Machine} {a : Archive} {m' : Machine} (hsuffix : IsSuffix suffix)
      (hrun : («open» directory suffix).run m = (.ok a, m'))
      (hnew : ∀ q, m'.files.find m'.directory (Path.ofText directory).text = .ok (q, .directory) →
        ∀ name ∈ m'.files.names q, isMetaName name = false) :
      Session directory [] a m'
  | saved {log : List Saving} {a : Archive} {m : Machine} {source suffix : String} {note : Note}
      {a' : Archive} {r : Except Failure String} {m' : Machine} (h : Session directory log a m)
      (hsuffix : suffix = "" ∨ IsSuffix suffix)
      (hrun : (a.save source suffix note).run m = ((a', r), m')) :
      Session directory (log ++ [⟨source, a.suffixFor suffix, note, r⟩]) a' m'
  | reopened {log : List Saving} {a : Archive} {m : Machine} {suffix : String} {a' : Archive}
      {m' : Machine} (h : Session directory log a m) (hsuffix : IsSuffix suffix)
      (hrun : («open» directory suffix).run m = (.ok a', m')) :
      Session directory log a' m'

/-- No two different sources that were saved have the same digest. -/
def Distinct (log : List Saving) : Prop :=
  ∀ x ∈ log, ∀ y ∈ log, shortDigest x.source = shortDigest y.source → x.source = y.source

/-! ### What a session leaves -/

/-- After some savings the directory holds the files of the variants that were saved, and the
archive knows them. -/
structure Holds (directory : String) (log : List Saving) (a : Archive) (m : Machine) (q : Place)
    (disk : String → Option Stored) : Prop where
  directory_eq : a.directory = .ofText directory
  suffix : IsSuffix a.suffix
  stores : Stores m (.ofText directory) q disk
  remembers : Remembers a disk
  source : ∀ d v, disk d = some v → ∃ x ∈ log, x.source = v.source
  result : ∀ x ∈ log, ∀ d, x.result = .ok d → d = shortDigest x.source ∧ (disk d).isSome

/-- An archive without metadata files knows no variants. -/
lemma exists_holds_of_opened (hsuffix : IsSuffix suffix)
    (hrun : («open» directory suffix).run m = (.ok a, m'))
    (hnew : ∀ q, m'.files.find m'.directory (Path.ofText directory).text = .ok (q, .directory) →
      ∀ name ∈ m'.files.names q, isMetaName name = false) :
    ∃ q, Holds directory [] a m' q fun _ => none := by
  obtain ⟨hdirectory, hsame⟩ := of_run_open hrun
  obtain ⟨⟨⟩, m₁, hmake, hrest⟩ := exists_run_of_run_bind hrun
  obtain rfl : m' = m₁ := run_eq_of_preserves
    (fun I => .bind (preserves_listNames _) fun _ => .bind (preserves_readAll _ _ _) fun _ =>
      .pure _) hrest
  obtain ⟨q, hfind⟩ := hasDirectory_of_run_needDirectories hmake
  have hnul := nul_notMem_of_run_needDirectories hmake
  have hstores : Stores m' (.ofText directory) q fun _ => none :=
    ⟨Path.isNormal_ofText _, hnul, hfind,
      fun name hname hmeta => absurd ((hnew q hfind name hname).symm.trans hmeta)
        Bool.false_ne_true, by simp⟩
  obtain ⟨b, hopen, -, -, hnodup, hlookup⟩ := hstores.run_open suffix
  rw [«open», run_bind_of_ok (run_needDirectories_of_find hnul hfind)] at hopen
  obtain ⟨rfl, -⟩ := eq_of_run_eq_ok hopen hrest
  exact ⟨q, hdirectory, hsame.symm ▸ hsuffix, hstores, .of_lookup hnodup hlookup hstores,
    by simp, by simp⟩

namespace Holds

/-- An archive that is opened again knows what the files hold, and the files stay. -/
lemma reopened (h : Holds directory log a m q disk) (hsuffix : IsSuffix suffix)
    (hrun : («open» directory suffix).run m = (.ok a', m')) :
    Holds directory log a' m' q disk ∧
      ∀ d, a'.index.lookup d = (disk d).map Stored.metadata := by
  obtain ⟨b, hopen, hdirectory, hsame, hnodup, hlookup⟩ := h.stores.run_open suffix
  obtain ⟨rfl, rfl⟩ := eq_of_run_eq_ok hopen hrun
  exact ⟨⟨hdirectory, hsame.symm ▸ hsuffix, h.stores, .of_lookup hnodup hlookup h.stores, h.source,
    h.result⟩, hlookup⟩

lemma isSuffix_suffixFor (h : Holds directory log a m q disk)
    (hsuffix : suffix = "" ∨ IsSuffix suffix) : IsSuffix (a.suffixFor suffix) := by
  rw [suffixFor]
  split_ifs with hempty
  · exact h.suffix
  · rcases hsuffix with rfl | hsuffix
    · exact absurd rfl hempty
    · exact hsuffix

/-- One source more is saved, or saving it fails. -/
lemma saved (h : Holds directory log a m q disk) (hsuffix : suffix = "" ∨ IsSuffix suffix)
    (hnote : note.IsFree) (hrun : (a.save source suffix note).run m = ((a', r), m')) :
    (∃ f, r = .error f ∧
      Holds directory (log ++ [⟨source, a.suffixFor suffix, note, r⟩]) a' m' q disk) ∨
    r = .ok (shortDigest source) ∧ ∃ v, Takes a disk source (a.suffixFor suffix) note v ∧
      Holds directory (log ++ [⟨source, a.suffixFor suffix, note, r⟩]) a' m' q
        (Function.update disk (shortDigest source) (some v)) ∧
      a' = { a with index := insertMeta a.index (shortDigest source) v.metadata } := by
  have hsaves := saves_of_run (h.directory_eq ▸ h.stores) h.remembers hnote
    (h.isSuffix_suffixFor hsuffix) hrun
  have hdirectory := hsaves.directory_eq.trans h.directory_eq
  have hsame : IsSuffix a'.suffix := hsaves.suffix_eq ▸ h.suffix
  rcases hsaves.outcome with ⟨f, rfl, hstores, hremembers⟩ | ⟨rfl, v, htakes, hstores, rfl⟩
  · refine .inl ⟨f, rfl, hdirectory, hsame, h.directory_eq ▸ hstores, hremembers, fun d v hv => ?_,
      fun x hx d hd => ?_⟩
    · obtain ⟨x, hx, hsource⟩ := h.source d v hv
      exact ⟨x, List.mem_append_left _ hx, hsource⟩
    · rcases List.mem_append.mp hx with hx | hx
      · exact h.result x hx d hd
      · obtain rfl := List.mem_singleton.mp hx
        cases hd
  · refine .inr ⟨rfl, v, htakes, ⟨hdirectory, hsame, h.directory_eq ▸ hstores,
      h.remembers.insertMeta (hstores.stored _ v (Function.update_self _ _ _)).isMeta,
      fun d' v' hv' => ?_, fun x hx d hd => ?_⟩, rfl⟩
    · by_cases hd : d' = shortDigest source
      · subst hd
        rw [Function.update_self] at hv'
        obtain rfl := Option.some.inj hv'
        cases htakes with
        | first => exact ⟨_, List.mem_append_right _ (List.mem_singleton_self _), rfl⟩
        | again hold =>
          obtain ⟨x, hx, hsource⟩ := h.source _ _ hold
          exact ⟨x, List.mem_append_left _ hx, hsource⟩
      · rw [Function.update_of_ne hd] at hv'
        obtain ⟨x, hx, hsource⟩ := h.source d' v' hv'
        exact ⟨x, List.mem_append_left _ hx, hsource⟩
    · have hthere {d' : String} (h : (disk d').isSome) :
          (Function.update disk (shortDigest source) (some v) d').isSome := by
        by_cases hd : d' = shortDigest source
        · rw [hd, Function.update_self]
          rfl
        · rwa [Function.update_of_ne hd]
      rcases List.mem_append.mp hx with hx | hx
      · exact (h.result x hx d hd).imp_right hthere
      · obtain rfl := List.mem_singleton.mp hx
        have hsame : shortDigest source = d := Except.ok.inj hd
        exact ⟨hsame.symm, by rw [← hsame, Function.update_self]; rfl⟩

/-- A source that was saved is read from its file. -/
lemma run_getSource (h : Holds directory log a m q disk) (hdistinct : Distinct log) (hx : x ∈ log)
    (hsaved : x.result = .ok d) :
    d = shortDigest x.source ∧ (a.getSource d).run m = (.ok (Text.asRead x.source), m) := by
  obtain ⟨rfl, hthere⟩ := h.result x hx d hsaved
  obtain ⟨v, hv⟩ := Option.isSome_iff_exists.mp hthere
  have hstored := h.stores.stored _ v hv
  have hsource : v.source = x.source := by
    obtain ⟨y, hy, hsame⟩ := h.source _ v hv
    rw [← hsame]
    exact hdistinct y hy x hx (hsame ▸ hstored.digest)
  obtain ⟨metadata, hmetadata⟩ := Option.isSome_iff_exists.mp
    ((h.remembers.known (shortDigest x.source)).trans hthere)
  have hpath : a.getMeta (shortDigest x.source) >>= a.sourcePath (shortDigest x.source) a.suffix
      = .ok (a.directory.child (sourceName (shortDigest x.source) v.suffix)) := by
    rw [getMeta, hmetadata]
    exact (h.remembers.isMeta _ v _ hv hmetadata).sourcePath a a.suffix
  have hread := hstored.source.run_readText
  rw [hsource] at hread
  refine ⟨rfl, ?_⟩
  rw [getSource, hpath, h.directory_eq]
  exact hread

end Holds

/-- Whatever was saved, the directory holds the files of the variants. -/
lemma exists_holds (h : Session directory log a m) (hnotes : ∀ x ∈ log, x.note.IsFree) :
    ∃ q disk, Holds directory log a m q disk := by
  induction h with
  | opened hsuffix hrun hnew =>
    obtain ⟨q, hholds⟩ := exists_holds_of_opened hsuffix hrun hnew
    exact ⟨q, _, hholds⟩
  | saved _ hsuffix hrun ih =>
    obtain ⟨q, disk, hholds⟩ := ih fun x hx => hnotes x (List.mem_append_left _ hx)
    rcases hholds.saved hsuffix (hnotes _ (List.mem_append_right _ (List.mem_singleton_self _)))
      hrun with ⟨f, -, hholds⟩ | ⟨-, v, -, hholds, -⟩
    · exact ⟨q, _, hholds⟩
    · exact ⟨q, _, hholds⟩
  | reopened _ hsuffix hrun ih =>
    obtain ⟨q, disk, hholds⟩ := ih hnotes
    exact ⟨q, disk, (hholds.reopened hsuffix hrun).1⟩

/-- A source that was saved, whatever was saved after it and however often the archive was opened
again, is read back with its carriage returns as line feeds. It is the source itself exactly when it
has none, and then its digest is the one that it was saved by. -/
theorem getSource_of_saved (h : Session directory log a m) (hdistinct : Distinct log)
    (hnotes : ∀ x ∈ log, x.note.IsFree) (hx : x ∈ log) (hsaved : x.result = .ok d) :
    d = shortDigest x.source ∧
      (a.getSource d).run m = (.ok (Text.asRead x.source), m) ∧
      (Text.asRead x.source = x.source ↔ '\r' ∉ x.source.toList) ∧
      ('\r' ∉ x.source.toList → shortDigest (Text.asRead x.source) = d) := by
  obtain ⟨q, disk, hholds⟩ := exists_holds h hnotes
  obtain ⟨rfl, hrun⟩ := hholds.run_getSource hdistinct hx hsaved
  exact ⟨rfl, hrun, Text.asRead_eq_self_iff, fun hreturn => by
    rw [Text.asRead_eq_self_iff.mpr hreturn]⟩

/-! ### A source with a carriage return -/

namespace Return

/-- A machine with the empty directory `r`. -/
def machine : Machine :=
  let m := Machine.ofDirectory [] "1"
  { m with files := m.files.set ["r"] .directory }

/-- The archive in that directory. -/
def archive : Archive := { directory := .ofText "r", suffix := ".py", index := [] }

lemma run_open : («open» "r" ".py").run machine = (.ok archive, machine) := by
  have hfind : machine.files.find machine.directory (Path.ofText "r").text
      = .ok (["r"], .directory) :=
    FileTree.find_eq_ok_iff.mpr ⟨by decide +kernel, rfl⟩
  exact run_open_of_empty (by decide +kernel) hfind (by decide +kernel)

/-- The program without edits. -/
def original : Note := { name := "original", fitness := none, extra := [] }

/-- The metadata of the source. -/
def metadata : List (Value × Value) :=
  [(.str "sha", .str "367d1c77eadc"), (.str "name", .str "original"), (.str "edits", .list []),
   (.str "fitness", .null), (.str "file", .str "variant_367d1c77eadc.py")]

lemma shortDigest_eq : shortDigest "a\rb\n" = "367d1c77eadc" := by decide +kernel

/-- The archive after the source was saved. -/
def saved : Archive := { archive with index := [("367d1c77eadc", metadata)] }

/-- The files after the source was saved. -/
def files : FileTree :=
  (machine.files.set ["r", "variant_367d1c77eadc.py"] (.file (.ofText "a\rb\n"))).set
    ["r", "variant_367d1c77eadc_meta.json"]
    (.file (.ofText (Json.write Json.blockLayout (.map metadata))))

lemma run_save : (archive.save "a\rb\n" "" original).run machine
    = ((saved, .ok "367d1c77eadc"), { machine with files := files }) := by
  have hname : sourceName "367d1c77eadc" ".py" = "variant_367d1c77eadc.py" := by decide +kernel
  let m₁ : Machine := { machine with
    files := machine.files.set ["r", "variant_367d1c77eadc.py"] (.file (.ofText "a\rb\n")) }
  have hsource : (writeText (archive.directory.child "variant_367d1c77eadc.py").text
      "a\rb\n").run machine = (.ok (), m₁) := by
    have hopens : Opens machine (archive.directory.child "variant_367d1c77eadc.py").text
        ["r", "variant_367d1c77eadc.py"] none :=
      ⟨by decide +kernel, by decide +kernel, rfl, fun _ => rfl⟩
    exact hopens.run_writeContent _
  have hmeta : (archive.writeMeta "367d1c77eadc" metadata).run m₁
      = (.ok (), { machine with files := files }) := by
    have hlocate : m₁.files.locate m₁.directory
        (archive.directory.child (metaName "367d1c77eadc")).text
          = .ok ["r", "variant_367d1c77eadc_meta.json"] := by decide +kernel
    have hopens : Opens m₁ (archive.directory.child (metaName "367d1c77eadc")).text
        ["r", "variant_367d1c77eadc_meta.json"] none :=
      ⟨by decide +kernel, hlocate, rfl, fun _ => rfl⟩
    have hshort : ¬ (Value.map metadata).isOverlong = true := by decide +kernel
    rw [Archive.writeMeta, if_neg hshort]
    exact hopens.run_writeContent _
  have hnew : newMeta (shortDigest "a\rb\n")
      (sourceName (shortDigest "a\rb\n") archive.suffix) original = .ok metadata := by
    rw [shortDigest_eq, show archive.suffix = ".py" from rfl, hname]
    rfl
  have hfirst : (writeText (archive.directory.child
      (sourceName (shortDigest "a\rb\n") archive.suffix)).text "a\rb\n").run machine
        = (.ok (), m₁) := by
    rw [shortDigest_eq, show archive.suffix = ".py" from rfl, hname]
    exact hsource
  have hthen : (archive.writeMeta (shortDigest "a\rb\n") metadata).run m₁
      = (.ok (), { machine with files := files }) := by
    rw [shortDigest_eq]
    exact hmeta
  have hsave := run_save_of_new rfl hnew hfirst hthen
  rw [hsave, shortDigest_eq]
  rfl

lemma session : Session "r"
    [⟨"a\rb\n", archive.suffixFor "", original, .ok "367d1c77eadc"⟩] saved
    { machine with files := files } := by
  refine .saved (.opened ?_ run_open ?_) (.inl rfl) run_save
  · intro c hc
    have hchar : c = '.' ∨ c = 'p' ∨ c = 'y' := by simpa using hc
    rcases hchar with rfl | rfl | rfl <;> decide
  · rintro q hfind name hname
    have hplace : machine.files.find machine.directory (Path.ofText "r").text
        = .ok (["r"], .directory) :=
      FileTree.find_eq_ok_iff.mpr ⟨by decide +kernel, rfl⟩
    cases hplace.symm.trans hfind
    have hnone : machine.files.names ["r"] = [] := by decide +kernel
    rw [hnone] at hname
    cases hname

lemma isFree_original : original.IsFree := ⟨.map nofun List.nodup_nil nofun, rfl, rfl⟩

end Return

/-- A source with a carriage return is read back with a line feed in its place. -/
theorem getSource_of_saved_return :
    (Return.saved.getSource "367d1c77eadc").run { Return.machine with files := Return.files }
      = (.ok (Text.asRead "a\rb\n"), { Return.machine with files := Return.files }) :=
  (getSource_of_saved Return.session (by simp [Distinct]) (by simpa using Return.isFree_original)
    (List.mem_singleton_self _) rfl).2.1

/-- An archive is opened in an empty directory, and a source with a carriage return is saved. What
is read by the digest that it was saved by is another text, and the digest of that is another. -/
theorem getSource_differs :
    («open» "r" ".py").run Return.machine = (.ok Return.archive, Return.machine) ∧
    ∃ a m, (Return.archive.save "a\rb\n" "" Return.original).run Return.machine
        = ((a, .ok "367d1c77eadc"), m) ∧
      (a.getSource "367d1c77eadc").run m = (.ok "a\nb\n", m) ∧ "a\nb\n" ≠ "a\rb\n" ∧
      shortDigest "a\nb\n" ≠ "367d1c77eadc" := by
  have hread : Text.asRead "a\rb\n" = "a\nb\n" := by decide +kernel
  obtain ⟨q, disk, hholds⟩ := exists_holds Return.session (by simpa using Return.isFree_original)
  obtain ⟨-, hrun⟩ := hholds.run_getSource (by simp [Distinct]) (List.mem_singleton_self _) rfl
  rw [hread] at hrun
  exact ⟨Return.run_open, _, _, Return.run_save, hrun, by decide, by decide +kernel⟩

end VariantRepair.Archive
