import Mathlib.Tactic.Common
import VariantRepair.Proofs.Archive
import VariantRepair.Proofs.Host.Coverage
import VariantRepair.Proofs.Json.Read
import VariantRepair.Proofs.Value.Field

/-!
# What an archive is opened with

An archive that is opened has what the metadata files in its directory say. A metadata file says
something if it is the JSON text of an object that names a digest, and most other files are passed
over. Two kinds are not: bytes that are not those of a text, and a text with an integer that has too
many digits. Opening ends at the first of them.
-/

namespace VariantRepair.Archive

open Host

variable {m m₁ m' : Machine} {directory : Path} {place : Place} {c : Content} {f : Failure}
  {digest : String} {metadata : List (Value × Value)}
  {index index' : List (String × List (Value × Value))}

/-! ### The index -/

/-- What was put into an index is found in it, and what was there under other digests. -/
lemma lookup_insertMeta (d : String) : (insertMeta index digest metadata).lookup d
    = if d = digest then some metadata else index.lookup d :=
  lookup_put index digest d metadata

lemma mem_keys_iff (index : List (String × List (Value × Value))) (d : String) :
    d ∈ index.map Prod.fst ↔ (index.lookup d).isSome := by
  induction index with
  | nil => simp
  | cons e index ih =>
    rw [List.map_cons, List.mem_cons, ih, List.lookup_cons]
    by_cases hd : d = e.1
    · simp [hd]
    · simp [hd, beq_eq_false_iff_ne.mpr hd]

/-- No digest is twice in an index. -/
lemma nodup_keys_insertMeta (h : (index.map Prod.fst).Nodup) :
    ((insertMeta index digest metadata).map Prod.fst).Nodup := by
  rw [insertMeta]
  split_ifs with hthere
  · have hkeys : (index.map fun e => if e.1 == digest then (digest, metadata) else e).map Prod.fst
        = index.map Prod.fst := by
      rw [List.map_map]
      refine List.map_congr_left fun e _ => ?_
      by_cases he : e.1 = digest
      · simp [he]
      · simp [he]
    rwa [hkeys]
  · rw [List.map_append, List.nodup_append]
    refine ⟨h, by simp, fun d hd d' hd' heq => ?_⟩
    obtain rfl : d' = digest := by simpa using hd'
    exact hthere ((mem_keys_iff index d').mp (heq ▸ hd))

/-! ### What a metadata file comes to -/

/-- What a metadata file says: metadata, with the digest that they name. -/
inductive Says : Content → String → List (Value × Value) → Prop
  | object {bs : List UInt8} {s : String} {metadata : List (Value × Value)}
      (hbytes : Text.decodeUtf8 bs = .ok s)
      (hparse : Json.parse (Text.asRead s) = .ok (.map metadata))
      (hsha : ((Value.field "sha" metadata).getD (.str "")).text ≠ "") :
      Says (.bytes bs) ((Value.field "sha" metadata).getD (.str "")).text metadata

/-- The failure that a metadata file ends the opening of an archive with. -/
inductive Stops : Content → Failure → Prop
  /-- The bytes are not those of a text. -/
  | decoding {bs : List UInt8} {e : Text.Utf8Error} (hbytes : Text.decodeUtf8 bs = .error e) :
      Stops (.bytes bs) (.decoding e)
  /-- The text has an integer that has too many digits. -/
  | number {bs : List UInt8} {s : String} {e : Number.NumberError}
      (hbytes : Text.decodeUtf8 bs = .ok s)
      (hparse : Json.parse (Text.asRead s) = .error (.number e)) :
      Stops (.bytes bs) (.refused (.number (.text e)))
  /-- The file has a stored value; its first byte starts no character. -/
  | record (r : Record) :
      Stops (.record r) (.decoding { fault := .invalidStart, first := 0x80, start := 0, stop := 1 })

/-- What reading a metadata file comes to. -/
def meaning : Content → Except Failure (Option (String × List (Value × Value)))
  | .bytes bs =>
    match Text.decodeUtf8 bs with
    | .ok s => metadataOf? (Text.asRead s)
    | .error e => .error (.decoding e)
  | .record _ => .error (.decoding { fault := .invalidStart, first := 0x80, start := 0, stop := 1 })

/-- What reading comes to at a path that may lead to no file. -/
def meaningAt (m : Machine) (path : String) :
    Except Failure (Option (String × List (Value × Value))) :=
  match m.files.find m.directory path with
  | .ok (_, .file c) => meaning c
  | _ => .ok none

lemma isOverlong_field {ps : List (Value × Value)} (h : (Value.map ps).isOverlong = false)
    (key : String) : ((Value.field key ps).getD (.str "")).isOverlong = false := by
  rw [Value.field, Value.lookup]
  cases hfind : ps.find? fun p => p.1 == .str key with
  | none => rfl
  | some p => exact (Value.isOverlong_map.mp h p (List.mem_of_find?_eq_some hfind)).2

lemma metadataOf?_of_map {text : String} (h : Json.parse text = .ok (.map metadata)) :
    metadataOf? text
      = .ok (if ((Value.field "sha" metadata).getD (.str "")).text.isEmpty then none
          else some (((Value.field "sha" metadata).getD (.str "")).text, metadata)) := by
  have hwritten : ((Value.field "sha" metadata).getD (.str "")).written
      = .ok ((Value.field "sha" metadata).getD (.str "")).text := by
    rw [Value.written, isOverlong_field (Json.isOverlong_of_parse h), if_neg Bool.false_ne_true]
  simp only [metadataOf?, h, Except.mapError, hwritten]

lemma metadataOf?_cases (text : String) :
    (∃ metadata, Json.parse text = .ok (.map metadata)) ∨
      (∃ e, Json.parse text = .error (.number e) ∧
        metadataOf? text = .error (.refused (.number (.text e)))) ∨
      (¬ ∃ e, Json.parse text = .error (.number e)) ∧ metadataOf? text = .ok none := by
  rw [metadataOf?]
  cases hparse : Json.parse text with
  | ok v =>
    cases v with
    | map metadata => exact .inl ⟨metadata, rfl⟩
    | _ => exact .inr (.inr ⟨by simp, rfl⟩)
  | error e =>
    cases e with
    | malformed e => exact .inr (.inr ⟨by simp, rfl⟩)
    | number e => exact .inr (.inl ⟨e, rfl, rfl⟩)

lemma meaning_eq_some_iff : meaning c = .ok (some (digest, metadata)) ↔ Says c digest metadata := by
  constructor
  · intro h
    cases c with
    | record r => cases h
    | bytes bs =>
      rw [meaning] at h
      cases hbytes : Text.decodeUtf8 bs with
      | error e =>
        rw [hbytes] at h
        cases h
      | ok s =>
        rw [hbytes] at h
        dsimp only at h
        rcases metadataOf?_cases (Text.asRead s) with ⟨ps, hps⟩ | ⟨e, -, he⟩ | ⟨-, hnone⟩
        · rw [metadataOf?_of_map hps] at h
          split_ifs at h with hempty
          · cases h
          · obtain ⟨rfl, rfl⟩ := Prod.mk.inj (Option.some.inj (Except.ok.inj h))
            exact .object hbytes hps (by simpa using hempty)
        · rw [he] at h
          cases h
        · rw [hnone] at h
          cases h
  · rintro ⟨hbytes, hparse, hsha⟩
    rw [meaning, hbytes]
    dsimp only
    rw [metadataOf?_of_map hparse, if_neg (by simpa using hsha)]

lemma meaning_eq_error_iff : meaning c = .error f ↔ Stops c f := by
  constructor
  · intro h
    cases c with
    | record r =>
      cases h
      exact .record r
    | bytes bs =>
      rw [meaning] at h
      cases hbytes : Text.decodeUtf8 bs with
      | error e =>
        rw [hbytes] at h
        cases h
        exact .decoding hbytes
      | ok s =>
        rw [hbytes] at h
        dsimp only at h
        rcases metadataOf?_cases (Text.asRead s) with ⟨ps, hps⟩ | ⟨e, hparse, he⟩ | ⟨-, hnone⟩
        · rw [metadataOf?_of_map hps] at h
          cases h
        · rw [he] at h
          cases h
          exact .number hbytes hparse
        · rw [hnone] at h
          cases h
  · rintro (hbytes | ⟨hbytes, hparse⟩ | r)
    · rw [meaning, hbytes]
    · rw [meaning, hbytes]
      dsimp only
      rw [metadataOf?, hparse]
      rfl
    · rfl

/-- What ends the opening is no fault of the system, which would be passed over. -/
lemma Stops.isSystem (h : Stops c f) : f.isSystem = false := by
  cases h <;> rfl

/-! ### Reading the files -/

/-- The content of a file is read where a path leads to one; elsewhere the system refuses. -/
lemma run_readContent_cases {path : String} (hnul : '\x00' ∉ path.toList) (m : Machine) :
    (∃ place c, m.files.find m.directory path = .ok (place, .file c) ∧
      (readContent path).run m = (.ok c, m)) ∨
    (∀ place c, m.files.find m.directory path ≠ .ok (place, .file c)) ∧
      ∃ f : Failure, f.isSystem = true ∧ (readContent path).run m = (.error f, m) := by
  cases hfind : m.files.find m.directory path with
  | error fault =>
    refine .inr ⟨by simp, .file fault path none, rfl, ?_⟩
    rw [readContent, run_bind_of_ok (run_checkText hnul m), run_bind_of_ok (run_get m), hfind]
    rfl
  | ok found =>
    obtain ⟨place, c | -⟩ := found
    · exact .inl ⟨place, c, rfl, run_readContent_of_find hnul hfind⟩
    · refine .inr ⟨by simp, .file .isDirectory path none, rfl, ?_⟩
      rw [readContent, run_bind_of_ok (run_checkText hnul m), run_bind_of_ok (run_get m), hfind]
      rfl

section Caught

variable {path : String}

/-- A file that the system refuses to read is passed over, and any other failure to read ends the
reading. -/
lemma run_readMeta?_of_error (hread : (readText path).run m = (.error f, m)) :
    (readMeta? path).run m = (if f.isSystem then .ok none else .error f, m) := by
  rw [readMeta?]
  cases hsystem : f.isSystem with
  | true =>
    refine (run_bind_of_ok (a := .error none) ?_ _).trans rfl
    rw [run_tryCatch_of_error (run_bind_of_error hread _), if_pos hsystem]
    rfl
  | false =>
    refine run_bind_of_error ?_ _
    rw [run_tryCatch_of_error (run_bind_of_error hread _), hsystem]
    rfl

lemma run_readMeta?_of_ok {text : String} (hread : (readText path).run m = (.ok text, m))
    (htext : ∀ f, metadataOf? text = .error f → f.isSystem = false) :
    (readMeta? path).run m = (metadataOf? text, m) := by
  rw [readMeta?]
  cases hmeta : metadataOf? text with
  | ok found =>
    refine (run_bind_of_ok (a := .error found) ?_ _).trans rfl
    refine run_tryCatch_of_ok ?_ _
    rw [run_bind_of_ok hread, hmeta]
    rfl
  | error f =>
    refine run_bind_of_error ?_ _
    rw [run_tryCatch_of_error ((run_bind_of_ok hread _).trans (by rw [hmeta]; rfl)) _,
      htext f hmeta]
    rfl

end Caught

/-- A metadata file is read to what it comes to, and nothing changes. -/
lemma run_readMeta? {path : String} (hnul : '\x00' ∉ path.toList) (m : Machine) :
    (readMeta? path).run m = (meaningAt m path, m) := by
  rcases run_readContent_cases hnul m with ⟨place, c, hfind, hread⟩ | ⟨hnone, f, hf, hread⟩
  · have hstops {f : Failure} (h : meaning c = .error f) : f.isSystem = false :=
      (meaning_eq_error_iff.mp h).isSystem
    have hmeaning : meaningAt m path = meaning c := by rw [meaningAt, hfind]
    rw [hmeaning]
    cases c with
    | record r => exact run_readMeta?_of_error (run_bind_of_ok hread _)
    | bytes bs =>
      rw [meaning] at hstops ⊢
      cases hbytes : Text.decodeUtf8 bs with
      | error e =>
        refine run_readMeta?_of_error (f := .decoding e) ((run_bind_of_ok hread _).trans ?_)
        dsimp only
        rw [hbytes]
        rfl
      | ok s =>
        rw [hbytes] at hstops
        refine run_readMeta?_of_ok ((run_bind_of_ok hread _).trans ?_) fun f => hstops
        dsimp only
        rw [hbytes]
        rfl
  · have hmeaning : meaningAt m path = .ok none := by
      rw [meaningAt]
      split
      · next place c hfind => exact absurd hfind (hnone place c)
      · rfl
    rw [run_readMeta?_of_error (run_bind_of_error hread _), if_pos hf, hmeaning]

/-- What is in an index after some metadata files: what was there, and what the files name. -/
structure Gathers (m : Machine) (paths : List String)
    (index index' : List (String × List (Value × Value))) : Prop where
  nodup : (index.map Prod.fst).Nodup → (index'.map Prod.fst).Nodup
  /-- What is in the index was there, or a file names it. -/
  origin : ∀ digest metadata, index'.lookup digest = some metadata →
    index.lookup digest = some metadata ∨
      ∃ path ∈ paths, meaningAt m path = .ok (some (digest, metadata))
  kept : ∀ digest, (index.lookup digest).isSome → (index'.lookup digest).isSome
  named : ∀ path ∈ paths, ∀ digest metadata,
    meaningAt m path = .ok (some (digest, metadata)) → (index'.lookup digest).isSome

namespace Gathers

lemma refl (m : Machine) (index : List (String × List (Value × Value))) :
    Gathers m [] index index :=
  ⟨id, fun _ _ => .inl, fun _ => id, nofun⟩

/-- One file more, which is read first. -/
lemma cons {path : String} {paths : List String} {found : Option (String × List (Value × Value))}
    (hfound : meaningAt m path = .ok found)
    (h : Gathers m paths (found.elim index fun e => insertMeta index e.1 e.2) index') :
    Gathers m (path :: paths) index index' := by
  cases found with
  | none =>
    refine ⟨h.nodup, fun digest metadata hlookup => ?_, h.kept, fun p hp digest metadata hp' => ?_⟩
    · exact (h.origin digest metadata hlookup).imp id fun ⟨p, hp, hp'⟩ =>
        ⟨p, List.mem_cons_of_mem _ hp, hp'⟩
    · rcases List.mem_cons.mp hp with rfl | hp
      · cases hfound.symm.trans hp'
      · exact h.named p hp digest metadata hp'
  | some e =>
    obtain ⟨d, new⟩ := e
    have hlookup (digest : String) : (insertMeta index d new).lookup digest
        = if digest = d then some new else index.lookup digest := lookup_insertMeta digest
    refine ⟨fun hnodup => h.nodup (nodup_keys_insertMeta hnodup), fun digest metadata hthere => ?_,
      fun digest hthere => h.kept digest ?_, fun p hp digest metadata hp' => ?_⟩
    · rcases h.origin digest metadata hthere with hold | ⟨p, hp, hp'⟩
      · rw [Option.elim_some, hlookup] at hold
        split_ifs at hold with hd
        · obtain rfl := Option.some.inj hold
          exact .inr ⟨path, List.mem_cons_self, hd ▸ hfound⟩
        · exact .inl hold
      · exact .inr ⟨p, List.mem_cons_of_mem _ hp, hp'⟩
    · rw [Option.elim_some, hlookup]
      split_ifs
      · rfl
      · exact hthere
    · rcases List.mem_cons.mp hp with rfl | hp
      · obtain ⟨rfl, rfl⟩ := Prod.mk.inj (Option.some.inj (Except.ok.inj (hfound.symm.trans hp')))
        refine h.kept d ?_
        rw [Option.elim_some, hlookup, if_pos rfl]
        rfl
      · exact h.named p hp digest metadata hp'

end Gathers

/-- All metadata files are read, up to the first that ends the reading; nothing changes. -/
lemma run_readAll_cases {names : List String}
    (hnul : ∀ name ∈ names, '\x00' ∉ (directory.child name).text.toList)
    (index : List (String × List (Value × Value))) :
    (∃ name ∈ names, ∃ f, meaningAt m (directory.child name).text = .error f ∧
      (readAll directory index names).run m = (.error f, m)) ∨
    (∀ name ∈ names, ∀ f, meaningAt m (directory.child name).text ≠ .error f) ∧
      ∃ index', (readAll directory index names).run m = (.ok index', m) ∧
        Gathers m (names.map fun name => (directory.child name).text) index index' := by
  induction names generalizing index with
  | nil => exact .inr ⟨nofun, index, rfl, .refl m index⟩
  | cons name names ih =>
    obtain ⟨hname, hnames⟩ := List.forall_mem_cons.mp hnul
    have hread := run_readMeta? hname m
    cases hfound : meaningAt m (directory.child name).text with
    | error f =>
      rw [hfound] at hread
      exact .inl ⟨name, List.mem_cons_self, f, hfound, run_bind_of_error hread _⟩
    | ok found =>
      rw [hfound] at hread
      have hrun : (readAll directory index (name :: names)).run m
          = (readAll directory (found.elim index fun e => insertMeta index e.1 e.2) names).run
              m := by
        rw [readAll, run_bind_of_ok hread]
        cases found <;> rfl
      rw [hrun]
      rcases ih hnames (found.elim index fun e => insertMeta index e.1 e.2) with
        ⟨other, hother, f, hf, hstop⟩ | ⟨hnone, index', hall, hgathers⟩
      · exact .inl ⟨other, List.mem_cons_of_mem _ hother, f, hf, hstop⟩
      · refine .inr ⟨List.forall_mem_cons.mpr ⟨fun f hf => ?_, hnone⟩, index', hall,
          .cons hfound hgathers⟩
        cases hfound.symm.trans hf

/-! ### Opening -/

/-- A metadata file of a directory: one with such a name, to which the path below the directory
leads. -/
def IsMetaFile (m : Machine) (directory : Path) (place : Place) (c : Content) : Prop :=
  ∃ name ∈ m.files.names place, isMetaName name = true ∧
    ∃ q, m.files.find m.directory (directory.child name).text = .ok (q, .file c)

/-- An archive has in its index what the metadata files of a directory say, each digest once, and
nothing else. -/
structure Indexes (m : Machine) (directory : Path) (place : Place) (a : Archive) : Prop where
  nodup : (a.index.map Prod.fst).Nodup
  said : ∀ digest metadata, a.index.lookup digest = some metadata →
    ∃ c, IsMetaFile m directory place c ∧ Says c digest metadata
  indexed : ∀ c, IsMetaFile m directory place c → ∀ digest metadata, Says c digest metadata →
    (a.index.lookup digest).isSome

/-- What a path to a metadata file comes to is what the file comes to. -/
lemma meaningAt_eq_iff {path : String} {r : Except Failure (Option (String × List (Value × Value)))}
    (hr : r ≠ .ok none) : meaningAt m path = r ↔
      ∃ q c, m.files.find m.directory path = .ok (q, .file c) ∧ meaning c = r := by
  rw [meaningAt]
  split
  · next q c hfind =>
    rw [hfind]
    constructor
    · exact fun h => ⟨q, c, rfl, h⟩
    · rintro ⟨_, _, ⟨⟩, h⟩
      exact h
  · next hnone =>
    exact ⟨fun h => absurd h.symm hr, fun ⟨q, c, hfind, _⟩ => absurd hfind (hnone q c)⟩

lemma meaningAt_eq_error_iff {path : String} : meaningAt m path = .error f ↔
    ∃ q c, m.files.find m.directory path = .ok (q, .file c) ∧ Stops c f := by
  rw [meaningAt_eq_iff (by simp)]
  simp only [meaning_eq_error_iff]

lemma meaningAt_eq_some_iff {path : String} : meaningAt m path = .ok (some (digest, metadata)) ↔
    ∃ q c, m.files.find m.directory path = .ok (q, .file c) ∧ Says c digest metadata := by
  rw [meaningAt_eq_iff (by simp)]
  simp only [meaning_eq_some_iff]

section Opening

variable {text suffix : String} (hmake : (needDirectories (.ofText text)).run m = (.ok (), m₁))
  (hfind : m₁.files.find m₁.directory (Path.ofText text).text = .ok (place, .directory))

include hmake hfind

/-- An archive is opened with what the metadata files of its directory say, unless one of them ends
the opening. -/
lemma run_open_cases (suffix : String)
    (hnames : ∀ name ∈ m₁.files.names place, isMetaName name = true → '\x00' ∉ name.toList) :
    (∃ c f, IsMetaFile m₁ (.ofText text) place c ∧ Stops c f ∧
      («open» text suffix).run m = (.error f, m₁)) ∨
    (∀ c f, IsMetaFile m₁ (.ofText text) place c → ¬ Stops c f) ∧
      ∃ a, («open» text suffix).run m = (.ok a, m₁) ∧
        Indexes m₁ (.ofText text) place a := by
  have hnul := nul_notMem_of_run_needDirectories hmake
  let paths := (m₁.files.names place).filter isMetaName
  have hchild : ∀ name ∈ paths, '\x00' ∉ ((Path.ofText text).child name).text.toList :=
    fun name hname => Path.notMem_text_child (by decide) (by decide) hnul
      (hnames name (List.mem_filter.mp hname).1 (List.mem_filter.mp hname).2)
  have hopen : («open» text suffix).run m = ((readAll (.ofText text) [] paths) >>= fun index =>
      pure { directory := .ofText text, suffix, index }).run m₁ := by
    rw [«open», run_bind_of_ok hmake, run_bind_of_ok (run_listNames_of_find hnul hfind)]
  have hfile {name : String} (hname : name ∈ paths) {q : Place} {c : Content}
      (h : m₁.files.find m₁.directory ((Path.ofText text).child name).text = .ok (q, .file c)) :
      IsMetaFile m₁ (.ofText text) place c :=
    ⟨name, (List.mem_filter.mp hname).1, (List.mem_filter.mp hname).2, q, h⟩
  rcases run_readAll_cases hchild [] with
    ⟨name, hname, f, hf, hall⟩ | ⟨hnone, index, hall, hgathers⟩
  · obtain ⟨q, c, hc, hstops⟩ := meaningAt_eq_error_iff.mp hf
    exact .inl ⟨c, f, hfile hname hc, hstops, hopen.trans (run_bind_of_error hall _)⟩
  · refine .inr ⟨?_, _, hopen.trans (run_bind_of_ok hall _), ?_⟩
    · rintro c f ⟨name, hthere, hname, q, hc⟩ hstops
      exact hnone name (List.mem_filter.mpr ⟨hthere, hname⟩) f
        (meaningAt_eq_error_iff.mpr ⟨q, c, hc, hstops⟩)
    · refine ⟨hgathers.nodup List.nodup_nil, fun digest metadata hlookup => ?_, ?_⟩
      · obtain ⟨path, hpath, hfound⟩ :=
          (hgathers.origin digest metadata hlookup).resolve_left (by simp)
        obtain ⟨name, hname, rfl⟩ := List.mem_map.mp hpath
        obtain ⟨q, c, hc, hsays⟩ := meaningAt_eq_some_iff.mp hfound
        exact ⟨c, hfile hname hc, hsays⟩
      · rintro c ⟨name, hthere, hname, q, hc⟩ digest metadata hsays
        exact hgathers.named _ (List.mem_map_of_mem (List.mem_filter.mpr ⟨hthere, hname⟩)) digest
          metadata (meaningAt_eq_some_iff.mpr ⟨q, c, hc, hsays⟩)

/-- Opening an archive makes its directory and changes nothing else. It succeeds exactly when none
of the metadata files there is one that ends it; then the index has what those files say, and all
others are passed over. If it fails, it does so with the failure of such a file. -/
theorem open_iff_none_stops (hnames : ∀ name ∈ m₁.files.names place, '\x00' ∉ name.toList) :
    ((∃ a m', («open» text suffix).run m = (.ok a, m')) ↔
      ∀ c f, IsMetaFile m₁ (.ofText text) place c → ¬ Stops c f) ∧
    (∀ a m', («open» text suffix).run m = (.ok a, m') →
      m' = m₁ ∧ a.directory = .ofText text ∧ a.suffix = suffix ∧
        Indexes m₁ (.ofText text) place a) ∧
    ∀ f m', («open» text suffix).run m = (.error f, m') →
      m' = m₁ ∧ ∃ c, IsMetaFile m₁ (.ofText text) place c ∧ Stops c f := by
  rcases run_open_cases hmake hfind suffix fun name hname _ => hnames name hname with
    ⟨c, f, hc, hstops, hrun⟩ | ⟨hnone, a, hrun, hindexes⟩
  · have hfails {a : Archive} {m' : Machine} : («open» text suffix).run m ≠ (.ok a, m') := by
      rw [hrun]
      nofun
    refine ⟨⟨fun ⟨a, m', h⟩ => absurd h hfails, fun h => absurd hstops (h c f hc)⟩,
      fun a m' h => absurd h hfails, fun f' m' h => ?_⟩
    obtain ⟨hf, rfl⟩ := Prod.mk.inj (hrun.symm.trans h)
    exact ⟨rfl, c, hc, Except.error.inj hf ▸ hstops⟩
  · have hsucceeds {f : Failure} {m' : Machine} : («open» text suffix).run m ≠ (.error f, m') := by
      rw [hrun]
      nofun
    obtain ⟨hdirectory, hsuffix⟩ := of_run_open hrun
    refine ⟨⟨fun _ => hnone, fun _ => ⟨a, m₁, hrun⟩⟩, fun a' m' h => ?_,
      fun f m' h => absurd h hsucceeds⟩
    obtain ⟨rfl, rfl⟩ := eq_of_run_eq_ok hrun h
    exact ⟨rfl, hdirectory, hsuffix, hindexes⟩

end Opening

/-! ### A single metadata file -/

/-- A machine with one metadata file in the directory `r`. -/
def machineWith (c : Content) : Machine :=
  let m := Machine.ofDirectory [] "1"
  { m with files := (m.files.set ["r"] .directory).set ["r", "variant_x_meta.json"] (.file c) }

section Single

variable (c : Content)

lemma text_r : (Path.ofText "r").text = "r" := by decide +kernel

lemma find_machineWith : (machineWith c).files.find (machineWith c).directory (Path.ofText "r").text
    = .ok (["r"], .directory) := by
  rw [text_r]
  exact FileTree.find_eq_ok_iff.mpr
    ⟨FileTree.locate_of_name (by decide) (by decide) (by decide +kernel) rfl, rfl⟩

lemma names_machineWith : (machineWith c).files.names ["r"] = ["variant_x_meta.json"] := by
  have hentries : (machineWith c).files.entries
      = [(["r"], .directory), (["r", "variant_x_meta.json"], .file c)] := rfl
  rw [FileTree.names, hentries]
  exact List.mergeSort_singleton _

lemma isMetaFile_machineWith {c' : Content} :
    IsMetaFile (machineWith c) (.ofText "r") ["r"] c' ↔ c' = c := by
  have hname : FileTree.IsName "variant_x_meta.json" :=
    ⟨by decide, by decide, by decide +kernel⟩
  have hchild : ((Path.ofText "r").child "variant_x_meta.json").text
      = (Path.ofText "r").text ++ "/" ++ "variant_x_meta.json" :=
    Path.text_child_of_name (by decide +kernel) hname.slash_notMem (by decide)
  have hfile : (machineWith c).files.find (machineWith c).directory
      ((Path.ofText "r").child "variant_x_meta.json").text
        = .ok (["r", "variant_x_meta.json"], .file c) := by
    rw [hchild]
    refine FileTree.find_eq_ok_iff.mpr ⟨?_, rfl⟩
    rw [FileTree.locate_of_directory hname (find_machineWith c),
      if_neg (by rw [text_r]; decide +kernel)]
    rfl
  rw [IsMetaFile, names_machineWith]
  constructor
  · rintro ⟨name, hmem, -, q, hq⟩
    obtain rfl := List.mem_singleton.mp hmem
    cases hfile.symm.trans hq
    rfl
  · rintro rfl
    exact ⟨_, List.mem_singleton_self _, by decide +kernel, _, hfile⟩

lemma run_needDirectories_machineWith :
    (needDirectories (.ofText "r")).run (machineWith c) = (.ok (), machineWith c) :=
  run_needDirectories_of_find (by rw [text_r]; decide) (find_machineWith c)

lemma nul_notMem_names : ∀ name ∈ (machineWith c).files.names ["r"], '\x00' ∉ name.toList := by
  rw [names_machineWith]
  decide

end Single

/-- A metadata file that names a digest is indexed by it. -/
theorem open_iff_none_stops_object :
    ∃ a, («open» "r" ".txt").run (machineWith (.ofText "\x7b\"sha\": \"x\"\x7d"))
        = (.ok a, machineWith (.ofText "\x7b\"sha\": \"x\"\x7d")) ∧
      a.index.lookup "x" = some [(.str "sha", .str "x")] := by
  let text := "\x7b\"sha\": \"x\"\x7d"
  let c := Content.ofText text
  have hbytes : Text.decodeUtf8 (Text.utf8Bytes text) = .ok text := Text.decodeUtf8_utf8Bytes text
  have hparse : Json.parse (Text.asRead text) = .ok (.map [(.str "sha", .str "x")]) := by
    have hchars : "\x7b\"sha\": \"x\"\x7d".toList
        = ['\x7b', '"', 's', 'h', 'a', '"', ':', ' ', '"', 'x', '"', '\x7d'] := rfl
    have hread : Text.asRead text = text :=
      Text.asRead_eq_self_iff.mpr (by rw [hchars]; decide)
    rw [hread, Json.parse, hchars, Json.document, if_neg (by decide)]
    rfl
  have hsha : ((Value.field "sha" [(.str "sha", .str "x")]).getD (.str "")).text = "x" := by
    have hfield : Value.field "sha" [(.str "sha", .str "x")] = some (.str "x") := by
      simp [Value.field, Value.lookup]
    rw [hfield]
    rfl
  have hsays : meaning c = .ok (some ("x", [(.str "sha", .str "x")])) :=
    meaning_eq_some_iff.mpr (hsha ▸ .object hbytes hparse (by rw [hsha]; decide))
  have hopened : ((∃ a m', («open» "r" ".txt").run (machineWith c) = (.ok a, m')) ↔ _) ∧ _ :=
    open_iff_none_stops (run_needDirectories_machineWith c) (find_machineWith c)
      (nul_notMem_names c)
  obtain ⟨hiff, hok, -⟩ := hopened
  obtain ⟨a, m', hrun⟩ := hiff.mpr fun c' f hc hstops => by
    obtain rfl := (isMetaFile_machineWith c).mp hc
    cases (meaning_eq_error_iff.mpr hstops).symm.trans hsays
  obtain ⟨rfl, -, -, hindexes⟩ := hok a m' hrun
  obtain ⟨metadata, hmetadata⟩ := Option.isSome_iff_exists.mp <| hindexes.indexed c
    ((isMetaFile_machineWith c).mpr rfl) _ _ (meaning_eq_some_iff.mp hsays)
  obtain ⟨c', hc, hsaid⟩ := hindexes.said "x" metadata hmetadata
  obtain rfl := (isMetaFile_machineWith c).mp hc
  obtain ⟨-, rfl⟩ := Prod.mk.inj (Option.some.inj (Except.ok.inj
    ((meaning_eq_some_iff.mpr hsaid).symm.trans hsays)))
  exact ⟨a, hrun, hmetadata⟩

/-- Bytes that are not those of a text end the opening, and nothing is indexed. -/
theorem open_ends_at_bytes :
    («open» "r" ".txt").run (machineWith (.bytes [0xff]))
      = (.error (.decoding { fault := .invalidStart, first := 0xff, start := 0, stop := 1 }),
        machineWith (.bytes [0xff])) := by
  let c := Content.bytes [0xff]
  have hstops :
      Stops c (.decoding { fault := .invalidStart, first := 0xff, start := 0, stop := 1 }) :=
    .decoding (by rfl)
  rcases run_open_cases (run_needDirectories_machineWith c) (find_machineWith c) ".txt"
    (fun name hname _ => nul_notMem_names c name hname) with ⟨c', f, hc, hstop, hrun⟩ | ⟨hnone, -⟩
  · obtain rfl := (isMetaFile_machineWith c).mp hc
    have heq := (meaning_eq_error_iff.mpr hstops).symm.trans (meaning_eq_error_iff.mpr hstop)
    rw [hrun, ← Except.error.inj heq]
  · exact absurd hstops (hnone c _ ((isMetaFile_machineWith c).mpr rfl))

end VariantRepair.Archive
