import Mathlib.Data.Finset.Card
import VariantRepair.Proofs.Archive.Session

/-!
# What an archive knows after many savings

Each variant has the metadata that its savings come to, in whatever order they came and whatever
else was saved between them: the name, the edits and the file of the first one, the other names, and
the last fitness and the last value of every other key. The files hold the same, so that an archive
that is opened again knows the same.
-/

namespace VariantRepair.Archive

open Host

variable {directory : String} {m m' : Machine} {a a' : Archive} {q : Place}
  {disk : String → Option Stored} {source suffix d : String} {note : Note}
  {log later : List Saving} {first x : Saving} {metadata renoted : List (Value × Value)}

/-! ### What savings come to -/

/-- What the last of some savings gives that gives anything. -/
def latest {α : Type} (f : Saving → Option α) (xs : List Saving) : Option α :=
  xs.reverse.findSome? f

lemma latest_concat {α : Type} (f : Saving → Option α) (xs : List Saving) (x : Saving) :
    latest f (xs ++ [x]) = (f x).or (latest f xs) := by
  rw [latest, List.reverse_append, List.reverse_singleton, List.singleton_append,
    List.findSome?_cons, latest]
  cases f x <;> rfl

/-- The other names that a variant was saved by after its first, in the order in which they came. -/
def otherNames (first : Saving) (later : List Saving) : List String :=
  ((later.map (·.note.name)).filter (· ≠ first.note.name)).eraseDups

/-- A name is put at the end unless it is the first one or came before. -/
lemma otherNames_concat (first : Saving) (later : List Saving) (x : Saving) :
    otherNames first (later ++ [x])
      = if x.note.name = first.note.name ∨ x.note.name ∈ otherNames first later then
          otherNames first later
        else otherNames first later ++ [x.note.name] := by
  have hmem : x.note.name ∈ otherNames first later ↔
      x.note.name ∈ (later.map (·.note.name)).filter (· ≠ first.note.name) := List.mem_eraseDups
  have hmore : otherNames first (later ++ [x])
      = (((later.map (·.note.name)).filter (· ≠ first.note.name))
          ++ [x.note.name].filter (· ≠ first.note.name)).eraseDups := by
    rw [otherNames, List.map_append, List.filter_append, List.map_singleton]
  rw [hmore, List.eraseDups_append]
  by_cases hname : x.note.name = first.note.name
  · rw [if_pos (.inl hname), List.filter_cons_of_neg (by simpa using hname)]
    exact List.append_nil _
  · rw [List.filter_cons_of_pos (by simpa using hname), List.filter_nil, List.cons_removeAll]
    simp only [List.nil_removeAll, List.contains_eq_mem, decide_eq_false_iff_not, ← hmem]
    by_cases hthere : x.note.name ∈ otherNames first later
    · rw [if_neg (not_not.mpr hthere), if_pos (.inr hthere)]
      exact List.append_nil _
    · rw [if_pos hthere, if_neg (not_or.mpr ⟨hname, hthere⟩)]
      rfl

/-- The keys that an archive gives values of its own. -/
def ownKeys : List String := ["sha", "name", "edits", "fitness", "file", "aliases"]

/-- What can be noted besides: the pairs of an object of JSON without the archive's own keys. -/
structure Note.IsFurther (note : Note) : Prop where
  json : (Value.map note.extra).IsJson
  free : ∀ key ∈ ownKeys, Value.field key note.extra = none

lemma Note.IsFurther.isFree (h : note.IsFurther) : note.IsFree :=
  ⟨h.json, h.free _ (by decide), h.free _ (by decide)⟩

/-- The metadata that the savings of a source come to. -/
structure Merges (first : Saving) (later : List Saving) (metadata : List (Value × Value)) :
    Prop where
  sha : Value.field "sha" metadata = some (.str (shortDigest first.source))
  name : Value.field "name" metadata = some (.str first.note.name)
  edits : Value.field "edits" metadata = some (.list ((editsOf first.note.name).map Value.str))
  file : Value.field "file" metadata
    = some (.str (sourceName (shortDigest first.source) first.suffix))
  aliases : Value.field "aliases" metadata
    = if otherNames first later = [] then none
      else some (.list ((otherNames first later).map Value.str))
  fitness : Value.field "fitness" metadata
    = some ((latest (·.note.double?) (first :: later)).getD .null)
  extra : ∀ key, key ∉ ownKeys →
    Value.field key metadata = latest (fun x => Value.field key x.note.extra) (first :: later)

/-! ### One saving more -/

lemma field_withFitness (metadata : List (Value × Value)) (fitness : Option Value) (key : String) :
    Value.field key (withFitness metadata fitness)
      = if key = "fitness" then fitness.or (Value.field key metadata)
        else Value.field key metadata := by
  cases fitness with
  | none => simp [withFitness]
  | some v =>
    rw [withFitness, Value.field_insertPair]
    split_ifs <;> rfl

/-- A variant begins with what its first saving notes. -/
lemma merges_newMeta (hnote : first.note.IsFurther)
    (h : newMeta (shortDigest first.source) (sourceName (shortDigest first.source) first.suffix)
      first.note = .ok metadata) : Merges first [] metadata := by
  obtain ⟨rfl, -⟩ := newMeta_eq_ok h
  have hfield (key : String) := field_noteExtra hnote.json (firstMeta (shortDigest first.source)
    (sourceName (shortDigest first.source) first.suffix) first.note) key
  have hown {key : String} (hkey : key ∈ ownKeys) :
      Value.field key (noteExtra (firstMeta (shortDigest first.source)
        (sourceName (shortDigest first.source) first.suffix) first.note) first.note.extra)
        = Value.field key (firstMeta (shortDigest first.source)
            (sourceName (shortDigest first.source) first.suffix) first.note) := by
    rw [hfield, hnote.free key hkey, Option.none_or]
  refine ⟨?_, ?_, ?_, ?_, ?_, ?_, fun key hkey => ?_⟩
  · rw [hown (by decide)]
    simp [firstMeta, Value.field_cons]
  · rw [hown (by decide)]
    simp [firstMeta, Value.field_cons]
  · rw [hown (by decide)]
    simp [firstMeta, Value.field_cons]
  · rw [hown (by decide)]
    simp [firstMeta, Value.field_cons]
  · rw [hown (by decide), if_pos (by simp [otherNames])]
    simp [firstMeta, Value.field, Value.lookup]
  · rw [hown (by decide)]
    simp [firstMeta, Value.field_cons, latest]
  · have hnone : Value.field key (firstMeta (shortDigest first.source)
        (sourceName (shortDigest first.source) first.suffix) first.note) = none := by
      rw [Value.field_eq_none_iff]
      simp only [ownKeys, List.mem_cons, List.not_mem_nil, or_false, not_or] at hkey
      simp [firstMeta, hkey]
    rw [hfield, hnone, Option.or_none]
    simp [latest]

/-- The name of a saving is the first one, or it is among the aliases afterwards. -/
lemma field_aliases_noteName (h : Merges first later metadata)
    (hname : noteName metadata x.note.name = .ok renoted) :
    Value.field "aliases" renoted
      = if otherNames first (later ++ [x]) = [] then none
        else some (.list ((otherNames first (later ++ [x])).map Value.str)) := by
  have hfirst : Value.field "name" metadata = some (.str x.note.name)
      ↔ x.note.name = first.note.name := by
    rw [h.name, Option.some.injEq, Value.str.injEq, eq_comm]
  rcases noteName_cases hname with ⟨hsame, rfl⟩ | ⟨hother, v, hv, rfl⟩
  · have hkept : otherNames first (later ++ [x]) = otherNames first later := by
      rw [otherNames_concat, if_pos (.inl (hfirst.mp hsame))]
    rw [h.aliases, hkept]
  · have haliases : (Value.field "aliases" metadata).getD (.list [])
        = .list ((otherNames first later).map Value.str) := by
      rw [h.aliases]
      split_ifs with hnone
      · rw [hnone]
        rfl
      · rfl
    have hfound : isAlias x.note.name (.list ((otherNames first later).map Value.str))
        = .ok (decide (x.note.name ∈ otherNames first later)) := by
      rw [isAlias, Except.ok.injEq, Bool.eq_iff_iff, decide_eq_true_eq,
        List.contains_iff_exists_mem_beq]
      simp
    rw [haliases, addAlias, hfound] at hv
    rw [Value.field_insertPair, if_pos rfl]
    by_cases hthere : x.note.name ∈ otherNames first later
    · have hkept : otherNames first (later ++ [x]) = otherNames first later := by
        rw [otherNames_concat, if_pos (.inr hthere)]
      rw [decide_eq_true hthere] at hv
      cases hv
      rw [hkept, if_neg (List.ne_nil_of_mem hthere)]
    · have hmore : otherNames first (later ++ [x]) = otherNames first later ++ [x.note.name] := by
        rw [otherNames_concat, if_neg (not_or.mpr ⟨mt hfirst.mpr hother, hthere⟩)]
      rw [decide_eq_false hthere] at hv
      cases hv
      rw [hmore, if_neg (List.append_ne_nil_of_right_ne_nil _ (List.cons_ne_nil _ _)),
        List.map_append]
      rfl

/-- A variant that is saved again takes what the saving notes. -/
lemma Merges.renote (h : Merges first later metadata) (hnote : x.note.IsFurther)
    (hrenote : renote metadata x.note = (renoted, none)) : Merges first (later ++ [x]) renoted := by
  obtain ⟨renamed, fitness, hname, hfitness, rfl⟩ := renote_eq_ok hrenote
  obtain ⟨rfl, -⟩ := mapM_fitnessValue hfitness
  have hrenamed {key : String} (hkey : key ≠ "aliases") :
      Value.field key renamed = Value.field key metadata := by
    rcases noteName_cases hname with ⟨-, rfl⟩ | ⟨-, v, -, rfl⟩
    · rfl
    · rw [Value.field_insertPair, if_neg hkey]
  have hfield (key : String) :=
    field_noteExtra hnote.json (withFitness renamed x.note.double?) key
  have hkept {key : String} (hown : key ∈ ownKeys) (hfitness : key ≠ "fitness")
      (haliases : key ≠ "aliases") :
      Value.field key (noteExtra (withFitness renamed x.note.double?) x.note.extra)
        = Value.field key metadata := by
    rw [hfield, hnote.free key hown, Option.none_or, field_withFitness, if_neg hfitness,
      hrenamed haliases]
  refine ⟨?_, ?_, ?_, ?_, ?_, ?_, fun key hkey => ?_⟩
  · rw [hkept (by decide) (by decide) (by decide), h.sha]
  · rw [hkept (by decide) (by decide) (by decide), h.name]
  · rw [hkept (by decide) (by decide) (by decide), h.edits]
  · rw [hkept (by decide) (by decide) (by decide), h.file]
  · rw [hfield, hnote.free _ (by decide), Option.none_or, field_withFitness, if_neg (by decide),
      field_aliases_noteName h hname]
  · rw [hfield, hnote.free _ (by decide), Option.none_or, field_withFitness, if_pos rfl,
      hrenamed (by decide), h.fitness, ← List.cons_append, latest_concat]
    cases x.note.double? <;> rfl
  · have hne : key ≠ "fitness" ∧ key ≠ "aliases" := by
      constructor <;> rintro rfl <;> exact hkey (by decide)
    rw [hfield, field_withFitness, if_neg hne.1, hrenamed hne.2, h.extra key hkey,
      ← List.cons_append, latest_concat]

/-! ### All savings -/

/-- The savings of the source that has a digest, first to last. -/
def savingsOf (log : List Saving) (d : String) : List Saving :=
  log.filter fun x => shortDigest x.source = d

lemma savingsOf_concat (log : List Saving) (x : Saving) (d : String) :
    savingsOf (log ++ [x]) d
      = if shortDigest x.source = d then savingsOf log d ++ [x] else savingsOf log d := by
  rw [savingsOf, savingsOf, List.filter_append, List.filter_singleton]
  split_ifs with hd
  · rw [decide_eq_true hd, cond_true]
  · rw [decide_eq_false hd, cond_false, List.append_nil]

/-- An archive knows what the files of its variants hold, which is what their savings come to. -/
structure Tracks (log : List Saving) (a : Archive) (disk : String → Option Stored) : Prop where
  lookup : ∀ d, a.index.lookup d = (disk d).map Stored.metadata
  merges : ∀ d v, disk d = some v →
    ∃ first later, savingsOf log d = first :: later ∧ Merges first later v.metadata

/-- The variants in the files are those that were saved. -/
lemma Holds.isSome_disk_iff (h : Holds directory log a m q disk)
    (hsaved : ∀ x ∈ log, ∃ d, x.result = .ok d) (d : String) :
    (disk d).isSome ↔ ∃ x ∈ log, shortDigest x.source = d := by
  constructor
  · intro hthere
    obtain ⟨v, hv⟩ := Option.isSome_iff_exists.mp hthere
    obtain ⟨x, hx, hsource⟩ := h.source d v hv
    exact ⟨x, hx, hsource ▸ (h.stores.stored d v hv).digest⟩
  · rintro ⟨x, hx, rfl⟩
    obtain ⟨d, hd⟩ := hsaved x hx
    obtain ⟨rfl, hthere⟩ := h.result x hx d hd
    exact hthere

/-- A source that is saved for the first time, or again, adds to what is tracked. -/
lemma Tracks.saved (h : Tracks log a disk) (hholds : Holds directory log a m q disk)
    (hsaved : ∀ x ∈ log, ∃ d, x.result = .ok d) (hnote : x.note.IsFurther) {v : Stored}
    (htakes : Takes a disk x.source x.suffix x.note v) :
    Tracks (log ++ [x])
      { a with index := insertMeta a.index (shortDigest x.source) v.metadata }
      (Function.update disk (shortDigest x.source) (some v)) where
  lookup d := by
    rw [lookup_insertMeta, h.lookup, Function.update_apply]
    split_ifs <;> rfl
  merges d w hw := by
    by_cases hd : d = shortDigest x.source
    · subst hd
      rw [Function.update_self] at hw
      obtain rfl := Option.some.inj hw
      rw [savingsOf_concat, if_pos rfl]
      cases htakes with
      | first hnew hmeta =>
        have hnone : savingsOf log (shortDigest x.source) = [] := by
          refine List.filter_eq_nil_iff.mpr fun y hy heq => ?_
          have hthere := (hholds.isSome_disk_iff hsaved _).mpr ⟨y, hy, of_decide_eq_true heq⟩
          rw [hnew] at hthere
          cases hthere
        exact ⟨x, [], by rw [hnone, List.nil_append], merges_newMeta hnote hmeta⟩
      | again hold hknown hmeta =>
        obtain ⟨first, later, hlog, hmerges⟩ := h.merges _ _ hold
        rw [h.lookup, hold, Option.map_some] at hknown
        obtain rfl := Option.some.inj hknown
        exact ⟨first, later ++ [x], by rw [hlog, List.cons_append], hmerges.renote hnote hmeta⟩
    · rw [Function.update_of_ne hd] at hw
      rw [savingsOf_concat, if_neg (Ne.symm hd)]
      exact h.merges d w hw

/-- Whatever was saved and however often the archive was opened again, it knows what the savings
come to, and the files hold it. -/
lemma exists_tracks (h : Session directory log a m) (hsaved : ∀ x ∈ log, ∃ d, x.result = .ok d)
    (hnotes : ∀ x ∈ log, x.note.IsFurther) :
    ∃ q disk, Holds directory log a m q disk ∧ Tracks log a disk := by
  induction h with
  | opened hsuffix hrun hnew =>
    obtain ⟨q, hholds⟩ := exists_holds_of_opened hsuffix hrun hnew
    refine ⟨q, _, hholds, fun d => ?_, nofun⟩
    exact Option.not_isSome_iff_eq_none.mp fun hthere =>
      Bool.false_ne_true ((hholds.remembers.known d).symm.trans hthere)
  | @saved log a m source suffix note a' r m' _ hsuffix hrun ih =>
    rw [List.forall_mem_append, List.forall_mem_singleton] at hsaved hnotes
    obtain ⟨q, disk, hholds, htracks⟩ := ih hsaved.1 hnotes.1
    rcases hholds.saved hsuffix hnotes.2.isFree hrun with ⟨f, rfl, -⟩ | ⟨-, v, htakes, hafter, rfl⟩
    · obtain ⟨d, hd⟩ := hsaved.2
      cases hd
    · exact ⟨q, _, hafter, htracks.saved hholds hsaved.1 hnotes.2
        (x := ⟨source, a.suffixFor suffix, note, r⟩) htakes⟩
  | reopened _ hsuffix hrun ih =>
    obtain ⟨q, disk, hholds, htracks⟩ := ih hsaved hnotes
    obtain ⟨hafter, hlookup⟩ := hholds.reopened hsuffix hrun
    exact ⟨q, disk, hafter, hlookup, htracks.merges⟩

/-- As many variants as different sources were saved. -/
lemma Remembers.size_eq (h : Remembers a disk) (hdistinct : Distinct log)
    (hdisk : ∀ d, (disk d).isSome ↔ ∃ x ∈ log, shortDigest x.source = d) :
    a.size = (log.map (·.source)).toFinset.card := by
  have hkeys : (a.index.map Prod.fst).toFinset
      = (log.map (·.source)).toFinset.image shortDigest := by
    ext d
    rw [List.mem_toFinset, mem_keys_iff, h.known, hdisk]
    simp
  have hinj : Set.InjOn shortDigest (log.map (·.source)).toFinset := by
    intro s hs t ht hsame
    obtain ⟨x, hx, rfl⟩ := List.mem_map.mp (List.mem_toFinset.mp hs)
    obtain ⟨y, hy, rfl⟩ := List.mem_map.mp (List.mem_toFinset.mp ht)
    exact hdistinct x hx y hy hsame
  calc a.size = (a.index.map Prod.fst).length := (List.length_map _).symm
    _ = (a.index.map Prod.fst).toFinset.card := (List.toFinset_card_of_nodup h.nodup).symm
    _ = ((log.map (·.source)).toFinset.image shortDigest).card := by rw [hkeys]
    _ = (log.map (·.source)).toFinset.card := Finset.card_image_of_injOn hinj

/-- The savings of a source that was saved are those of its digest. -/
lemma savingsOf_shortDigest (hdistinct : Distinct log) (hx : x ∈ log) :
    savingsOf log (shortDigest x.source) = log.filter fun y => y.source = x.source := by
  refine List.filter_congr fun y hy => decide_eq_decide.mpr ⟨fun heq => ?_, fun heq => by rw [heq]⟩
  exact hdistinct y hy x hx heq

/-- After any savings that succeeded, with the archive opened again between any of them, there are
as many variants as different sources, each with the metadata that its savings come to. Opening the
archive once more changes neither. -/
theorem merges_of_saved (h : Session directory log a m) (hdistinct : Distinct log)
    (hsaved : ∀ x ∈ log, ∃ d, x.result = .ok d) (hnotes : ∀ x ∈ log, x.note.IsFurther) :
    a.size = (log.map (·.source)).toFinset.card ∧
      (∀ source first later, log.filter (fun x => x.source = source) = first :: later →
        ∃ metadata, a.getMeta (shortDigest source) = .ok metadata ∧
          Merges first later metadata) ∧
      ∀ suffix, ∃ a', («open» directory suffix).run m = (.ok a', m) ∧ a'.size = a.size ∧
        ∀ d, a'.getMeta d = a.getMeta d := by
  obtain ⟨q, disk, hholds, htracks⟩ := exists_tracks h hsaved hnotes
  have hdisk := hholds.isSome_disk_iff hsaved
  have hsize := hholds.remembers.size_eq hdistinct hdisk
  refine ⟨hsize, fun source first later hlog => ?_, fun suffix => ?_⟩
  · obtain ⟨hx, hsource⟩ := List.mem_filter.mp (hlog ▸ List.mem_cons_self : first ∈ log.filter _)
    obtain rfl := of_decide_eq_true hsource
    obtain ⟨v, hv⟩ := Option.isSome_iff_exists.mp ((hdisk _).mpr ⟨first, hx, rfl⟩)
    obtain ⟨first', later', hlog', hmerges⟩ := htracks.merges _ v hv
    rw [savingsOf_shortDigest hdistinct hx, hlog] at hlog'
    obtain ⟨rfl, rfl⟩ := List.cons.inj hlog'
    exact ⟨v.metadata, by rw [getMeta, htracks.lookup, hv, Option.map_some], hmerges⟩
  · obtain ⟨a', hrun, -, -, hnodup, hlookup⟩ := hholds.stores.run_open suffix
    have hremembers := Remembers.of_lookup hnodup hlookup hholds.stores
    exact ⟨a', hrun, (hremembers.size_eq hdistinct hdisk).trans hsize.symm,
      fun d => by rw [getMeta, getMeta, hlookup, htracks.lookup]⟩

/-! ### A source with two names -/

namespace Return

/-- A program with an edit. -/
def edited : Note :=
  { name := "delete", fitness := some (.float 1), extra := [(.str "seed", .int 7)] }

/-- The metadata of a source that was saved as the original, and then with an edit. -/
def metadataTwice : List (Value × Value) :=
  [(.str "sha", .str "367d1c77eadc"), (.str "name", .str "original"), (.str "edits", .list []),
   (.str "fitness", .float 1), (.str "file", .str "variant_367d1c77eadc.py"),
   (.str "aliases", .list [.str "delete"]), (.str "seed", .int 7)]

/-- The archive after the source was saved twice. -/
def savedTwice : Archive := { saved with index := [("367d1c77eadc", metadataTwice)] }

/-- The files after the source was saved twice. -/
def filesTwice : FileTree :=
  files.set ["r", "variant_367d1c77eadc_meta.json"]
    (.file (.ofText (Json.write Json.blockLayout (.map metadataTwice))))

lemma run_save_edited : (saved.save "a\rb\n" "" edited).run { machine with files := files }
    = ((savedTwice, .ok "367d1c77eadc"), { machine with files := filesTwice }) := by
  let m : Machine := { machine with files := files }
  have hplace : files.get? ["r", "variant_367d1c77eadc_meta.json"]
      = some (.file (.ofText (Json.write Json.blockLayout (.map Return.metadata)))) :=
    FileTree.get?_set_self _ _ (List.cons_ne_nil _ _)
  have hlocate : m.files.locate m.directory
      (savedTwice.directory.child (metaName "367d1c77eadc")).text
        = .ok ["r", "variant_367d1c77eadc_meta.json"] := by decide +kernel
  have hopens : Opens m (savedTwice.directory.child (metaName "367d1c77eadc")).text
      ["r", "variant_367d1c77eadc_meta.json"]
      (some (.ofText (Json.write Json.blockLayout (.map Return.metadata)))) :=
    ⟨by decide +kernel, hlocate, hplace, nofun⟩
  have hmeta : (savedTwice.writeMeta "367d1c77eadc" metadataTwice).run m
      = (.ok (), { machine with files := filesTwice }) := by
    have hshort : ¬ (Value.map metadataTwice).isOverlong = true := by decide +kernel
    rw [Archive.writeMeta, if_neg hshort]
    exact hopens.run_writeContent _
  have hrenote : renote Return.metadata edited = (metadataTwice, none) := by rfl
  have hsource : (fileExists (savedTwice.directory.child "variant_367d1c77eadc.py").text).run m
      = (.ok true, m) := by
    have hfind : m.files.find m.directory
        (savedTwice.directory.child "variant_367d1c77eadc.py").text
          = .ok (["r", "variant_367d1c77eadc.py"], .file (.ofText "a\rb\n")) :=
      FileTree.find_eq_ok_iff.mpr ⟨by decide +kernel, rfl⟩
    exact run_fileExists_of_find (by decide +kernel) hfind
  have hsteps : (savedTwice.saveAgain "a\rb\n" (saved.suffixFor "") metadataTwice).run m
      = (.ok "367d1c77eadc", { machine with files := filesTwice }) := by
    have hpath : savedTwice.sourcePath "367d1c77eadc" (saved.suffixFor "") metadataTwice
        = .ok (savedTwice.directory.child "variant_367d1c77eadc.py") := rfl
    rw [saveAgain, shortDigest_eq, hpath]
    exact (run_bind_of_ok hsource _).trans (run_bind_of_ok hmeta _)
  have hthere : saved.index.lookup (shortDigest "a\rb\n") = some Return.metadata := by
    rw [shortDigest_eq]
    rfl
  have hindex : ({ saved with
      index := insertMeta saved.index (shortDigest "a\rb\n") metadataTwice } : Archive)
        = savedTwice := by
    rw [shortDigest_eq]
    rfl
  rw [run_save_again hthere hrenote (by rw [hindex]; exact hsteps), hindex]

lemma sessionTwice : Session "r"
    [⟨"a\rb\n", archive.suffixFor "", original, .ok "367d1c77eadc"⟩,
      ⟨"a\rb\n", saved.suffixFor "", edited, .ok "367d1c77eadc"⟩] savedTwice
    { machine with files := filesTwice } :=
  .saved session (.inl rfl) run_save_edited

lemma isFurther_original : original.IsFurther :=
  ⟨.map nofun List.nodup_nil nofun, fun _ _ => rfl⟩

lemma isFurther_edited : edited.IsFurther where
  json := .map (by simp [edited]) (by simp [edited]) (by simpa [edited] using Value.IsJson.int 7)
  free := by decide +kernel

end Return

/-- A source that is saved by two names is one variant, which has the second name as alias. -/
theorem merges_of_saved_twice :
    Return.savedTwice.size = 1 ∧
      Merges ⟨"a\rb\n", ".py", Return.original, .ok "367d1c77eadc"⟩
        [⟨"a\rb\n", ".py", Return.edited, .ok "367d1c77eadc"⟩] Return.metadataTwice := by
  obtain ⟨hsize, hmerges, -⟩ := merges_of_saved Return.sessionTwice (by simp [Distinct])
    (by simp) (by simpa using ⟨Return.isFurther_original, Return.isFurther_edited⟩)
  refine ⟨hsize.trans (by simp), ?_⟩
  obtain ⟨metadata, hmeta, hmerges⟩ := hmerges "a\rb\n" _ _ rfl
  rw [Return.shortDigest_eq] at hmeta
  cases hmeta
  exact hmerges

end VariantRepair.Archive
