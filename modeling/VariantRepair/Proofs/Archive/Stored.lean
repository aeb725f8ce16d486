import Mathlib.Algebra.BigOperators.Group.List.Basic
import Mathlib.Logic.Function.Basic
import Mathlib.Tactic.Common
import Mathlib.Tactic.IntervalCases
import VariantRepair.Archive
import VariantRepair.Proofs.Archive.Noted
import VariantRepair.Proofs.Archive.Opened
import VariantRepair.Proofs.Host.Tree

/-!
# The files of an archive

The files of a variant are known by their names, and hold what was saved.
-/

/-!
## The names of files in an archive

A digest has a fixed number of hexadecimal digits, so the names of the two files of a variant tell
which variant it is and which of the two they are.
-/

namespace VariantRepair

/-! ### Hexadecimal digits -/

namespace Text

/-- Is the character a lower-case hexadecimal digit? -/
def IsHexDigit (c : Char) : Prop :=
  ∃ n < 16, c = hexDigit n

lemma isHexDigit_of_mem_hexDigits {c : Char} {width n : Nat} (h : c ∈ hexDigits width n) :
    IsHexDigit c := by
  induction width generalizing n with
  | zero => cases h
  | succ width ih =>
    rcases List.mem_append.mp h with h | h
    · exact ih h
    · exact ⟨n % 16, Nat.mod_lt _ (by decide), List.mem_singleton.mp h⟩

@[simp] lemma length_hexDigits (width n : Nat) : (hexDigits width n).length = width := by
  induction width generalizing n with
  | zero => rfl
  | succ width ih => rw [hexDigits, List.length_append, ih, List.length_singleton]

/-- A hexadecimal digit is none of the characters that part names. -/
lemma IsHexDigit.ne {c : Char} (h : IsHexDigit c) : c ≠ '_' ∧ c ≠ '/' ∧ c ≠ '\x00' := by
  obtain ⟨n, hn, rfl⟩ := h
  interval_cases n <;> decide

end Text

namespace Digest

open Text

lemma length_wordBytes (order : ByteOrder) (w : UInt32) : (wordBytes order w).length = 4 := by
  cases order <;> simp [wordBytes]

/-- Each word is written with eight digits. -/
lemma length_hexText (order : ByteOrder) (ws : List UInt32) :
    (hexText order ws).toList.length = 8 * ws.length := by
  rw [hexText, String.toList_ofList]
  induction ws with
  | nil => rfl
  | cons w ws ih =>
    have hword : ((wordBytes order w).flatMap fun b => hexDigits 2 b.toNat).length = 8 := by
      rw [List.length_flatMap, List.map_congr_left fun b _ => length_hexDigits 2 b.toNat,
        List.map_const', List.sum_replicate, length_wordBytes]
      rfl
    rw [List.flatMap_cons, List.flatMap_append, List.length_append, ih, hword, List.length_cons]
    omega

namespace Sha256

lemma size_absorb {state : Array UInt32} (h : state.size = 8) (block : List UInt32) :
    (absorb state block).size = 8 := by
  have hrounds (is : List Nat) {s : Array UInt32} (hs : s.size = 8) :
      (is.foldl (fun s i => step s (roundConstants.getD i 0) ((schedule block).getD i 0))
        s).size = 8 := by
    induction is generalizing s with
    | nil => exact hs
    | cons i is ih => exact ih rfl
  rw [absorb, Array.size_zipWith, h, hrounds _ h]
  rfl

/-- A digest has 64 digits. -/
lemma length_digest (message : List UInt8) : (digest message).toList.length = 64 := by
  have hstate (blocks : List (List UInt32)) {state : Array UInt32} (h : state.size = 8) :
      (blocks.foldl absorb state).size = 8 := by
    induction blocks generalizing state with
    | nil => exact h
    | cons block blocks ih => exact ih (size_absorb h block)
  rw [digest, length_hexText, Array.length_toList, hstate _ rfl]

lemma isHexDigit_of_mem_digest {message : List UInt8} {c : Char}
    (h : c ∈ (digest message).toList) : IsHexDigit c := by
  rw [digest, hexText, String.toList_ofList] at h
  obtain ⟨b, -, hc⟩ := List.mem_flatMap.mp h
  exact isHexDigit_of_mem_hexDigits hc

end Sha256

end Digest

namespace Archive

open Text

/-! ### Digests -/

/-- What the short digests of sources look like. -/
structure IsDigest (d : String) : Prop where
  length : d.toList.length = 12
  isHexDigit : ∀ c ∈ d.toList, IsHexDigit c

lemma isDigest_shortDigest (source : String) : IsDigest (shortDigest source) where
  length := by
    rw [shortDigest, String.toList_ofList, List.length_take, Digest.Sha256.length_digest]
    rfl
  isHexDigit c hc := by
    rw [shortDigest, String.toList_ofList] at hc
    exact Digest.Sha256.isHexDigit_of_mem_digest (List.mem_of_mem_take hc)

/-! ### Names -/

/-- A suffix of source files that the names of metadata files do not have: no slash and no
underscore is in it. A dot with letters behind it is one. -/
def IsSuffix (suffix : String) : Prop :=
  ∀ c ∈ suffix.toList, c ≠ '/' ∧ c ≠ '_'

section Names

variable {d d' suffix suffix' : String}

lemma toList_metaName (d : String) :
    (metaName d).toList = "variant_".toList ++ d.toList ++ "_meta.json".toList := by
  simp only [metaName, String.toList_append, toString]

lemma toList_sourceName (d suffix : String) :
    (sourceName d suffix).toList = "variant_".toList ++ (d.toList ++ suffix.toList) := by
  simp only [sourceName, String.toList_append, toString, List.append_assoc]

lemma metaName_inj : metaName d = metaName d' ↔ d = d' := by
  refine ⟨fun h => ?_, congrArg metaName⟩
  have hchars := congrArg String.toList h
  rw [toList_metaName, toList_metaName] at hchars
  exact String.toList_inj.mp (List.append_cancel_left (List.append_cancel_right hchars))

/-- The name of a source file tells the digest. -/
lemma digest_eq_of_sourceName (hd : IsDigest d) (hd' : IsDigest d')
    (h : sourceName d suffix = sourceName d' suffix') : d = d' := by
  have hchars := congrArg String.toList h
  rw [toList_sourceName, toList_sourceName] at hchars
  exact String.toList_inj.mp (List.append_inj_left (List.append_cancel_left hchars)
    (hd.length.trans hd'.length.symm))

lemma endsWith_iff {s ending : String} :
    s.endsWith ending = true ↔ ending.toList <:+ s.toList := by
  rw [String.endsWith_eq_endsWith_toSlice, String.Slice.endsWith_string_iff, String.copy_toSlice]

lemma isMetaName_metaName (hd : IsDigest d) : isMetaName (metaName d) = true := by
  have hlength : "variant_".length + "_meta.json".length ≤ (metaName d).length := by
    rw [← String.length_toList (s := metaName d), toList_metaName, List.length_append,
      List.length_append, hd.length]
    decide
  rw [isMetaName, Bool.and_eq_true, Bool.and_eq_true, decide_eq_true_eq,
    String.startsWith_string_iff, endsWith_iff, toList_metaName]
  exact ⟨⟨hlength, _, (List.append_assoc _ _ _).symm⟩, List.suffix_append _ _⟩

/-- No source file has the name of a metadata file. -/
lemma isMetaName_sourceName (hd : IsDigest d) (hsuffix : IsSuffix suffix) :
    isMetaName (sourceName d suffix) = false := by
  rw [Bool.eq_false_iff, isMetaName, ne_eq, Bool.and_eq_true, endsWith_iff,
    toList_sourceName]
  rintro ⟨-, hending⟩
  -- The ending is so short that its underscore would stand in the digest or in the suffix.
  have hbehind : "_meta.json".toList <:+ d.toList ++ suffix.toList := by
    refine List.suffix_of_suffix_length_le hending (List.suffix_append _ _) ?_
    have hlength : "_meta.json".toList.length = 10 := rfl
    rw [List.length_append, hd.length, hlength]
    omega
  rcases List.mem_append.mp (hbehind.subset (show '_' ∈ "_meta.json".toList by decide))
    with h | h
  · exact (hd.isHexDigit _ h).ne.1 rfl
  · exact (hsuffix _ h).2 rfl

/-- What is part of a name in a directory: no slash, and more than dots. -/
lemma slash_notMem_metaName (hd : IsDigest d) : '/' ∉ (metaName d).toList := by
  rw [toList_metaName, List.mem_append, List.mem_append]
  rintro ((h | h) | h)
  · revert h
    decide
  · exact (hd.isHexDigit _ h).ne.2.1 rfl
  · revert h
    decide

lemma slash_notMem_sourceName (hd : IsDigest d) (hsuffix : IsSuffix suffix) :
    '/' ∉ (sourceName d suffix).toList := by
  rw [toList_sourceName, List.mem_append, List.mem_append]
  rintro (h | h | h)
  · revert h
    decide
  · exact (hd.isHexDigit _ h).ne.2.1 rfl
  · exact (hsuffix _ h).1 rfl

lemma nul_notMem_metaName (hd : IsDigest d) : '\x00' ∉ (metaName d).toList := by
  rw [toList_metaName, List.mem_append, List.mem_append]
  rintro ((h | h) | h)
  · revert h
    decide
  · exact (hd.isHexDigit _ h).ne.2.2 rfl
  · revert h
    decide

lemma length_metaName_gt (d : String) : 2 < (metaName d).length := by
  have hlength : "variant_".toList.length = 8 := rfl
  rw [← String.length_toList, toList_metaName, List.length_append, List.length_append, hlength]
  omega

lemma length_sourceName_gt (d suffix : String) : 2 < (sourceName d suffix).length := by
  have hlength : "variant_".toList.length = 8 := rfl
  rw [← String.length_toList, toList_sourceName, List.length_append, hlength]
  omega

end Names

end Archive

end VariantRepair

/-!
## What the files of an archive hold

An archive keeps a source file and a metadata file for each of its variants, and there are no other
metadata files in its directory. Saving a source, whether it succeeds or not, leaves the files of
all other variants as they are. An archive that is opened on these files has what they hold.
-/

namespace VariantRepair.Archive

open Host

variable {m m' : Machine} {directory : Path} {place q : Place} {old : Option Content}
  {c : Content} {d : String} {name : String}

/-- What the files of a variant hold. -/
structure Stored where
  source : String
  suffix : String
  metadata : List (Value × Value)

/-- The files of a variant are below a directory, and its digest is that of its source. -/
structure IsStored (m : Machine) (directory : Path) (d : String) (v : Stored) : Prop where
  digest : shortDigest v.source = d
  suffix : IsSuffix v.suffix
  isMeta : IsMeta d (sourceName d v.suffix) v.metadata
  short : (Value.map v.metadata).isOverlong = false
  source : m.HasText (directory.child (sourceName d v.suffix)).text v.source
  text : m.HasText (directory.child (metaName d)).text
    (Json.write Json.blockLayout (.map v.metadata))

lemma IsStored.isDigest {v : Stored} (h : IsStored m directory d v) : IsDigest d :=
  h.digest ▸ isDigest_shortDigest v.source

/-- The directory of an archive has the files of some variants, by digest, and no metadata files of
others. -/
structure Stores (m : Machine) (directory : Path) (q : Place) (disk : String → Option Stored) :
    Prop where
  isNormal : directory.IsNormal
  nul : '\x00' ∉ directory.text.toList
  find : m.files.find m.directory directory.text = .ok (q, .directory)
  names : ∀ name ∈ m.files.names q, isMetaName name = true →
    ∃ d v, disk d = some v ∧ name = metaName d
  stored : ∀ d v, disk d = some v → IsStored m directory d v

namespace Stores

variable {disk : String → Option Stored}

lemma placeOf_child (h : Stores m directory q disk) (hslash : '/' ∉ name.toList)
    (hlong : 2 < name.length) :
    FileTree.placeOf m.directory (directory.child name).text = q ++ [name] := by
  rw [FileTree.placeOf_child h.isNormal hslash hlong,
    ← FileTree.eq_placeOf_of_locate (FileTree.find_eq_ok_iff.mp h.find).1]

/-- A file below the directory is written at the place of its name. -/
lemma place_eq (h : Stores m directory q disk) (hslash : '/' ∉ name.toList)
    (hlong : 2 < name.length) (hopens : Opens m (directory.child name).text place old) :
    place = q ++ [name] :=
  (FileTree.eq_placeOf_of_locate hopens.locate).trans (h.placeOf_child hslash hlong)

/-- A text below the directory stays while a file with another name is written. -/
lemma hasText_set (h : Stores m directory q disk) (hslash : '/' ∉ name.toList)
    (hlong : 2 < name.length) {path text : String} {name' : String}
    (htext : m.HasText (directory.child name).text text) (hopens : Opens m path (q ++ [name']) old)
    (hne : name ≠ name') (c : Content) :
    ({ m with files := m.files.set (q ++ [name']) (.file c) } : Machine).HasText
      (directory.child name).text text := by
  refine htext.set hopens ?_ c
  rw [h.placeOf_child hslash hlong]
  simpa using hne

/-- A variant stays while a file that is not one of its own is written. -/
lemma isStored_set (h : Stores m directory q disk) {v : Stored} (hv : disk d = some v)
    {path : String} (hopens : Opens m path (q ++ [name]) old)
    (hsource : sourceName d v.suffix ≠ name) (hmeta : metaName d ≠ name) (c : Content) :
    IsStored { m with files := m.files.set (q ++ [name]) (.file c) } directory d v := by
  have hstored := h.stored d v hv
  have hd := hstored.isDigest
  exact { hstored with
    source := h.hasText_set (slash_notMem_sourceName hd hstored.suffix) (length_sourceName_gt _ _)
      hstored.source hopens hsource c
    text := h.hasText_set (slash_notMem_metaName hd) (length_metaName_gt _) hstored.text hopens
      hmeta c }

lemma find_set (h : Stores m directory q disk) {path : String} (hopens : Opens m path place old)
    (c : Content) :
    (m.files.set place (.file c)).find m.directory directory.text = .ok (q, .directory) := by
  obtain ⟨hlocate, hget⟩ := FileTree.find_eq_ok_iff.mp h.find
  have hstay := FileTree.DirectoriesStay.set hopens.not_directory (.file c)
  exact FileTree.find_eq_ok_iff.mpr
    ⟨FileTree.locate_of_directoriesStay hstay hlocate, hstay q hget⟩

/-! ### Writing -/

/-- A source file of a new variant is written beside the files of the others. -/
lemma writeSource (h : Stores m directory q disk) {suffix : String} (hd : IsDigest d)
    (hsuffix : IsSuffix suffix) (hnew : disk d = none)
    (hopens : Opens m (directory.child (sourceName d suffix)).text place old) (c : Content) :
    Stores { m with files := m.files.set place (.file c) } directory q disk := by
  obtain rfl := h.place_eq (slash_notMem_sourceName hd hsuffix) (length_sourceName_gt _ _) hopens
  have hnotMeta := isMetaName_sourceName hd hsuffix
  refine ⟨h.isNormal, h.nul, h.find_set hopens c, fun name hname hmeta => ?_, fun d' v hv => ?_⟩
  · rcases FileTree.mem_names_set.mp hname with heq | hname
    · obtain rfl : sourceName d suffix = name := by simpa using heq
      rw [hnotMeta] at hmeta
      cases hmeta
    · exact h.names name hname hmeta
  · have hd' := (h.stored d' v hv).isDigest
    refine h.isStored_set hv hopens (fun heq => ?_) (fun heq => ?_) c
    · obtain rfl := digest_eq_of_sourceName hd' hd heq
      cases hv.symm.trans hnew
    · have hmeta := isMetaName_metaName hd'
      rw [heq, hnotMeta] at hmeta
      cases hmeta

/-- A metadata file is written beside the files of the other variants. -/
lemma writeMeta (h : Stores m directory q disk) {v : Stored} (hdigest : shortDigest v.source = d)
    (hsuffix : IsSuffix v.suffix) (hmeta : IsMeta d (sourceName d v.suffix) v.metadata)
    (hshort : (Value.map v.metadata).isOverlong = false)
    (hsource : m.HasText (directory.child (sourceName d v.suffix)).text v.source)
    (hopens : Opens m (directory.child (metaName d)).text place old) :
    Stores
      { m with
        files := m.files.set place
          (.file (.ofText (Json.write Json.blockLayout (.map v.metadata)))) }
      directory q (Function.update disk d (some v)) := by
  have hd : IsDigest d := hdigest ▸ isDigest_shortDigest v.source
  have hother {suffix d' : String} (hd' : IsDigest d') (hsuffix : IsSuffix suffix) :
      sourceName d' suffix ≠ metaName d := by
    intro heq
    have := isMetaName_metaName hd
    rw [← heq, isMetaName_sourceName hd' hsuffix] at this
    cases this
  have htext := hopens.hasText (Json.write Json.blockLayout (.map v.metadata))
  obtain rfl := h.place_eq (slash_notMem_metaName hd) (length_metaName_gt _) hopens
  refine ⟨h.isNormal, h.nul, h.find_set hopens _, fun name hname hname' => ?_, fun d' v' hv' => ?_⟩
  · rcases FileTree.mem_names_set.mp hname with heq | hname
    · obtain rfl : metaName d = name := by simpa using heq
      exact ⟨d, v, Function.update_self _ _ _, rfl⟩
    · obtain ⟨d', v', hv', rfl⟩ := h.names name hname hname'
      by_cases hsame : d' = d
      · subst hsame
        exact ⟨d', v, Function.update_self _ _ _, rfl⟩
      · exact ⟨d', v', (Function.update_of_ne hsame _ _).trans hv', rfl⟩
  · by_cases hsame : d' = d
    · subst hsame
      rw [Function.update_self] at hv'
      obtain rfl := Option.some.inj hv'
      exact ⟨hdigest, hsuffix, hmeta, hshort,
        h.hasText_set (slash_notMem_sourceName hd hsuffix) (length_sourceName_gt _ _) hsource hopens
          (hother hd hsuffix) _, htext⟩
    · rw [Function.update_of_ne hsame] at hv'
      have hstored := h.stored d' v' hv'
      exact h.isStored_set hv' hopens (hother hstored.isDigest hstored.suffix)
        (fun heq => hsame (metaName_inj.mp heq)) _

/-! ### Opening -/

lemma says_stored {v : Stored} (h : IsStored m directory d v) :
    Says (.ofText (Json.write Json.blockLayout (.map v.metadata))) d v.metadata := by
  have hread : Text.asRead (Json.write Json.blockLayout (.map v.metadata))
      = Json.write Json.blockLayout (.map v.metadata) :=
    Text.asRead_eq_self_iff.mpr (Json.return_notMem_writeAt h.isMeta.json 0)
  have hparse : Json.parse (Text.asRead (Json.write Json.blockLayout (.map v.metadata)))
      = .ok (.map v.metadata) :=
    hread.symm ▸ Json.parse_write h.isMeta.json h.short
  have hsha : ((Value.field "sha" v.metadata).getD (.str "")).text = d := by
    rw [h.isMeta.sha]
    rfl
  have hne : d ≠ "" := by
    rintro rfl
    cases h.isDigest.length
  exact hsha ▸ .object (Text.decodeUtf8_utf8Bytes _) hparse (hsha.symm ▸ hne)

lemma isMetaFile_iff {text : String} (h : Stores m (.ofText text) q disk) :
    IsMetaFile m (.ofText text) q c ↔
      ∃ d v, disk d = some v ∧ c = .ofText (Json.write Json.blockLayout (.map v.metadata)) := by
  constructor
  · rintro ⟨name, hname, hmeta, place, hfind⟩
    obtain ⟨d, v, hv, rfl⟩ := h.names name hname hmeta
    obtain ⟨-, place', hfind'⟩ := (h.stored d v hv).text
    cases hfind.symm.trans hfind'
    exact ⟨d, v, hv, rfl⟩
  · rintro ⟨d, v, hv, rfl⟩
    have hd := (h.stored d v hv).isDigest
    obtain ⟨-, place, hfind⟩ := (h.stored d v hv).text
    obtain ⟨hlocate, hget⟩ := FileTree.find_eq_ok_iff.mp hfind
    obtain rfl : place = q ++ [metaName d] := (FileTree.eq_placeOf_of_locate hlocate).trans
      (h.placeOf_child (slash_notMem_metaName hd) (length_metaName_gt d))
    exact ⟨metaName d, FileTree.mem_names_of_get? hget, isMetaName_metaName hd, _, hfind⟩

/-- An archive that is opened has what the files hold, and nothing changes. -/
lemma run_open {text : String} (h : Stores m (.ofText text) q disk) (suffix : String) :
    ∃ a, («open» text suffix).run m = (.ok a, m) ∧ a.directory = .ofText text ∧
      a.suffix = suffix ∧ (a.index.map Prod.fst).Nodup ∧
      ∀ d, a.index.lookup d = (disk d).map Stored.metadata := by
  have hmeaning {d : String} {v : Stored} (hv : disk d = some v) :
      meaning (.ofText (Json.write Json.blockLayout (.map v.metadata)))
        = .ok (some (d, v.metadata)) :=
    meaning_eq_some_iff.mpr (says_stored (h.stored d v hv))
  have hnul : ∀ name ∈ m.files.names q, isMetaName name = true → '\x00' ∉ name.toList := by
    intro name hname hmeta
    obtain ⟨d, v, hv, rfl⟩ := h.names name hname hmeta
    exact nul_notMem_metaName (h.stored d v hv).isDigest
  rcases run_open_cases (run_needDirectories_of_find h.nul h.find) h.find suffix hnul
    with ⟨c, f, hc, hstops, -⟩ | ⟨-, a, hrun, hindexes⟩
  · obtain ⟨d, v, hv, rfl⟩ := h.isMetaFile_iff.mp hc
    cases (meaning_eq_error_iff.mpr hstops).symm.trans (hmeaning hv)
  · obtain ⟨hdirectory, hsuffix⟩ := of_run_open hrun
    refine ⟨a, hrun, hdirectory, hsuffix, hindexes.nodup, fun d => ?_⟩
    have hsaid (metadata : List (Value × Value)) (hlookup : a.index.lookup d = some metadata) :
        (disk d).map Stored.metadata = some metadata := by
      obtain ⟨c, hc, hsaid⟩ := hindexes.said d metadata hlookup
      obtain ⟨d', v, hv, rfl⟩ := h.isMetaFile_iff.mp hc
      obtain ⟨rfl, rfl⟩ := Prod.mk.inj (Option.some.inj (Except.ok.inj
        ((meaning_eq_some_iff.mpr hsaid).symm.trans (hmeaning hv))))
      rw [hv, Option.map_some]
    cases hlookup : a.index.lookup d with
    | some metadata => rw [hsaid metadata hlookup]
    | none =>
      cases hv : disk d with
      | none => rfl
      | some v =>
        have hthere := hindexes.indexed _ (h.isMetaFile_iff.mpr ⟨d, v, hv, rfl⟩) _ _
          (meaning_eq_some_iff.mp (hmeaning hv))
        rw [hlookup] at hthere
        cases hthere

end Stores

end VariantRepair.Archive
