import Mathlib.Tactic.Common
import VariantRepair.Proofs.Cache.Stored
import VariantRepair.Proofs.Host.Kept

/-!
# The file of a cache

Writing a cache first writes a temporary file, which has another name beside the cache file, and
then moves it. So at every point there is a cache file if there was one: it is as it was before, or
it holds the outcomes of the cache.
-/

namespace VariantRepair.Cache

open Host

variable {c : Cache} {m₀ m m' : Machine} {S : Place → Prop} {C : Content → Prop} {process : String}

/-! ### The temporary file -/

/-- The path of the temporary file that a process writes. -/
def temporaryAt (c : Cache) (process : String) : Path :=
  { c.path with parts := c.path.parts.dropLast ++ [c.path.name ++ ".tmp." ++ process] }

lemma run_temporaryPath_of_ne (h : c.path.parts ≠ []) (m : Machine) :
    c.temporaryPath.run m = (.ok (c.temporaryAt m.process), m) := by
  rw [temporaryPath, run_bind_of_ok (run_get m), Path.withName?,
    List.isEmpty_eq_false_iff.mpr h, if_neg Bool.false_ne_true]
  rfl

lemma run_temporaryPath_of_eq (h : c.path.parts = []) (m : Machine) :
    ∃ f, c.temporaryPath.run m = (.error f, m) := by
  refine ⟨.refused (.emptyName c.path.text), ?_⟩
  rw [temporaryPath, run_bind_of_ok (run_get m), Path.withName?, h]
  rfl

lemma parts_eq_append (h : c.path.parts ≠ []) :
    c.path.parts = c.path.parts.dropLast ++ [c.path.name] := by
  rw [Path.name, List.getLast?_eq_some_getLast h, Option.getD_some,
    List.dropLast_append_getLast h]

section Temporary

variable (hnormal : c.path.IsNormal) (hparts : c.path.parts ≠ []) (hprocess : '/' ∉ process.toList)

include hnormal hparts

lemma of_name : c.path.name ≠ "" ∧ c.path.name ≠ "." ∧ '/' ∉ c.path.name.toList := by
  refine hnormal.of_mem ?_
  rw [parts_eq_append hparts]
  exact List.mem_append_right _ (List.mem_singleton_self _)

include hprocess

lemma isNormal_temporaryAt : (c.temporaryAt process).IsNormal := by
  obtain ⟨hempty, hdot, hslash⟩ := of_name hnormal hparts
  refine hnormal.withParts fun s hs => ?_
  rcases List.mem_append.mp hs with hs | hs
  · exact hnormal.of_mem (List.dropLast_subset _ hs)
  · obtain rfl := List.mem_singleton.mp hs
    have htmp : ".tmp.".length = 5 := by decide
    have hshort {s : String} (hs : s.length < 5) : c.path.name ++ ".tmp." ++ process ≠ s := by
      rintro rfl
      rw [String.length_append, String.length_append, htmp] at hs
      omega
    have htmp_slash : '/' ∉ ".tmp.".toList := by decide
    refine ⟨hshort (by decide), hshort (by decide), ?_⟩
    rw [String.toList_append, String.toList_append, List.mem_append, List.mem_append, not_or,
      not_or]
    exact ⟨⟨hslash, htmp_slash⟩, hprocess⟩

/-- The temporary file is not the cache file. -/
lemma placeOf_temporaryAt_ne (directory : Place) :
    FileTree.placeOf directory (c.temporaryAt process).text
      ≠ FileTree.placeOf directory c.path.text := by
  obtain ⟨hempty, hdot, -⟩ := of_name hnormal hparts
  have htmp : ".tmp.".length = 5 := by decide
  rw [FileTree.placeOf_text (isNormal_temporaryAt hnormal hparts hprocess),
    FileTree.placeOf_text hnormal, parts_eq_append hparts, temporaryAt, List.foldl_append,
    List.foldl_append, String.append_assoc]
  refine FileTree.stepTo_append_ne ⟨hempty, hdot⟩ ?_
  rw [String.length_append, htmp]
  omega

end Temporary

/-! ### The steps of writing -/

/-- Make the directory of the cache file if it is missing. -/
def needParent (c : Cache) : Action Unit := do
  if !(← fileExists c.path.parent.text) then needDirectories c.path.parent

/-- Write the temporary file and move it to the cache file; it is gone afterwards. -/
def writeThrough (c : Cache) (temporary : String) : Action Unit := do
  try
    writeContent temporary (.record (.value c.toValue))
    moveFile temporary c.path.text
  catch f =>
    discard temporary
    throw f
  discard temporary

lemma persist_eq (c : Cache) :
    c.persist = (do
      ofExcept c.checkNames
      c.needParent
      c.writeThrough (← c.temporaryPath).text) := by
  rw [persist, needParent]
  refine congrArg _ (funext fun _ => ?_)
  rw [bind_assoc]
  refine congrArg _ (funext fun found => ?_)
  cases found with
  | true => rfl
  | false => rfl

/-- The names that can be written are those that can be read again. -/
lemma checkNames_eq_ok_iff : c.checkNames = .ok () ↔ ∀ e ∈ c.entries, e.1.2.IsReadable := by
  have hany : (c.entries.any fun e => Number.isOverlong e.1.2.index) = false
      ↔ ∀ e ∈ c.entries, e.1.2.IsReadable := by
    rw [List.any_eq_false]
    exact forall₂_congr fun e _ => Bool.eq_false_iff.symm.trans Test.isOverlong_eq_false_iff
  rw [← hany, checkNames]
  split_ifs with h
  · simp [h]
  · simp [h]

/-! ### Writing keeps the cache file -/

lemma keeps_discard {path : String} (hpath : ¬ S (FileTree.placeOf m₀.directory path)) :
    Preserves (m₀.Keeps S C) (discard path) := by
  refine .bind (preserves_fileExists path) fun found => ?_
  split_ifs
  · exact keeps_deleteFile hpath
  · exact .pure _

lemma keeps_needParent (c : Cache) : Preserves (m₀.Keeps S C) c.needParent := by
  refine .bind (preserves_fileExists _) fun found => ?_
  split_ifs
  · exact keeps_needDirectories _
  · exact .pure _

section Persist

variable (hS : ∀ place, S place → place = FileTree.placeOf m₀.directory c.path.text)
  (hC : C (.record (.value c.toValue)))

include hS hC

/-- The temporary file takes the place of the cache file. -/
lemma keeps_moveFile {temporary : String} {q : Place}
    (hm : m₀.Keeps S C m)
    (hfind : m.files.find m.directory temporary = .ok (q, .file (.record (.value c.toValue)))) :
    m₀.Keeps S C ((moveFile temporary c.path.text).run m).2 := by
  obtain ⟨f, hrun⟩ | ⟨place, goal, e, hmoves, hrun⟩ :=
    run_moveFile_cases temporary c.path.text m
  · rw [hrun]
    exact hm
  · rw [hrun]
    obtain ⟨rfl, rfl⟩ := Prod.mk.inj (Except.ok.inj (hmoves.find.symm.trans hfind))
    have hgoal : goal = FileTree.placeOf m₀.directory c.path.text := by
      rw [FileTree.eq_placeOf_of_locate hmoves.locate, hm.directory]
    refine ⟨hm.directory, hm.process, hm.environment, hm.stay.trans hmoves.stay,
      fun place' hplace' => ?_⟩
    rw [hS place' hplace', ← hgoal]
    exact ⟨_, FileTree.get?_set_self _ _ hmoves.goal_ne_nil, hC⟩

lemma keeps_writeThrough {temporary : String}
    (htemporary : ¬ S (FileTree.placeOf m₀.directory temporary)) :
    Preserves (m₀.Keeps S C) (c.writeThrough temporary) := by
  have hmove : Preserves (m₀.Keeps S C) (do
      writeContent temporary (.record (.value c.toValue))
      moveFile temporary c.path.text) := by
    refine .bind_spec (keeps_writeContent htemporary _) (Q := fun _ m => m₀.Keeps S C m ∧
      ∃ q, m.files.find m.directory temporary = .ok (q, .file (.record (.value c.toValue)))) ?_ ?_
    · intro m u m' hm hwrite
      have hm' := keeps_writeContent htemporary (.record (.value c.toValue)) m hm
      rw [hwrite] at hm'
      refine ⟨hm', ?_⟩
      obtain ⟨q, old, hopens, rfl⟩ := opens_of_run_writeContent hwrite
      exact ⟨q, hopens.find_set _⟩
    · rintro u m ⟨hm, q, hfind⟩
      exact keeps_moveFile hS hC hm hfind
  refine .bind (.tryCatch hmove fun f => ?_) fun _ => keeps_discard htemporary
  exact .bind (keeps_discard htemporary) fun _ => .throw _

/-- Writing a cache leaves the cache file as it was or with the outcomes of the cache, at whatever
point it fails. -/
lemma keeps_persist (hnormal : c.path.IsNormal) (hprocess : '/' ∉ m₀.process.toList) :
    Preserves (m₀.Keeps S C) c.persist := by
  rw [persist_eq]
  refine .bind (.ofExcept _) fun _ => .bind (keeps_needParent c) fun _ m hm => ?_
  by_cases hparts : c.path.parts = []
  · obtain ⟨f, hrun⟩ := run_temporaryPath_of_eq hparts m
    rw [run_bind_of_error hrun]
    exact hm
  · rw [run_bind_of_ok (run_temporaryPath_of_ne hparts m), hm.process]
    refine keeps_writeThrough hS hC (fun h => ?_) m hm
    exact placeOf_temporaryAt_ne hnormal hparts hprocess _ (hS _ h)

end Persist

/-! ### The file after writing -/

/-- What catches a failure and fails itself does not succeed after a failure. -/
lemma run_of_run_tryCatch_throw {a : Action Unit} {b : Failure → Action Unit}
    (h : (tryCatch a fun f => do b f; throw f).run m = (.ok (), m')) : a.run m = (.ok (), m') := by
  cases hrun : a.run m with
  | mk r m₁ =>
    cases r with
    | ok u => rwa [run_tryCatch_of_ok hrun] at h
    | error f =>
      rw [run_tryCatch_of_error hrun] at h
      obtain ⟨u, m₂, -, hthrow⟩ := exists_run_of_run_bind h
      cases hthrow

lemma find_of_run_writeThrough {temporary : String}
    (htemporary : FileTree.placeOf m.directory temporary
      ≠ FileTree.placeOf m.directory c.path.text)
    (h : (c.writeThrough temporary).run m = (.ok (), m')) :
    '\x00' ∉ c.path.text.toList ∧ ∃ place,
      m'.files.find m'.directory c.path.text = .ok (place, .file (.record (.value c.toValue))) := by
  obtain ⟨⟨⟩, m₁, htry, hdiscard⟩ := exists_run_of_run_bind h
  obtain ⟨⟨⟩, m₂, hwrite, hmove⟩ := exists_run_of_run_bind (run_of_run_tryCatch_throw htry)
  obtain ⟨q, old, hopens, hm₂⟩ := opens_of_run_writeContent hwrite
  have hdirectory : m₂.directory = m.directory := by rw [hm₂]
  have hfind : m₂.files.find m₂.directory temporary
      = .ok (q, .file (.record (.value c.toValue))) := by
    rw [hm₂]
    exact hopens.find_set _
  obtain ⟨f, hrun⟩ | ⟨place, goal, e, hmoves, hrun⟩ := run_moveFile_cases temporary c.path.text m₂
  · rw [hrun] at hmove
    cases hmove
  · obtain ⟨-, hm₁⟩ := Prod.mk.inj (hmove.symm.trans hrun)
    obtain ⟨rfl, rfl⟩ := Prod.mk.inj (Except.ok.inj (hmoves.find.symm.trans hfind))
    have hmoved : m₁.files.find m₁.directory c.path.text
        = .ok (goal, .file (.record (.value c.toValue))) := by
      rw [hm₁]
      exact hmoves.find_moved
    obtain ⟨hlocate, hget⟩ := FileTree.find_eq_ok_iff.mp hmoved
    have hgoal := FileTree.eq_placeOf_of_locate hlocate
    have hne : FileTree.placeOf m₁.directory temporary ≠ goal := by
      rw [hgoal, hm₁, hdirectory]
      exact htemporary
    -- what is done after the move leaves the cache file alone
    have hkept := keeps_discard (S := (· = goal)) (C := (· = .record (.value c.toValue))) hne m₁
      (.refl fun _ h => ⟨_, h ▸ hget, rfl⟩)
    rw [hdiscard] at hkept
    obtain ⟨content, hfound, rfl⟩ := hkept.find rfl hlocate
    exact ⟨hmoves.target_nul, goal, hfound⟩

/-- A cache that was written is in its file. -/
lemma of_run_persist (hnormal : c.path.IsNormal) (hprocess : '/' ∉ m.process.toList)
    (h : c.persist.run m = (.ok (), m')) :
    '\x00' ∉ c.path.text.toList ∧ ∃ place,
      m'.files.find m'.directory c.path.text = .ok (place, .file (.record (.value c.toValue))) := by
  rw [persist_eq] at h
  obtain ⟨⟨⟩, m₂, hnames, hsteps⟩ := exists_run_of_run_bind h
  rw [run_eq_of_preserves (fun _ => .ofExcept _) hnames] at hsteps
  obtain ⟨⟨⟩, m₁, hparent, hrest⟩ := exists_run_of_run_bind hsteps
  have hkept : m.Keeps (fun _ => False) (fun _ => True) m₁ := by
    simpa [hparent] using keeps_needParent c m (.refl nofun)
  by_cases hparts : c.path.parts = []
  · obtain ⟨f, hrun⟩ := run_temporaryPath_of_eq hparts m₁
    rw [run_bind_of_error hrun] at hrest
    cases hrest
  · rw [run_bind_of_ok (run_temporaryPath_of_ne hparts m₁), hkept.process] at hrest
    exact find_of_run_writeThrough
      (placeOf_temporaryAt_ne hnormal hparts hprocess _) hrest

/-! ### Reading -/

/-- A file with some content is found at a path. -/
def FileAt (m : Machine) (path : String) (content : Content) : Prop :=
  '\x00' ∉ path.toList ∧ ∃ place, m.files.find m.directory path = .ok (place, .file content)

lemma preserves_readEntries {I : Machine → Prop} (c : Cache) : Preserves I c.readEntries := by
  have hstored : Preserves I c.readStored :=
    .bind (preserves_isFile _) fun found => .ite_bind (.throw _) fun _ =>
      .tryCatch (preserves_readRecord _) fun _ => .throw _
  refine .bind hstored fun r => ?_
  split
  · exact .pure _
  · exact .throw _

lemma run_readEntries_of_file {r : Record} {entries : List (CacheKey × Bool)}
    (hfile : FileAt m c.path.text (.record r)) (hr : ofRecord r = .ok entries) :
    c.readEntries.run m = (.ok entries, m) := by
  obtain ⟨hnul, place, hfind⟩ := hfile
  have hstored : c.readStored.run m = (.ok r, m) := by
    rw [readStored, run_bind_of_ok (run_isFile_of_find hnul hfind)]
    exact run_tryCatch_of_ok (run_readRecord_of_find hnul hfind) _
  rw [readEntries, run_bind_of_ok hstored, hr]
  rfl

/-- Entries that were read are in the file at the path of the cache. -/
lemma file_of_run_readEntries {entries : List (CacheKey × Bool)}
    (h : c.readEntries.run m = (.ok entries, m')) :
    ∃ r, FileAt m c.path.text (.record r) ∧ ofRecord r = .ok entries := by
  obtain ⟨r, m₁, hstored, hread⟩ := exists_run_of_run_bind h
  have hr : ofRecord r = .ok entries := by
    cases hentries : ofRecord r with
    | ok entries' =>
      rw [hentries] at hread
      cases hread
      rfl
    | error f =>
      rw [hentries] at hread
      cases hread
  refine ⟨r, ?_, hr⟩
  obtain ⟨found, m₂, hisFile, hrest⟩ := exists_run_of_run_bind hstored
  obtain rfl := run_eq_of_preserves (fun I => preserves_isFile _) hisFile
  cases found with
  | false => cases hrest
  | true =>
    cases hrecord : (readRecord c.path.text).run m₂ with
    | mk answer m₃ =>
      cases answer with
      | ok r' =>
        have hsame := (run_tryCatch_of_ok hrecord _).symm.trans hrest
        obtain ⟨hanswer, -⟩ := Prod.mk.inj hsame
        obtain rfl := Except.ok.inj hanswer
        exact find_of_run_readRecord hrecord
      | error f =>
        have hsame := (run_tryCatch_of_error hrecord _).symm.trans hrest
        cases hsame

/-- Entries that are read are taken. -/
lemma run_restore_of_ok {entries : List (CacheKey × Bool)}
    (h : c.readEntries.run m = (.ok entries, m)) :
    ∃ out, c.restore.run m = (.ok (true, { c with entries }), { m with out }) := by
  rw [restore]
  exact ⟨_, (run_bind_of_ok (run_tryCatch_of_ok ((run_bind_of_ok h _).trans rfl) _) _).trans rfl⟩

/-- Where nothing can be read, a cache that is restored has no outcomes. -/
lemma of_run_restore_of_error {f : Failure} {answer : Bool × Cache}
    (h : c.readEntries.run m = (.error f, m)) (hrun : c.restore.run m = (.ok answer, m')) :
    answer = (false, { c with entries := [] }) ∧ ∃ err, m' = { m with err } := by
  rw [restore] at hrun
  obtain ⟨early, m₁, htry, hrest⟩ := exists_run_of_run_bind hrun
  have hcatch := (run_tryCatch_of_error (run_bind_of_error h _) _).symm.trans htry
  split at hcatch
  · obtain ⟨found, m₂, hexists, hwarn⟩ := exists_run_of_run_bind hcatch
    obtain rfl := run_eq_of_preserves (fun I => preserves_fileExists _) hexists
    cases found with
    | true =>
      cases hwarn
      cases hrest
      exact ⟨rfl, _, rfl⟩
    | false =>
      cases hwarn
      cases hrest
      exact ⟨rfl, _, rfl⟩
  · cases hcatch

/-- Where nothing is at its path, a cache that is restored has no outcomes. -/
lemma run_restore_of_missing (h : (look c.path.text).run m = (.ok none, m)) :
    c.restore.run m = (.ok (false, { c with entries := [] }), m) := by
  have hstored : c.readStored.run m = (.error (bad (.missing c.path.text)), m) := by
    rw [readStored, run_bind_of_ok (run_isFile_of_none h)]
    exact run_bind_of_error rfl _
  have hread : c.readEntries.run m = (.error (bad (.missing c.path.text)), m) :=
    run_bind_of_error hstored _
  rw [restore]
  refine (run_bind_of_ok ((run_tryCatch_of_error (run_bind_of_error hread _) _).trans
    ((run_bind_of_ok (run_fileExists_of_none h) _).trans rfl)) _).trans rfl

/-! ### Caches whose file can be written -/

/-- The cache file and the temporary file beside it can be written. -/
structure Accessible (c : Cache) (m : Machine) (goal temporary : Place) : Prop where
  parts : c.path.parts ≠ []
  parent_nul : '\x00' ∉ c.path.parent.text.toList
  parent : ∃ place, m.files.find m.directory c.path.parent.text = .ok (place, .directory)
  goal : Writable m c.path.text goal
  dots : endsInDots c.path.text = false
  temporary : Writable m (c.temporaryAt m.process).text temporary

namespace Accessible

variable {goal temporary : Place}

/-- A cache stays accessible while directories stay and none is made at the places of its files. -/
lemma of_stay (h : c.Accessible m goal temporary) {c' : Cache} (hc : c'.path = c.path)
    (hdirectory : m'.directory = m.directory) (hprocess : m'.process = m.process)
    (hstay : m.files.DirectoriesStay m'.files) (hgoal : m'.files.get? goal ≠ some .directory)
    (htemporary : m'.files.get? temporary ≠ some .directory) :
    c'.Accessible m' goal temporary := by
  have hat : (c'.temporaryAt m'.process) = c.temporaryAt m.process := by
    rw [temporaryAt, temporaryAt, hc, hprocess]
  refine ⟨by rw [hc]; exact h.parts, by rw [hc]; exact h.parent_nul, ?_, ?_,
    by rw [hc]; exact h.dots, ?_⟩
  · obtain ⟨place, hfind⟩ := h.parent
    obtain ⟨hlocate, hget⟩ := FileTree.find_eq_ok_iff.mp hfind
    refine ⟨place, FileTree.find_eq_ok_iff.mpr ⟨?_, hstay _ hget⟩⟩
    rw [hc, hdirectory]
    exact FileTree.locate_of_directoriesStay hstay hlocate
  · rw [hc]
    exact h.goal.of_stay hdirectory hstay hgoal
  · rw [hat]
    exact h.temporary.of_stay hdirectory hstay htemporary

lemma temporary_ne_goal (h : c.Accessible m goal temporary) (hnormal : c.path.IsNormal)
    (hprocess : '/' ∉ m.process.toList) : temporary ≠ goal := by
  rw [FileTree.eq_placeOf_of_locate h.temporary.locate,
    FileTree.eq_placeOf_of_locate h.goal.locate]
  exact placeOf_temporaryAt_ne hnormal h.parts hprocess m.directory

lemma run_needParent (h : c.Accessible m goal temporary) : c.needParent.run m = (.ok (), m) := by
  obtain ⟨place, hfind⟩ := h.parent
  rw [needParent, run_bind_of_ok (run_fileExists_of_find h.parent_nul hfind)]
  rfl

/-- An accessible cache is written, and stays accessible. -/
lemma run_persist (h : c.Accessible m goal temporary) (hstorable : IsStorable c.entries)
    (hnormal : c.path.IsNormal) (hprocess : '/' ∉ m.process.toList) :
    ∃ m', c.persist.run m = (.ok (), m') ∧ c.Accessible m' goal temporary := by
  have hne := h.temporary_ne_goal hnormal hprocess
  obtain ⟨old, hopens⟩ := h.temporary.exists_opens
  let content : Content := .record (.value c.toValue)
  let m₁ : Machine := { m with files := m.files.set temporary (.file content) }
  have hstay₁ : m.files.DirectoriesStay m₁.files := .set hopens.not_directory _
  have hgoal : Writable m₁ c.path.text goal := by
    refine h.goal.of_stay rfl hstay₁ ?_
    rw [FileTree.get?_set_of_ne _ _ hne.symm]
    exact h.goal.not_directory
  have hmoves : Moves m₁ (c.temporaryAt m.process).text c.path.text temporary goal
      (.file content) :=
    ⟨hopens.nul, hopens.find_set content, hgoal.nul, hgoal.locate, h.dots, hgoal.not_directory,
      hgoal.parent⟩
  let m₂ : Machine :=
    { m₁ with files := (m₁.files.erase temporary).set goal (.file content) }
  have hstay₂ : m.files.DirectoriesStay m₂.files := hstay₁.trans hmoves.stay
  have hgone : m₂.files.get? temporary = none := by
    rw [FileTree.get?_set_of_ne _ _ hne, FileTree.get?_erase_self _ hopens.ne_nil]
  have hlook : (look (c.temporaryAt m.process).text).run m₂ = (.ok none, m₂) :=
    run_look_of_none (FileTree.locate_of_directoriesStay hstay₂ hopens.locate) hgone
  have hdiscard : (discard (c.temporaryAt m.process).text).run m₂ = (.ok (), m₂) :=
    run_bind_of_ok (run_fileExists_of_none hlook) _
  refine ⟨m₂, ?_, h.of_stay rfl rfl rfl hstay₂ ?_ ?_⟩
  · have hnames : (ofExcept c.checkNames : Action Unit).run m = (.ok (), m) := by
      rw [checkNames_eq_ok_iff.mpr hstorable.readable]
      rfl
    rw [persist_eq, run_bind_of_ok hnames, run_bind_of_ok h.run_needParent,
      run_bind_of_ok (run_temporaryPath_of_ne h.parts m), writeThrough]
    have hsteps := (run_bind_of_ok (hopens.run_writeContent content) fun _ =>
      moveFile (c.temporaryAt m.process).text c.path.text).trans hmoves.run_moveFile
    exact (run_bind_of_ok (run_tryCatch_of_ok hsteps _) _).trans hdiscard
  · rw [FileTree.get?_set_self _ _ hmoves.goal_ne_nil]
    simp
  · rw [hgone]
    simp

end Accessible

end VariantRepair.Cache

/-!
## Caches that only grow

A cache that was read from its file has the outcomes that the file holds. Tests add to it only what
it does not know, so that it goes on having them, and a file that is written from it holds them as
well.
-/

namespace VariantRepair.Cache

open Host

variable {path : Path} {known entries : List (CacheKey × Bool)} {c : Cache} {digest : String}
  {test : Test}

/-- Caches of a kind take a test with a digest, whatever comes out of it. -/
def Takes (K : Cache → Prop) (digest : String) (test : Test) : Prop :=
  ∀ c, K c → K (c.recordEvaluation digest test) ∧ ∀ passed, K (c.add digest test passed)

/-- Caches of a kind take every test whose name can be read, with each digest by which one of them
does not know it. -/
def TakesNew (K : Cache → Prop) : Prop :=
  ∀ c digest (test : Test), K c → test.IsReadable → c.query digest test = none →
    Takes K digest test

lemma takesNew_true : TakesNew fun _ => True :=
  fun _ _ _ _ _ _ _ _ => ⟨trivial, fun _ => trivial⟩

/-- Entries know all outcomes that others know. -/
def Covers (entries known : List (CacheKey × Bool)) : Prop :=
  ∀ key passed, known.lookup key = some passed → entries.lookup key = some passed

/-- A file holds a cache that knows certain outcomes. -/
def HoldsAll (known : List (CacheKey × Bool)) (content : Content) : Prop :=
  ∃ r entries, content = .record r ∧ ofRecord r = .ok entries ∧ Covers entries known

/-- A cache for a path that knows certain outcomes and can be stored. -/
structure Extends (path : Path) (known : List (CacheKey × Bool)) (c : Cache) : Prop where
  path_eq : c.path = path
  storable : IsStorable c.entries
  covers : Covers c.entries known

lemma fields_recordEvaluation (c : Cache) (digest : String) (test : Test) :
    (c.recordEvaluation digest test).path = c.path ∧
      (c.recordEvaluation digest test).entries = c.entries := by
  rw [recordEvaluation]
  split_ifs <;> exact ⟨rfl, rfl⟩

namespace Extends

lemma recordEvaluation (h : Extends path known c) (digest : String) (test : Test) :
    Extends path known (c.recordEvaluation digest test) := by
  obtain ⟨hpath, hentries⟩ := fields_recordEvaluation c digest test
  refine ⟨hpath.trans h.path_eq, ?_, ?_⟩
  · rw [hentries]
    exact h.storable
  · rw [hentries]
    exact h.covers

/-- Outcomes that are not among the known ones may be added. -/
lemma add (h : Extends path known c) (htest : test.IsReadable)
    (hnew : known.lookup (digest, test) = none) (passed : Bool) :
    Extends path known (c.add digest test passed) := by
  have hkey : (digest, test).2.IsReadable := htest
  refine ⟨h.path_eq, h.storable.insertEntry hkey passed, fun key passed' hknown => ?_⟩
  have hne : key ≠ (digest, test) := by
    rintro rfl
    rw [hnew] at hknown
    cases hknown
  rw [Cache.add, lookup_insertEntry, if_neg hne]
  exact h.covers key passed' hknown

lemma takesNew : TakesNew (Extends path known) := by
  intro c digest test hc htest hquery c' hc'
  have hnew : known.lookup (digest, test) = none := by
    cases hknown : known.lookup (digest, test) with
    | none => rfl
    | some passed =>
      rw [query, hc.covers _ _ hknown] at hquery
      cases hquery
  exact ⟨hc'.recordEvaluation digest test, hc'.add htest hnew⟩

/-- A file that is written from such a cache holds the known outcomes. -/
lemma holdsAll (h : Extends path known c) : HoldsAll known (.record (.value c.toValue)) := by
  refine ⟨_, sorted c.entries, rfl, ofRecord_toValue h.storable, fun key passed hknown => ?_⟩
  rw [lookup_of_perm h.storable.nodup (sorted_perm c.entries)]
  exact h.covers key passed hknown

end Extends

/-! ### The file -/

/-- The cache file at a path knows certain outcomes. -/
def FileKnows (path : String) (known : List (CacheKey × Bool)) (m : Machine) : Prop :=
  ∃ content, FileAt m (Path.ofText path).text content ∧ HoldsAll known content

/-- What is read from a file that knows certain outcomes knows them. -/
lemma FileKnows.run_readEntries {path : String} {m : Machine} (h : FileKnows path known m) :
    ∃ entries, (ofPath path).readEntries.run m = (.ok entries, m) ∧ Covers entries known := by
  obtain ⟨content, hfile, r, entries, rfl, hr, hcovers⟩ := h
  have hfile : FileAt m (ofPath path).path.text (.record r) := hfile
  exact ⟨entries, run_readEntries_of_file hfile hr, hcovers⟩

/-- A file knows the outcomes that are read from it. -/
lemma fileKnows_of_run_readEntries {path : String} {m m' : Machine}
    (h : (ofPath path).readEntries.run m = (.ok known, m')) : FileKnows path known m := by
  obtain ⟨r, hfile, hr⟩ := file_of_run_readEntries h
  exact ⟨_, hfile, r, known, rfl, hr, fun _ _ h => h⟩

end VariantRepair.Cache
