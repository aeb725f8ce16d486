import Mathlib.Tactic.Common
import VariantRepair.Proofs.Cache.Restored
import VariantRepair.Proofs.Host.Kept

/-!
# A cache is written as a whole or not at all

The outcomes of a cache are written to a temporary file, which then takes the place of the cache
file. Whatever fails on the way, from making the directory to the move itself, the cache file is as
it was, the temporary file is gone, and no other file is touched. Writing the temporary file may
break off at any point: its content does not matter then.
-/

namespace VariantRepair

open Host

variable {m m' : Machine}

/-! ### Writing that breaks off -/

/-- A way to write a file: it cannot be opened and nothing changes, or it gets its content, or
writing it breaks off when it has some other content. -/
def Host.IsWriter (w : String → Content → Action Unit) : Prop :=
  ∀ path content m, (∃ f, (w path content).run m = (.error f, m)) ∨
    ∃ place old, Opens m path place old ∧
      ((w path content).run m = (.ok (), { m with files := m.files.set place (.file content) }) ∨
        ∃ f rest, (w path content).run m
          = (.error f, { m with files := m.files.set place (.file rest) }))

lemma Host.isWriter_writeContent : IsWriter writeContent := by
  intro path content m
  rcases run_writeContent_cases path content m with hfails | ⟨place, old, hopens, hrun⟩
  · exact .inl hfails
  · exact .inr ⟨place, old, hopens, .inl hrun⟩

lemma Host.FileTree.erase_set (t : FileTree) (place : Place) (e : Entry) :
    (t.set place e).erase place = t.erase place := by
  simp [FileTree.set, FileTree.erase, List.filter_append, List.filter_filter]

namespace Cache

variable {c : Cache} {w : String → Content → Action Unit} {temporary : String}

/-- Write the temporary file in some way and move it to the cache file; it is gone afterwards. -/
def writeThroughBy (w : String → Content → Action Unit) (c : Cache) (temporary : String) :
    Action Unit := do
  try
    w temporary (.record (.value c.toValue))
    moveFile temporary c.path.text
  catch f =>
    discard temporary
    throw f
  discard temporary

/-- Write all outcomes to the cache file, where the temporary file is written in some way. -/
def persistBy (w : String → Content → Action Unit) (c : Cache) : Action Unit := do
  ofExcept c.checkNames
  c.needParent
  c.writeThroughBy w (← c.temporaryPath).text

lemma persist_eq_persistBy (c : Cache) : c.persist = c.persistBy writeContent :=
  persist_eq c

/-! ### The temporary file -/

/-- A file that was just written is discarded. -/
lemma run_discard_of_opens {place : Place} {old : Option Content} (h : Opens m temporary place old)
    (content : Content) :
    (discard temporary).run { m with files := m.files.set place (.file content) }
      = (.ok (), { m with files := m.files.erase place }) := by
  have hfind := h.find_set content
  rw [discard, run_bind_of_ok (run_fileExists_of_find h.nul hfind), if_pos rfl,
    run_deleteFile_of_find h.nul hfind, FileTree.erase_set]

/-- Discarding deletes a file or changes nothing. -/
lemma run_discard_cases (path : String) (m : Machine) :
    (∃ r, (discard path).run m = (r, m)) ∨
      ∃ place content, m.files.find m.directory path = .ok (place, .file content) ∧
        (discard path).run m = (.ok (), { m with files := m.files.erase place }) := by
  cases hexists : (fileExists path).run m with
  | mk r m₁ =>
    obtain rfl := run_eq_of_preserves (fun _ => preserves_fileExists path) hexists
    cases r with
    | error f => exact .inl ⟨.error f, run_bind_of_error hexists _⟩
    | ok found =>
      rw [discard, run_bind_of_ok hexists]
      cases found with
      | false => exact .inl ⟨.ok (), rfl⟩
      | true => exact run_deleteFile_cases path m₁

/-- What is no longer there is not discarded. -/
lemma run_discard_of_gone {place : Place}
    (hlocate : m.files.locate m.directory temporary = .ok place)
    (hgone : m.files.get? place = none) : (discard temporary).run m = (.ok (), m) :=
  run_bind_of_ok (run_fileExists_of_none (run_look_of_none hlocate hgone)) _

/-! ### What writing comes to -/

/-- What becomes of a machine when a cache is written by way of a temporary file. -/
inductive Written (c : Cache) (temporary : String) (m : Machine) :
    Except Failure Unit → Machine → Prop
  /-- Nothing was written. -/
  | unchanged (f : Failure) : Written c temporary m (.error f) m
  /-- The temporary file was deleted. -/
  | deleted (f : Failure) {place : Place}
      (hplace : place = FileTree.placeOf m.directory temporary)
      (hfree : m.files.get? place ≠ some .directory) :
      Written c temporary m (.error f) { m with files := m.files.erase place }
  /-- The temporary file took the place of the cache file. -/
  | moved {place goal : Place} (hplace : place = FileTree.placeOf m.directory temporary)
      (hgoal : goal = FileTree.placeOf m.directory c.path.text) (hne : place ≠ goal)
      (hfree : m.files.get? place ≠ some .directory) (hopen : m.files.get? goal ≠ some .directory)
      (hfile : FileAt { m with
        files := (m.files.erase place).set goal (.file (.record (.value c.toValue))) }
        c.path.text (.record (.value c.toValue))) :
      Written c temporary m (.ok ())
        { m with files := (m.files.erase place).set goal (.file (.record (.value c.toValue))) }

/-- What fails on the way to the cache file fails in the end, when the temporary file is
discarded. -/
lemma run_writeThroughBy_of_error {f : Failure}
    (h : (do
      w temporary (.record (.value c.toValue))
      moveFile temporary c.path.text : Action Unit).run m = (.error f, m')) :
    ∃ f', (c.writeThroughBy w temporary).run m
      = (.error f', ((discard temporary).run m').2) := by
  have hcaught := run_tryCatch_of_error h fun f => do
    discard temporary
    throw f
  cases hdiscard : (discard temporary).run m' with
  | mk r m'' =>
    cases r with
    | ok u =>
      rw [run_bind_of_ok hdiscard] at hcaught
      exact ⟨f, run_bind_of_error hcaught _⟩
    | error f' =>
      rw [run_bind_of_error hdiscard] at hcaught
      exact ⟨f', run_bind_of_error hcaught _⟩

/-- What fails once the temporary file has been opened leaves it deleted. -/
lemma exists_written_of_error {place : Place} {old : Option Content} {content : Content}
    {f : Failure} (hopens : Opens m temporary place old)
    (h : (do
      w temporary (.record (.value c.toValue))
      moveFile temporary c.path.text : Action Unit).run m
        = (.error f, { m with files := m.files.set place (.file content) })) :
    ∃ r m', (c.writeThroughBy w temporary).run m = (r, m') ∧ Written c temporary m r m' := by
  obtain ⟨f', hfails⟩ := run_writeThroughBy_of_error h
  refine ⟨_, _, hfails, ?_⟩
  rw [run_discard_of_opens hopens]
  exact .deleted f' (FileTree.eq_placeOf_of_locate hopens.locate) hopens.not_directory

/-- A temporary file that has its content takes the place of the cache file, or is deleted where it
cannot be moved. -/
lemma exists_written_of_run {place : Place} {old : Option Content}
    (hopens : Opens m temporary place old)
    (hrun : (w temporary (.record (.value c.toValue))).run m
      = (.ok (), { m with files := m.files.set place (.file (.record (.value c.toValue))) }))
    (hne : FileTree.placeOf m.directory temporary ≠ FileTree.placeOf m.directory c.path.text) :
    ∃ r m', (c.writeThroughBy w temporary).run m = (r, m') ∧ Written c temporary m r m' := by
  let record : Content := .record (.value c.toValue)
  have hsteps := run_bind_of_ok hrun fun _ => moveFile temporary c.path.text
  rcases run_moveFile_cases temporary c.path.text
      { m with files := m.files.set place (.file record) } with
    ⟨f, hmove⟩ | ⟨place', goal, e, hmoves, hmove⟩
  · exact exists_written_of_error hopens (hsteps.trans hmove)
  · obtain ⟨rfl, rfl⟩ :=
      Prod.mk.inj (Except.ok.inj ((hopens.find_set record).symm.trans hmoves.find))
    have hplace := FileTree.eq_placeOf_of_locate hopens.locate
    have hgoal := FileTree.eq_placeOf_of_locate hmoves.locate
    have hplaces : place ≠ goal := by
      rw [hplace, hgoal]
      exact hne
    have hopen := hmoves.not_directory
    rw [FileTree.get?_set_of_ne _ _ hplaces.symm] at hopen
    have hstay := (FileTree.DirectoriesStay.set hopens.not_directory _).trans hmoves.stay
    have hfile := hmoves.find_moved
    rw [FileTree.erase_set] at hmove hstay hfile
    have hgone : ((m.files.erase place).set goal (.file record)).get? place = none := by
      rw [FileTree.get?_set_of_ne _ _ hplaces, FileTree.get?_erase_self _ hopens.ne_nil]
    have hdiscard := run_discard_of_gone (m := { m with
      files := (m.files.erase place).set goal (.file record) })
      (FileTree.locate_of_directoriesStay hstay hopens.locate) hgone
    refine ⟨_, _, ?_, .moved hplace hgoal hplaces hopens.not_directory hopen
      ⟨hmoves.target_nul, goal, hfile⟩⟩
    exact (run_bind_of_ok (run_tryCatch_of_ok (hsteps.trans hmove) _) _).trans hdiscard

/-- However the temporary file is written, in the end it is gone, or nothing changed. -/
lemma exists_written (hw : IsWriter w)
    (hne : FileTree.placeOf m.directory temporary ≠ FileTree.placeOf m.directory c.path.text) :
    ∃ r m', (c.writeThroughBy w temporary).run m = (r, m') ∧ Written c temporary m r m' := by
  rcases hw temporary (.record (.value c.toValue)) m with
    ⟨f, hrun⟩ | ⟨place, old, hopens, hrun | ⟨f, rest, hrun⟩⟩
  · obtain ⟨f', hfails⟩ := run_writeThroughBy_of_error (run_bind_of_error hrun _)
    refine ⟨_, _, hfails, ?_⟩
    rcases run_discard_cases temporary m with
      ⟨r, hdiscard⟩ | ⟨place, content, hfind, hdiscard⟩
    · rw [hdiscard]
      exact .unchanged f'
    · rw [hdiscard]
      obtain ⟨hlocate, hget⟩ := FileTree.find_eq_ok_iff.mp hfind
      exact .deleted f' (FileTree.eq_placeOf_of_locate hlocate) (by rw [hget]; simp)
  · exact exists_written_of_run hopens hrun hne
  · exact exists_written_of_error hopens (run_bind_of_error hrun _)

/-! ### What is changed -/

namespace Written

variable {r : Except Failure Unit} {f : Failure}

/-- Writing that fails changes the temporary file at most. -/
lemma changesOnly_of_error (h : Written c temporary m (.error f) m') :
    m.ChangesOnly (· = FileTree.placeOf m.directory temporary) m' := by
  cases h with
  | unchanged f => exact .refl m
  | deleted f hplace hfree => exact .erase hplace hfree

/-- Writing that fails leaves no temporary file that was not there. -/
lemma temporary_of_error (h : Written c temporary m (.error f) m') :
    m'.files.get? (FileTree.placeOf m.directory temporary) = none ∨ m' = m := by
  cases h with
  | unchanged f => exact .inr rfl
  | deleted f hplace hfree =>
    refine .inl (hplace ▸ FileTree.get?_erase_self _ ?_)
    rintro rfl
    exact hfree (FileTree.get?_nil _)

/-- Writing changes the cache file and the temporary file at most. -/
lemma changesOnly (h : Written c temporary m r m') :
    m.ChangesOnly (fun q => q = FileTree.placeOf m.directory c.path.text ∨
      q = FileTree.placeOf m.directory temporary) m' := by
  cases h with
  | unchanged f => exact .refl m
  | deleted f hplace hfree => exact .erase (.inr hplace) hfree
  | @moved place goal hplace hgoal hne hfree hopen hfile =>
    refine .trans (m := { m with files := m.files.erase place }) (.erase (.inr hplace) hfree)
      (.set (.inl hgoal) ?_ _)
    rw [FileTree.get?_erase_of_ne _ hne.symm]
    exact hopen

/-- Writing that succeeds leaves the outcomes in the cache file, and no temporary file. -/
lemma of_ok (h : Written c temporary m (.ok ()) m') :
    FileAt m' c.path.text (.record (.value c.toValue)) ∧
      m'.files.get? (FileTree.placeOf m.directory temporary) = none := by
  cases h with
  | @moved place goal hplace hgoal hne hfree hopen hfile =>
    refine ⟨hfile, ?_⟩
    rw [← hplace, FileTree.get?_set_of_ne _ _ hne, FileTree.get?_erase_self]
    rintro rfl
    exact hfree (FileTree.get?_nil _)

end Written

/-- What is written of a cache holds its entries. -/
lemma exists_holds_toValue (hnames : c.checkNames = .ok ()) :
    ∃ ps es, c.toValue = .map ps ∧ Holds ps es ∧ es.Perm c.entries := by
  have hreadable := checkNames_eq_ok_iff.mp hnames
  refine ⟨_, sorted c.entries, toValue_eq c, ⟨rfl, ⟨_, rfl, by decide +kernel⟩, _, rfl, ?_⟩,
    sorted_perm _⟩
  refine List.forall₂_map_left_iff.mpr (List.forall₂_same.mpr fun e he => ?_)
  exact entryOf?_eq_some_iff.mp (entryOf?_entryValue (hreadable e ((sorted_perm _).subset he)))

/-! ### All or nothing -/

/-- How a machine is left when a cache is written. -/
structure LeavesWhole (c : Cache) (m : Machine) (r : Except Failure Unit) (m' : Machine) :
    Prop where
  /-- Only the cache file and the temporary file change. -/
  elsewhere : m.ChangesOnly (fun q => q = FileTree.placeOf m.directory c.path.text ∨
    q = FileTree.placeOf m.directory (c.temporaryAt m.process).text) m'
  /-- A temporary file that is there was there before. -/
  temporary : ∀ content,
    m'.files.get? (FileTree.placeOf m.directory (c.temporaryAt m.process).text)
      = some (.file content) →
    m.files.get? (FileTree.placeOf m.directory (c.temporaryAt m.process).text)
      = some (.file content)
  /-- On success the cache file has all entries of the cache, and no others. -/
  written : r = .ok () → ∃ ps es, FileAt m' c.path.text (.record (.value (.map ps))) ∧
    Holds ps es ∧ es.Perm c.entries
  /-- On failure the cache file is as it was. -/
  kept : ∀ f, r = .error f → ∀ content,
    m'.files.get? (FileTree.placeOf m.directory c.path.text) = some (.file content) ↔
      m.files.get? (FileTree.placeOf m.directory c.path.text) = some (.file content)

/-- A failure that comes before the temporary file is written. -/
lemma leavesWhole_of_changesOnly {f : Failure} (h : m.ChangesOnly (fun _ => False) m') :
    LeavesWhole c m (.error f) m' :=
  ⟨h.mono nofun, fun content => (h.get?_file_iff not_false content).mp, nofun,
    fun _ _ content => h.get?_file_iff not_false content⟩

lemma changesOnly_needParent {m₀ : Machine} {S : Place → Prop} (c : Cache) :
    Preserves (m₀.ChangesOnly S) c.needParent := by
  refine .bind (preserves_fileExists _) fun found => ?_
  split_ifs
  · exact changesOnly_needDirectories _
  · exact .pure _

/-- Writing that begins when directories were made at most. -/
lemma Written.leavesWhole {m₁ : Machine} {r : Except Failure Unit} (hnames : c.checkNames = .ok ())
    (hm₁ : m.ChangesOnly (fun _ => False) m₁)
    (hne : FileTree.placeOf m.directory (c.temporaryAt m.process).text
      ≠ FileTree.placeOf m.directory c.path.text)
    (h : Written c (c.temporaryAt m.process).text m₁ r m') : LeavesWhole c m r m' := by
  have hall := h.changesOnly
  rw [hm₁.directory_eq] at hall
  cases r with
  | ok u =>
    obtain ⟨hfile, hgone⟩ := h.of_ok
    rw [hm₁.directory_eq] at hgone
    obtain ⟨ps, es, hvalue, hholds, hperm⟩ := exists_holds_toValue hnames
    refine ⟨(hm₁.mono nofun).trans hall, fun content hget => ?_,
      fun _ => ⟨ps, es, hvalue ▸ hfile, hholds, hperm⟩, nofun⟩
    rw [hgone] at hget
    cases hget
  | error f =>
    have htemporary := h.changesOnly_of_error
    have hgone := h.temporary_of_error
    rw [hm₁.directory_eq] at htemporary hgone
    refine ⟨(hm₁.mono nofun).trans hall, fun content hget => ?_, nofun, fun _ _ content => ?_⟩
    · rcases hgone with hgone | rfl
      · rw [hgone] at hget
        cases hget
      · exact (hm₁.get?_file_iff not_false content).mp hget
    · exact (htemporary.get?_file_iff hne.symm content).trans
        (hm₁.get?_file_iff not_false content)

section Persist

variable (hnormal : c.path.IsNormal) (hprocess : '/' ∉ m.process.toList)

include hnormal hprocess

lemma leavesWhole_persistBy {r : Except Failure Unit} (hw : IsWriter w)
    (hrun : (c.persistBy w).run m = (r, m')) : LeavesWhole c m r m' := by
  rw [persistBy] at hrun
  cases hnames : c.checkNames with
  | error f =>
    rw [hnames] at hrun
    obtain ⟨rfl, rfl⟩ := Prod.mk.inj hrun
    exact leavesWhole_of_changesOnly (.refl m)
  | ok u =>
    have hcheck : (ofExcept c.checkNames : Action Unit).run m = (.ok u, m) := by
      rw [hnames]
      rfl
    rw [run_bind_of_ok hcheck] at hrun
    cases hparent : c.needParent.run m with
    | mk r₁ m₁ =>
      have hm₁ : m.ChangesOnly (fun _ => False) m₁ :=
        (changesOnly_needParent c).of_run (.refl m) hparent
      cases r₁ with
      | error f =>
        rw [run_bind_of_error hparent] at hrun
        obtain ⟨rfl, rfl⟩ := Prod.mk.inj hrun
        exact leavesWhole_of_changesOnly hm₁
      | ok u₁ =>
        rw [run_bind_of_ok hparent] at hrun
        by_cases hparts : c.path.parts = []
        · obtain ⟨f, hpath⟩ := run_temporaryPath_of_eq hparts m₁
          rw [run_bind_of_error hpath] at hrun
          obtain ⟨rfl, rfl⟩ := Prod.mk.inj hrun
          exact leavesWhole_of_changesOnly hm₁
        · have hne := placeOf_temporaryAt_ne hnormal hparts hprocess
          rw [run_bind_of_ok (run_temporaryPath_of_ne hparts m₁), hm₁.process_eq] at hrun
          obtain ⟨r', m₂, hwrite, hwritten⟩ := exists_written (m := m₁) hw (hne m₁.directory)
          obtain ⟨rfl, rfl⟩ := Prod.mk.inj (hwrite.symm.trans hrun)
          exact hwritten.leavesWhole hnames hm₁ (hne m.directory)

end Persist

end Cache

end VariantRepair
