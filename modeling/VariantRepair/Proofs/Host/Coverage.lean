import Mathlib.Tactic.Common
import VariantRepair.Bench.Localize
import VariantRepair.Proofs.Host.Kept
import VariantRepair.Proofs.Host.Texts
import VariantRepair.Proofs.Text.Words

/-!
# The coverage file of a process

A file in a directory that was made can be written unless its path is too long. It is deleted before
a process starts, and after the process it holds what the process left there and nothing else; what
is read back are the numbers among the words of that text.
-/

namespace VariantRepair.Host

variable {m m' : Machine} {path name : String} {place q : Place}

/-! ### Directories that were made -/

lemma find_of_run_look {e : Entry} (h : (look path).run m = (.ok (some e), m')) :
    ∃ place, m.files.find m.directory path = .ok (place, e) := by
  rw [look] at h
  split_ifs at h
  · cases h
  · rw [run_bind_of_ok (run_get m)] at h
    split at h
    · next place e' hfind =>
      cases h
      exact ⟨place, hfind⟩
    · cases h
    · cases h
    · cases h

/-- Is there a directory where a path leads? -/
def Machine.HasDirectory (m : Machine) (path : String) : Prop :=
  ∃ place, m.files.find m.directory path = .ok (place, .directory)

lemma Machine.HasDirectory.of_stay (h : m.HasDirectory path)
    (hdirectory : m'.directory = m.directory) (hstay : m.files.DirectoriesStay m'.files) :
    m'.HasDirectory path := by
  obtain ⟨place, hfind⟩ := h
  obtain ⟨hlocate, hget⟩ := FileTree.find_eq_ok_iff.mp hfind
  refine ⟨place, FileTree.find_eq_ok_iff.mpr ⟨?_, hstay place hget⟩⟩
  rw [hdirectory]
  exact FileTree.locate_of_directoriesStay hstay hlocate

lemma hasDirectory_of_run_isDirectory (h : (isDirectory path).run m = (.ok true, m')) :
    m'.HasDirectory path := by
  obtain ⟨e, m₁, hlook, hrest⟩ := exists_run_of_run_bind h
  obtain rfl := run_eq_of_preserves (fun I => preserves_look path) hlook
  split at hrest
  · cases hrest
    exact find_of_run_look hlook
  · cases hrest

lemma hasDirectory_of_run_makeDirectory {u : Unit}
    (h : (makeDirectory path).run m = (.ok u, m')) : m'.HasDirectory path := by
  obtain ⟨⟨⟩, m₁, hcheck, hrest⟩ := exists_run_of_run_bind h
  obtain ⟨-, rfl⟩ := run_checkText_of_ok hcheck
  rw [run_bind_of_ok (run_get m₁)] at hrest
  obtain ⟨place, m₂, hfault, hmake⟩ := exists_run_of_run_bind hrest
  obtain ⟨hlocate, rfl⟩ := run_orFault_of_ok hfault
  split at hmake
  · cases hmake
  · next hnone =>
    have hfree : m₂.files.get? place ≠ some .directory := by simp [hnone]
    have hne : place ≠ [] := by
      rintro rfl
      exact hfree (FileTree.get?_nil _)
    split at hmake
    · obtain rfl := (Prod.mk.inj hmake).2
      exact ⟨place, FileTree.find_eq_ok_iff.mpr
        ⟨FileTree.locate_of_directoriesStay (.set hfree _) hlocate,
          FileTree.get?_set_self _ _ hne⟩⟩
    · cases hmake
    · cases hmake

/-- A directory that could not be made may be there already. -/
lemma hasDirectory_of_run_unless {f : Failure} {u : Unit}
    (h : (do if f.isSystem && (← isDirectory path) then pure () else throw f : Action Unit).run m
      = (.ok u, m')) : m'.HasDirectory path := by
  obtain ⟨found, m₁, hfound, hrest⟩ := exists_run_of_run_bind h
  split_ifs at hrest with hif
  · obtain ⟨-, rfl⟩ := (Bool.and_eq_true _ _).mp hif
    cases hrest
    exact hasDirectory_of_run_isDirectory hfound
  · cases hrest

lemma hasDirectory_of_run_needDirectory {u : Unit}
    (h : (needDirectory path).run m = (.ok u, m')) : m'.HasDirectory path := by
  rw [needDirectory] at h
  cases hmake : (makeDirectory path).run m with
  | mk r m₁ =>
    cases r with
    | ok u' =>
      rw [run_tryCatch_of_ok hmake] at h
      cases h
      exact hasDirectory_of_run_makeDirectory hmake
    | error f =>
      rw [run_tryCatch_of_error hmake] at h
      exact hasDirectory_of_run_unless h

/-- Directories that were made, or were there, are there. -/
lemma hasDirectory_of_run_needDirectories {path : Path} {u : Unit}
    (h : (needDirectories path).run m = (.ok u, m')) : m'.HasDirectory path.text := by
  rw [needDirectories] at h
  cases hn : path.parts.length with
  | zero =>
    rw [hn] at h
    exact hasDirectory_of_run_needDirectory h
  | succ n =>
    rw [hn, needDirectories.climb] at h
    cases hmake : (makeDirectory path.text).run m with
    | mk r m₁ =>
      cases r with
      | ok u' =>
        rw [run_tryCatch_of_ok hmake] at h
        cases h
        exact hasDirectory_of_run_makeDirectory hmake
      | error f =>
        rw [run_tryCatch_of_error hmake] at h
        split at h
        · obtain ⟨⟨⟩, m₂, -, h⟩ := exists_run_of_run_bind h
          exact hasDirectory_of_run_needDirectory h
        · exact hasDirectory_of_run_unless h

/-- No directory is made at a path with a NUL character, and none is there. -/
lemma nul_notMem_of_run_needDirectories {path : Path} {u : Unit}
    (h : (needDirectories path).run m = (.ok u, m')) : '\x00' ∉ path.text.toList := by
  intro hnul
  have hmake : (makeDirectory path.text).run m = (.error (.refused .nulByte), m) := by
    refine run_bind_of_error ?_ _
    rw [checkText, if_pos (by simpa using hnul)]
    rfl
  have hlook : (look path.text).run m = (.ok none, m) := by
    rw [look, if_pos (by simpa using hnul)]
    rfl
  have hunless : (do
      if Failure.isSystem (.refused .nulByte) && (← isDirectory path.text) then pure ()
      else throw (.refused .nulByte) : Action Unit).run m = (.error (.refused .nulByte), m) :=
    run_bind_of_ok (run_bind_of_ok hlook _) _
  rw [needDirectories] at h
  cases hn : path.parts.length with
  | zero =>
    rw [hn, needDirectories.climb, needDirectory, run_tryCatch_of_error hmake, hunless] at h
    cases h
  | succ n =>
    rw [hn, needDirectories.climb, run_tryCatch_of_error hmake] at h
    cases hunless.symm.trans h

/-! ### Files that were deleted -/

/-- Where a path to a name in a directory leads a file can be written, if what is there can be
deleted. -/
lemma writable_of_run_deleteFile {directory : String} {u : Unit} (hname : FileTree.IsName name)
    (hdirectory : m.HasDirectory directory)
    (h : (deleteFile (directory ++ "/" ++ name)).run m = (.ok u, m')) :
    ∃ place, Writable m (directory ++ "/" ++ name) place := by
  obtain ⟨q, hq⟩ := hdirectory
  have hlocate := FileTree.locate_of_directory hname hq
  obtain ⟨⟨⟩, m₁, hcheck, hrest⟩ := exists_run_of_run_bind h
  obtain ⟨hnul, rfl⟩ := run_checkText_of_ok hcheck
  rw [run_bind_of_ok (run_get m₁)] at hrest
  split_ifs at hlocate with hlong
  · have hfind : m₁.files.find m₁.directory (directory ++ "/" ++ name) = .error .nameTooLong := by
      rw [FileTree.find, hlocate]
      rfl
    rw [hfind] at hrest
    cases hrest
  · refine ⟨q ++ [name], hnul, hlocate, fun hget => ?_, ?_⟩
    · rw [FileTree.find_eq_ok_iff.mpr ⟨hlocate, hget⟩] at hrest
      cases hrest
    · rw [List.dropLast_concat]
      exact (FileTree.find_eq_ok_iff.mp hq).2

/-- A path at which a file can be written can be cleared. -/
lemma Writable.exists_run_deleteFile (h : Writable m path place) :
    ∃ t, (deleteFile path).run m = (.ok (), { m with files := t }) ∧
      Writable { m with files := t } path place ∧ t.get? place = none := by
  cases hget : m.files.get? place with
  | none =>
    have hfind : m.files.find m.directory path = .error .missing := by
      rw [FileTree.find, h.locate]
      simp only [bind, Except.bind, hget]
      rfl
    refine ⟨m.files, ?_, h, hget⟩
    rw [deleteFile, run_bind_of_ok (run_checkText h.nul m), run_bind_of_ok (run_get m), hfind]
    rfl
  | some e =>
    cases e with
    | directory => exact absurd hget h.not_directory
    | file c =>
      have hne : place ≠ [] := by
        rintro rfl
        exact h.not_directory (FileTree.get?_nil _)
      have hnone := FileTree.get?_erase_self m.files hne
      refine ⟨_, run_deleteFile_of_find h.nul (FileTree.find_eq_ok_iff.mpr ⟨h.locate, hget⟩),
        ?_, hnone⟩
      exact h.of_stay rfl (.erase h.not_directory) (by simp [hnone])

/-! ### What a process leaves -/

/-- How the process that comes after `k` others ends. -/
def Machine.reply (m : Machine) (k : Nat) : Reply :=
  (m.replies[k]?).getD m.further

lemma Machine.reply_zero (m : Machine) : m.reply 0 = m.replies.head?.getD m.further := by
  rw [reply, List.head?_eq_getElem?]

/-- What is at the place of the coverage file when a process has left it there, or has not. -/
def leftBy (coverage : Option String) : Option Entry :=
  coverage.map fun text => .file (.ofText text)

/-- A process leaves its coverage text at the path that it is given. -/
lemma Writable.exists_run_leaveCoverage {env : Config.Environment} (h : Writable m path place)
    (hnone : m.files.get? place = none)
    (henv : env.lookup Program.coverageVariable = some path) (coverage : Option String) :
    ∃ t, (leaveCoverage (some env) coverage).run m = (.ok (), { m with files := t }) ∧
      Writable { m with files := t } path place ∧ t.get? place = leftBy coverage := by
  cases coverage with
  | none => exact ⟨m.files, rfl, h, hnone⟩
  | some text =>
    obtain ⟨old, hopens⟩ := h.exists_opens
    have hset := FileTree.get?_set_self m.files (.file (.ofText text)) hopens.ne_nil
    have hwrite := hopens.run_writeContent (.ofText text)
    have hstay : Writable { m with files := m.files.set place (.file (.ofText text)) } path place :=
      h.of_stay rfl (.set h.not_directory _) (by simp [hset])
    refine ⟨_, ?_, hstay, hset⟩
    have hleave : leaveCoverage (some env) (some text)
        = tryCatch (writeText path text) fun _ => pure () := by
      unfold leaveCoverage
      simp only [Option.bind_some, henv]
    rw [hleave]
    exact run_tryCatch_of_ok hwrite _

/-- What the one who started a process is told of its end. -/
def Ending.told : Ending → Except Failure Ending
  | .failed text => .error (.process text)
  | ending => .ok ending

lemma Ending.isOk_told_iff {ending : Ending} :
    (∃ e, ending.told = .ok e) ↔ ∀ text, ending ≠ .failed text := by
  cases ending <;> simp [told]

/-- A machine on which a process is being started: it is noted, and has taken the next reply. -/
def Machine.called (m : Machine) (call : Call) : Machine :=
  { m with replies := m.replies.drop 1, calls := m.calls ++ [call] }

lemma Machine.reply_called (m : Machine) (call : Call) (k : Nat) :
    (m.called call).reply k = m.reply (k + 1) := by
  rw [Machine.reply, Machine.reply, called, List.getElem?_drop, Nat.add_comm]

/-- Whoever starts a process is told of its end, once it has left its coverage text. -/
lemma run_start_of_leave {words : List String} {seconds : Float}
    {environment : Option Config.Environment} {m m' : Machine}
    (h : (leaveCoverage environment (m.reply 0).coverage).run
      (m.called ⟨words, seconds, environment⟩) = (.ok (), m')) :
    (start words seconds environment).run m = ((m.reply 0).ending.told, m') := by
  have hset : (set (m.called ⟨words, seconds, environment⟩) : Action Unit).run m
      = (.ok (), m.called ⟨words, seconds, environment⟩) := rfl
  rw [start, run_bind_of_ok (run_get m)]
  dsimp only
  rw [← Machine.called, run_bind_of_ok hset, ← Machine.reply_zero, run_bind_of_ok h]
  cases (m.reply 0).ending <;> rfl

/-- A machine after a process that was to leave its coverage text at a path: the text is there if
the process has left any, and the next process is the one that comes after it. -/
structure Machine.Left (m m' : Machine) (path : String) (place : Place) : Prop where
  writable : Writable m' path place
  get? : m'.files.get? place = leftBy (m.reply 0).coverage
  reply_eq : ∀ k, m'.reply k = m.reply (k + 1)

/-- Where nothing was, a process leaves its coverage text. -/
lemma Writable.exists_run_start {env : Config.Environment} (h : Writable m path place)
    (hnone : m.files.get? place = none)
    (henv : env.lookup Program.coverageVariable = some path) (words : List String)
    (seconds : Float) :
    ∃ m', (start words seconds (some env)).run m = ((m.reply 0).ending.told, m') ∧
      m.Left m' path place := by
  have hcalled : Writable (m.called ⟨words, seconds, some env⟩) path place :=
    ⟨h.nul, h.locate, h.not_directory, h.parent⟩
  obtain ⟨t, hleave, hwritable, hget⟩ :=
    hcalled.exists_run_leaveCoverage hnone henv (m.reply 0).coverage
  exact ⟨_, run_start_of_leave hleave, hwritable, hget,
    m.reply_called ⟨words, seconds, some env⟩⟩

/-! ### What is read back -/

/-- What a process left is read back: the numbers among the words of its text, none if there is no
text. -/
lemma Writable.run_readCoverage {coverage : Option String} (h : Writable m path place)
    (hget : m.files.get? place = leftBy coverage) :
    (Work.readCoverage path).run m = (.ok (coverage.elim [] Work.coveredAtoms), m) := by
  cases coverage with
  | none =>
    rw [Work.readCoverage, run_bind_of_ok (run_isFile_of_none (run_look_of_none h.locate hget))]
    rfl
  | some text =>
    have hfind := FileTree.find_eq_ok_iff.mpr ⟨h.locate, hget⟩
    have htext : m.HasText path text := ⟨h.nul, place, hfind⟩
    rw [Work.readCoverage, run_bind_of_ok (run_isFile_of_find h.nul hfind), if_pos rfl,
      run_bind_of_ok htext.run_readText, Text.asRead, Work.coveredAtoms, Text.words_unifyNewlines]
    rfl

end VariantRepair.Host
