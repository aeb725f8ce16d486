import Mathlib.Tactic.Common
import VariantRepair.Host.Files
import VariantRepair.Proofs.Failing
import VariantRepair.Proofs.Host.Tree

/-!
# What reading and writing files comes to

Looking at files changes nothing. A file that was written is at the place that its path leads to,
and every other place is as it was; no directory disappears.
-/

namespace VariantRepair.Host

variable {α : Type} {I : Machine → Prop} {m m' : Machine} {path target : String} {c : Content}

/-! ### Looking -/

lemma run_get (m : Machine) : (get : Action Machine).run m = (.ok m, m) := rfl

lemma run_checkText (h : '\x00' ∉ path.toList) (m : Machine) :
    (checkText path).run m = (.ok (), m) := by
  rw [checkText, if_neg (by simpa using h)]
  rfl

lemma run_checkText_of_ok (h : (checkText path).run m = (.ok (), m')) :
    '\x00' ∉ path.toList ∧ m' = m := by
  rw [checkText] at h
  split_ifs at h with hnul
  · cases h
  · cases h
    exact ⟨by simpa using hnul, rfl⟩

lemma run_orFault_of_ok {target : Option String} {r : Except FileFault α} {a : α}
    (h : (orFault path target r).run m = (.ok a, m')) : r = .ok a ∧ m' = m := by
  cases r with
  | ok a =>
    cases h
    exact ⟨rfl, rfl⟩
  | error fault => cases h

lemma preserves_checkText (s : String) : Preserves I (checkText s) := by
  rw [checkText]
  split_ifs
  · exact .throw _
  · exact .pure _

lemma preserves_orFault (path : String) (target : Option String) (r : Except FileFault α) :
    Preserves I (orFault path target r) := by
  cases r with
  | ok a => exact .pure a
  | error fault => exact .throw _

lemma preserves_look (path : String) : Preserves I (look path) := by
  rw [look]
  split_ifs
  · exact .pure _
  · refine .bind_get fun m hm => ?_
    split
    · exact .pure _
    · exact .pure _
    · exact .pure _
    · exact .throw _

lemma preserves_fileExists (path : String) : Preserves I (fileExists path) :=
  .bind (preserves_look path) fun _ => .pure _

lemma preserves_isFile (path : String) : Preserves I (isFile path) := by
  refine .bind (preserves_look path) fun e => ?_
  split <;> exact .pure _

lemma preserves_isDirectory (path : String) : Preserves I (isDirectory path) := by
  refine .bind (preserves_look path) fun e => ?_
  split <;> exact .pure _

lemma preserves_readContent (path : String) : Preserves I (readContent path) := by
  refine .bind (preserves_checkText path) fun _ => .bind_get fun m hm =>
    .bind (preserves_orFault _ _ _) fun found => ?_
  split
  · exact .pure _
  · exact .throw _

lemma preserves_readText (path : String) : Preserves I (readText path) := by
  refine .bind (preserves_readContent path) fun c => ?_
  split
  · split
    · exact .pure _
    · exact .throw _
  · exact .throw _

lemma preserves_readRecord (path : String) : Preserves I (readRecord path) := by
  refine .bind (preserves_readContent path) fun c => ?_
  split
  · exact .pure _
  · exact .throw _

lemma preserves_listNames (path : String) : Preserves I (listNames path) := by
  refine .bind (preserves_look path) fun e => ?_
  split
  · refine .bind_get fun m hm => ?_
    split <;> exact .pure _
  · exact .pure _

lemma preserves_resolve (path : Path) : Preserves I (resolve path) :=
  .bind (preserves_checkText _) fun _ => .bind_get fun _ _ => .pure _

lemma run_resolve {path : Path} (h : '\x00' ∉ path.text.toList) (m : Machine) :
    (resolve path).run m = (.ok (path.resolve m.directory), m) := by
  rw [resolve, run_bind_of_ok (run_checkText h m)]
  rfl

lemma eq_resolve_of_run {path p : Path} (h : (resolve path).run m = (.ok p, m')) :
    p = path.resolve m.directory ∧ m' = m := by
  obtain ⟨⟨⟩, m₁, hcheck, hrest⟩ := exists_run_of_run_bind h
  obtain ⟨-, rfl⟩ := run_checkText_of_ok hcheck
  rw [run_bind_of_ok (run_get m₁)] at hrest
  cases hrest
  exact ⟨rfl, rfl⟩

/-- What does not change any machine whatever leaves the machine as it is. -/
lemma run_eq_of_preserves {a : Action α} {r : Except Failure α}
    (h : ∀ I : Machine → Prop, Preserves I a) (hrun : a.run m = (r, m')) : m' = m := by
  have hsame := h (· = m) m rfl
  rwa [hrun] at hsame

/-- What is found at a path is what the tree has at its place. -/
lemma run_look_of_find {place : Place} {e : Entry} (hnul : '\x00' ∉ path.toList)
    (h : m.files.find m.directory path = .ok (place, e)) :
    (look path).run m = (.ok (some e), m) := by
  rw [look, if_neg (by simpa using hnul), run_bind_of_ok (run_get m), h]
  rfl

lemma run_fileExists_of_find {place : Place} {e : Entry} (hnul : '\x00' ∉ path.toList)
    (h : m.files.find m.directory path = .ok (place, e)) :
    (fileExists path).run m = (.ok true, m) :=
  run_bind_of_ok (run_look_of_find hnul h) _

lemma run_isFile_of_find {place : Place} (hnul : '\x00' ∉ path.toList)
    (h : m.files.find m.directory path = .ok (place, .file c)) :
    (isFile path).run m = (.ok true, m) :=
  run_bind_of_ok (run_look_of_find hnul h) _

lemma run_listNames_of_find {place : Place} (hnul : '\x00' ∉ path.toList)
    (h : m.files.find m.directory path = .ok (place, .directory)) :
    (listNames path).run m = (.ok (m.files.names place), m) := by
  rw [listNames, run_bind_of_ok (run_look_of_find hnul h)]
  dsimp only
  rw [run_bind_of_ok (run_get m), h]
  rfl

/-- What is at a path that leads to a place where nothing is: nothing. -/
lemma run_look_of_none {place : Place} (h : m.files.locate m.directory path = .ok place)
    (hnone : m.files.get? place = none) : (look path).run m = (.ok none, m) := by
  have hfind : m.files.find m.directory path = .error .missing := by
    rw [FileTree.find, h]
    simp only [bind, Except.bind, hnone]
    rfl
  rw [look]
  split_ifs
  · rfl
  · rw [run_bind_of_ok (run_get m), hfind]
    rfl

lemma run_fileExists_of_none (h : (look path).run m = (.ok none, m)) :
    (fileExists path).run m = (.ok false, m) :=
  run_bind_of_ok h _

lemma run_isFile_of_none (h : (look path).run m = (.ok none, m)) :
    (isFile path).run m = (.ok false, m) :=
  run_bind_of_ok h _

lemma run_readContent_of_find {place : Place} (hnul : '\x00' ∉ path.toList)
    (h : m.files.find m.directory path = .ok (place, .file c)) :
    (readContent path).run m = (.ok c, m) := by
  rw [readContent, run_bind_of_ok (run_checkText hnul m), run_bind_of_ok (run_get m), h]
  rfl

lemma run_readRecord_of_find {place : Place} {r : Record} (hnul : '\x00' ∉ path.toList)
    (h : m.files.find m.directory path = .ok (place, .file (.record r))) :
    (readRecord path).run m = (.ok r, m) := by
  rw [readRecord, run_bind_of_ok (run_readContent_of_find hnul h)]
  rfl

/-- What was read is in the file that the path leads to. -/
lemma find_of_run_readContent (h : (readContent path).run m = (.ok c, m')) :
    '\x00' ∉ path.toList ∧ ∃ place, m.files.find m.directory path = .ok (place, .file c) := by
  obtain ⟨⟨⟩, m₁, hcheck, hopen⟩ := exists_run_of_run_bind h
  obtain ⟨hnul, rfl⟩ := run_checkText_of_ok hcheck
  rw [run_bind_of_ok (run_get m₁)] at hopen
  obtain ⟨⟨place, e⟩, m₂, hfault, hfound⟩ := exists_run_of_run_bind hopen
  obtain ⟨hfind, rfl⟩ := run_orFault_of_ok hfault
  cases e with
  | file c' =>
    cases hfound
    exact ⟨hnul, place, hfind⟩
  | directory => cases hfound

lemma find_of_run_readRecord {r : Record} (h : (readRecord path).run m = (.ok r, m')) :
    '\x00' ∉ path.toList ∧
      ∃ place, m.files.find m.directory path = .ok (place, .file (.record r)) := by
  obtain ⟨c, m₁, hcontent, hrest⟩ := exists_run_of_run_bind h
  obtain rfl : c = .record r := by
    cases c with
    | bytes bs => cases hrest
    | record r' =>
      cases hrest
      rfl
  exact find_of_run_readContent hcontent

/-! ### Writing -/

/-- A file can be written at the place that its path leads to when a directory is above it and none
is at it. -/
structure Opens (m : Machine) (path : String) (place : Place) (old : Option Content) : Prop where
  nul : '\x00' ∉ path.toList
  locate : m.files.locate m.directory path = .ok place
  get? : m.files.get? place = old.map .file
  parent : old = none → m.files.get? place.dropLast = some .directory

lemma Opens.not_directory {place : Place} {old : Option Content} (h : Opens m path place old) :
    m.files.get? place ≠ some .directory := by
  rw [h.get?]
  cases old <;> simp

lemma Opens.ne_nil {place : Place} {old : Option Content} (h : Opens m path place old) :
    place ≠ [] := by
  rintro rfl
  exact h.not_directory (FileTree.get?_nil _)

/-- A path at which a file can be written and to which a file can be moved. -/
structure Writable (m : Machine) (path : String) (place : Place) : Prop where
  nul : '\x00' ∉ path.toList
  locate : m.files.locate m.directory path = .ok place
  not_directory : m.files.get? place ≠ some .directory
  parent : m.files.get? place.dropLast = some .directory

namespace Writable

variable {place : Place}

lemma exists_opens (h : Writable m path place) : ∃ old, Opens m path place old := by
  cases hget : m.files.get? place with
  | none => exact ⟨none, h.nul, h.locate, hget, fun _ => h.parent⟩
  | some e =>
    cases e with
    | directory => exact absurd hget h.not_directory
    | file c => exact ⟨some c, h.nul, h.locate, hget, nofun⟩

/-- A path stays writable while directories stay and none is made at its place. -/
lemma of_stay (h : Writable m path place) (hdirectory : m'.directory = m.directory)
    (hstay : m.files.DirectoriesStay m'.files) (hplace : m'.files.get? place ≠ some .directory) :
    Writable m' path place := by
  refine ⟨h.nul, ?_, hplace, hstay _ h.parent⟩
  rw [hdirectory]
  exact FileTree.locate_of_directoriesStay hstay h.locate

end Writable

lemma opens_of_run_openPlace {place : Place} {old : Option Content}
    (h : (openPlace path).run m = (.ok (place, old), m')) : Opens m path place old ∧ m' = m := by
  obtain ⟨⟨⟩, m₁, hcheck, hopen⟩ := exists_run_of_run_bind h
  obtain ⟨hnul, rfl⟩ := run_checkText_of_ok hcheck
  rw [run_bind_of_ok (run_get m₁)] at hopen
  obtain ⟨place', m₂, hfault, hrest⟩ := exists_run_of_run_bind hopen
  obtain ⟨hplace, rfl⟩ := run_orFault_of_ok hfault
  split at hrest
  · cases hrest
  · next c hget =>
    cases hrest
    exact ⟨⟨hnul, hplace, hget, nofun⟩, rfl⟩
  · next hget =>
    split at hrest
    · next hparent =>
      cases hrest
      exact ⟨⟨hnul, hplace, hget, fun _ => hparent⟩, rfl⟩
    · cases hrest
    · cases hrest

lemma Opens.run_openPlace {place : Place} {old : Option Content} (h : Opens m path place old) :
    (openPlace path).run m = (.ok (place, old), m) := by
  have horFault : (orFault path none (m.files.locate m.directory path)).run m = (.ok place, m) := by
    rw [h.locate]
    rfl
  rw [openPlace, run_bind_of_ok (run_checkText h.nul m), run_bind_of_ok (run_get m),
    run_bind_of_ok horFault, h.get?]
  cases old with
  | some c => rfl
  | none =>
    simp only [Option.map_none, h.parent rfl]
    rfl

lemma preserves_openPlace (path : String) : Preserves I (openPlace path) := by
  refine .bind (preserves_checkText path) fun _ => .bind_get fun m hm =>
    .bind (preserves_orFault _ _ _) fun place => ?_
  split
  · exact .throw _
  · exact .pure _
  · split
    · exact .pure _
    · exact .throw _
    · exact .throw _

lemma Opens.run_writeContent {place : Place} {old : Option Content} (h : Opens m path place old)
    (c : Content) :
    (writeContent path c).run m = (.ok (), { m with files := m.files.set place (.file c) }) :=
  run_bind_of_ok h.run_openPlace _

lemma opens_of_run_writeContent {u : Unit} (h : (writeContent path c).run m = (.ok u, m')) :
    ∃ place old, Opens m path place old ∧ m' = { m with files := m.files.set place (.file c) } := by
  obtain ⟨⟨place, old⟩, m₁, hopen, hset⟩ := exists_run_of_run_bind h
  obtain ⟨hopens, rfl⟩ := opens_of_run_openPlace hopen
  exact ⟨place, old, hopens, (congrArg (·.2) hset).symm⟩

/-- A file is written, or nothing changes. -/
lemma run_writeContent_cases (path : String) (c : Content) (m : Machine) :
    (∃ f, (writeContent path c).run m = (.error f, m)) ∨
      ∃ place old, Opens m path place old ∧ (writeContent path c).run m
        = (.ok (), { m with files := m.files.set place (.file c) }) := by
  cases hrun : (openPlace path).run m with
  | mk r m₁ =>
    cases r with
    | error f =>
      obtain rfl := run_eq_of_preserves (fun I => preserves_openPlace path) hrun
      exact .inl ⟨f, run_bind_of_error hrun _⟩
    | ok found =>
      obtain ⟨place, old⟩ := found
      obtain ⟨hopens, rfl⟩ := opens_of_run_openPlace hrun
      exact .inr ⟨place, old, hopens, hopens.run_writeContent c⟩

/-- What was written is found at its path. -/
lemma Opens.find_set {place : Place} {old : Option Content} (h : Opens m path place old)
    (c : Content) :
    (m.files.set place (.file c)).find m.directory path = .ok (place, .file c) := by
  refine FileTree.find_eq_ok_iff.mpr ⟨?_, FileTree.get?_set_self _ _ h.ne_nil⟩
  exact FileTree.locate_of_directoriesStay (.set h.not_directory _) h.locate

/-- A file that is found can be deleted. -/
lemma run_deleteFile_of_find {place : Place} (hnul : '\x00' ∉ path.toList)
    (h : m.files.find m.directory path = .ok (place, .file c)) :
    (deleteFile path).run m = (.ok (), { m with files := m.files.erase place }) := by
  rw [deleteFile, run_bind_of_ok (run_checkText hnul m), run_bind_of_ok (run_get m), h]
  rfl

/-! ### Moving -/

/-- A file can be moved when it is found, its new path leads to a place where a file can be, and
that path does not end in dots. -/
structure Moves (m : Machine) (path target : String) (place goal : Place) (e : Entry) : Prop where
  nul : '\x00' ∉ path.toList
  find : m.files.find m.directory path = .ok (place, e)
  target_nul : '\x00' ∉ target.toList
  locate : m.files.locate m.directory target = .ok goal
  dots : endsInDots target = false
  not_directory : m.files.get? goal ≠ some .directory
  parent : m.files.get? goal.dropLast = some .directory

/-- A move fails and changes nothing, or what was found has its new place. -/
lemma run_moveFile_cases (path target : String) (m : Machine) :
    (∃ f, (moveFile path target).run m = (.error f, m)) ∨
      ∃ place goal e, Moves m path target place goal e ∧
        (moveFile path target).run m
          = (.ok (), { m with files := (m.files.erase place).set goal e }) := by
  by_cases hpath : '\x00' ∈ path.toList
  · have hcheck : (checkText path).run m = (.error (.refused .nulByte), m) := by
      rw [checkText, if_pos (by simpa using hpath)]
      rfl
    exact .inl ⟨_, run_bind_of_error hcheck _⟩
  by_cases htarget : '\x00' ∈ target.toList
  · have hcheck : (checkText target).run m = (.error (.refused .nulByte), m) := by
      rw [checkText, if_pos (by simpa using htarget)]
      rfl
    rw [moveFile, run_bind_of_ok (run_checkText hpath m)]
    exact .inl ⟨_, run_bind_of_error hcheck _⟩
  rw [moveFile, run_bind_of_ok (run_checkText hpath m), run_bind_of_ok (run_checkText htarget m),
    run_bind_of_ok (run_get m)]
  cases hfind : m.files.find m.directory path with
  | error fault => exact .inl ⟨.file fault path (some target), rfl⟩
  | ok found =>
    obtain ⟨place, e⟩ := found
    have hfound : (orFault path (some target) (.ok (place, e))).run m = (.ok (place, e), m) := rfl
    rw [run_bind_of_ok hfound]
    dsimp only
    cases hgoal : m.files.locate m.directory target with
    | error fault => exact .inl ⟨.file fault path (some target), rfl⟩
    | ok goal =>
      have hlocated : (orFault path (some target) (.ok goal)).run m = (.ok goal, m) := rfl
      rw [run_bind_of_ok hlocated]
      by_cases hdots : endsInDots target = true
      · rw [if_pos hdots]
        exact .inl ⟨.file .busy path (some target), rfl⟩
      rw [if_neg hdots]
      split
      · exact .inl ⟨.file .isDirectory path (some target), rfl⟩
      · next hfree =>
        split
        · next hparent =>
          exact .inr ⟨place, goal, e,
            ⟨hpath, hfind, htarget, hgoal, by simpa using hdots, hfree, hparent⟩, rfl⟩
        · exact .inl ⟨.file .notDirectory path (some target), rfl⟩
        · exact .inl ⟨.file .missing path (some target), rfl⟩

lemma Moves.run_moveFile {place goal : Place} {e : Entry} (h : Moves m path target place goal e) :
    (moveFile path target).run m
      = (.ok (), { m with files := (m.files.erase place).set goal e }) := by
  have hfound : (orFault path (some target) (m.files.find m.directory path)).run m
      = (.ok (place, e), m) := by
    rw [h.find]
    rfl
  have hlocated : (orFault path (some target) (m.files.locate m.directory target)).run m
      = (.ok goal, m) := by
    rw [h.locate]
    rfl
  have hnot := h.not_directory
  rw [moveFile, run_bind_of_ok (run_checkText h.nul m),
    run_bind_of_ok (run_checkText h.target_nul m), run_bind_of_ok (run_get m),
    run_bind_of_ok hfound]
  dsimp only
  rw [run_bind_of_ok hlocated, h.dots, if_neg Bool.false_ne_true]
  split
  · contradiction
  · rw [h.parent]
    rfl

namespace Moves

variable {place goal : Place} {c : Content} (h : Moves m path target place goal (.file c))

include h

lemma goal_ne_nil : goal ≠ [] := by
  rintro rfl
  exact h.not_directory (FileTree.get?_nil _)

/-- Moving a file takes no directory away. -/
lemma stay : m.files.DirectoriesStay ((m.files.erase place).set goal (.file c)) := by
  obtain ⟨-, hget⟩ := FileTree.find_eq_ok_iff.mp h.find
  have hplace : m.files.get? place ≠ some .directory := by
    rw [hget]
    simp
  have hgoal : (m.files.erase place).get? goal ≠ some .directory := by
    rw [FileTree.get?_erase _ h.goal_ne_nil]
    split_ifs
    · simp
    · exact h.not_directory
  exact (FileTree.DirectoriesStay.erase hplace).trans (.set hgoal _)

/-- A file that was moved is found at its new path. -/
lemma find_moved : ((m.files.erase place).set goal (.file c)).find m.directory target
    = .ok (goal, .file c) :=
  FileTree.find_eq_ok_iff.mpr ⟨FileTree.locate_of_directoriesStay h.stay h.locate,
    FileTree.get?_set_self _ _ h.goal_ne_nil⟩

end Moves

/-! ### Directories that are there -/

section Directory

variable {place : Place} (hnul : '\x00' ∉ path.toList)

include hnul

lemma run_isDirectory_of_find (h : m.files.find m.directory path = .ok (place, .directory)) :
    (isDirectory path).run m = (.ok true, m) :=
  run_bind_of_ok (run_look_of_find hnul h) _

lemma run_makeDirectory_of_find {e : Entry}
    (h : m.files.find m.directory path = .ok (place, e)) :
    (makeDirectory path).run m = (.error (.file .taken path none), m) := by
  obtain ⟨hlocate, hget⟩ := FileTree.find_eq_ok_iff.mp h
  have hplace : (orFault path none (m.files.locate m.directory path)).run m = (.ok place, m) := by
    rw [hlocate]
    rfl
  rw [makeDirectory, run_bind_of_ok (run_checkText hnul m), run_bind_of_ok (run_get m),
    run_bind_of_ok hplace, hget]
  rfl

/-- A directory that is there is not made. -/
lemma run_needDirectory_of_find (h : m.files.find m.directory path = .ok (place, .directory)) :
    (needDirectory path).run m = (.ok (), m) := by
  rw [needDirectory, run_tryCatch_of_error (run_makeDirectory_of_find hnul h),
    run_bind_of_ok (run_isDirectory_of_find hnul h)]
  rfl

end Directory

lemma run_needDirectories_of_find {path : Path} {place : Place} (hnul : '\x00' ∉ path.text.toList)
    (h : m.files.find m.directory path.text = .ok (place, .directory)) :
    (needDirectories path).run m = (.ok (), m) := by
  rw [needDirectories]
  cases path.parts.length with
  | zero => exact run_needDirectory_of_find hnul h
  | succ n =>
    rw [needDirectories.climb, run_tryCatch_of_error (run_makeDirectory_of_find hnul h)]
    dsimp only
    rw [run_bind_of_ok (run_isDirectory_of_find hnul h)]
    rfl

end VariantRepair.Host
