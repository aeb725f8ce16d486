import Mathlib.Tactic.Common
import VariantRepair.Toolchain.Compiler
import VariantRepair.Proofs.Host.Files

/-!
# Files that stay

Work on a machine leaves a file alone unless it writes, deletes or moves something at the place of
that file. Making directories never does: a directory is only made where nothing is. The working
directory, the environment and the directories that there are stay as well, so that paths go on
leading to where they led. Work that changes files at certain places only leaves at every other
place what was there before, or a directory where nothing was.
-/

namespace VariantRepair.Host

variable {α : Type} {m₀ m : Machine} {S : Place → Prop} {C : Content → Prop} {path s : String}

/-- A machine after some work: it is in the same surroundings, and certain places hold files of some
kind. -/
structure Machine.Keeps (m₀ : Machine) (S : Place → Prop) (C : Content → Prop) (m : Machine) :
    Prop where
  directory : m.directory = m₀.directory
  process : m.process = m₀.process
  environment : m.environment = m₀.environment
  stay : m₀.files.DirectoriesStay m.files
  file : ∀ place, S place → ∃ c, m.files.get? place = some (.file c) ∧ C c

namespace Machine.Keeps

lemma refl (h : ∀ place, S place → ∃ c, m₀.files.get? place = some (.file c) ∧ C c) :
    m₀.Keeps S C m₀ :=
  ⟨rfl, rfl, rfl, .refl _, h⟩

lemma withFiles {t : FileTree} (h : m₀.Keeps S C m) (hstay : m.files.DirectoriesStay t)
    (hfile : ∀ place, S place → t.get? place = m.files.get? place) :
    m₀.Keeps S C { m with files := t } := by
  refine ⟨h.directory, h.process, h.environment, h.stay.trans hstay, fun place hplace => ?_⟩
  obtain ⟨c, hget, hc⟩ := h.file place hplace
  exact ⟨c, (hfile place hplace).trans hget, hc⟩

/-- Something is put at another place. -/
lemma set {q : Place} (h : m₀.Keeps S C m) (hq : ¬ S q)
    (hfree : m.files.get? q ≠ some .directory) (e : Entry) :
    m₀.Keeps S C { m with files := m.files.set q e } :=
  h.withFiles (.set hfree e) fun _ hplace =>
    FileTree.get?_set_of_ne _ _ fun heq => hq (heq ▸ hplace)

/-- A file of the kind is put at such a place, or any file at another place. -/
lemma setFile {q : Place} {c : Content} (h : m₀.Keeps S C m) (hc : S q → C c) (hne : q ≠ [])
    (hfree : m.files.get? q ≠ some .directory) :
    m₀.Keeps S C { m with files := m.files.set q (.file c) } := by
  refine ⟨h.directory, h.process, h.environment, h.stay.trans (.set hfree _),
    fun place hplace => ?_⟩
  rcases eq_or_ne place q with rfl | hother
  · exact ⟨c, FileTree.get?_set_self _ _ hne, hc hplace⟩
  · obtain ⟨c', hget, hc'⟩ := h.file place hplace
    exact ⟨c', (FileTree.get?_set_of_ne _ _ hother).trans hget, hc'⟩

/-- Something is taken away from another place. -/
lemma erase {q : Place} (h : m₀.Keeps S C m) (hq : ¬ S q)
    (hfree : m.files.get? q ≠ some .directory) :
    m₀.Keeps S C { m with files := m.files.erase q } :=
  h.withFiles (.erase hfree) fun _ hplace =>
    FileTree.get?_erase_of_ne _ fun heq => hq (heq ▸ hplace)

/-- A path that led to such a place goes on leading to the file there. -/
lemma find {place : Place} (h : m₀.Keeps S C m) (hplace : S place)
    (hlocate : m₀.files.locate m₀.directory path = .ok place) :
    ∃ c, m.files.find m.directory path = .ok (place, .file c) ∧ C c := by
  obtain ⟨c, hget, hc⟩ := h.file place hplace
  refine ⟨c, FileTree.find_eq_ok_iff.mpr ⟨?_, hget⟩, hc⟩
  rw [h.directory]
  exact FileTree.locate_of_directoriesStay h.stay hlocate

/-- A path that leads elsewhere by its names leads elsewhere. -/
lemma not_of_locate {q : Place} (h : m₀.Keeps S C m)
    (hpath : ¬ S (FileTree.placeOf m₀.directory path))
    (hq : m.files.locate m.directory path = .ok q) : ¬ S q := by
  rw [h.directory] at hq
  rwa [FileTree.eq_placeOf_of_locate hq]

end Machine.Keeps

/-! ### Printing and looking -/

lemma keeps_say (line : String) : Preserves (m₀.Keeps S C) (say line) :=
  .modify fun _ h => ⟨h.directory, h.process, h.environment, h.stay, h.file⟩

lemma keeps_warn (line : String) : Preserves (m₀.Keeps S C) (warn line) :=
  .modify fun _ h => ⟨h.directory, h.process, h.environment, h.stay, h.file⟩

/-! ### Writing -/

/-- What is written where a path leads is of the kind, or the path leads elsewhere. -/
lemma keeps_openPlace_changeFiles (f : Place × Option Content → Content)
    (hf : ∀ found, S (FileTree.placeOf m₀.directory path) → C (f found)) :
    Preserves (m₀.Keeps S C)
      (openPlace path >>= fun found => changeFiles fun t => t.set found.1 (.file (f found))) := by
  refine .bind_spec (Q := fun found m => m₀.Keeps S C m ∧ Opens m path found.1 found.2)
    (preserves_openPlace path) ?_ ?_
  · intro m found m' hm hrun
    obtain ⟨hopens, rfl⟩ := opens_of_run_openPlace hrun
    exact ⟨hm, hopens⟩
  · rintro found m ⟨hm, hopens⟩
    refine hm.setFile (fun hplace => hf found ?_) hopens.ne_nil hopens.not_directory
    rwa [← hm.directory, ← FileTree.eq_placeOf_of_locate hopens.locate]

/-- A file of the kind may be written anywhere. -/
lemma keeps_writeContent_of {c' : Content}
    (hc : S (FileTree.placeOf m₀.directory path) → C c') :
    Preserves (m₀.Keeps S C) (writeContent path c') :=
  keeps_openPlace_changeFiles (fun _ => c') fun _ => hc

/-- A file that is written where none is takes the place of no file. -/
lemma keeps_run_writeContent_of_missing (hm : m₀.Keeps S C m) (c' : Content)
    (hmissing : (fileExists path).run m = (.ok false, m)) :
    m₀.Keeps S C ((writeContent path c').run m).2 := by
  cases hopen : (openPlace path).run m with
  | mk r m' =>
    cases r with
    | error f =>
      obtain rfl := run_eq_of_preserves (fun I => preserves_openPlace path) hopen
      rw [writeContent, run_bind_of_error hopen]
      exact hm
    | ok found =>
      obtain ⟨hopens, rfl⟩ := opens_of_run_openPlace hopen
      rw [writeContent, run_bind_of_ok hopen]
      refine hm.set (fun hplace => ?_) hopens.not_directory _
      obtain ⟨c, hget, -⟩ := hm.file _ hplace
      have hfind := FileTree.find_eq_ok_iff.mpr ⟨hopens.locate, hget⟩
      rw [run_fileExists_of_find hopens.nul hfind] at hmissing
      cases hmissing

section Elsewhere

variable (hpath : ¬ S (FileTree.placeOf m₀.directory path))

include hpath

lemma keeps_writeContent (c' : Content) : Preserves (m₀.Keeps S C) (writeContent path c') :=
  keeps_writeContent_of fun h => absurd h hpath

lemma keeps_writeText (s : String) : Preserves (m₀.Keeps S C) (writeText path s) :=
  keeps_writeContent hpath _

lemma keeps_appendText (s : String) : Preserves (m₀.Keeps S C) (appendText path s) :=
  keeps_openPlace_changeFiles _ fun _ h => absurd h hpath

lemma keeps_deleteFile : Preserves (m₀.Keeps S C) (deleteFile path) := by
  refine .bind (preserves_checkText path) fun _ m hm => ?_
  rw [run_bind_of_ok (run_get m)]
  split
  · exact hm
  · exact hm
  · exact hm
  · next q c' hfind =>
    obtain ⟨hlocate, hget⟩ := FileTree.find_eq_ok_iff.mp hfind
    refine hm.erase (hm.not_of_locate hpath hlocate) ?_
    rw [hget]
    simp

end Elsewhere

/-! ### Making directories -/

/-- What is preserved where a directory is put in place of nothing is preserved where a directory is
made. -/
lemma preserves_makeDirectory {I : Machine → Prop}
    (hset : ∀ m q, I m → m.files.get? q = none →
      I { m with files := m.files.set q .directory })
    (path : String) : Preserves I (makeDirectory path) := by
  refine .bind (preserves_checkText path) fun _ m hm => ?_
  rw [run_bind_of_ok (run_get m)]
  cases hlocate : m.files.locate m.directory path with
  | error fault => exact hm
  | ok q =>
    have hplace : (orFault path none (.ok q)).run m = (.ok q, m) := rfl
    rw [run_bind_of_ok hplace]
    split
    · exact hm
    · next hnone =>
      split
      · exact hset m q hm hnone
      · exact hm
      · exact hm

lemma keeps_makeDirectory (path : String) : Preserves (m₀.Keeps S C) (makeDirectory path) := by
  refine preserves_makeDirectory (fun m q hm hnone => ?_) path
  refine hm.set (fun hq => ?_) (by rw [hnone]; simp) _
  obtain ⟨c, hget, -⟩ := hm.file q hq
  rw [hget] at hnone
  cases hnone

section Directories

variable {I : Machine → Prop} (hmake : ∀ path, Preserves I (makeDirectory path))

/-- What makes a directory may leave it at that if there is one. -/
lemma preserves_unless_isDirectory (path : String) (f : Failure) :
    Preserves I (do
      if f.isSystem && (← isDirectory path) then pure () else throw f : Action Unit) := by
  refine .bind (preserves_isDirectory path) fun isDirectory => ?_
  split_ifs
  · exact .pure _
  · exact .throw _

lemma preserves_isAbsent (path : String) :
    Preserves I (needSpelledDirectories.isAbsent path) := by
  rw [needSpelledDirectories.isAbsent]
  have hlook : Preserves I (fileExists path >>= fun found =>
      (EarlyReturnT.return !found : EarlyReturnT Bool Action Bool)) :=
    .bind (preserves_fileExists path) fun _ => .pure _
  refine .bind (.tryCatch hlook fun _ => .pure _) fun early => ?_
  cases early with
  | error found => exact .pure _
  | ok u => exact .pure _

include hmake

lemma preserves_needDirectory (path : String) : Preserves I (needDirectory path) :=
  .tryCatch (hmake path) fun f => preserves_unless_isDirectory path f

lemma preserves_climb (n : Nat) (path : Path) : Preserves I (needDirectories.climb n path) := by
  induction n generalizing path with
  | zero => exact preserves_needDirectory hmake _
  | succ n ih =>
    refine .tryCatch (hmake _) fun f => ?_
    split
    · exact .bind (ih path.parent) fun _ => preserves_needDirectory hmake _
    · exact preserves_unless_isDirectory _ _

/-- Making directories preserves what making a single one does. -/
lemma preserves_needDirectories (path : Path) : Preserves I (needDirectories path) :=
  preserves_climb hmake _ path

lemma preserves_needSpelledDirectories (fuel : Nat) (name : String) :
    Preserves I (needSpelledDirectories fuel name) := by
  induction fuel generalizing name with
  | zero => exact preserves_needDirectory hmake _
  | succ fuel ih =>
    rw [needSpelledDirectories]
    split
    split
    next head tail hsplit =>
    have habove : Preserves I (do
        try needSpelledDirectories fuel head
        catch f => if f.label == FileFault.label .taken then pure () else throw f) := by
      refine .tryCatch (ih head) fun f => ?_
      split_ifs
      · exact .pure _
      · exact .throw _
    have hrest (missing : Bool) : Preserves I (do
        if missing then
          try needSpelledDirectories fuel head
          catch f => if f.label == FileFault.label .taken then pure () else throw f
          if tail == "." then return
        needDirectory name) := by
      dsimp only
      split_ifs
      · exact .bind habove fun _ => .pure _
      · exact .bind habove fun _ => preserves_needDirectory hmake _
      · exact preserves_needDirectory hmake _
    by_cases hname : (head.isEmpty || tail.isEmpty) = true
    · rw [if_pos hname]
      exact .bind (.pure _) hrest
    · rw [if_neg hname]
      exact .bind (preserves_isAbsent _) hrest

end Directories

lemma keeps_needDirectories (path : Path) :
    Preserves (m₀.Keeps S C) (needDirectories path) :=
  preserves_needDirectories keeps_makeDirectory path

lemma keeps_needSpelledDirectories (fuel : Nat) (name : String) :
    Preserves (m₀.Keeps S C) (needSpelledDirectories fuel name) :=
  preserves_needSpelledDirectories keeps_makeDirectory fuel name

/-! ### Processes -/

/-- The coverage file that variables name for a process, if they name any, is elsewhere. -/
def Machine.CoverageElsewhere (m₀ : Machine) (S : Place → Prop)
    (environment : Config.Environment) : Prop :=
  ∀ path, environment.lookup Program.coverageVariable = some path →
    ¬ S (FileTree.placeOf m₀.directory path)

/-- Leaving coverage preserves what is preserved by writing any text to the file that the
environment names. -/
lemma preserves_leaveCoverage {I : Machine → Prop} {environment : Option Config.Environment}
    (hwrite : ∀ env path s, environment = some env →
      env.lookup Program.coverageVariable = some path → Preserves I (writeText path s))
    (coverage : Option String) : Preserves I (leaveCoverage environment coverage) := by
  unfold leaveCoverage
  split
  · next text path hvariable =>
    obtain ⟨env, henv, hlookup⟩ := Option.bind_eq_some_iff.mp hvariable
    exact .tryCatch (hwrite env path text henv hlookup) fun _ => .pure _
  · exact .pure _

lemma keeps_leaveCoverage {environment : Option Config.Environment}
    (hcoverage : ∀ env, environment = some env → m₀.CoverageElsewhere S env)
    (coverage : Option String) :
    Preserves (m₀.Keeps S C) (leaveCoverage environment coverage) :=
  preserves_leaveCoverage (fun env path s henv hlookup =>
    keeps_writeText (hcoverage env henv path hlookup) s) coverage

lemma keeps_start {environment : Option Config.Environment}
    (hcoverage : ∀ env, environment = some env → m₀.CoverageElsewhere S env)
    (words : List String) (seconds : Float) :
    Preserves (m₀.Keeps S C) (start words seconds environment) := by
  refine .bind_get fun m hm => .bind (.modify fun _ _ => ?_) fun _ =>
    .bind (keeps_leaveCoverage hcoverage _) fun _ => ?_
  · exact ⟨hm.directory, hm.process, hm.environment, hm.stay, hm.file⟩
  · split
    · exact .throw _
    · exact .pure _

lemma keeps_compilation (c : Config) (source exe : Path) :
    Preserves (m₀.Keeps S C) (Compilation.run c source exe) := by
  unfold Compilation.run
  dsimp only
  split
  · exact .throw _
  · exact .bind (keeps_start (by nofun) _ _) fun _ => .pure _

/-! ### Changes at certain places -/

section Changes

variable {m' : Machine} {T : Place → Prop} {place : Place}

/-- A machine on which nothing is printed or started, and nothing but the files at certain places
changes. Directories stay, and some may be made where nothing was. -/
structure Machine.ChangesOnly (m₀ : Machine) (S : Place → Prop) (m : Machine) : Prop where
  rest : m = { m₀ with files := m.files }
  stay : m₀.files.DirectoriesStay m.files
  kept : ∀ q, ¬ S q → m.files.get? q = m₀.files.get? q ∨
    m₀.files.get? q = none ∧ m.files.get? q = some .directory

namespace Machine.ChangesOnly

lemma refl (m₀ : Machine) : m₀.ChangesOnly S m₀ := ⟨rfl, .refl _, fun _ _ => .inl rfl⟩

lemma mono (h : m₀.ChangesOnly S m) (hST : ∀ q, S q → T q) : m₀.ChangesOnly T m :=
  ⟨h.rest, h.stay, fun q hq => h.kept q fun hS => hq (hST q hS)⟩

lemma directory_eq (h : m₀.ChangesOnly S m) : m.directory = m₀.directory := by rw [h.rest]

lemma process_eq (h : m₀.ChangesOnly S m) : m.process = m₀.process := by rw [h.rest]

lemma trans (h : m₀.ChangesOnly S m) (h' : m.ChangesOnly S m') : m₀.ChangesOnly S m' := by
  refine ⟨h'.rest.trans (by rw [h.rest]), h.stay.trans h'.stay, fun q hq => ?_⟩
  rcases h.kept q hq with hsame | ⟨hnone, hmade⟩
  · rcases h'.kept q hq with hsame' | ⟨hnone', hmade'⟩
    · exact .inl (hsame'.trans hsame)
    · exact .inr ⟨hsame ▸ hnone', hmade'⟩
  · exact .inr ⟨hnone, h'.stay q hmade⟩

/-- A file at another place is as it was. -/
lemma get?_file_iff (h : m₀.ChangesOnly S m) {q : Place} (hq : ¬ S q) (c : Content) :
    m.files.get? q = some (.file c) ↔ m₀.files.get? q = some (.file c) := by
  rcases h.kept q hq with hsame | ⟨hnone, hmade⟩
  · rw [hsame]
  · simp [hnone, hmade]

/-- Something is put in place of what is no directory. -/
lemma set (hplace : S place) (hfree : m.files.get? place ≠ some .directory) (e : Entry) :
    m.ChangesOnly S { m with files := m.files.set place e } :=
  ⟨rfl, .set hfree e, fun _ hq => .inl (FileTree.get?_set_of_ne _ _ fun heq => hq (heq ▸ hplace))⟩

/-- What is no directory is taken away. -/
lemma erase (hplace : S place) (hfree : m.files.get? place ≠ some .directory) :
    m.ChangesOnly S { m with files := m.files.erase place } :=
  ⟨rfl, .erase hfree, fun _ hq => .inl (FileTree.get?_erase_of_ne _ fun heq => hq (heq ▸ hplace))⟩

/-- A directory is made where nothing is. -/
lemma make (hnone : m.files.get? place = none) :
    m.ChangesOnly S { m with files := m.files.set place .directory } := by
  have hne : place ≠ [] := by
    rintro rfl
    cases hnone
  refine ⟨rfl, .set (by rw [hnone]; simp) _, fun q _ => ?_⟩
  rcases eq_or_ne q place with rfl | hq
  · exact .inr ⟨hnone, FileTree.get?_set_self _ _ hne⟩
  · exact .inl (FileTree.get?_set_of_ne _ _ hq)

end Machine.ChangesOnly

lemma changesOnly_makeDirectory (path : String) :
    Preserves (m₀.ChangesOnly S) (makeDirectory path) :=
  preserves_makeDirectory (fun _ _ hm hnone => hm.trans (.make hnone)) path

/-- Making directories changes no file. -/
lemma changesOnly_needDirectories (path : Path) :
    Preserves (m₀.ChangesOnly S) (needDirectories path) :=
  preserves_needDirectories changesOnly_makeDirectory path

/-- A file is deleted, or nothing changes. -/
lemma run_deleteFile_cases (path : String) (m : Machine) :
    (∃ r, (deleteFile path).run m = (r, m)) ∨
      ∃ place c, m.files.find m.directory path = .ok (place, .file c) ∧
        (deleteFile path).run m = (.ok (), { m with files := m.files.erase place }) := by
  by_cases hnul : '\x00' ∈ path.toList
  · have hcheck : (checkText path).run m = (.error (.refused .nulByte), m) := by
      rw [checkText, if_pos (by simpa using hnul)]
      rfl
    exact .inl ⟨_, run_bind_of_error hcheck _⟩
  · cases hfind : m.files.find m.directory path with
    | error fault =>
      left
      rw [deleteFile, run_bind_of_ok (run_checkText hnul m), run_bind_of_ok (run_get m), hfind]
      cases fault <;> exact ⟨_, rfl⟩
    | ok found =>
      obtain ⟨place, e⟩ := found
      cases e with
      | file c => exact .inr ⟨place, c, rfl, run_deleteFile_of_find hnul hfind⟩
      | directory =>
        left
        rw [deleteFile, run_bind_of_ok (run_checkText hnul m), run_bind_of_ok (run_get m), hfind]
        exact ⟨_, rfl⟩

end Changes

end VariantRepair.Host

/-!
## Processes that were started

Work on a machine changes files and prints, and starts processes one after another. It never forgets
a process that was started, and it stays in its directory and with its environment.
-/

namespace VariantRepair.Host

variable {m₀ m : Machine} {P Q : List Call → Prop}

/-- A machine after some work in the same surroundings, with what is known of the processes that
the work has started, in order. -/
structure Machine.Started (m₀ : Machine) (P : List Call → Prop) (m : Machine) : Prop where
  directory : m.directory = m₀.directory
  environment : m.environment = m₀.environment
  calls : ∃ calls, m.calls = m₀.calls ++ calls ∧ P calls

namespace Machine.Started

lemma refl (h : P []) : m₀.Started P m₀ :=
  ⟨rfl, rfl, [], by simp, h⟩

lemma imp (h : m₀.Started P m) (hQ : ∀ calls, P calls → Q calls) : m₀.Started Q m := by
  obtain ⟨calls, hcalls, hP⟩ := h.calls
  exact ⟨h.directory, h.environment, calls, hcalls, hQ calls hP⟩

end Machine.Started

/-! ### Work that starts no process -/

lemma started_say (line : String) : Preserves (m₀.Started P) (say line) :=
  .modify fun _ h => ⟨h.directory, h.environment, h.calls⟩

lemma started_warn (line : String) : Preserves (m₀.Started P) (warn line) :=
  .modify fun _ h => ⟨h.directory, h.environment, h.calls⟩

lemma started_changeFiles (f : FileTree → FileTree) : Preserves (m₀.Started P) (changeFiles f) :=
  .modify fun _ h => ⟨h.directory, h.environment, h.calls⟩

lemma started_writeContent (path : String) (c : Content) :
    Preserves (m₀.Started P) (writeContent path c) :=
  .bind (preserves_openPlace path) fun _ => started_changeFiles _

lemma started_writeText (path s : String) : Preserves (m₀.Started P) (writeText path s) :=
  started_writeContent path _

lemma started_appendText (path s : String) : Preserves (m₀.Started P) (appendText path s) :=
  .bind (preserves_openPlace path) fun _ => started_changeFiles _

lemma started_deleteFile (path : String) : Preserves (m₀.Started P) (deleteFile path) := by
  refine .bind (preserves_checkText path) fun _ => .bind_get fun m _ => ?_
  split
  · exact .pure _
  · exact .throw _
  · exact .throw _
  · exact started_changeFiles _

lemma started_makeDirectory (path : String) : Preserves (m₀.Started P) (makeDirectory path) :=
  preserves_makeDirectory (fun _ _ h _ => ⟨h.directory, h.environment, h.calls⟩) path

lemma started_needDirectories (path : Path) :
    Preserves (m₀.Started P) (needDirectories path) :=
  preserves_needDirectories started_makeDirectory path

lemma started_needSpelledDirectories (fuel : Nat) (name : String) :
    Preserves (m₀.Started P) (needSpelledDirectories fuel name) :=
  preserves_needSpelledDirectories started_makeDirectory fuel name

lemma started_leaveCoverage (environment : Option Config.Environment) (coverage : Option String) :
    Preserves (m₀.Started P) (leaveCoverage environment coverage) :=
  preserves_leaveCoverage (fun _ path s _ _ => started_writeText path s) coverage

/-! ### Processes -/

/-- Starting a process starts this one behind the others. -/
lemma started_run_start {words : List String} {seconds : Float}
    {environment : Option Config.Environment} (hm : m₀.Started P m)
    (hQ : ∀ calls, P calls → Q (calls ++ [⟨words, seconds, environment⟩])) :
    m₀.Started Q ((start words seconds environment).run m).2 := by
  rw [start, run_bind_of_ok (run_get m)]
  refine Preserves.run_bind (I := m₀.Started Q) ?_ fun _ =>
    .bind (started_leaveCoverage _ _) fun _ => ?_
  · obtain ⟨calls, hcalls, hP⟩ := hm.calls
    refine ⟨hm.directory, hm.environment, _, ?_, hQ calls hP⟩
    exact (congrArg (· ++ [_]) hcalls).trans (List.append_assoc _ _ _)
  · split
    · exact .throw _
    · exact .pure _

end VariantRepair.Host
