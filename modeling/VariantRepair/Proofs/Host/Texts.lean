import Mathlib.Tactic.Common
import VariantRepair.Host.Files
import VariantRepair.Proofs.Failing
import VariantRepair.Proofs.Host.Files
import VariantRepair.Proofs.Text.Utf8

/-!
# Files that are looked at and read

What looking at files goes by, and what is read of a text that is in a file.
-/

/-!
## Looking at files

What looking at files answers depends on the files and on the working directory alone: what was
printed before, and which variables were set, is of no matter.
-/

namespace VariantRepair.Host

variable {α β : Type} {m₀ m m' : Machine}

/-- Something that only looks at files: the answer depends on them and on the working directory, and
the machine stays as it is. -/
def LooksOnly (a : Action α) : Prop :=
  ∃ answer : FileTree → Place → Except Failure α,
    ∀ m : Machine, a.run m = (answer m.files m.directory, m)

namespace LooksOnly

lemma pure (a : α) : LooksOnly (pure a : Action α) := ⟨fun _ _ => .ok a, fun _ => rfl⟩

lemma throw (f : Failure) : LooksOnly (throw f : Action α) := ⟨fun _ _ => .error f, fun _ => rfl⟩

lemma bind {a : Action α} {f : α → Action β} (ha : LooksOnly a) (hf : ∀ x, LooksOnly (f x)) :
    LooksOnly (a >>= f) := by
  obtain ⟨answer, ha⟩ := ha
  choose answers hf using hf
  refine ⟨fun files directory => answer files directory >>= fun x => answers x files directory,
    fun m => ?_⟩
  have hrun := ha m
  cases hx : answer m.files m.directory with
  | ok x =>
    rw [hx] at hrun
    simp only [run_bind_of_ok hrun, hf, hx]
    rfl
  | error e =>
    rw [hx] at hrun
    simp only [run_bind_of_error hrun, hx]
    rfl

/-- What goes by what is found at a path. -/
lemma find (path : String) {f : Machine → Action α}
    (h : ∀ r, ∃ answer, ∀ m : Machine, m.files.find m.directory path = r →
      (f m).run m = (answer, m)) :
    LooksOnly (do f (← get)) := by
  choose answer h using h
  exact ⟨fun files directory => answer (files.find directory path), fun m => h _ m rfl⟩

/-- On another machine with the same files, the answer is the same. -/
lemma run_of_run {a : Action α} {r : Except Failure α} (ha : LooksOnly a)
    (hfiles : m.files = m₀.files) (hdirectory : m.directory = m₀.directory)
    (hrun : a.run m = (r, m')) : a.run m₀ = (r, m₀) ∧ m' = m := by
  obtain ⟨answer, ha⟩ := ha
  rw [ha, hfiles, hdirectory] at hrun
  obtain ⟨rfl, rfl⟩ := Prod.mk.inj hrun
  exact ⟨ha m₀, rfl⟩

end LooksOnly

lemma looksOnly_checkText (s : String) : LooksOnly (checkText s) := by
  rw [checkText]
  split_ifs
  · exact .throw _
  · exact .pure _

lemma looksOnly_look (path : String) : LooksOnly (look path) := by
  rw [look]
  split_ifs
  · exact .pure _
  · refine .find path fun r => ?_
    rcases r with fault | ⟨place, e⟩
    · cases fault <;> exact ⟨_, fun m hfind => by rw [hfind]; rfl⟩
    · exact ⟨_, fun m hfind => by rw [hfind]; rfl⟩

lemma looksOnly_fileExists (path : String) : LooksOnly (fileExists path) :=
  (looksOnly_look path).bind fun _ => .pure _

lemma looksOnly_readContent (path : String) : LooksOnly (readContent path) := by
  refine (looksOnly_checkText path).bind fun _ => .find path fun r => ?_
  rcases r with fault | ⟨place, c | _⟩ <;>
    exact ⟨_, fun m hfind => by rw [hfind]; rfl⟩

lemma looksOnly_readText (path : String) : LooksOnly (readText path) := by
  refine (looksOnly_readContent path).bind fun c => ?_
  split
  · split
    · exact .pure _
    · exact .throw _
  · exact .throw _

lemma looksOnly_readRecord (path : String) : LooksOnly (readRecord path) := by
  refine (looksOnly_readContent path).bind fun c => ?_
  split
  · exact .pure _
  · exact .throw _

/-! ### Paths that are looked up -/

/-- The system looks up what is at a path: it has no part that is too long. A path with a NUL
character leads nowhere. -/
def LooksUp (m : Machine) (path : String) : Prop :=
  '\x00' ∉ path.toList → m.files.find m.directory path ≠ .error .nameTooLong

lemma run_look_of_looksUp {path : String} (h : LooksUp m path) :
    ∃ found, (look path).run m = (.ok found, m) := by
  by_cases hnul : '\x00' ∈ path.toList
  · refine ⟨none, ?_⟩
    rw [look, if_pos (by simpa using hnul)]
    rfl
  · rw [look, if_neg (by simpa using hnul), run_bind_of_ok (run_get m)]
    cases hfound : m.files.find m.directory path with
    | ok found => exact ⟨some found.2, rfl⟩
    | error fault =>
      obtain rfl | rfl | rfl := FileTree.fault_of_find hfound
      · exact ⟨none, rfl⟩
      · exact ⟨none, rfl⟩
      · exact absurd hfound (h hnul)

end VariantRepair.Host

/-!
## Text files

A text that is in a file is read with its carriage returns as line feeds: what is read has no
carriage return, it is the text itself exactly when that has none, and it has the same lines.
-/

namespace VariantRepair

/-! ### Carriage returns -/

namespace Text

lemma isLineBreak_feed : isLineBreak '\n' = true := by decide

lemma isLineBreak_return : isLineBreak '\r' = true := by decide

lemma return_notMem_unifyNewlines (cs : List Char) : '\r' ∉ unifyNewlines cs := by
  induction cs using unifyNewlines.induct with
  | case1 => simp [unifyNewlines]
  | case2 cs ih => simp [unifyNewlines, ih]
  | case3 cs hfeed ih => simp [unifyNewlines, ih]
  | case4 c cs hreturn hother ih =>
    rw [unifyNewlines.eq_4 c cs hreturn hother]
    simp [ih, Ne.symm (fun hc : c = '\r' => hother hc)]

lemma unifyNewlines_of_notMem {cs : List Char} (h : '\r' ∉ cs) : unifyNewlines cs = cs := by
  induction cs with
  | nil => rfl
  | cons c cs ih =>
    obtain ⟨hc, hcs⟩ := not_or.mp fun hmem => h (List.mem_cons.mpr hmem)
    have hne : c ≠ '\r' := Ne.symm hc
    rw [unifyNewlines.eq_4 c cs (fun _ hreturn _ => hne hreturn) hne, ih hcs]

lemma linesBy_cons {c : Char} {cs : List Char} (h : ∀ ds, c = '\r' → cs = '\n' :: ds → False)
    (line : List Char) : linesBy line (c :: cs) =
      if isLineBreak c then line.reverse :: linesBy [] cs else linesBy (c :: line) cs :=
  linesBy.eq_3 line c cs h

/-- The lines are the same however they are ended. -/
lemma linesBy_unifyNewlines (line cs : List Char) :
    linesBy line (unifyNewlines cs) = linesBy line cs := by
  induction cs using unifyNewlines.induct generalizing line with
  | case1 => rfl
  | case2 cs ih => simp [unifyNewlines, linesBy, isLineBreak_feed, ih]
  | case3 cs hfeed ih =>
    have hne : '\n' ≠ '\r' := by decide
    rw [unifyNewlines.eq_3 cs hfeed, linesBy_cons (fun _ hc => (hne hc).elim) line,
      if_pos isLineBreak_feed, linesBy_cons (fun ds _ => hfeed ds) line, if_pos isLineBreak_return,
      ih]
  | case4 c cs hreturn hother ih =>
    rw [unifyNewlines.eq_4 c cs hreturn hother, linesBy_cons (fun _ hc => (hother hc).elim),
      linesBy_cons hreturn, ih, ih]

/-- A text as it is read from a file. -/
def asRead (s : String) : String := String.ofList (unifyNewlines s.toList)

lemma return_notMem_asRead (s : String) : '\r' ∉ (asRead s).toList := by
  rw [asRead, String.toList_ofList]
  exact return_notMem_unifyNewlines s.toList

/-- A text is read as it is exactly when it has no carriage return. -/
lemma asRead_eq_self_iff {s : String} : asRead s = s ↔ '\r' ∉ s.toList := by
  refine ⟨fun h => h ▸ return_notMem_asRead s, fun h => ?_⟩
  rw [asRead, unifyNewlines_of_notMem h, String.ofList_toList]

lemma lines_asRead (s : String) : lines (asRead s) = lines s := by
  rw [lines, lines, asRead, String.toList_ofList, linesBy_unifyNewlines]

end Text

/-! ### Files -/

namespace Host

variable {m : Machine} {path path' text : String} {place : Place} {old : Option Content}

/-- Is a text in the file that a path leads to? -/
structure Machine.HasText (m : Machine) (path text : String) : Prop where
  nul : '\x00' ∉ path.toList
  find : ∃ place, m.files.find m.directory path = .ok (place, .file (.ofText text))

/-- A text file is read, and nothing changes. -/
lemma Machine.HasText.run_readText (h : m.HasText path text) :
    (readText path).run m = (.ok (Text.asRead text), m) := by
  obtain ⟨place, hfind⟩ := h.find
  rw [readText, run_bind_of_ok (run_readContent_of_find h.nul hfind), Content.ofText]
  dsimp only
  rw [Text.decodeUtf8_utf8Bytes]
  rfl

/-- A text is in the file that it was written to. -/
lemma Opens.hasText (h : Opens m path place old) (text : String) :
    ({ m with files := m.files.set place (.file (.ofText text)) } : Machine).HasText path text :=
  ⟨h.nul, place, h.find_set (.ofText text)⟩

/-- A text stays in its file while another file is written. -/
lemma Machine.HasText.set (h : m.HasText path text) (hopens : Opens m path' place old)
    (hne : FileTree.placeOf m.directory path ≠ place) (c : Content) :
    ({ m with files := m.files.set place (.file c) } : Machine).HasText path text := by
  obtain ⟨hnul, q, hfind⟩ := h
  obtain ⟨hlocate, hget⟩ := FileTree.find_eq_ok_iff.mp hfind
  obtain rfl := FileTree.eq_placeOf_of_locate hlocate
  exact ⟨hnul, _, FileTree.find_eq_ok_iff.mpr
    ⟨FileTree.locate_of_directoriesStay (.set hopens.not_directory _) hlocate,
      (FileTree.get?_set_of_ne _ _ hne).trans hget⟩⟩

/-- A machine with a text in the file `f`. -/
def Machine.ofText (text : String) : Machine :=
  let m := Machine.ofDirectory [] "1"
  { m with files := m.files.set ["f"] (.file (.ofText text)) }

lemma Machine.hasText_ofText (text : String) :
    (Machine.ofText text).HasText (Path.ofText "f").text text := by
  have hpath : (Path.ofText "f").text = "f" := by decide +kernel
  rw [hpath]
  exact ⟨by decide, ["f"], FileTree.find_eq_ok_iff.mpr
    ⟨FileTree.locate_of_name (by decide) (by decide) (by decide +kernel) rfl, rfl⟩⟩

end Host

end VariantRepair
