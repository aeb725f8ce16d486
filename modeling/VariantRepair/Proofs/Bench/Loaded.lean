import Mathlib.Tactic.Common
import VariantRepair.Bench.Compile
import VariantRepair.Proofs.Bench.Harness
import VariantRepair.Proofs.Host.Files
import VariantRepair.Proofs.Host.Texts
import VariantRepair.Proofs.Path
import VariantRepair.Proofs.Program.Lines
import VariantRepair.Proofs.Value.Field
import VariantRepair.Proofs.Variant.History
import VariantRepair.Proofs.Variant.Refused

/-!
# Programs that variants get

A variant gets its program from a text, from a file, or from the snapshot of another variant.
-/

/-!
## How variants are built

A variant gets a program from a text, from a file or from the snapshot of another variant. The
sources that are rendered for it have the suffix of its backend until a file with a suffix is read.
-/

namespace VariantRepair

variable {untouched : Float} {v : Variant Float} {a : Altered}

/-! ### Building -/

/-- A suffix comes with a file that has it. -/
def Making.ComesWithFile : Making → Prop
  | .named suffix => suffix ≠ "" ∧ ∃ path, (Path.ofText path).suffix = suffix
  | _ => True

/-- What is built by reading programs, naming their files, weighing, editing and compiling them, of
which some may fail, and by taking the snapshots of others that were built like this. -/
inductive Altered.Built : Altered → Prop
  | fresh (b : Backend) : Built (.ofVariant (.empty b))
  | made {a : Altered} {untouched : Float} (h : Built a) (x : Making) (hx : x.ComesWithFile) :
      Built ((x.make untouched).run a).2
  | loaded {a stored : Altered} {path : String} {held : Record.Held} (h : Built a)
      (hs : Built stored) (hheld : stored.record.held path = .ok held) :
      Built ((Altered.load path held).run a).2

/-- The suffix that a variant has of its own is that of a file. -/
def Variant.NamedByFile (v : Variant Float) : Prop :=
  ∀ suffix, v.ownSuffix = some suffix → (Making.named suffix).ComesWithFile

lemma Making.namedByFile_make {x : Making} (hv : v.NamedByFile) (hx : x.ComesWithFile) :
    ∃ v', ((x.make untouched).run (.ofVariant v)).2 = .ofVariant v' ∧ v'.NamedByFile := by
  obtain ⟨v', hmade, hmakes⟩ := x.exists_makes untouched v
  refine ⟨v', hmade, ?_⟩
  cases hmakes with
  | named suffix =>
    rintro s ⟨⟩
    exact hx
  | failed | read | weighed | edited | compiled => exact hv

/-- A variant that was built has all its parts, and if it has a suffix of its own, then one that a
file has. -/
lemma Altered.Built.exists_variant (h : a.Built) : ∃ v, a = .ofVariant v ∧ v.NamedByFile := by
  induction h with
  | fresh b => exact ⟨_, rfl, nofun⟩
  | made h x hx ih =>
    obtain ⟨v, rfl, hv⟩ := ih
    exact Making.namedByFile_make hv hx
  | @loaded a stored path held h hs hheld ih ihs =>
    obtain ⟨v, rfl, hv⟩ := ih
    obtain ⟨w, rfl, hw⟩ := ihs
    obtain rfl : held = .variant (.ofVariant w.forget) := (Except.ok.inj hheld).symm
    obtain ⟨v', hload, rfl | rfl⟩ := Altered.load_ofVariant path v w.forget
    · exact ⟨v', hload, hv⟩
    · refine ⟨_, hload, fun s hs => ?_⟩
      cases hown : w.ownSuffix with
      | none => exact hv s (by simpa [Variant.forget, hown] using hs)
      | some t => exact hw s (by simpa [Variant.forget, hown] using hs)

/-! ### Suffixes -/

namespace Variant.NamedByFile

/-- Sources have no suffix only if their backend gives them none and no file did. -/
lemma suffix_eq_empty_iff (h : v.NamedByFile) :
    v.suffix = "" ↔ v.backend = .lines ∧ v.ownSuffix = none := by
  rw [Variant.suffix]
  cases hown : v.ownSuffix with
  | none => cases hbackend : v.backend <;> simp [Backend.suffix]
  | some s => simp [(h s hown).1]

lemma slash_notMem_suffix (h : v.NamedByFile) : '/' ∉ v.suffix.toList := by
  rw [Variant.suffix]
  cases hown : v.ownSuffix with
  | none => cases v.backend <;> decide
  | some s =>
    obtain ⟨-, path, rfl⟩ := h s hown
    exact Path.slash_notMem_suffix (Path.isNormal_ofText path)

end Variant.NamedByFile

/-! ### Files that are read -/

namespace Work

/-- Reading the program in a file builds a variant. -/
lemma built_loadSource (path : String) : Preserves (·.altered.Built) (loadSource path) := by
  have hmade (x : Making) (hx : x.ComesWithFile) :
      Preserves (fun b : Bench => b.altered.Built) (alter (x.make 0)) := by
    intro b hb
    rw [run_alter]
    exact hb.made x hx
  have hmachine (y : Host.Action String) :
      Preserves (fun b : Bench => b.altered.Built) (onMachine y) := by
    intro b hb
    rw [run_onMachine]
    exact hb
  refine .bind (.bind_get fun _ _ => .ofExcept _) fun _ => .bind (hmachine _) fun text =>
    .bind (hmade (.read text) trivial) fun _ => ?_
  split_ifs with hsuffix
  · exact hmade (.named _) ⟨by simpa using hsuffix, path, rfl⟩
  · exact .pure _

end Work

end VariantRepair

/-!
## Programs that are loaded from files

Loading a file reads its text with every carriage return as a line feed. The lines of the program
are thus those of the text itself when it has no carriage return, and only then; the rest of the
variant does not depend on whether the text came from a file, except for the suffix.
-/

namespace VariantRepair

/-! ### Texts and their lines -/

lemma Text.mem_ended_iff {s : String} {c : Char} (hc : c ≠ '\n') :
    c ∈ (ended s).toList ↔ c ∈ s.toList := by
  rw [ended]
  split_ifs
  · rfl
  · simp [hc]

/-- A text and what is read of it differ by more than a line feed at the end if there is a carriage
return. -/
lemma Text.ended_asRead_iff {s : String} : ended (asRead s) = ended s ↔ '\r' ∉ s.toList := by
  have hne : '\r' ≠ '\n' := by decide
  constructor
  · intro h hmem
    rw [← mem_ended_iff hne, ← h, mem_ended_iff hne] at hmem
    exact return_notMem_asRead s hmem
  · intro h
    rw [asRead_eq_self_iff.mpr h]

lemma Program.Lines.ofText_inj {s t : String} :
    ofText s = ofText t ↔ Text.ended s = Text.ended t := by
  rw [← text_ofText, ← text_ofText]
  refine ⟨congrArg text, fun h => ?_⟩
  rw [← ofText_text fun _ => notMem_of_mem_ofText (s := s), h,
    ofText_text fun _ => notMem_of_mem_ofText]

/-! ### Loading -/

/-- The variant with the suffix of the file that it was read from, if the file has one. -/
def Variant.named {W : Type} (v : Variant W) (path : Path) : Variant W :=
  { v with ownSuffix := if path.suffix.isEmpty then v.ownSuffix else some path.suffix }

lemma Variant.program_named {W : Type} (v : Variant W) (path : Path) :
    (v.named path).program = v.program := rfl

lemma Variant.program_restart {W : Type} (v : Variant W) (p : Program) :
    (v.restart p).program = p := rfl

/-- Of a fresh program nothing but the program itself depends on the text. -/
lemma Variant.named_restart {W : Type} (v : Variant W) (path : Path) (p q : Program) :
    (v.restart p).named path = { (v.restart q).named path with program := p } := rfl

namespace Work

variable {b : Bench} {v : Variant Float} {path text : String}

/-- A file is loaded when the backend takes its text as it is read. -/
lemma run_loadSource {p : Program} (hv : b.altered = .ofVariant v)
    (hfile : b.machine.HasText (Path.ofText path).text text)
    (hread : Program.read v.backend (Text.asRead text) = .ok p) :
    (loadSource path).run b = (.ok (),
      { b with altered := .ofVariant ((v.restart p).named (Path.ofText path)) }) := by
  have hprogram : (readProgram (Text.asRead text)).run b
      = (.ok (), { b with altered := .ofVariant (v.restart p) }) := by
    rw [readProgram, run_alter, hv, Altered.run_readText, Variant.readText, hread]
    rfl
  rw [loadSource, run_bind_of_ok (run_callable hv _),
    run_bind_of_ok (run_onMachine_of_ok hfile.run_readText), run_bind_of_ok hprogram,
    Variant.named]
  cases (Path.ofText path).suffix.isEmpty <;> rfl

lemma run_readProgram_lines (hv : b.altered = .ofVariant v) (hlines : v.backend = .lines) :
    (readProgram text).run b = (.ok (),
      { b with altered := .ofVariant (v.restart (.lines (Program.Lines.ofText text))) }) := by
  rw [readProgram, run_alter, hv, Altered.run_readText_lines hlines]

/-- Every text file is loaded as a variant of lines, and so is its text when it is read by itself.
Loading takes the lines of the text with its carriage returns as line feeds. The two variants have
the same lines, and the one that was loaded has the text of the file, with a line feed at its end,
exactly when there is no carriage return; they differ in nothing else but the suffix. -/
theorem loadSource_takes_lines (hv : b.altered = .ofVariant v) (hlines : v.backend = .lines)
    (hfile : b.machine.HasText (Path.ofText path).text text) :
    ∃ loaded read : Variant Float,
      (loadSource path).run b = (.ok (), { b with altered := .ofVariant loaded }) ∧
      (readProgram text).run b = (.ok (), { b with altered := .ofVariant read }) ∧
      loaded.program = .lines (Program.Lines.ofText (Text.asRead text)) ∧
      read.program = .lines (Program.Lines.ofText text) ∧
      (Altered.ofVariant loaded).text = .ok (Text.ended (Text.asRead text)) ∧
      (loaded.program = read.program ↔ '\r' ∉ text.toList) ∧
      ((Altered.ofVariant loaded).text = .ok (Text.ended text) ↔ '\r' ∉ text.toList) ∧
      loaded = { read.named (Path.ofText path) with program := loaded.program } := by
  have hread : Program.read v.backend (Text.asRead text)
      = .ok (.lines (Program.Lines.ofText (Text.asRead text))) := by
    rw [hlines, Program.read]
  have htext : (Altered.ofVariant ((v.restart (.lines (Program.Lines.ofText
      (Text.asRead text)))).named (Path.ofText path))).text
        = .ok (Text.ended (Text.asRead text)) := by
    rw [Altered.text_ofVariant, Variant.program_named, Variant.program_restart, Program.text,
      Program.Lines.text_ofText]
  refine ⟨(v.restart (.lines (Program.Lines.ofText (Text.asRead text)))).named (Path.ofText path),
    v.restart (.lines (Program.Lines.ofText text)), run_loadSource hv hfile hread,
    run_readProgram_lines hv hlines, rfl, rfl, htext, ?_, ?_,
    v.named_restart _ _ _⟩
  · rw [← Text.ended_asRead_iff, ← Program.Lines.ofText_inj]
    exact ⟨Program.lines.inj, congrArg Program.lines⟩
  · rw [← Text.ended_asRead_iff, htext]
    exact ⟨Except.ok.inj, congrArg Except.ok⟩

/-- A bench with a text in the file `f` and a variant of lines that has none yet. -/
def lineBench (text : String) : Bench where
  machine := .ofText text
  cache := none
  stats := .zero
  port := 0
  altered := .ofVariant (.empty .lines)

/-- Line breaks other than the two are kept in the lines, and the last line gets its line feed. -/
theorem loadSource_takes_lines_breaks :
    ∃ loaded read : Variant Float,
      (loadSource "f").run (lineBench "a\x0b\n\nb\u2028c")
        = (.ok (), { lineBench "a\x0b\n\nb\u2028c" with altered := .ofVariant loaded }) ∧
      (readProgram "a\x0b\n\nb\u2028c").run (lineBench "a\x0b\n\nb\u2028c")
        = (.ok (), { lineBench "a\x0b\n\nb\u2028c" with altered := .ofVariant read }) ∧
      loaded.program = .lines ["a\x0b", "", "b\u2028c"] ∧ loaded.program = read.program ∧
      (Altered.ofVariant loaded).text = .ok "a\x0b\n\nb\u2028c\n" := by
  have hreturn : '\r' ∉ "a\x0b\n\nb\u2028c".toList := by decide +kernel
  have hlines : Program.Lines.ofText "a\x0b\n\nb\u2028c" = ["a\x0b", "", "b\u2028c"] := by
    decide +kernel
  have hended : Text.ended "a\x0b\n\nb\u2028c" = "a\x0b\n\nb\u2028c\n" := by decide +kernel
  obtain ⟨loaded, read, hload, hread, -, hprogram, -, hsame, htext, -⟩ :=
    loadSource_takes_lines (b := lineBench "a\x0b\n\nb\u2028c") rfl rfl
      (Host.Machine.hasText_ofText _)
  have hloaded := hsame.mpr hreturn
  refine ⟨loaded, read, hload, hread, ?_, hloaded, hended ▸ htext.mpr hreturn⟩
  rw [hloaded, hprogram, hlines]

/-- A carriage return inside a line: the text by itself has one line, the file that holds it has
two. -/
theorem loadSource_splits_lines :
    ∃ loaded read : Variant Float,
      (loadSource "f").run (lineBench "a\rb\n")
        = (.ok (), { lineBench "a\rb\n" with altered := .ofVariant loaded }) ∧
      (readProgram "a\rb\n").run (lineBench "a\rb\n")
        = (.ok (), { lineBench "a\rb\n" with altered := .ofVariant read }) ∧
      loaded.program = .lines ["a", "b"] ∧ (Altered.ofVariant loaded).text = .ok "a\nb\n" ∧
      read.program = .lines ["a\rb"] ∧ (Altered.ofVariant read).text = .ok "a\rb\n" := by
  have hloaded : Program.Lines.ofText (Text.asRead "a\rb\n") = ["a", "b"] := by decide +kernel
  have hread : Program.Lines.ofText "a\rb\n" = ["a\rb"] := by decide +kernel
  have hfile : Program.read .lines (Text.asRead "a\rb\n") = .ok (.lines ["a", "b"]) := by
    rw [Program.read, hloaded]
  have hload := run_loadSource (b := lineBench "a\rb\n") rfl (Host.Machine.hasText_ofText _) hfile
  have hprogram : (readProgram "a\rb\n").run (lineBench "a\rb\n") = (.ok (),
      { lineBench "a\rb\n" with
        altered := .ofVariant ((Variant.empty .lines).restart (.lines ["a\rb"])) }) := by
    rw [run_readProgram_lines rfl rfl, hread]
  refine ⟨_, _, hload, hprogram, rfl, ?_, rfl, ?_⟩
  · decide +kernel
  · decide +kernel

end Work

end VariantRepair

/-!
## Snapshots restore variants

A snapshot that was saved holds the variant with all that belongs to it but its last compilation.
Loading it puts that variant on the bench, whatever else is there.
-/

namespace VariantRepair

variable {b b' : Bench} {path : String}

/-! ### Saving -/

/-- The record of a variant that has all its parts is the variant without its last compilation. -/
lemma Altered.record_ofVariant (v : Variant Float) :
    (ofVariant v).record = .snapshot (ofVariant v.forget) := rfl

namespace Work

/-- A snapshot that was saved is at its path, and the variant at hand is as it was. -/
lemma run_saveSnapshot_of_ok (h : (saveSnapshot path).run b = (.ok (), b')) :
    (Host.readContent (Path.ofText path).text).run b'.machine
        = (.ok (.record b.altered.record), b'.machine) ∧
      b' = { b with machine := b'.machine } := by
  rw [saveSnapshot] at h
  obtain ⟨⟨⟩, b₁, hcallable, hsave⟩ := exists_run_of_run_bind h
  rw [run_reading] at hcallable
  obtain ⟨-, rfl⟩ := Prod.mk.inj hcallable
  have hget : (get : Work Bench).run b = (.ok b, b) := rfl
  rw [run_bind_of_ok hget] at hsave
  obtain ⟨m, hwrite, rfl⟩ := exists_run_of_run_onMachine hsave
  refine ⟨?_, rfl⟩
  obtain ⟨⟨⟩, m₁, -, hwrite⟩ := exists_run_of_run_bind hwrite
  obtain ⟨place, old, hopens, rfl⟩ := Host.opens_of_run_writeContent hwrite
  exact Host.run_readContent_of_find hopens.nul (hopens.find_set _)

/-- Saving succeeds where the directory is there and the file can be written. -/
lemma run_saveSnapshot {v : Variant Float} {directory place : Host.Place}
    {old : Option Host.Content} (hv : b.altered = .ofVariant v)
    (hnul : '\x00' ∉ (Path.ofText path).parent.text.toList)
    (hparent : b.machine.files.find b.machine.directory (Path.ofText path).parent.text
      = .ok (directory, .directory))
    (hopens : Host.Opens b.machine (Path.ofText path).text place old) :
    (saveSnapshot path).run b = (.ok (), { b with machine := { b.machine with
      files := b.machine.files.set place (.file (.record b.altered.record)) } }) := by
  have hget : (get : Work Bench).run b = (.ok b, b) := rfl
  rw [saveSnapshot, run_bind_of_ok (run_callable hv _), run_bind_of_ok hget]
  refine run_onMachine_of_ok ?_
  rw [run_bind_of_ok (Host.run_needDirectories_of_find hnul hparent)]
  exact hopens.run_writeContent _

end Work

/-! ### Loading -/

/-- A variant without atoms takes all that the snapshot of a variant of its backend holds. -/
lemma Altered.run_load (path : String) (v : Variant Float) :
    (load path (.variant (ofVariant v))).run (ofVariant (.empty v.backend))
      = (.ok (), ofVariant v.forget) := by
  have hbackend : v.backend = (Variant.empty v.backend : Variant Float).backend := by
    cases h : v.backend <;> rfl
  have hsuffix : (v.ownSuffix <|> (Variant.empty v.backend : Variant Float).ownSuffix)
      = v.ownSuffix := by
    cases h : v.ownSuffix <;> rfl
  rw [run_load_ofVariant, if_pos hbackend, hsuffix]
  rfl

namespace Work

/-- A bench without a program takes the variant that a snapshot holds. -/
lemma run_loadSnapshot (v : Variant Float) (hfresh : b.altered = .ofVariant (.empty v.backend))
    (hread : (Host.readContent path).run b.machine
      = (.ok (.record (.snapshot (.ofVariant v))), b.machine)) :
    (loadSnapshot path).run b = (.ok (), { b with altered := .ofVariant v.forget }) := by
  have hrecord : (Host.readRecord path).run b.machine
      = (.ok (.snapshot (.ofVariant v)), b.machine) := by
    rw [Host.readRecord, run_bind_of_ok hread]
    rfl
  have hheld : (ofExcept ((Record.snapshot (.ofVariant v)).held path) : Work Record.Held).run b
      = (.ok (.variant (.ofVariant v)), b) := rfl
  rw [loadSnapshot, run_bind_of_ok (run_callable hfresh _),
    run_bind_of_ok (run_onMachine_of_ok hrecord), run_bind_of_ok hheld, run_alter, hfresh,
    Altered.run_load]

end Work

/-- A snapshot restores a variant. Let a variant come about in any way, by reading programs,
weighing atoms, editing and compiling, and let it be saved. Then a fresh variant of the same
backend, whatever cache, counters and port there are, is loaded from every path at which the saved
file is read, and becomes the saved variant up to its last compilation, which is forgotten. Whatever
is asked of the two from there on, in any sequence, they answer the same; and saving has not changed
the saved one, nor has loading changed anything else. -/
theorem snapshot_restores (untouched : Float) (b saved fresh : Bench) (path path' : String)
    (hreached : b.altered.Reached untouched)
    (hsave : (Work.saveSnapshot path).run b = (.ok (), saved))
    (hfresh : fresh.altered = .ofVariant (.empty b.altered.variant.backend))
    (hpath : ((Host.readContent path').run fresh.machine).1
      = ((Host.readContent (Path.ofText path).text).run saved.machine).1) :
    ∃ loaded, (Work.loadSnapshot path').run fresh = (.ok (), loaded) ∧
      loaded = { fresh with altered := .ofVariant b.altered.variant.forget } ∧
      saved.altered = b.altered ∧
      ∀ xs, loaded.altered.answers untouched xs = saved.altered.answers untouched xs := by
  obtain ⟨v, hv⟩ := hreached.exists_variant
  obtain ⟨hstored, hrest⟩ := Work.run_saveSnapshot_of_ok hsave
  have hsaved : saved.altered = .ofVariant v := by
    rw [hrest]
    exact hv
  rw [hv, Altered.record_ofVariant] at hstored
  have hread : (Host.readContent path').run fresh.machine
      = (.ok (.record (.snapshot (.ofVariant v.forget))), fresh.machine) := by
    refine Prod.ext (hpath.trans (by rw [hstored])) ?_
    exact Host.run_eq_of_preserves (fun I => Host.preserves_readContent path') rfl
  rw [hv] at hfresh ⊢
  refine ⟨_, Work.run_loadSnapshot v.forget hfresh hread, rfl, hsaved, fun xs => ?_⟩
  rw [hsaved]
  exact Altered.answers_forget v xs

/-- Two lines of a script, of which the first is deleted after the second got a weight: the snapshot
is saved to one path and loaded from another that leads to the same file. -/
theorem snapshot_restores_script :
    ∃ b saved fresh loaded : Bench, (Work.saveSnapshot "./snapshot").run b = (.ok (), saved) ∧
      (Work.loadSnapshot "/work//snapshot").run fresh = (.ok (), loaded) ∧
      fresh.altered = .ofVariant (.empty .lines) ∧
      saved.altered.variant.compiled.isSome ∧ loaded.altered.variant.compiled = none ∧
      loaded.altered.variant.history = [.delete 1] ∧
      loaded.altered.variant.ownSuffix = some ".sh" ∧
      ∀ xs, loaded.altered.answers 0.25 xs = saved.altered.answers 0.25 xs := by
  let steps : List Making := [.read "a\nb\n", .named ".sh", .weighed ⟨[(2, 0.5)]⟩,
    .attempt (.delete (.int 1)), .compiled ⟨"d", true, .ofText "/s", none⟩]
  let a := steps.foldl (fun a x => ((x.make 0.25).run a).2) (Altered.ofVariant (.empty .lines))
  have hreached : a.Reached 0.25 :=
    (((((Altered.Reached.fresh .lines).step _).step _).step _).step _).step _
  let v : Variant Float :=
    { program := .lines ["b"], localization := ⟨[(1, 0.5)]⟩, history := [.delete 1]
      ownSuffix := some ".sh", compiled := some ⟨"d", true, .ofText "/s", none⟩ }
  have ha : a = .ofVariant v := rfl
  let m : Host.Machine := .ofDirectory ["work"] "1"
  let b : Bench := { machine := m, cache := none, stats := .zero, port := 808, altered := a }
  have hopens : Host.Opens m (Path.ofText "./snapshot").text ["work", "snapshot"] none :=
    ⟨by decide +kernel, by decide +kernel, rfl, fun _ => rfl⟩
  have hparent : m.files.find m.directory (Path.ofText "./snapshot").parent.text
      = .ok (["work"], .directory) :=
    Host.FileTree.find_eq_ok_iff.mpr ⟨by decide +kernel, rfl⟩
  have hsave := Work.run_saveSnapshot (b := b) ha (by decide +kernel) hparent hopens
  let saved : Bench := { b with machine := { m with
    files := m.files.set ["work", "snapshot"] (.file (.record a.record)) } }
  let fresh : Bench :=
    { saved with altered := .ofVariant (.empty .lines), cache := some (.ofPath "x"), port := 900 }
  have hfind : fresh.machine.files.find fresh.machine.directory "/work//snapshot"
      = .ok (["work", "snapshot"], .file (.record a.record)) :=
    Host.FileTree.find_eq_ok_iff.mpr ⟨by decide +kernel, rfl⟩
  have hread := Host.run_readContent_of_find (by decide +kernel) hfind
  have hsaved := Host.run_readContent_of_find (m := saved.machine) hopens.nul
    (hopens.find_set (.record a.record))
  obtain ⟨loaded, hload, hloaded, -, hanswers⟩ := snapshot_restores 0.25 b saved fresh "./snapshot"
    "/work//snapshot" hreached hsave rfl (by rw [hread]; exact (congrArg Prod.fst hsaved).symm)
  have hvariant : loaded.altered.variant = v.forget := by rw [hloaded]; rfl
  exact ⟨b, saved, fresh, loaded, hsave, hload, rfl, rfl, by rw [hvariant]; rfl,
    by rw [hvariant]; rfl, by rw [hvariant]; rfl, hanswers⟩

end VariantRepair
