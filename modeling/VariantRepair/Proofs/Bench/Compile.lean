import Mathlib.Tactic.Common
import VariantRepair.Toolchain.Compiler
import VariantRepair.Proofs.Bench.Harness
import VariantRepair.Proofs.Cache.File
import VariantRepair.Proofs.Host.Kept
import VariantRepair.Proofs.Variant.Edit

/-!
# Compiling

A compilation first writes the text of the variant to its source, then runs the command, and then
remembers what came out. Where the command makes no executable, the source is what runs.
-/

namespace VariantRepair

open Host

variable {c : Config}

/-- A process that ends on its own and is given no environment leaves the files alone. -/
lemma Host.run_start_of_finished {m : Machine} {words : List String} {seconds : Float}
    {status : Int} {out err : String}
    (h : (m.replies.head?.getD m.further).ending = .finished status out err) :
    (start words seconds none).run m = (.ok (.finished status out err),
      { m with replies := m.replies.drop 1, calls := m.calls ++ [⟨words, seconds, none⟩] }) := by
  rw [start, run_bind_of_ok (run_get m)]
  dsimp only
  rw [h]
  cases (m.replies.head?.getD m.further).coverage <;> rfl

/-- The machine after a compilation that succeeds. -/
def Host.Machine.compiled (m : Machine) (place : Place) (text : String) (words : List String)
    (seconds : Float) : Machine :=
  { m with
    files := m.files.set place (.file (.ofText text)), replies := m.replies.drop 1
    calls := m.calls ++ [⟨words, seconds, none⟩] }

namespace Work

/-! ### The parts of a compilation -/

lemma executable_of_run_compilation {source exe : Path} {result : Compilation} {m m' : Machine}
    (hcommand : Compilation.producesExecutable c = false)
    (h : (Compilation.run c source exe).run m = (.ok result, m')) :
    result.executable = none ∨ result.executable = some source := by
  unfold Compilation.run at h
  rw [hcommand, if_neg Bool.false_ne_true] at h
  dsimp only at h
  split at h
  · cases h
  · obtain ⟨ending, m₁, -, hending⟩ := exists_run_of_run_bind h
    obtain ⟨hresult, -⟩ := Prod.mk.inj hending
    obtain rfl := Except.ok.inj hresult
    cases ending with
    | finished status out err =>
      by_cases hstatus : status = 0
      · exact .inr (congrArg Compilation.executable (if_pos hstatus))
      · exact .inl (congrArg Compilation.executable (if_neg hstatus))
    | _ => exact .inl rfl

/-- The record of a compilation of a text: where the command makes no executable, what runs is the
source. -/
structure IsRecord (c : Config) (text : String) (source : Path) (k : Compiled) : Prop where
  digest_eq : k.digest = textDigest text
  source_eq : k.source = source
  executable_eq : Compilation.producesExecutable c = false →
    k.executable = none ∨ k.executable = some source

/-- The end of a compilation: a message if it failed, and the source is deleted. -/
def compileEnded (keepSource : Bool) (source : Path) (result : Compilation) : Work Bool := do
  if !result.success then
    let name ← reading (·.name)
    onMachine (Host.warn s!"[Compile] {name} failed: {shownMessage result.stderr}")
  if !keepSource && result.executable.any (· ≠ source) then
    onMachine (Host.deleteFile source.text)
  return result.success

/-- A compilation once the source is written. -/
def compileWritten (c : Config) (exePath : Path) (keepSource : Bool) (text : String)
    (source : Path) : Work Bool := do
  reading (·.provides "compiler" "compile")
  let exe ← onMachine (Host.resolve exePath)
  let result ← onMachine (Compilation.run c source exe)
  reading (·.provides "stats" "record_compile")
  count (·.recordCompile result.success)
  let compiled : Compiled :=
    { digest := textDigest text, success := result.success, source,
      executable := result.executable }
  alter (Altered.change fun v => { v with compiled := some compiled })
  compileEnded keepSource source result

/-- Write the text of the variant at hand to a file; the text, and the path of the file. -/
def writeSource (sourcePath : Path) : Work (String × Path) := do
  reading (·.callable "compile")
  let text ← reading (·.text)
  let source ← onMachine (Host.resolve sourcePath)
  onMachine do
    Host.needDirectories source.parent
    Host.writeText source.text text
  return (text, source)

lemma compile_eq (c : Config) (sourcePath exePath : Path) (keepSource : Bool) :
    compile c sourcePath exePath keepSource = (do
      let (text, source) ← writeSource sourcePath
      compileWritten c exePath keepSource text source) := by
  simp only [writeSource, bind_assoc, pure_bind]
  rfl

/-- A source that was written is at its path and holds the text of the variant. -/
lemma of_run_writeSource {sourcePath source : Path} {text : String} {b b' : Bench}
    (h : (writeSource sourcePath).run b = (.ok (text, source), b')) :
    b.altered.text = .ok text ∧ source = sourcePath.resolve b.machine.directory ∧
      b'.altered = b.altered ∧ Cache.FileAt b'.machine source.text (.ofText text) := by
  obtain ⟨⟨⟩, b₁, hcallable, h⟩ := exists_run_of_run_bind h
  obtain ⟨text', b₂, hreading, h⟩ := exists_run_of_run_bind h
  rw [run_reading] at hcallable hreading
  obtain ⟨-, rfl⟩ := Prod.mk.inj hcallable
  obtain ⟨htext, rfl⟩ := Prod.mk.inj hreading
  obtain ⟨source', b₃, hbench, h⟩ := exists_run_of_run_bind h
  obtain ⟨m, hresolve, rfl⟩ := exists_run_of_run_onMachine hbench
  obtain ⟨rfl, rfl⟩ := Host.eq_resolve_of_run hresolve
  obtain ⟨⟨⟩, b₄, hbench', h⟩ := exists_run_of_run_bind h
  obtain ⟨m', hmachine, rfl⟩ := exists_run_of_run_onMachine hbench'
  obtain ⟨⟨⟩, m₁, -, hwrite⟩ := exists_run_of_run_bind hmachine
  obtain ⟨place, old, hopens, rfl⟩ := Host.opens_of_run_writeContent hwrite
  cases h
  exact ⟨htext, rfl, rfl, hopens.nul, place, hopens.find_set _⟩

/-! ### Compilations that succeed -/

/-- A compilation to a source of its own succeeds: its source can be written, and its command ends
well. -/
structure Compiles (c : Config) (m : Machine) (sourcePath exePath source : Path)
    (place : Place) (words : List String) : Prop where
  source_nul : '\x00' ∉ sourcePath.text.toList
  exe_nul : '\x00' ∉ exePath.text.toList
  resolve_eq : sourcePath.resolve m.directory = source
  parent_nul : '\x00' ∉ source.parent.text.toList
  parent : ∃ q, m.files.find m.directory source.parent.text = .ok (q, .directory)
  opens : ∃ old, Opens m source.text place old
  words_eq : Compilation.words c source source = .ok words
  ending : ∃ out err, (m.replies.head?.getD m.further).ending = .finished 0 out err

section Compiles

variable {b : Bench} {v : Variant Float} {sourcePath exePath source : Path} {keepSource : Bool}
  {text : String} {place : Place} {words : List String}

lemma run_compileEnded_of_success (stderr : String) :
    (compileEnded keepSource source ⟨true, some source, stderr⟩).run b = (.ok true, b) := by
  simp [compileEnded]
  rfl

lemma run_writeSource_of_compiles (hv : b.altered = .ofVariant v)
    (htext : v.program.text = .ok text)
    (h : Compiles c b.machine sourcePath exePath source place words) :
    (writeSource sourcePath).run b = (.ok (text, source), { b with machine := { b.machine with
      files := b.machine.files.set place (.file (.ofText text)) } }) := by
  obtain ⟨q, hparent⟩ := h.parent
  obtain ⟨old, hopens⟩ := h.opens
  have hreading : (reading (·.text)).run b = (.ok text, b) := by
    rw [run_reading, hv, Altered.text_ofVariant, htext]
  have hresolve := run_onMachine_of_ok (b := b) (run_resolve h.source_nul _)
  rw [h.resolve_eq] at hresolve
  have hfile : (do needDirectories source.parent; writeText source.text text : Action Unit).run
      b.machine = (.ok (), { b.machine with
        files := b.machine.files.set place (.file (.ofText text)) }) :=
    (run_bind_of_ok (run_needDirectories_of_find h.parent_nul hparent) _).trans
      (hopens.run_writeContent _)
  rw [writeSource, run_bind_of_ok (run_callable hv _), run_bind_of_ok hreading,
    run_bind_of_ok hresolve, run_bind_of_ok (run_onMachine_of_ok hfile)]
  rfl

/-- A compilation whose process is started goes by how this ends. -/
lemma run_compilation_of_start {m m' : Machine} {exe made : Path} {ending : Ending}
    (hmade : (if Compilation.producesExecutable c then exe else source) = made)
    (hwords : Compilation.words c source made = .ok words)
    (hstart : (start words c.compileTimeout none).run m = (.ok ending, m')) :
    (Compilation.run c source exe).run m = (.ok (Compilation.ofEnding c made ending), m') := by
  unfold Compilation.run
  rw [hmade]
  dsimp only
  rw [hwords]
  exact (run_bind_of_ok hstart _).trans rfl

/-- A compilation whose command ends well has made an executable, or its source is what runs. -/
lemma run_compilation_of_finished {m : Machine} {exe made : Path}
    (hmade : (if Compilation.producesExecutable c then exe else source) = made)
    (hwords : Compilation.words c source made = .ok words)
    (hending : ∃ out err, (m.replies.head?.getD m.further).ending = .finished 0 out err) :
    ∃ stderr, (Compilation.run c source exe).run m = (.ok ⟨true, some made, stderr⟩, { m with
      replies := m.replies.drop 1, calls := m.calls ++ [⟨words, c.compileTimeout, none⟩] }) := by
  obtain ⟨out, err, hending⟩ := hending
  exact ⟨tailText err messageLimit,
    run_compilation_of_start hmade hwords (run_start_of_finished hending)⟩

/-- Once its source is written and its command has run, a compilation is counted and remembered, and
comes to its end. -/
lemma run_compileWritten_of_run {exe : Path} {result : Compilation} {m : Machine}
    (hv : b.altered = .ofVariant v) (keepSource : Bool) (text : String)
    (hexe : (Host.resolve exePath).run b.machine = (.ok exe, b.machine))
    (hrun : (Compilation.run c source exe).run b.machine = (.ok result, m)) :
    (compileWritten c exePath keepSource text source).run b
      = (compileEnded keepSource source result).run { b with
          machine := m, stats := b.stats.recordCompile result.success
          altered := .ofVariant { v with
            compiled := some ⟨textDigest text, result.success, source, result.executable⟩ } } := by
  let b₁ : Bench := { b with machine := m }
  have hcount : (count (·.recordCompile result.success)).run b₁
      = (.ok (), { b₁ with stats := b.stats.recordCompile result.success }) := rfl
  rw [compileWritten, run_bind_of_ok (run_provides hv _ _),
    run_bind_of_ok (run_onMachine_of_ok hexe), run_bind_of_ok (run_onMachine_of_ok hrun),
    run_bind_of_ok (run_provides (b := b₁) hv _ _), run_bind_of_ok hcount]
  refine (run_bind_of_ok (run_alter _ _) _).trans ?_
  rw [show b₁.altered = .ofVariant v from hv]
  rfl

/-- Once its source is written, a compilation whose command ends well comes to its end with a record
of the text. -/
lemma exists_run_compileWritten (hv : b.altered = .ofVariant v) {made : Path}
    (hnul : '\x00' ∉ exePath.text.toList)
    (hmade : (if Compilation.producesExecutable c then exePath.resolve b.machine.directory
      else source) = made)
    (hwords : Compilation.words c source made = .ok words)
    (hending : ∃ out err, (b.machine.replies.head?.getD b.machine.further).ending
      = .finished 0 out err) :
    ∃ stderr, (compileWritten c exePath keepSource text source).run b
      = (compileEnded keepSource source ⟨true, some made, stderr⟩).run { b with
          machine := { b.machine with
            replies := b.machine.replies.drop 1
            calls := b.machine.calls ++ [⟨words, c.compileTimeout, none⟩] }
          stats := b.stats.recordCompile true
          altered := .ofVariant
            { v with compiled := some ⟨textDigest text, true, source, some made⟩ } } := by
  obtain ⟨stderr, hrun⟩ := run_compilation_of_finished hmade hwords hending
  exact ⟨stderr, run_compileWritten_of_run hv keepSource text (run_resolve hnul _) hrun⟩

/-- A compilation that succeeds leaves its text in its source, and a record of it. -/
lemma run_compile_of_compiles (hcommand : Compilation.producesExecutable c = false)
    (hv : b.altered = .ofVariant v) (htext : v.program.text = .ok text)
    (h : Compiles c b.machine sourcePath exePath source place words) :
    (compile c sourcePath exePath keepSource).run b = (.ok true, { b with
      machine := b.machine.compiled place text words c.compileTimeout
      stats := b.stats.recordCompile true
      altered := .ofVariant
        { v with compiled := some ⟨textDigest text, true, source, some source⟩ } }) := by
  let b₁ : Bench := { b with
    machine := { b.machine with files := b.machine.files.set place (.file (.ofText text)) } }
  have hmade : (if Compilation.producesExecutable c then exePath.resolve b.machine.directory
      else source) = source := by
    rw [hcommand, if_neg Bool.false_ne_true]
  obtain ⟨stderr, hended⟩ := exists_run_compileWritten (b := b₁) hv h.exe_nul hmade h.words_eq
    h.ending
  rw [compile_eq, run_bind_of_ok (run_writeSource_of_compiles hv htext h)]
  dsimp only
  rw [hended, run_compileEnded_of_success]
  rfl

end Compiles

/-! ### What a compilation leaves -/

section Leaves

variable {b b' : Bench} {v : Variant Float} {source : Path} {place : Place} {content : Content}

/-- What is done on the machine leaves the rest of the bench alone. -/
lemma onlyMachine_onMachine {α : Type} (a : Action α) :
    Preserves (fun b' => b' = { b with machine := b'.machine }) (onMachine a) := by
  intro b' hb
  rw [run_onMachine, hb]

lemma onlyMachine_reading {α : Type} (f : Altered → Except Failure α) :
    Preserves (fun b' => b' = { b with machine := b'.machine }) (reading f) :=
  .bind_get fun _ _ => .ofExcept _

lemma onlyMachine_writeSource (sourcePath : Path) :
    Preserves (fun b' => b' = { b with machine := b'.machine }) (writeSource sourcePath) :=
  .bind (onlyMachine_reading _) fun _ => .bind (onlyMachine_reading _) fun _ =>
    .bind (onlyMachine_onMachine _) fun _ => .bind (onlyMachine_onMachine _) fun _ => .pure _

/-- A compilation whose source is still there comes to its end. -/
lemma run_compileEnded (hv : b.altered = .ofVariant v) (keepSource : Bool) (result : Compilation)
    (hsource : Cache.FileAt b.machine source.text content) :
    ∃ m, (compileEnded keepSource source result).run b
      = (.ok result.success, { b with machine := m }) := by
  have hend {b : Bench} (hsource : Cache.FileAt b.machine source.text content) : ∃ m, (do
      if !keepSource && result.executable.any (· ≠ source) then
        onMachine (Host.deleteFile source.text)
      return result.success : Work Bool).run b = (.ok result.success, { b with machine := m }) := by
    obtain ⟨hnul, place, hfind⟩ := hsource
    dsimp only
    split_ifs
    · rw [run_bind_of_ok (run_onMachine_of_ok (run_deleteFile_of_find hnul hfind))]
      exact ⟨_, rfl⟩
    · exact ⟨b.machine, rfl⟩
  rw [compileEnded]
  by_cases hfailed : !result.success
  · rw [if_pos hfailed, run_bind_of_ok (run_name hv), run_bind_of_ok (run_onMachine _ b)]
    exact hend (b := { b with machine := _ }) hsource
  · rw [if_neg hfailed]
    exact hend hsource

/-- A compiler has no coverage file, so that it leaves every file where it is. -/
lemma fileAt_of_run_compilation {m m' : Machine} {exe : Path} {result : Compilation}
    (hfile : Cache.FileAt m source.text content)
    (h : (Compilation.run c source exe).run m = (.ok result, m')) :
    Cache.FileAt m' source.text content := by
  obtain ⟨hnul, place, hfind⟩ := hfile
  obtain ⟨hlocate, hget⟩ := FileTree.find_eq_ok_iff.mp hfind
  have hkeeps := (keeps_compilation (S := (· = place)) (C := (· = content)) c source exe).of_run
    (.refl fun _ hq => ⟨content, hq ▸ hget, rfl⟩) h
  obtain ⟨_, hleft, rfl⟩ := hkeeps.find rfl hlocate
  exact ⟨hnul, place, hleft⟩

/-- A compilation whose source is written fails and changes nothing but the machine, or it is
counted and remembered. -/
lemma run_compileWritten_cases (hv : b.altered = .ofVariant v) (exePath : Path) (keepSource : Bool)
    (text : String) (hsource : Cache.FileAt b.machine source.text content) :
    (∃ f m, (compileWritten c exePath keepSource text source).run b
        = (.error f, { b with machine := m })) ∨
      ∃ success m k, (compileWritten c exePath keepSource text source).run b
        = (.ok success, { b with
            machine := m, stats := b.stats.recordCompile success
            altered := .ofVariant { v with compiled := some k } }) := by
  cases hexe : (Host.resolve exePath).run b.machine with
  | mk r m =>
    obtain rfl := run_eq_of_preserves (fun I => preserves_resolve exePath) hexe
    cases r with
    | error f =>
      refine .inl ⟨f, b.machine, ?_⟩
      rw [compileWritten, run_bind_of_ok (run_provides hv _ _),
        run_bind_of_error (run_onMachine_of_error hexe)]
    | ok exe =>
      cases hrun : (Compilation.run c source exe).run b.machine with
      | mk r m =>
        cases r with
        | error f =>
          refine .inl ⟨f, m, ?_⟩
          rw [compileWritten, run_bind_of_ok (run_provides hv _ _),
            run_bind_of_ok (run_onMachine_of_ok hexe),
            run_bind_of_error (run_onMachine_of_error hrun)]
        | ok result =>
          let k : Compiled :=
            { digest := textDigest text, success := result.success, source,
              executable := result.executable }
          let b₁ : Bench := { b with
            machine := m, stats := b.stats.recordCompile result.success
            altered := .ofVariant { v with compiled := some k } }
          obtain ⟨m', hended⟩ := run_compileEnded (b := b₁) rfl keepSource result
            (fileAt_of_run_compilation hsource hrun)
          exact .inr ⟨result.success, m', k,
            (run_compileWritten_of_run hv keepSource text hexe hrun).trans hended⟩

/-- A compilation of a variant fails and changes nothing but the machine, or it is counted and
remembered. -/
lemma run_compile_cases (hv : b.altered = .ofVariant v) (sourcePath exePath : Path)
    (keepSource : Bool) :
    (∃ f m, (compile c sourcePath exePath keepSource).run b = (.error f, { b with machine := m })) ∨
      ∃ success m k, (compile c sourcePath exePath keepSource).run b
        = (.ok success, { b with
            machine := m, stats := b.stats.recordCompile success
            altered := .ofVariant { v with compiled := some k } }) := by
  rw [compile_eq]
  cases hwrite : (writeSource sourcePath).run b with
  | mk r b' =>
    have hb' := onlyMachine_writeSource (b := b) sourcePath b rfl
    rw [hwrite] at hb'
    dsimp only at hb'
    cases r with
    | error f =>
      rw [run_bind_of_error hwrite]
      exact .inl ⟨f, b'.machine, congrArg (Prod.mk _) hb'⟩
    | ok written =>
      obtain ⟨text, source⟩ := written
      obtain ⟨-, -, haltered, hsource⟩ := of_run_writeSource hwrite
      rw [run_bind_of_ok hwrite]
      have hcases := run_compileWritten_cases (c := c) (haltered.trans hv) exePath keepSource text
        hsource
      rw [hb'] at hcases ⊢
      exact hcases

end Leaves

end Work

end VariantRepair
