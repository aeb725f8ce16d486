import Mathlib.Tactic.Common
import VariantRepair.CommandLine.Run
import VariantRepair.Proofs.Bench.Kept
import VariantRepair.Proofs.Host.Files

/-!
# What a run reads

Working out the configuration prints warnings and sets variables. Choosing the backend and loading
the program look at files. None of this writes a file.
-/

namespace VariantRepair

open Host

variable {m₀ m m' : Machine}

/-- Machines with the same files, on which a path leads to the same place. -/
structure Host.Machine.SameFiles (m₀ m : Machine) : Prop where
  files : m.files = m₀.files
  directory : m.directory = m₀.directory
  process : m.process = m₀.process

namespace Host

namespace Machine.SameFiles

lemma refl (m : Machine) : m.SameFiles m := ⟨rfl, rfl, rfl⟩

lemma fileKnows {path : String} {known : List (CacheKey × Bool)} (h : m₀.SameFiles m)
    (hknows : Cache.FileKnows path known m₀) : Cache.FileKnows path known m := by
  obtain ⟨content, hfile, hholds⟩ := hknows
  rw [Cache.FileAt, ← h.files, ← h.directory] at hfile
  exact ⟨content, hfile, hholds⟩

end Machine.SameFiles

lemma sameFiles_say (line : String) : Preserves m₀.SameFiles (say line) :=
  .modify fun _ h => ⟨h.files, h.directory, h.process⟩

lemma sameFiles_warn (line : String) : Preserves m₀.SameFiles (warn line) :=
  .modify fun _ h => ⟨h.files, h.directory, h.process⟩

lemma sameFiles_setVariable (name value : String) :
    Preserves m₀.SameFiles (setVariable name value) :=
  .bind (preserves_checkText _) fun _ => .bind (preserves_checkText _) fun _ =>
    .modify fun _ h => ⟨h.files, h.directory, h.process⟩

end Host

/-- A configuration that is not refused is as it was. -/
lemma Config.eq_of_check {c c' : Config} (h : c.check = .ok c') : c' = c := by
  rw [check] at h
  split_ifs at h <;> split at h <;> cases h
  rfl

lemma Config.check_eq_ok {c : Config} (h : c.check.toOption.isSome) : c.check = .ok c := by
  cases hcheck : c.check with
  | error f =>
    rw [hcheck] at h
    cases h
  | ok c' => rw [eq_of_check hcheck]

/-- There is no number of tests below zero in a configuration that is not refused. -/
lemma Config.counts_of_check {c c' : Config} (h : c.check = .ok c') :
    0 ≤ c.posTests ∧ 0 ≤ c.negTests := by
  rw [check] at h
  split_ifs at h <;> omega

namespace CommandLine

/-! ### The words -/

section Words

variable {o o' : Options} {extra : List String} {words : List Word}

/-- An option takes the word behind it as its value. -/
lemma take_slot {slot : Slot} {value : String} (h : o.put slot (.value value) = .ok o') :
    take o extra (.option (.slot slot) none :: .plain value :: words) = take o' extra words := by
  rw [take, take.give, h]

lemma take_switch {switch : Switch} (h : switch ≠ .help) :
    take o extra (.option (.switch switch) none :: words)
      = take (o.turnOn switch) extra words := by
  rw [take, if_neg h]

lemma take_nil : take o [] [] = .ok (.run o) := by
  rw [take]
  rfl

/-- Words that are all understood are taken one after another. -/
lemma read_of_classifyAll {argv : List String} (h : classifyAll argv = .ok words) :
    CommandLine.read argv = take .default [] words := by
  rw [CommandLine.read, h]
  rfl

end Words

/-! ### The configuration -/

lemma sameFiles_overlay (c : Config) (settings : List (Value × Value)) :
    Preserves m₀.SameFiles (overlay c settings) :=
  .bind (.forM fun _ => sameFiles_say _) fun _ => .ofExcept _

lemma sameFiles_loadEnvironment (path : String) (override : Bool) :
    Preserves m₀.SameFiles (loadEnvironment path override) := by
  refine .bind (preserves_isFile _) fun found => ?_
  split
  · exact .pure _
  · refine .bind (preserves_readText _) fun text => .bind (.forM fun p => ?_) fun _ => .pure _
    refine .bind_get fun m _ => ?_
    split
    · exact sameFiles_setVariable _ _
    · exact .pure _

lemma sameFiles_fileSettings (path : String) (mayBeMissing : Bool) :
    Preserves m₀.SameFiles (fileSettings path mayBeMissing) := by
  rw [fileSettings]
  split
  · exact .pure _
  · refine .bind (preserves_fileExists _) fun found => ?_
    split
    · split
      · exact .pure _
      · exact .throw _
    · refine .bind (preserves_readText _) fun text => ?_
      split
      · exact .pure _
      · exact .throw _

/-- Working out the configuration leaves the files alone. -/
lemma sameFiles_resolve (o : Options) : Preserves m₀.SameFiles (CommandLine.resolve o) := by
  refine .bind (sameFiles_loadEnvironment _ _) fun _ =>
    .bind (.bind_get fun _ _ => sameFiles_overlay _ _) fun c => ?_
  have hoverlay (settings : List (Value × Value)) : Preserves m₀.SameFiles (do
      let c ← overlay c settings
      overlay c o.overrides) :=
    .bind (sameFiles_overlay _ _) fun _ => sameFiles_overlay _ _
  dsimp only
  split_ifs
  · exact .bind (.pure _) hoverlay
  · exact .bind (sameFiles_fileSettings _ _) hoverlay

section Given

variable {o : Options} {c c' c₁ : Config} {settings : List (Value × Value)}

/-- Settings that are overlaid without a failure give a configuration that passes its check. -/
lemma exists_of_run_overlay (h : (overlay c settings).run m = (.ok c', m')) :
    ∃ warnings, c.overlayFrom settings = (warnings, .ok c') ∧ c'.check = .ok c' := by
  rw [overlay, Config.overlay] at h
  cases hfrom : c.overlayFrom settings with
  | mk warnings r =>
    rw [hfrom] at h
    obtain ⟨u, m₁, -, hrest⟩ := exists_run_of_run_bind h
    cases r with
    | error e => cases hrest
    | ok c₁ =>
      change (ofExcept c₁.check : Action Config).run m₁ = _ at hrest
      cases hcheck : c₁.check with
      | error e =>
        rw [hcheck] at hrest
        cases hrest
      | ok c₂ =>
        rw [hcheck] at hrest
        cases hrest
        obtain rfl := Config.eq_of_check hcheck
        exact ⟨warnings, rfl, hcheck⟩

/-- A configuration that a run works with passes its check. -/
lemma check_of_run_resolve (h : (CommandLine.resolve o).run m = (.ok c, m')) :
    c.check = .ok c := by
  obtain ⟨answer, m₁, -, h⟩ := exists_run_of_run_bind h
  obtain ⟨c₁, m₂, -, h⟩ := exists_run_of_run_bind h
  split_ifs at h <;>
  · obtain ⟨settings, m₃, -, h⟩ := exists_run_of_run_bind h
    obtain ⟨c₂, m₄, -, h⟩ := exists_run_of_run_bind h
    obtain ⟨warnings, -, hcheck⟩ := exists_of_run_overlay h
    exact hcheck

/-- Settings that are overlaid without warnings change nothing else. -/
lemma run_overlay (hsettings : c.overlayFrom settings = ([], .ok c₁)) :
    (overlay c settings).run m = (c₁.check, m) := by
  rw [overlay, Config.overlay, hsettings]
  change (ofExcept c₁.check : Action Config).run m = _
  cases c₁.check <;> rfl

/-- A file of assignments that is not there sets nothing. -/
lemma run_loadEnvironment_of_missing {path : String}
    (hfile : (isFile (Path.ofText path).text).run m = (.ok false, m)) :
    (loadEnvironment path false).run m = (.ok false, m) := by
  rw [loadEnvironment, run_bind_of_ok hfile]
  simp only [Bool.not_false, Bool.or_true, if_true]
  rfl

/-- The file of assignments that is read unless another one is named is not there. -/
lemma run_isFile_env (hdirectory : m.files.get? m.directory = some .directory)
    (hmissing : m.files.get? (m.directory ++ [".env"]) = none) :
    (isFile (Path.ofText ".env").text).run m = (.ok false, m) := by
  have hname : (Path.ofText ".env").text = ".env" := by decide
  rw [hname]
  exact run_isFile_of_none (run_look_of_none
    (FileTree.locate_of_name (by decide) (by decide) (by decide) hdirectory) hmissing)

section NoFiles

variable (hnoConfig : o.noConfig = true)
  (henv : (isFile (Path.ofText o.envFile.text).text).run m = (.ok false, m))
  (hvariables : m.environment = [])
  (hsettings : Config.default.overlayFrom o.overrides = ([], .ok c₁))

include hnoConfig henv hvariables hsettings

/-- Without variables and files, the configuration is what the command line sets. -/
lemma run_resolve : (CommandLine.resolve o).run m = (c₁.check, m) := by
  have hdefault : (overlay .default []).run m = (.ok .default, m) := by
    rw [run_overlay rfl, Config.check_eq_ok (by decide +kernel)]
  have henvironment : (environmentConfig .default).run m = (.ok .default, m) := by
    rw [environmentConfig, run_bind_of_ok (run_get m), hvariables]
    exact hdefault
  rw [CommandLine.resolve, run_bind_of_ok (run_loadEnvironment_of_missing henv),
    run_bind_of_ok henvironment, hnoConfig]
  exact (run_bind_of_ok hdefault fun c => overlay c o.overrides).trans (run_overlay hsettings)

lemma of_run_resolve (h : (CommandLine.resolve o).run m = (.ok c, m')) : c = c₁ ∧ m' = m := by
  rw [run_resolve hnoConfig henv hvariables hsettings] at h
  obtain ⟨hcheck, rfl⟩ := Prod.mk.inj h
  exact ⟨Config.eq_of_check hcheck, rfl⟩

end NoFiles

end Given

/-! ### The program -/

lemma preserves_snapshotBackend {I : Machine → Prop} (path : String) :
    Preserves I (Work.snapshotBackend path) := by
  refine .bind (preserves_readRecord _) fun r => ?_
  split
  · exact .pure _
  · exact .throw _

lemma preserves_chooseBackend {I : Machine → Prop} (c : Config) (snapshot : Option String) :
    Preserves I (chooseBackend c snapshot) := by
  rw [chooseBackend.eq_def]
  split
  · exact .bind (.pure _) fun _ => .ofExcept _
  · split
    · exact .bind (preserves_snapshotBackend _) fun _ => .ofExcept _
    · exact .bind (.pure _) fun _ => .ofExcept _

lemma within_loadProgram {S : Place → Prop} {C : Content → Prop} {K : Cache → Prop} (c : Config)
    (snapshot : Option String) :
    Preserves (Bench.Within (m₀.Keeps S C) K fun _ => True) (loadProgram c snapshot) := by
  have halter {α : Type} (a : Altered.Alteration α) :
      Preserves (Bench.Within (m₀.Keeps S C) K fun _ => True) (Work.alter a) :=
    Work.within_alter fun _ _ => trivial
  cases snapshot with
  | some path =>
    have hsnapshot : Preserves (Bench.Within (m₀.Keeps S C) K fun _ => True)
        (Work.loadSnapshot path) :=
      .bind (Work.preserves_reading _) fun _ =>
        .bind (Work.within_onMachine (preserves_readRecord _)) fun _ =>
        .bind (.ofExcept _) fun _ => halter _
    exact .bind hsnapshot fun _ => .bind (Work.preserves_reading _) fun _ =>
      Work.within_onMachine (keeps_say _)
  | none =>
    have hsource : Preserves (Bench.Within (m₀.Keeps S C) K fun _ => True)
        (Work.loadSource c.program) := by
      refine .bind (Work.preserves_reading _) fun _ =>
        .bind (Work.within_onMachine (preserves_readText _)) fun _ => .bind (halter _) fun _ => ?_
      split
      · exact halter _
      · exact .pure _
    exact .bind hsource fun _ => .bind Work.preserves_variant fun _ =>
      Work.within_onMachine (keeps_say _)

end CommandLine

end VariantRepair
