import Mathlib.Tactic.Common
import VariantRepair.Proofs.CommandLine.Reported

/-!
# Runs that fail

A run that fails is ended with one message and status one, unless its failure is one of those that
escape. The failures of a run are those of its steps, of which each is looked at on the bench that
the steps before it leave.
-/

namespace VariantRepair

open Host

namespace CommandLine

open Work

variable {o : Options} {c : Config} {m m₁ : Machine}

/-! ### The work of a run -/

lemma tells_check {E : Failure → Prop} : TellsOn Altered.IsWhole E (check o c) := by
  rw [check]
  split_ifs
  · exact tells_sanityCheck
  · exact .pure _

lemma tells_snapshot {E : Failure → Prop} : TellsOn Altered.IsWhole E (snapshot o) := by
  rw [snapshot]
  split
  · exact .bind (tells_saveSnapshot _) fun _ => tells_onMachine (faults_say _).tells
  · exact .pure _

/-- Weighing a program fails with what is reported, unless a row of the fault file has nothing but
separators. -/
lemma reported_weigh {b : Bench} (hb : b.altered.IsWhole) :
    Reported (ReadsEmptyRow c b.machine) ((weigh o c).run b).1 := by
  rw [weigh]
  refine .run_bind ?_ fun weighted b' hrun => ?_
  · rw [run_reading]
    exact hb.reported_weighted
  · rw [run_reading] at hrun
    obtain ⟨-, rfl⟩ := Prod.mk.inj hrun
    split_ifs
    · exact reported_localize hb
    · exact .ok _

lemma reported_prepare {E : Failure → Prop} {b : Bench} (hb : b.altered.IsWhole)
    (hrows : ∀ b', (check o c).run b = (.ok (), b') → ∀ f, ReadsEmptyRow c b'.machine f → E f) :
    Reported E ((prepare o c).run b).1 := by
  rw [prepare_eq]
  refine .run_bind (tells_check.reported b hb) fun _ b₁ hcheck => ?_
  have hb₁ : b₁.altered.IsWhole := (tells_check (E := E)).preserves.of_run hb hcheck
  refine .run_bind ((reported_weigh hb₁).mono (hrows b₁ hcheck)) fun _ b₂ hweigh => ?_
  have hset (l : Localization Float) : Preserves Altered.IsWhole (Altered.setLocalization l) :=
    (Altered.reports_setLocalization (E := E) l).preserves
  exact tells_snapshot.reported b₂ ((altered_weigh hset).of_run hb₁ hweigh)

/-- Edits that are random fail with what is reported: they are drawn for the variant at hand. -/
lemma tells_applyRandomEdits {E : Failure → Prop} (count : Nat) :
    TellsOn Altered.IsWhole E (applyRandomEdits c count) := by
  refine .bind_get fun b hb => ?_
  obtain ⟨v, hv⟩ := hb
  have hdraw {f : Failure} (h : (Variant.drawEdits Chance.Twister.dice c.untouchedWeight
      (c.deleteProbability, c.appendProbability, c.swapProbability) count v
      (Chance.Twister.ofSeed c.seed)).2.1 = some f) : f.isReported = true ∨ E f :=
    Variant.isReported_of_drawEdits _ _ _ h
  rw [hv]
  refine .bind (.modify fun _ _ => Altered.isWhole_ofVariant _) fun _ => ?_
  split
  · next f hf => exact .throw (hdraw hf)
  · exact .pure _

/-- Edits fail with what is reported, unless two hyphens stand for the number of random ones. -/
lemma tells_vary : TellsOn Altered.IsWhole (Escapes o m) (vary o c) := by
  have hcount : Reported (Escapes o m) (randomCount o.randomEdits) := by
    cases hgiven : o.randomEdits with
    | value n => exact .ok _
    | nothing => exact .error (.inr (.randomEdits hgiven))
  exact .bind (tells_callable (fun _ h => h) _) fun _ =>
    .bind (.ofExcept (Edit.reported_parseList _)) fun edits =>
    .bind (tells_alter (Altered.reports_applyAll _ edits)) fun _ =>
    .bind (.ofExcept hcount) fun count => tells_applyRandomEdits count

/-! ### The archive -/

/-- Keeping a variant in an archive fails with what is reported, and where the metadata that the
archive has do not take its name. -/
lemma reported_keepAs {E : Failure → Prop} {b : Bench} {e : Evaluation} {directory suffix : String}
    (hb : b.altered.IsWhole)
    (hname : ∀ opened m source metadata,
      (Archive.open directory suffix).run b.machine = (.ok opened, m) →
      b.altered.text = .ok source →
      opened.index.lookup (Archive.shortDigest source) = some metadata →
      Reported E (Archive.noteName metadata e.name)) :
    Reported E ((keepAs directory suffix e).run b).1 := by
  have hfitness : Reported E ((some (.float e.fitness)).mapM Archive.fitnessValue) := .ok _
  rw [keepAs]
  refine .run_bind ?_ fun opened b₁ hopened => ?_
  · rw [run_onMachine]
    exact (Archive.tells_open _ _).reported b.machine trivial
  obtain ⟨m₁, hopen, rfl⟩ := exists_run_of_run_onMachine hopened
  refine .run_bind ?_ fun source b₂ hread => ?_
  · rw [run_reading]
    exact hb.reported_text
  rw [run_reading] at hread
  obtain ⟨htext, rfl⟩ := Prod.mk.inj hread
  refine .run_bind ?_ fun digest b₃ _ => ?_
  · rw [run_onMachine]
    exact Archive.reported_save hfitness
      (fun metadata hlookup => hname opened m₁ source metadata hopen htext hlookup) _ _
  · exact (tells_onMachine (A := fun _ => True) (faults_say _).tells).reported b₃ trivial

/-- Archiving a variant fails with what is reported, unless the archive has metadata that do not
take its name. -/
lemma reported_archive {b : Bench} {e : Evaluation} (hb : b.altered.IsWhole) :
    Reported (fun f => e.passedAll = true ∧ RefusesName o e b f) ((archive o e).run b).1 := by
  rw [archive]
  split_ifs with hpassed
  · split
    · next directory hdirectory =>
      have hsuffix : Reported (fun f => e.passedAll = true ∧ RefusesName o e b f)
          (archiveSuffix b.altered.suffix) := by
        rw [archiveSuffix]
        split_ifs
        · exact Value.reported_written _
        · exact .ok _
      rw [run_keep]
      refine .run_bind (by rwa [run_ofExcept]) fun suffix b' hrun => ?_
      rw [run_ofExcept] at hrun
      obtain ⟨-, rfl⟩ := Prod.mk.inj hrun
      refine reported_keepAs hb fun opened m source metadata hopen htext hlookup f hf => ?_
      exact .inr ⟨hpassed, directory, suffix, source, opened, m, metadata, hdirectory, hopen,
        htext, hlookup, hf⟩
    · exact .ok _
  · exact .ok _

lemma altered_archive {A : Altered → Prop} {e : Evaluation} :
    Preserves (fun b => A b.altered) (archive o e) := by
  have hsave (directory suffix : String) : Preserves (fun b => A b.altered)
      (keepAs directory suffix e) :=
    .bind (altered_onMachine _) fun _ => .bind (preserves_reading _) fun _ =>
      .bind (altered_onMachine _) fun _ => altered_onMachine _
  have hkeep (directory : String) : Preserves (fun b => A b.altered) (keep directory e) := by
    intro b hb
    rw [run_keep]
    exact Preserves.run_bind (Preserves.ofExcept _ b hb) fun suffix => hsave directory suffix
  rw [archive]
  split_ifs
  · split
    · exact hkeep _
    · exact .pure _
  · exact .pure _

/-! ### A whole run -/

lemma tells_printListing {E : Failure → Prop} : TellsOn Altered.IsWhole E (printListing c) := by
  refine .bind_get fun b hb => ?_
  have hlisting {f : Failure} (h : (b.altered.listing c.untouchedWeight).2 = some f) :
      f.isReported = true ∨ E f := hb.isReported_of_listing _ h
  split
  next lines failure hlines =>
    rw [hlines] at hlisting
    refine .bind (tells_onMachine (.forM fun _ => (faults_say _).tells)) fun _ => ?_
    split
    · exact .throw (hlisting rfl)
    · exact .pure _

/-- Writing the cache afterwards reports its failures, and puts them in place of the others. -/
lemma reported_thenClose {E : Failure → Prop} {w : Work Unit} {b : Bench}
    (h : Reported E (w.run b).1) : Reported E ((thenClose w).run b).1 := by
  have hclose : Reports (fun _ : Bench => True) E closeCache := by
    refine .bind_get fun b _ => ?_
    split
    · exact .pure _
    · exact .bind (tells_onMachine (A := fun _ => True) (Cache.tells_persist _)) fun _ =>
        tells_onMachine (A := fun _ => True) (faults_say _).tells
  rw [thenClose]
  cases hw : w.run b with
  | mk r b' =>
    cases r with
    | ok u =>
      rw [run_bind_of_ok (run_tryCatch_of_ok hw _)]
      exact hclose.reported b' trivial
    | error f =>
      have hf := h f (by rw [hw])
      refine .run_bind ?_ fun _ b'' _ => hclose.reported b'' trivial
      rw [run_tryCatch_of_error hw]
      exact (hclose.bind fun _ => .throw hf).reported b' trivial

section Run

variable {start : Bench} (hholds : HoldsVariant o m)
  (hresolve : (CommandLine.resolve o).run m = (.ok c, m₁))
  (hsetUp : (setUp o c).run m₁ = (.ok start, start.machine))

include hholds hresolve hsetUp

lemma reported_process : Reported (Escapes o m) ((process o c).run start).1 := by
  have hsame : m.SameFiles m₁ := (sameFiles_resolve o).of_run (.refl m) hresolve
  have hstart : Loading m start := loading_of_run_setUp hsame hsetUp
  have hload := reports_loadProgram (c := c) hholds
  -- Each step starts from the bench that the steps before it leave, on which the variant has all
  -- its parts. Two steps rely on how their bench was reached: weighing and archiving.
  rw [process_eq, afterLoading_eq, repair_eq]
  refine .run_bind (hload.reported start hstart) fun _ loaded hloads => ?_
  have hloaded : loaded.altered.IsWhole := (hload.preserves.of_run hstart hloads).2
  refine .run_bind (reported_prepare hloaded fun b hcheck f hf => ?_) fun _ prepared hprepares => ?_
  · exact .faultFile ⟨m₁, start, hresolve, hsetUp, by rw [run_bind_of_ok hloads, hcheck]⟩ hf
  have hprepared : prepared.altered.IsWhole :=
    (altered_prepare (fun _ k h => (h.remember k).isWhole)
      fun l => (Altered.reports_setLocalization (E := Escapes o m) l).preserves).of_run hloaded
      hprepares
  refine .run_bind (tells_vary.reported prepared hprepared) fun _ varied hvaries => ?_
  have hvaried : varied.altered.IsWhole := (tells_vary (m := m)).preserves.of_run hprepared hvaries
  refine .run_bind ((tells_evaluate _).reported varied hvaried) fun e evaluated hevaluates => ?_
  have hevaluated : evaluated.altered.IsWhole :=
    (tells_evaluate (E := Escapes o m) _).preserves.of_run hvaried hevaluates
  have hsay : TellsOn Altered.IsWhole (Escapes o m) (onMachine (say (evaluationLine e))) :=
    tells_onMachine (faults_say _).tells
  refine .run_bind (hsay.reported evaluated hevaluated) fun _ said hsays => ?_
  have hsaid : said.altered.IsWhole := hsay.preserves.of_run hevaluated hsays
  refine .run_bind ((reported_archive hsaid).mono fun f hf => ?_) fun _ archived harchives => ?_
  · refine .archive ⟨m₁, start, hresolve, hsetUp, ?_⟩ hf.1 hf.2
    rw [assess, run_bind_of_ok hloads, run_bind_of_ok hprepares, run_bind_of_ok hvaries,
      run_bind_of_ok hevaluates, run_bind_of_ok hsays]
    rfl
  split_ifs
  · exact tells_printListing.reported archived (altered_archive.of_run hsaid harchives)
  · exact .ok _

end Run

/-- A run fails with what is reported, or with one of the exceptions. -/
lemma reported_run (o : Options) (m : Machine) :
    Reported (Escapes o m) ((run o).run m).1 := by
  -- A snapshot that was not made from a variant can lead to any failure.
  by_cases hholds : HoldsVariant o m
  · rw [CommandLine.run_eq]
    refine .run_bind (reported_resolve o m) fun c m₁ hresolve => ?_
    have hsame : m.SameFiles m₁ := (sameFiles_resolve o).of_run (.refl m) hresolve
    rw [runWith_eq]
    refine .run_bind ((reports_setUp c).reported m₁ hsame) fun start m₂ hsetUp => ?_
    obtain rfl := machine_of_run_setUp hsetUp
    have hwork := reported_thenClose (reported_process hholds hresolve hsetUp)
    cases hrun : (thenClose (process o c)).run start with
    | mk r finished =>
      rw [hrun] at hwork
      cases r with
      | ok u => exact .ok _
      | error f => exact .error (hwork f rfl)
  · unfold HoldsVariant at hholds
    push Not at hholds
    obtain ⟨path, r, held, hpath, hread, hheld, hnone⟩ := hholds
    exact fun f _ => .inr (.noVariant hpath hread hheld hnone)

section Execute

variable {words : List String} {f : Failure} {m' : Machine}
  (hread : CommandLine.read words = .ok (.run o)) (hrun : (run o).run m = (.error f, m'))

include hread hrun

/-- A failure that is reported is printed, and the exit status is one. -/
lemma run_execute_of_reported (hf : f.isReported = true) :
    (execute words).run m
      = (.ok 1, { m' with err := m'.err ++ s!"[Abort] {f.label}: {f.message}" ++ "\n" }) := by
  rw [execute, hread]
  let m'' : Machine := { m' with err := m'.err ++ s!"[Abort] {f.label}: {f.message}" ++ "\n" }
  refine (@run_bind_of_ok _ _ _ m m'' _ (.error 1)
    ((run_tryCatch_of_error (run_bind_of_error hrun _) _).trans ?_) _).trans rfl
  rw [if_pos hf]
  rfl

lemma run_execute_of_not_reported (hf : f.isReported = false) :
    (execute words).run m = (.error f, m') := by
  rw [execute, hread]
  refine run_bind_of_error ((run_tryCatch_of_error (run_bind_of_error hrun _) _).trans ?_) _
  rw [if_neg (by simp [hf])]
  rfl

end Execute

namespace SeedVariable

/-- The words of a run on a program, without a data file. -/
def words : List String := ["--program", "x", "--no-config"]

/-- What these words ask for. -/
def options : Options :=
  { Options.default.setField .program (.value "x") with noConfig := true }

/-- A machine with a program of one line, on which a variable gives the seed. -/
def machine (seed : String) : Machine :=
  { Machine.ofDirectory [] "1" with
    environment := [("REPAIR_SEED", seed)]
    files := (FileTree.ofDirectory []).set ["x"] (.file (.ofText "a\n")) }

lemma read_words : CommandLine.read words = .ok (.run options) := by
  let classified : List Word :=
    [.option (.slot (.field .program)) none, .plain "x", .option (.switch .noConfig) none]
  have hwords : classifyAll words = .ok classified := by decide +kernel
  calc CommandLine.read words
    _ = take .default [] classified := read_of_classifyAll hwords
    _ = take { options with noConfig := false } [] (classified.drop 2) := take_slot rfl
    _ = take options [] [] := take_switch (by decide)
    _ = .ok (.run options) := take_nil

/-- A seed that is not taken ends the run before it does anything. -/
lemma run_options {seed : String} {f : Failure}
    (h : Config.coerce .seed (.str seed) = .error f) (hseed : seed ≠ "") :
    (run options).run (machine seed) = (.error f, machine seed) := by
  have hload : (loadEnvironment options.envFile.text false).run (machine seed)
      = (.ok false, machine seed) :=
    run_loadEnvironment_of_missing (run_isFile_env rfl rfl)
  have hsettings : Config.settingsOfEnvironment (machine seed).environment
      = [(.str (Field.name .seed), .str seed)] := by
    change Config.settingsOfEnvironment [("REPAIR_SEED", seed)] = _
    simp [Config.settingsOfEnvironment, Config.fieldVariables, Config.Environment.first?, hseed]
  have hoverlay : (Config.default.overlay [(.str (Field.name .seed), .str seed)])
      = ([], .error f) := by
    have hkey : (Value.str (Field.name .seed)).written = .ok "seed" := rfl
    have hfield : Field.ofName? "seed" = some .seed := by decide +kernel
    rw [Config.overlay, Config.overlayFrom, hkey]
    simp only [hfield, h]
    rfl
  have henvironment : (environmentConfig .default).run (machine seed)
      = (.error f, machine seed) := by
    rw [environmentConfig, run_bind_of_ok (run_get _), hsettings, overlay, hoverlay]
    rfl
  rw [CommandLine.run_eq]
  refine run_bind_of_error ?_ _
  rw [CommandLine.resolve, run_bind_of_ok hload]
  exact run_bind_of_error henvironment _

end SeedVariable

end CommandLine

end VariantRepair
