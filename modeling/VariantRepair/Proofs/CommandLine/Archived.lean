import Mathlib.Tactic.Common
import VariantRepair.Proofs.Bench.Loaded
import VariantRepair.Proofs.Bench.Prepared
import VariantRepair.Proofs.CommandLine.Precedence
import VariantRepair.Proofs.CommandLine.Steps
import VariantRepair.Proofs.Variant.Edit

/-!
# What a run archives

A run that ends well archives its variant exactly when a directory is named for that, and the
variant was compiled and passes every test. What goes into the archive is the text that was compiled
and tested, which is that of the program with the edits of the command line and the random ones.
-/

namespace VariantRepair

open Host

namespace CommandLine

open Work

variable {o : Options} {c : Config} {m m' : Machine} {b b' : Bench} {e : Evaluation}

/-! ### Edits -/

/-- The edits that a run makes: those of its command line, and then random ones, each of them drawn
for what those before it left. -/
structure Varies (o : Options) (c : Config) (a a' : Altered) where
  edits : List Edit
  edited : Altered
  count : Nat
  drawn : List Edit
  parses : Edit.parseList o.edits.text = .ok edits
  applies : (Altered.applyAll c.untouchedWeight edits).run a = (.ok (), edited)
  counts : randomCount o.randomEdits = .ok count
  draws : ∃ g, Altered.drawEdits Chance.Twister.dice c.untouchedWeight
    (c.deleteProbability, c.appendProbability, c.swapProbability) count edited
    (Chance.Twister.ofSeed c.seed) = (drawn, none, a', g)

lemma of_run_applyRandomEdits {count : Nat} (h : (applyRandomEdits c count).run b = (.ok (), b')) :
    ∃ drawn g, Altered.drawEdits Chance.Twister.dice c.untouchedWeight
      (c.deleteProbability, c.appendProbability, c.swapProbability) count b.altered
      (Chance.Twister.ofSeed c.seed) = (drawn, none, b'.altered, g) := by
  have hget : (get : Work Bench).run b = (.ok b, b) := rfl
  rw [applyRandomEdits, run_bind_of_ok hget] at h
  cases hdraw : Altered.drawEdits Chance.Twister.dice c.untouchedWeight
      (c.deleteProbability, c.appendProbability, c.swapProbability) count b.altered
      (Chance.Twister.ofSeed c.seed) with
  | mk drawn rest =>
    obtain ⟨failure, altered, g⟩ := rest
    rw [hdraw] at h
    cases failure with
    | some f => cases h
    | none =>
      cases h
      exact ⟨drawn, g, rfl⟩

lemma nonempty_varies (h : (vary o c).run b = (.ok (), b')) :
    Nonempty (Varies o c b.altered b'.altered) := by
  obtain ⟨⟨⟩, -, h⟩ := of_run_reading_bind h
  obtain ⟨edits, hparse, h⟩ := of_run_ofExcept_bind h
  obtain ⟨⟨⟩, edited, hedit, h⟩ := of_run_alter_bind h
  obtain ⟨count, hcount, h⟩ := of_run_ofExcept_bind h
  obtain ⟨drawn, g, hdraw⟩ := of_run_applyRandomEdits h
  exact ⟨⟨edits, edited, count, drawn, hparse, hedit, hcount, g, hdraw⟩⟩

/-- The edits of the command line and the random ones, made in turn, give the variant. -/
lemma Varies.run_applyAll {a a' : Altered} (v : Varies o c a a') :
    (Altered.applyAll c.untouchedWeight (v.edits ++ v.drawn)).run a = (.ok (), a') := by
  obtain ⟨g, hdraws⟩ := v.draws
  rw [Altered.run_applyAll_append v.applies]
  exact (Altered.run_applyAll_of_drawEdits hdraws).2

lemma Varies.length_drawn {a a' : Altered} (v : Varies o c a a') : v.drawn.length = v.count := by
  obtain ⟨g, hdraws⟩ := v.draws
  exact (Altered.run_applyAll_of_drawEdits hdraws).1

/-! ### The archive -/

/-- What an evaluated variant comes to: nothing is archived, and the bench stays as it is, or an
archive is opened and takes a source. -/
inductive Archives (o : Options) (e : Evaluation) (b : Bench) : Option String → Bench → Prop
  | nothing : Archives o e b none b
  | saved {directory suffix source digest : String} {opened saved : Archive} {m m' : Machine}
      (hdirectory : nonempty o.archive = some directory)
      (hsuffix : archiveSuffix b.altered.suffix = .ok suffix)
      (hopen : (Archive.open directory suffix).run b.machine = (.ok opened, m))
      (hsave : (opened.save source ""
        { name := e.name, fitness := some (.float e.fitness), extra := [] }).run m
          = ((saved, .ok digest), m')) :
      Archives o e b (some source) { b with machine := { m' with
        out := m'.out ++ s!"[Archive] saved repaired variant {digest} to {directory}" ++ "\n" } }

/-- What is archived goes to a directory that is named. -/
lemma Archives.exists_directory {source : String} (h : Archives o e b (some source) b') :
    ∃ directory, nonempty o.archive = some directory := by
  cases h with
  | saved hdirectory => exact ⟨_, hdirectory⟩

/-- Keep the variant at hand in an archive whose sources have a suffix. -/
def keepAs (directory suffix : String) (e : Evaluation) : Work Unit := do
  let archive ← onMachine (Archive.open directory suffix)
  let source ← reading (·.text)
  let note : Archive.Note := { name := e.name, fitness := some (.float e.fitness), extra := [] }
  let digest ← onMachine (ExceptT.mk ((archive.save source "" note).map (·.2)))
  onMachine (say s!"[Archive] saved repaired variant {digest} to {directory}")

lemma run_keep (directory : String) (e : Evaluation) (b : Bench) :
    (keep directory e).run b = (do
      keepAs directory (← ofExcept (archiveSuffix b.altered.suffix)) e : Work Unit).run b := by
  have hget : (get : Work Bench).run b = (.ok b, b) := rfl
  rw [keep, run_bind_of_ok hget, archiveSuffix]
  dsimp only
  split_ifs <;> rfl

lemma archives_of_run_keep {directory : String} (hdirectory : nonempty o.archive = some directory)
    (h : (keep directory e).run b = (.ok (), b')) :
    ∃ source, b.altered.text = .ok source ∧ Archives o e b (some source) b' := by
  rw [run_keep] at h
  obtain ⟨suffix, hsuffix, h⟩ := of_run_ofExcept_bind h
  obtain ⟨opened, m, hopen, h⟩ := of_run_onMachine_bind h
  obtain ⟨source, htext, h⟩ := of_run_reading_bind h
  obtain ⟨digest, m', hsave, h⟩ := of_run_onMachine_bind h
  obtain ⟨m'', hsay, rfl⟩ := exists_run_of_run_onMachine h
  cases hsay
  cases hsaved : (opened.save source ""
      { name := e.name, fitness := some (.float e.fitness), extra := [] }).run m with
  | mk answer m₁ =>
    obtain ⟨saved, r⟩ := answer
    have hanswer : (r, m₁) = (.ok digest, m') := by
      rw [← hsave]
      exact (congrArg (fun x => (x.1.2, x.2)) hsaved).symm
    obtain ⟨rfl, rfl⟩ := Prod.mk.inj hanswer
    exact ⟨source, htext, .saved hdirectory hsuffix hopen hsaved⟩

lemma run_keepAs_of_save {directory suffix source digest : String} {opened saved : Archive}
    (hopen : (Archive.open directory suffix).run b.machine = (.ok opened, m))
    (htext : b.altered.text = .ok source)
    (hsave : (opened.save source ""
      { name := e.name, fitness := some (.float e.fitness), extra := [] }).run m
        = ((saved, .ok digest), m')) :
    (keepAs directory suffix e).run b
      = (.ok (), { b with machine := { m' with
          out := m'.out ++ s!"[Archive] saved repaired variant {digest} to {directory}"
            ++ "\n" } }) := by
  let note : Archive.Note := { name := e.name, fitness := some (.float e.fitness), extra := [] }
  have hanswer : (ExceptT.mk ((opened.save source "" note).map (·.2))).run m
      = (.ok digest, m') := by
    change (((opened.save source "" note).run m).1.2, ((opened.save source "" note).run m).2) = _
    rw [hsave]
  have hread : (reading (·.text)).run { b with machine := m }
      = (.ok source, { b with machine := m }) := by
    rw [run_reading, htext]
  have hdigest : (onMachine (ExceptT.mk ((opened.save source "" note).map (·.2)))).run
      { b with machine := m } = (.ok digest, { b with machine := m' }) :=
    run_onMachine_of_ok (b := { b with machine := m }) hanswer
  rw [keepAs, run_bind_of_ok (run_onMachine_of_ok hopen), run_bind_of_ok hread,
    run_bind_of_ok hdigest]
  rfl

/-- A variant is archived exactly when it passes every test and there is an archive for it. -/
lemma archives_of_run (h : (archive o e).run b = (.ok (), b')) :
    ∃ saved, Archives o e b saved b' ∧
      (saved.isSome ↔ (nonempty o.archive).isSome ∧ e.passedAll = true) ∧
      ∀ source, saved = some source → b.altered.text = .ok source := by
  rw [archive] at h
  split_ifs at h with hpassed
  · cases hdirectory : nonempty o.archive with
    | none =>
      rw [hdirectory] at h
      cases h
      exact ⟨none, .nothing, by simp, by simp⟩
    | some directory =>
      rw [hdirectory] at h
      obtain ⟨source, htext, harchives⟩ := archives_of_run_keep hdirectory h
      refine ⟨some source, harchives, by simp [hpassed], ?_⟩
      rintro _ ⟨⟩
      exact htext
  · cases h
    exact ⟨none, .nothing, by simp [hpassed], by simp⟩

/-! ### Runs that end well -/

lemma altered_snapshot {A : Altered → Prop} : Preserves (fun b => A b.altered) (snapshot o) := by
  rw [snapshot]
  split
  · exact .bind (.bind (preserves_reading _) fun _ => .bind_get fun _ _ => altered_onMachine _)
      fun _ => altered_onMachine _
  · exact .pure _

lemma altered_weigh {A : Altered → Prop} (hset : ∀ l, Preserves A (Altered.setLocalization l)) :
    Preserves (fun b => A b.altered) (weigh o c) := by
  refine .bind (preserves_reading _) fun weighted => ?_
  split_ifs
  · exact altered_localize hset
  · exact .pure _

lemma altered_prepare {A : Altered → Prop} (hremember : ∀ a k, A a → A (a.remember k))
    (hset : ∀ l, Preserves A (Altered.setLocalization l)) :
    Preserves (fun b => A b.altered) (prepare o c) := by
  have hcheck : Preserves (fun b => A b.altered) (check o c) := by
    rw [check]
    split_ifs
    · exact altered_sanityCheck hremember
    · exact .pure _
  rw [prepare_eq]
  exact .bind hcheck fun _ => .bind (altered_weigh hset) fun _ => altered_snapshot

/-! ### A run on one line -/

namespace OneLine

/-- The command line of a run on a file with one line. -/
def words (directory : String) : List String :=
  ["--program", "x", "--no-config", "--no-cache", "--sanity", "no", "--fault-scheme", "uniform",
   "--compile-command", "c", "--test-command", "t", "--archive-dir", directory]

/-- What the command line asks for. -/
def options (directory : String) : Options :=
  { (((Options.default.setField .program (.value "x")).setField .faultScheme
      (.value "uniform")).setField .compileCommand (.value "c")).setField .testCommand
      (.value "t") with
    noConfig := true, noCache := true, sanity := .value false, archive := some (.value directory) }

/-- The configuration of the run. -/
def config : Config :=
  ((((Config.default.set .program "x").set .compileCommand "c").set .testCommand "t").set
    .faultScheme "uniform").set .useCache false

/-- A machine with the file, the work directory and an archive, on which every process says nothing
and succeeds. -/
def machine : Machine :=
  { Machine.ofDirectory [] "1" with
    files := (((FileTree.ofDirectory []).set ["x"] (.file (.ofText "a\n"))).set ["repair_work"]
      .directory).set ["a"] .directory }

/-- The line as it is loaded. -/
def loaded : Variant Float := (Variant.empty .lines).restart (.lines ["a"])

/-- The line with its weight. -/
def localized : Variant Float := { loaded with localization := .ofList (uniformWeights 1) }

/-- The file that is compiled. -/
def source : Path := .ofText "/repair_work/variant"

/-- The line as it was compiled. -/
def compiled : Variant Float :=
  { localized with compiled := some ⟨textDigest "a\n", true, source, some source⟩ }

variable {directory : String}

lemma read_words (hdirectory : directory = "" ∨ directory = "a") :
    CommandLine.read (words directory) = .ok (.run (options directory)) := by
  let classified : List Word := [.option (.slot (.field .program)) none, .plain "x",
    .option (.switch .noConfig) none, .option (.switch .noCache) none,
    .option (.slot .sanity) none, .plain "no", .option (.slot (.field .faultScheme)) none,
    .plain "uniform", .option (.slot (.field .compileCommand)) none, .plain "c",
    .option (.slot (.field .testCommand)) none, .plain "t", .option (.slot .archive) none,
    .plain directory]
  have hwords : classifyAll (words directory) = .ok classified := by
    rcases hdirectory with rfl | rfl <;> decide +kernel
  let o₁ : Options := Options.default.setField .program (.value "x")
  let o₂ : Options := { o₁ with noConfig := true, noCache := true }
  let o₃ : Options := { o₂ with sanity := .value false }
  let o₄ : Options := o₃.setField .faultScheme (.value "uniform")
  let o₅ : Options := o₄.setField .compileCommand (.value "c")
  let o₆ : Options := o₅.setField .testCommand (.value "t")
  calc CommandLine.read (words directory)
    _ = take .default [] classified := read_of_classifyAll hwords
    _ = take o₁ [] (classified.drop 2) := take_slot rfl
    _ = take { o₁ with noConfig := true } [] (classified.drop 3) := take_switch (by decide)
    _ = take o₂ [] (classified.drop 4) := take_switch (by decide)
    _ = take o₃ [] (classified.drop 6) := take_slot rfl
    _ = take o₄ [] (classified.drop 8) := take_slot rfl
    _ = take o₅ [] (classified.drop 10) := take_slot rfl
    _ = take o₆ [] (classified.drop 12) := take_slot rfl
    _ = take (options directory) [] [] := take_slot rfl
    _ = .ok (.run (options directory)) := take_nil

lemma run_resolve_options :
    (CommandLine.resolve (options directory)).run machine = (.ok config, machine) := by
  have henv : (isFile (Path.ofText (options directory).envFile.text).text).run machine
      = (.ok false, machine) := run_isFile_env rfl rfl
  rw [run_resolve rfl henv rfl
    (show Config.default.overlayFrom (options directory).overrides = ([], .ok config) from rfl),
    Config.check_eq_ok (by decide)]

/-- A bench of the run, with what was printed so far. -/
def bench (v : Variant Float) (out : String) : Bench :=
  { machine := { machine with out := out }, cache := none, stats := .zero, port := 808
    altered := .ofVariant v }

lemma run_setUp : (setUp (options directory) config).run machine
    = (.ok (bench (.empty .lines) ""), machine) := rfl

lemma run_loadProgram :
    ∃ out, (loadProgram config none).run (bench (.empty .lines) "")
      = (.ok (), bench loaded out) := by
  have htext : machine.HasText (Path.ofText config.program).text "a\n" :=
    ⟨by decide, ["x"], FileTree.find_eq_ok_iff.mpr ⟨by decide +kernel, rfl⟩⟩
  have hread : Program.read .lines (Text.asRead "a\n") = .ok (.lines ["a"]) := by
    have hlines : Program.Lines.ofText (Text.asRead "a\n") = ["a"] := by decide
    rw [Program.read, hlines]
  have hsource := run_loadSource (b := bench (.empty .lines) "") rfl htext hread
  exact ⟨_, (run_bind_of_ok hsource _).trans rfl⟩

lemma run_prepare (out : String) :
    ∃ out', (prepare (options directory) config).run (bench loaded out)
      = (.ok (), bench localized out') := ⟨_, rfl⟩

lemma run_vary (out : String) : (vary (options directory) config).run (bench localized out)
    = (.ok (), bench localized out) := rfl

/-- The files after the compilation. -/
def files : FileTree :=
  machine.files.set ["repair_work", "variant"] (.file (.ofText "a\n"))

lemma compiles (out : String) : Compiles config { machine with out := out }
    ((Path.ofText config.workDir).child "variant") ((Path.ofText config.workDir).child "variant")
    source ["repair_work", "variant"] ["c"] := by
  have hresolve : ((Path.ofText config.workDir).child "variant").resolve [] = source := by
    decide
  have hparent : machine.files.find [] source.parent.text = .ok (["repair_work"], .directory) :=
    FileTree.find_eq_ok_iff.mpr ⟨by decide +kernel, rfl⟩
  have hlocate : machine.files.locate [] source.text = .ok ["repair_work", "variant"] := by
    decide +kernel
  exact ⟨by decide, by decide, hresolve, by decide, ⟨_, hparent⟩,
    ⟨none, by decide, hlocate, rfl, fun _ => rfl⟩, by decide, ⟨_, _, rfl⟩⟩

lemma isReadable_of_mem {test : Test} (h : test ∈ Test.all config.posTests config.negTests) :
    test.IsReadable := by
  have hall : ∀ test ∈ Test.all 5 1, test.index < Number.tenTo Number.digitLimit := by
    decide +kernel
  exact hall test h

/-- The evaluation of the line. -/
def evaluation : Evaluation :=
  let outcomes := (Test.all config.posTests config.negTests).map fun test => (test, Outcome.passed)
  { name := "original", digest := some (textDigest "a\n"), compiled := true, outcomes
    fitness := fitnessOf (outcomes.map fun o => (o.1.name, o.2 == .passed))
      config.negativeTestWeight
    maxFitness := Evaluation.greatestFitness config.posTests config.negTests
      config.negativeTestWeight }

/-- The bench after the evaluation, with what was printed so far. -/
def evaluated (calls : List Call) (stats : Stats) (port : Int) (out : String) : Bench :=
  { machine := { machine with files := files, calls := calls, out := out }, cache := none
    stats := stats, port := port, altered := .ofVariant compiled }

/-- The line is compiled and passes all tests. -/
lemma run_evaluate (out : String) :
    ∃ calls stats port, (evaluate config none).run (bench localized out)
      = (.ok evaluation, evaluated calls stats port out) := by
  have hname : (reading (·.sourceName "variant")).run (bench localized out)
      = (.ok "variant", bench localized out) := by
    have hsource : (Altered.ofVariant localized).sourceName "variant" = .ok "variant" := by
      decide
    rw [run_reading]
    exact congrArg (·, _) hsource
  let path : Path := (Path.ofText config.workDir).child "variant"
  let calls : List Call := [⟨["c"], config.compileTimeout, none⟩]
  let stats : Stats := Stats.zero.recordCompile true
  have hcompile : (compile config path path config.keepSource).run (bench localized out)
      = (.ok true, evaluated calls stats 808 out) :=
    run_compile_of_compiles (b := bench localized out) (by decide) rfl rfl (compiles out)
  have hsplit : Command.split config.testCommand = .ok ["t"] := by decide
  obtain ⟨calls, stats, port, htests⟩ := run_evaluateTests_of_silent
    (b := evaluated calls stats 808 out) (by decide) hsplit (fun _ => isReadable_of_mem)
    rfl rfl rfl rfl rfl rfl rfl
  refine ⟨calls, stats, port, ?_⟩
  rw [evaluate, run_bind_of_ok hname]
  dsimp only
  rw [run_bind_of_ok hcompile, run_bind_of_ok (run_name rfl)]
  exact (run_bind_of_ok htests _).trans rfl

/-- The metadata of the line in an archive. -/
def metadata : List (Value × Value) :=
  [(.str "sha", .str "87428fc52280"), (.str "name", .str "original"), (.str "edits", .list []),
   (.str "fitness", .float evaluation.fitness), (.str "file", .str "variant_87428fc52280.txt")]

/-- An empty archive takes the line. -/
lemma run_keep_evaluation (calls : List Call) (stats : Stats) (port : Int) (out : String) :
    ∃ m, (keep "a" evaluation).run (evaluated calls stats port out)
      = (.ok (), { evaluated calls stats port out with machine := m }) := by
  let opened : Archive := { directory := .ofText "a", suffix := ".txt", index := [] }
  let m : Machine := { machine with files := files, calls := calls, out := out }
  let sourcePlace : Place := ["a", "variant_87428fc52280.txt"]
  let m₁ : Machine := { m with files := files.set sourcePlace (.file (.ofText "a\n")) }
  have hdigest : Archive.shortDigest "a\n" = "87428fc52280" := by decide +kernel
  have hname : Archive.sourceName "87428fc52280" ".txt" = "variant_87428fc52280.txt" := by
    decide
  have hopen : (Archive.open "a" ".txt").run m = (.ok opened, m) := by
    have hfind : files.find [] (Path.ofText "a").text = .ok (["a"], .directory) :=
      FileTree.find_eq_ok_iff.mpr ⟨by decide +kernel, rfl⟩
    have hempty : files.names ["a"] = [] := by decide +kernel
    exact Archive.run_open_of_empty (by decide) hfind hempty
  have hsource : (writeText (opened.directory.child "variant_87428fc52280.txt").text "a\n").run m
      = (.ok (), m₁) := by
    have hlocate : files.locate [] (opened.directory.child "variant_87428fc52280.txt").text
        = .ok sourcePlace := by
      decide +kernel
    have hopens : Opens m _ sourcePlace none := ⟨by decide, hlocate, rfl, fun _ => rfl⟩
    exact hopens.run_writeContent _
  obtain ⟨m₂, hwrite⟩ : ∃ m₂,
      (opened.writeMeta "87428fc52280" metadata).run m₁ = (.ok (), m₂) := by
    have hlocate : (files.set sourcePlace (.file (.ofText "a\n"))).locate []
        (opened.directory.child (Archive.metaName "87428fc52280")).text
        = .ok ["a", "variant_87428fc52280_meta.json"] := by
      decide +kernel
    have hopens : Opens m₁ _ _ none := ⟨by decide, hlocate, rfl, fun _ => rfl⟩
    have hshort : ¬ (Value.map metadata).isOverlong = true := by decide
    rw [Archive.writeMeta, if_neg hshort]
    exact ⟨_, hopens.run_writeContent _⟩
  let note : Archive.Note :=
    { name := evaluation.name, fitness := some (.float evaluation.fitness), extra := [] }
  have hnew : opened.index.lookup (Archive.shortDigest "a\n") = none := rfl
  have hmeta : Archive.newMeta (Archive.shortDigest "a\n")
      (Archive.sourceName (Archive.shortDigest "a\n") opened.suffix) note = .ok metadata := by
    rw [hdigest, hname]
    rfl
  have hwriteSource : (writeText (opened.directory.child (Archive.sourceName
      (Archive.shortDigest "a\n") opened.suffix)).text "a\n").run m = (.ok (), m₁) := by
    rw [hdigest, hname]
    exact hsource
  have hwriteMeta : (opened.writeMeta (Archive.shortDigest "a\n") metadata).run m₁
      = (.ok (), m₂) := by
    rw [hdigest]
    exact hwrite
  have hsave := Archive.run_save_of_new hnew hmeta hwriteSource hwriteMeta
  have hkeep := run_keepAs_of_save (b := evaluated calls stats port out) hopen rfl hsave
  exact ⟨_, (run_keep "a" evaluation (evaluated calls stats port out)).trans hkeep⟩

/-- The run ends well whether a directory for the archive is named or its name is empty, and the
line passes all tests. -/
lemma exists_steps (hdirectory : directory = "" ∨ directory = "a") :
    ∃ (m' : Machine) (s : Steps (options directory) machine m'),
      s.evaluation.passedAll = true ∧ (directory = "" → s.archived = s.reported) := by
  obtain ⟨out, hload⟩ := run_loadProgram
  obtain ⟨out', hprepare⟩ := @run_prepare directory out
  obtain ⟨calls, stats, port, hevaluate⟩ := run_evaluate out'
  let out'' := out' ++ evaluationLine evaluation ++ "\n"
  let reported := evaluated calls stats port out''
  have hreport : (onMachine (say (evaluationLine evaluation))).run (evaluated calls stats port out')
      = (.ok (), reported) := rfl
  have hpassed : evaluation.passedAll = true := by decide
  obtain ⟨m, harchive, hsame⟩ : ∃ m, (archive (options directory) evaluation).run reported
      = (.ok (), { reported with machine := m }) ∧ (directory = "" → m = reported.machine) := by
    rw [archive, if_pos hpassed]
    rcases hdirectory with rfl | rfl
    · exact ⟨reported.machine, rfl, fun _ => rfl⟩
    · obtain ⟨m, hkeep⟩ := run_keep_evaluation calls stats port out''
      exact ⟨m, hkeep, fun h => absurd h (by decide)⟩
  let archived : Bench := { reported with machine := m }
  have hfinish : (finish (options directory) config).run archived = (.ok (), archived) := rfl
  exact ⟨_, ⟨config, machine, _, _, _, _, evaluation, _, reported, archived, archived,
    run_resolve_options, run_setUp, hload, hprepare, run_vary out', hevaluate, hreport, harchive,
    hfinish, rfl⟩, hpassed, fun h => congrArg (fun m => { reported with machine := m }) (hsame h)⟩

end OneLine

/-- Let a run end well that was not asked for help. The text that it compiles and tests is that of
the program that it loaded, with the edits of the command line and then the random ones, and the
evaluation names its digest. The text is archived if a directory is named for that, it was compiled,
and there are tests, each of which it passes; otherwise nothing is archived. -/
theorem execute_archives_what_passed {words : List String} {m m' : Machine}
    (hrun : (execute words).run m = (.ok 0, m')) :
    CommandLine.read words = .ok .help ∧ m' = m ∨
      ∃ (o : Options) (s : Steps o m m')
        (v : Varies o s.config s.prepared.altered s.varied.altered)
        (t : Evaluates s.config s.varied s.evaluation s.evaluated) (saved : Option String),
        CommandLine.read words = .ok (.run o) ∧
        s.loaded.altered.SameProgram s.prepared.altered ∧
        v.drawn.length = v.count ∧
        (Altered.applyAll s.config.untouchedWeight (v.edits ++ v.drawn)).run s.prepared.altered
          = (.ok (), s.varied.altered) ∧
        s.varied.altered.text = .ok t.text ∧
        Cache.FileAt t.written.machine t.record.source.text (.ofText t.text) ∧
        s.evaluation.digest = some (textDigest t.text) ∧
        Archives o s.evaluation s.reported saved s.archived ∧
        (saved.isSome ↔ (nonempty o.archive).isSome ∧ t.record.success = true ∧
          1 ≤ s.config.posTests + s.config.negTests ∧
          ∀ test ∈ Test.all s.config.posTests s.config.negTests,
            (test, .passed) ∈ s.evaluation.outcomes) ∧
        ∀ source, saved = some source → source = t.text := by
  obtain hhelp | ⟨o, hread, hrun⟩ := of_run_execute hrun
  · exact .inl hhelp
  · obtain ⟨s⟩ := nonempty_steps hrun
    obtain ⟨v⟩ := nonempty_varies s.varies
    obtain ⟨t⟩ := nonempty_evaluates s.evaluates
    obtain ⟨saved, harchives, hsaved, hsource⟩ := archives_of_run s.archives
    obtain ⟨htext, -, -, hfile⟩ := of_run_writeSource t.writes
    have hprepared : s.loaded.altered.SameProgram s.prepared.altered :=
      (altered_prepare (fun _ k h => h.remember k) Altered.sameProgram_setLocalization).of_run
        (.refl s.loaded.altered) s.prepares
    obtain ⟨hpositives, hnegatives⟩ :=
      Config.counts_of_check (check_of_run_resolve s.resolves)
    have hkept : s.reported.altered.text = .ok t.text := by
      obtain ⟨m₁, -, hreported⟩ := exists_run_of_run_onMachine s.reports
      have hsame : s.reported.altered = s.varied.altered.remember t.record := by
        rw [hreported]
        exact t.altered_eq
      rw [hsame, ((Altered.SameProgram.refl s.varied.altered).remember t.record).text_eq, htext]
    refine .inr ⟨o, s, v, t, saved, hread, hprepared, v.length_drawn, v.run_applyAll, htext, hfile,
      ?_, harchives, ?_, ?_⟩
    · rw [t.reported, t.digest_eq]
    · rw [hsaved, t.passedAll_iff hpositives hnegatives]
    · intro source h
      have hsame := hsource source h
      rw [hkept] at hsame
      exact (Except.ok.inj hsame).symm

/-- A line that passes all tests is archived where a directory is named. -/
theorem execute_archives_line :
    ∃ (m' : Machine) (s : Steps (OneLine.options "a") OneLine.machine m')
      (t : Evaluates s.config s.varied s.evaluation s.evaluated),
      (execute (OneLine.words "a")).run OneLine.machine = (.ok 0, m') ∧
      Archives (OneLine.options "a") s.evaluation s.reported (some t.text) s.archived := by
  have hread := OneLine.read_words (.inr rfl)
  obtain ⟨m', s, hpassed, -⟩ := OneLine.exists_steps (.inr rfl)
  have hrun := run_execute_of_ok hread s.run_eq
  obtain ⟨hpositives, hnegatives⟩ := Config.counts_of_check (check_of_run_resolve s.resolves)
  obtain ⟨hhelp, -⟩ | ⟨o, s', -, t, saved, hread', -, -, -, -, -, -, harchives, hsaved, hsource⟩ :=
    execute_archives_what_passed hrun
  · rw [hread] at hhelp
    cases hhelp
  · rw [hread] at hread'
    cases hread'
    obtain rfl := Subsingleton.elim s s'
    obtain ⟨source, rfl⟩ := Option.isSome_iff_exists.mp
      (hsaved.mpr ⟨rfl, (t.passedAll_iff hpositives hnegatives).mp hpassed⟩)
    obtain rfl := hsource source rfl
    exact ⟨m', s, t, hrun, harchives⟩

/-- An empty name for the directory counts as none: a line that was compiled and passes all tests is
not archived. -/
theorem execute_archives_nothing_in_unnamed :
    ∃ (m' : Machine) (s : Steps (OneLine.options "") OneLine.machine m')
      (t : Evaluates s.config s.varied s.evaluation s.evaluated),
      CommandLine.read (OneLine.words "") = .ok (.run (OneLine.options "")) ∧
      (execute (OneLine.words "")).run OneLine.machine = (.ok 0, m') ∧
      (OneLine.options "").archive = some (.value "") ∧ t.record.success = true ∧
      1 ≤ s.config.posTests + s.config.negTests ∧
      (∀ test ∈ Test.all s.config.posTests s.config.negTests,
        (test, .passed) ∈ s.evaluation.outcomes) ∧
      s.archived = s.reported ∧
      ¬ ∃ source,
        Archives (OneLine.options "") s.evaluation s.reported (some source) s.archived := by
  have hread := OneLine.read_words (.inl rfl)
  obtain ⟨m', s, hpassed, hsame⟩ := OneLine.exists_steps (.inl rfl)
  obtain ⟨t⟩ := nonempty_evaluates s.evaluates
  obtain ⟨hpositives, hnegatives⟩ := Config.counts_of_check (check_of_run_resolve s.resolves)
  obtain ⟨hsuccess, hcount, houtcomes⟩ := (t.passedAll_iff hpositives hnegatives).mp hpassed
  refine ⟨m', s, t, hread, run_execute_of_ok hread s.run_eq, rfl, hsuccess, hcount, houtcomes,
    hsame rfl, ?_⟩
  rintro ⟨source, harchives⟩
  obtain ⟨directory, hdirectory⟩ := harchives.exists_directory
  cases hdirectory

end CommandLine

end VariantRepair
