import Mathlib.Data.List.Sort
import Mathlib.Tactic.Common
import VariantRepair.Proofs.Bench.Localized
import VariantRepair.Proofs.Bench.Visits
import VariantRepair.Proofs.Localization.Renumbering
import VariantRepair.Proofs.Program.Probes

/-!
# Weights by the paths of tests

A module compiles with its probes, and the tests leave which atoms they visit. The weights by the
paths depend on nothing else, and they take the place of the weights there were.
-/

namespace VariantRepair

open Host

/-- The tests of a configuration. -/
def Config.tests (c : Config) : List Test :=
  Test.all c.posTests c.negTests

namespace Work

variable {c : Config} {b b' : Bench} {v : Variant Float} {tests : List Test}

/-! ### The program with probes -/

/-- Compile a text in the directory for coverage, in a source with a name: the directory, the
source, and what came out. -/
def compileProbed (c : Config) (name text : String) : Action (Path × Path × Compilation) := do
  let directory := (← resolve (.ofText c.workDir)).child "coverage"
  needDirectories directory
  let source := directory.child name
  writeText source.text text
  let result ← Compilation.run c source (directory.child "coverage")
  return (directory, source, result)

/-- What succeeded on the way when a text was compiled in the directory for coverage. -/
lemma of_run_compileProbed {name text : String} {directory source : Path} {result : Compilation}
    {m m' : Machine}
    (h : (compileProbed c name text).run m = (.ok (directory, source, result), m')) :
    ∃ workDir m₁ m₂ m₃, (resolve (.ofText c.workDir)).run m = (.ok workDir, m₁) ∧
      directory = workDir.child "coverage" ∧ source = directory.child name ∧
      (needDirectories directory).run m₁ = (.ok (), m₂) ∧
      (writeText source.text text).run m₂ = (.ok (), m₃) ∧
      (Compilation.run c source (directory.child "coverage")).run m₃ = (.ok result, m') := by
  obtain ⟨workDir, m₁, hresolve, h⟩ := exists_run_of_run_bind h
  obtain ⟨⟨⟩, m₂, hneed, h⟩ := exists_run_of_run_bind h
  obtain ⟨⟨⟩, m₃, hwrite, h⟩ := exists_run_of_run_bind h
  obtain ⟨result, m₄, hrun, h⟩ := exists_run_of_run_bind h
  cases h
  exact ⟨workDir, m₁, m₂, m₃, hresolve, rfl, rfl, hneed, hwrite, hrun⟩

/-- A bench at which a module is weighed by the paths of its tests, and compiles with its probes.
What is on the machine then is given with it. -/
structure Probes (c : Config) (b : Bench) where
  variant : Variant Float
  module : Program.SlotModule
  text : String
  directory : Path
  source : Path
  executable : Path
  stderr : String
  machine : Machine
  scheme : c.faultScheme = "path"
  altered_eq : b.altered = .ofVariant variant
  program_eq : variant.program = .module module
  probedText_eq : module.probedText = .ok text
  compiled : (compileProbed c ("coverage" ++ variant.suffix) text).run b.machine
    = (.ok (directory, source, ⟨true, some executable, stderr⟩), machine)

namespace Probes

variable (t : Probes c b)

/-- The path at which the tests leave their coverage. -/
def coverage : String := (t.directory.child "coverage.path").text

lemma sourceName_eq : b.altered.sourceName "coverage" = .ok ("coverage" ++ t.variant.suffix) := by
  rw [t.altered_eq]
  rfl

lemma probedText_altered : b.altered.probedText = .ok t.text := by
  rw [t.altered_eq, Program.SlotModule.probedText_ofVariant t.program_eq, t.probedText_eq]
  rfl

/-- The coverage directory is there, and its path has parts. -/
lemma hasDirectory : t.machine.HasDirectory t.directory.text ∧ t.directory.parts ≠ [] := by
  obtain ⟨workDir, m₁, m₂, m₃, -, hdirectory, -, hneed, hwrite, hrun⟩ :=
    of_run_compileProbed t.compiled
  have hkept : m₂.Keeps (fun _ => False) (fun _ => True) t.machine := by
    have hwritten : m₂.Keeps (fun _ => False) (fun _ => True) m₃ :=
      (keeps_writeText not_false _).of_run (.refl nofun) hwrite
    exact (keeps_compilation c _ _).of_run hwritten hrun
  refine ⟨(hasDirectory_of_run_needDirectories hneed).of_stay hkept.directory hkept.stay, ?_⟩
  rw [hdirectory, Path.child_of_name (by decide) (by decide)]
  exact List.append_ne_nil_of_right_ne_nil _ (List.cons_ne_nil _ _)

lemma coverage_eq : t.coverage = t.directory.text ++ "/" ++ "coverage.path" :=
  Path.text_child_of_name t.hasDirectory.2 (by decide) (by decide)

/-- The coverage file can be written if what is at its path can be deleted. -/
lemma exists_writable {m : Machine}
    (h : (deleteFile t.coverage).run t.machine = (.ok (), m)) :
    ∃ place, Writable t.machine t.coverage place := by
  rw [t.coverage_eq] at h ⊢
  exact writable_of_run_deleteFile ⟨by decide, by decide, by decide⟩ t.hasDirectory.1 h

/-- Once the module with its probes is compiled, the tests are run. -/
lemma run_pathLocalization : (pathLocalization c).run b = (do
    let vs ← visits c t.executable.text t.source.text t.coverage (Test.all c.posTests c.negTests)
    return .ofList (pathWeights (visitedBy (!·.isPositive) vs) (visitedBy Test.isPositive vs)
      c.negativePathWeight c.positivePathWeight) : Work (Localization Float)).run
        { b with machine := t.machine } := by
  obtain ⟨workDir, m₁, m₂, m₃, hresolve, hdirectory, hsource, hneed, hwrite, hrun⟩ :=
    of_run_compileProbed t.compiled
  have hread {α : Type} {f : Altered → Except Failure α} {x : α} (hf : f b.altered = .ok x)
      (m : Machine) : (reading f).run { b with machine := m } = (.ok x, { b with machine := m }) :=
    (run_reading f _).trans (congrArg (·, _) hf)
  have hcompiler : b.altered.provides "compiler" "compile" = .ok () := by
    rw [t.altered_eq]
    rfl
  have hcompile : (onMachine (Compilation.run c t.source (t.directory.child "coverage"))).run
      { b with machine := m₃ }
        = (.ok ⟨true, some t.executable, t.stderr⟩, { b with machine := t.machine }) :=
    run_onMachine_of_ok hrun
  rw [pathLocalization, run_bind_of_ok (run_onMachine_of_ok hresolve)]
  dsimp only
  rw [← hdirectory, run_bind_of_ok (run_onMachine_of_ok hneed),
    run_bind_of_ok (hread t.sourceName_eq m₂), ← hsource,
    run_bind_of_ok (hread t.probedText_altered m₂), run_bind_of_ok (run_onMachine_of_ok hwrite),
    run_bind_of_ok (hread hcompiler m₃), run_bind_of_ok hcompile]
  rfl

/-- The bench when the module with its probes is compiled. -/
def bench : Bench := { b with machine := t.machine }

/-- The weights that the texts of the tests amount to. -/
def weights : List (Int × Float) :=
  pathWeights (visitedBy (!·.isPositive) (visitsOf t.machine c.tests))
    (visitedBy Test.isPositive (visitsOf t.machine c.tests)) c.negativePathWeight
    c.positivePathWeight

/-- The tests of a configuration can be run: what is at the path for coverage can be deleted, and
each test has words and a process that starts. -/
structure CanTest : Prop where
  deletes : c.tests ≠ [] → ∃ m, (deleteFile t.coverage).run t.machine = (.ok (), m)
  runs : RunsAll c t.executable.text t.source.text c.tests b.port t.machine

lemma exists_run_pathLocalization (h : t.CanTest) :
    ∃ b', (pathLocalization c).run b = (.ok (.ofList t.weights), b') := by
  have hvisits : ∃ b', (visits c t.executable.text t.source.text t.coverage c.tests).run t.bench
      = (.ok (visitsOf t.machine c.tests), b') := by
    by_cases htests : c.tests = []
    · rw [htests]
      exact ⟨t.bench, rfl⟩
    · obtain ⟨m, hdelete⟩ := h.deletes htests
      obtain ⟨place, hwritable⟩ := t.exists_writable hdelete
      exact exists_run_visits (b := t.bench) hwritable t.altered_eq h.runs
  obtain ⟨b', hvisits⟩ := hvisits
  refine ⟨b', ?_⟩
  rw [t.run_pathLocalization]
  exact run_bind_of_ok hvisits _

lemma of_run_pathLocalization {l : Localization Float}
    (h : (pathLocalization c).run b = (.ok l, b')) : t.CanTest ∧ l = .ofList t.weights := by
  have hcan : t.CanTest := by
    rw [t.run_pathLocalization] at h
    obtain ⟨vs, b₁, hvisits, -⟩ := exists_run_of_run_bind h
    by_cases htests : c.tests = []
    · exact ⟨fun hne => absurd htests hne, fun k test hk => by simp [htests] at hk⟩
    · obtain ⟨test, tests, hcons⟩ := List.exists_cons_of_ne_nil htests
      have hdelete : ∃ m, (deleteFile t.coverage).run t.machine = (.ok (), m) := by
        change (visits _ _ _ _ c.tests).run _ = _ at hvisits
        rw [hcons] at hvisits
        obtain ⟨⟨⟩, m, hdelete, -⟩ := of_run_onMachine_bind hvisits
        exact ⟨m, hdelete⟩
      obtain ⟨m, hm⟩ := hdelete
      obtain ⟨place, hwritable⟩ := t.exists_writable hm
      exact ⟨fun _ => ⟨m, hm⟩,
        runsAll_of_run_visits (b := t.bench) hwritable t.altered_eq hvisits⟩
  obtain ⟨b₁, hrun⟩ := t.exists_run_pathLocalization hcan
  exact ⟨hcan, (eq_of_run_eq_ok h hrun).1⟩

lemma mem_weights {a : Int} {w : Float} : (a, w) ∈ t.weights ↔
    Visited t.machine c.tests .negative a ∧
      (Visited t.machine c.tests .positive a ∧ w = c.positivePathWeight ∨
        ¬ Visited t.machine c.tests .positive a ∧ w = c.negativePathWeight) := by
  have hnegative (test : Test) : (!test.isPositive) = true ↔ test.polarity = .negative := by
    rw [Test.isPositive]
    cases test.polarity <;> decide
  have hpositive (test : Test) : test.isPositive = true ↔ test.polarity = .positive := by
    rw [Test.isPositive]
    cases test.polarity <;> decide
  rw [weights, mem_pathWeights, mem_visitedBy hnegative, mem_visitedBy hpositive]

lemma pairwise_weights : t.weights.Pairwise (·.1 < ·.1) :=
  pairwise_pathWeights _ _ _ _

/-- Weights of the same atoms, visited in any order, are the same weights. -/
lemma weights_eq {c' : Config} {b' : Bench} (t' : Probes c' b')
    (hnegative : c'.negativePathWeight = c.negativePathWeight)
    (hpositive : c'.positivePathWeight = c.positivePathWeight)
    (hvisited : ∀ polarity a, Visited t'.machine c'.tests polarity a ↔
      Visited t.machine c.tests polarity a) : t'.weights = t.weights := by
  have hirrefl : Std.Irrefl fun p q : Int × Float => p.1 < q.1 := ⟨fun p => Int.lt_irrefl p.1⟩
  have hantisymm : Std.Antisymm fun p q : Int × Float => p.1 < q.1 :=
    ⟨fun _ _ h h' => absurd h' (Int.lt_asymm h)⟩
  -- both are strictly sorted, so their members determine them
  refine t'.pairwise_weights.eq_of_mem_iff t.pairwise_weights fun p => ?_
  rw [t'.mem_weights, t.mem_weights, hnegative, hpositive, hvisited, hvisited]

lemma exists_run_localize_iff : (∃ b', (localize c).run b = (.ok (), b')) ↔ t.CanTest := by
  constructor
  · rintro ⟨b', h⟩
    obtain ⟨l, b₁, hl, -⟩ := of_run_localize t.altered_eq h
    rw [localization_of_path t.scheme] at hl
    exact (t.of_run_pathLocalization hl).1
  · intro h
    obtain ⟨b', hrun⟩ := t.exists_run_pathLocalization h
    rw [← localization_of_path t.scheme] at hrun
    obtain ⟨m, hlocalize⟩ := run_localize_of_ok t.altered_eq hrun
    exact ⟨_, hlocalize⟩

/-- The weights that are stored. -/
lemma altered_of_run_localize (h : (localize c).run b = (.ok (), b')) :
    b'.altered = .ofVariant { t.variant with localization := ⟨t.weights⟩ } := by
  obtain ⟨l, b₁, hl, hb'⟩ := of_run_localize t.altered_eq h
  rw [localization_of_path t.scheme] at hl
  obtain ⟨-, rfl⟩ := t.of_run_pathLocalization hl
  rw [hb']
  exact congrArg (fun ps => Altered.ofVariant { t.variant with localization := ⟨ps⟩ })
    (pairs_ofList_pathWeights _ _ _ _)

end Probes

/-! ### A program with probes that compiles -/

/-- Where weights were computed by the paths, the program is a module that compiles with its
probes. -/
lemma nonempty_probes_of_run_localize (hscheme : c.faultScheme = "path")
    (hv : b.altered = .ofVariant v) (h : (localize c).run b = (.ok (), b')) :
    Nonempty (Probes c b) := by
  obtain ⟨l, b₁, hl, -⟩ := of_run_localize hv h
  rw [localization_of_path hscheme, pathLocalization] at hl
  obtain ⟨workDir, m₁, hresolve, hl⟩ := of_run_onMachine_bind hl
  obtain ⟨⟨⟩, m₂, hneed, hl⟩ := of_run_onMachine_bind hl
  obtain ⟨name, hname, hl⟩ := of_run_reading_bind hl
  obtain ⟨text, htext, hl⟩ := of_run_reading_bind hl
  obtain ⟨⟨⟩, m₃, hwrite, hl⟩ := of_run_onMachine_bind hl
  obtain ⟨⟨⟩, -, hl⟩ := of_run_reading_bind hl
  obtain ⟨⟨success, executable?, stderr⟩, m₄, hcompile, hl⟩ := of_run_onMachine_bind hl
  obtain ⟨rfl, executable, rfl⟩ : success = true ∧ ∃ e, executable? = some e := by
    cases success with
    | false => cases hl
    | true =>
      cases executable? with
      | none => cases hl
      | some e => exact ⟨rfl, e, rfl⟩
  dsimp only at hname htext
  rw [hv] at hname htext
  obtain rfl : "coverage" ++ v.suffix = name := Except.ok.inj hname
  obtain ⟨p, hp, hprobed⟩ := Program.SlotModule.exists_module_of_probedText htext
  let directory := workDir.child "coverage"
  refine ⟨⟨v, p, text, directory, directory.child ("coverage" ++ v.suffix), executable, stderr, m₄,
    hscheme, hv, hp, hprobed, ?_⟩⟩
  rw [compileProbed, run_bind_of_ok hresolve]
  dsimp only
  rw [run_bind_of_ok hneed, run_bind_of_ok hwrite, run_bind_of_ok hcompile]
  rfl

/-- Where the coverage directory is there and the compiler ends well, a module is compiled with its
probes. -/
lemma exists_probes {p : Program.SlotModule} {text : String} {directory source : Path}
    {q place : Place} {old : Option Content} {words : List String}
    (hscheme : c.faultScheme = "path") (hv : b.altered = .ofVariant v)
    (hp : v.program = .module p) (htext : p.probedText = .ok text)
    (hnul : '\x00' ∉ (Path.ofText c.workDir).text.toList)
    (hdirectory :
      directory = ((Path.ofText c.workDir).resolve b.machine.directory).child "coverage")
    (hthere : '\x00' ∉ directory.text.toList ∧
      b.machine.files.find b.machine.directory directory.text = .ok (q, .directory))
    (hsource : source = directory.child ("coverage" ++ v.suffix))
    (hopens : Opens b.machine source.text place old)
    (hcommand : Compilation.producesExecutable c = false)
    (hwords : Compilation.words c source source = .ok words)
    (hending : ∃ out err, (b.machine.replies.head?.getD b.machine.further).ending
      = .finished 0 out err) :
    ∃ t : Probes c b, t.variant = v ∧ t.directory = directory ∧
      t.machine = b.machine.compiled place text words c.compileTimeout := by
  let m : Machine :=
    { b.machine with files := b.machine.files.set place (.file (.ofText text)) }
  have hwrite : (writeText source.text text).run b.machine = (.ok (), m) :=
    hopens.run_writeContent _
  have hmade : (if Compilation.producesExecutable c then directory.child "coverage" else source)
      = source := by
    rw [hcommand, if_neg Bool.false_ne_true]
  obtain ⟨stderr, hrun⟩ := run_compilation_of_finished (m := m) hmade hwords hending
  refine ⟨⟨v, p, text, directory, source, source, stderr, _, hscheme, hv, hp, htext, ?_⟩, rfl, rfl,
    rfl⟩
  rw [compileProbed, run_bind_of_ok (run_resolve hnul _)]
  dsimp only
  rw [← hdirectory, run_bind_of_ok (run_needDirectories_of_find hthere.1 hthere.2), ← hsource,
    run_bind_of_ok hwrite, run_bind_of_ok hrun]
  rfl

/-- Tests can be run whose command has no placeholders and whose processes start. -/
lemma runsAll_of_plain {words : List String} {executable source : String} {port : Int} {m : Machine}
    (hplain : '_' ∉ c.testCommand.toList) (hwords : Command.split c.testCommand = .ok words)
    (hreadable : ∀ test ∈ tests, test.IsReadable)
    (hstarted : ∀ k text, (m.reply k).ending ≠ .failed text) :
    RunsAll c executable source tests port m := fun k test hk =>
  ⟨⟨words, testWords_of_plain hplain hwords (hreadable test (List.mem_of_getElem? hk))⟩, hstarted k⟩

/-! ### Two atoms that do nothing -/

/-- A module of two atoms that do nothing. -/
def idleModule : Program.SlotModule :=
  ⟨[], [.leaf 1, .leaf 2], [[.pass], [.pass]], [(1, 1), (2, 2)]⟩

/-- Weights by the paths of some positive tests and a negative one, with commands of one word. -/
def idleConfig (positives : Int) : Config :=
  ((((Config.default.set .faultScheme "path").set .compileCommand "c").set .testCommand "t").set
    .posTests positives).set .workDir "w"

/-- A coverage directory in which an earlier run has left its coverage. -/
def staleFiles : FileTree :=
  ⟨[(["w"], .directory), (["w", "coverage"], .directory),
    (["w", "coverage", "coverage.path"], .file (.ofText "9"))]⟩

/-- The module where there is such a directory. The compiler ends well, and the tests, each of which
fails, leave given texts. -/
def idleBench (texts : List String) : Bench where
  machine := { Machine.ofDirectory [] "1" with
    files := staleFiles
    replies := .silent :: texts.map fun s => ⟨some s, .finished 1 "" ""⟩ }
  cache := none
  stats := .zero
  port := 808
  altered := .ofVariant ((Variant.empty .python).restart (.module idleModule))

section Idle

variable {positives : Int}

lemma exists_probedText_idleModule : ∃ text, idleModule.probedText = .ok text := by
  have hprint : Language.printBlock 0 (Language.fillBlock
      (Language.expandBlock (fun k => Program.probe k :: idleModule.slot k) idleModule.template))
      = .ok ["__repair_probe__(1)", "pass", "__repair_probe__(2)", "pass"] := by decide +kernel
  exact Program.SlotModule.exists_probedText rfl hprint

lemma locate_staleFiles :
    staleFiles.locate [] "/w/coverage" = .ok ["w", "coverage"] ∧
      staleFiles.locate [] "/w/coverage/coverage.py" = .ok ["w", "coverage", "coverage.py"] ∧
      staleFiles.locate [] "/w/coverage/coverage.path"
        = .ok ["w", "coverage", "coverage.path"] := by
  decide +kernel

section Config

variable (h : positives = 0 ∨ positives = 1)

include h

lemma check_idleConfig : (idleConfig positives).check = .ok (idleConfig positives) := by
  rcases h with rfl | rfl <;> exact Config.check_eq_ok (by decide)

/-- The compiler puts nothing in the place of the source. -/
lemma compiles_idleConfig :
    Compilation.producesExecutable (idleConfig positives) = false ∧
      Compilation.words (idleConfig positives) ⟨"/", ["w", "coverage", "coverage.py"]⟩
        ⟨"/", ["w", "coverage", "coverage.py"]⟩ = .ok ["c"] := by
  rcases h with rfl | rfl <;> exact ⟨by decide, by decide⟩

lemma runsAll_idleConfig {executable source : String} {port : Int} {m : Machine}
    (hstarted : ∀ k text, (m.reply k).ending ≠ .failed text) :
    RunsAll (idleConfig positives) executable source (idleConfig positives).tests port m := by
  have hplain : '_' ∉ "t".toList ∧ Command.split "t" = .ok ["t"] := by decide
  have hreadable : ∀ test ∈ (idleConfig positives).tests, test.IsReadable := by
    rcases h with rfl | rfl
    · exact List.forall_mem_cons.mpr ⟨Test.isReadable_one _, nofun⟩
    · exact List.forall_mem_cons.mpr ⟨Test.isReadable_one _,
        List.forall_mem_cons.mpr ⟨Test.isReadable_one _, nofun⟩⟩
  exact runsAll_of_plain hplain.1 hplain.2 hreadable hstarted

/-- The module compiles with its probes, what an earlier run has left is there then, and the tests
can be run. -/
lemma exists_probes_idle (texts : List String) :
    ∃ t : Probes (idleConfig positives) (idleBench texts), t.variant.size = 2 ∧
      (∀ k, (t.machine.reply k).coverage = texts[k]?) ∧
      (∃ place, t.machine.files.find t.machine.directory t.coverage
        = .ok (place, .file (.ofText "9"))) ∧ t.CanTest := by
  obtain ⟨text, htext⟩ := exists_probedText_idleModule
  obtain ⟨hdirectory, hsource, hpath⟩ := locate_staleFiles
  obtain ⟨hcommand, hwords⟩ := compiles_idleConfig h
  have hwork : '\x00' ∉ (Path.ofText "w").text.toList ∧
      ⟨"/", ["w", "coverage"]⟩ = ((Path.ofText "w").resolve []).child "coverage" := by
    decide
  have hopens : Opens (idleBench texts).machine
      (Path.text ⟨"/", ["w", "coverage", "coverage.py"]⟩) ["w", "coverage", "coverage.py"] none :=
    ⟨by decide, hsource, rfl, fun _ => rfl⟩
  obtain ⟨t, hvariant, hcoverage, hmachine⟩ := exists_probes (c := idleConfig positives)
    (b := idleBench texts) rfl rfl rfl htext hwork.1 hwork.2
    ⟨by decide, FileTree.find_eq_ok_iff.mpr ⟨hdirectory, rfl⟩⟩ (by decide) hopens
    hcommand hwords ⟨_, _, rfl⟩
  have hcoverage : t.coverage = "/w/coverage/coverage.path" := by
    rw [Probes.coverage, hcoverage]
    decide
  have hstale : t.machine.files.find t.machine.directory t.coverage
      = .ok (["w", "coverage", "coverage.path"], .file (.ofText "9")) := by
    have hfree : staleFiles.get? ["w", "coverage", "coverage.py"] ≠ some .directory := nofun
    rw [hmachine, hcoverage]
    exact FileTree.find_eq_ok_iff.mpr
      ⟨FileTree.locate_of_directoriesStay (.set hfree _) hpath, rfl⟩
  have hreply (k : Nat) : t.machine.reply k
      = ((texts.map fun s => ⟨some s, .finished 1 "" ""⟩)[k]?).getD .silent := by
    rw [hmachine]
    rfl
  have hstarted (k : Nat) : (∀ text, (t.machine.reply k).ending ≠ .failed text) ∧
      (t.machine.reply k).coverage = texts[k]? := by
    rw [hreply, List.getElem?_map]
    cases texts[k]? <;> exact ⟨nofun, rfl⟩
  refine ⟨t, ?_, fun k => (hstarted k).2, ⟨_, hstale⟩,
    fun _ => ⟨_, run_deleteFile_of_find ?_ hstale⟩, runsAll_idleConfig h fun k => (hstarted k).1⟩
  · rw [hvariant]
    rfl
  · rw [hcoverage]
    decide

end Config

end Idle

end Work

open Work in
/-- Weights by paths. Let a module with its probes compile. Weights are computed if and only if what
is at the path for coverage can be deleted and each test can be run, whatever the outcomes are. Then
the atoms that negative tests visit have weights and no others have any: the one for both paths if a
positive test visits the atom too, and else the one for the negative path. Which atoms the tests
visit is all that the weights depend on: not the order of the tests or of the numbers, nor how often
a number came, nor what else was in the texts, nor any file that was there, nor the weights before.
-/
theorem localize_by_visits {c : Config} {b : Bench} (t : Probes c b) :
    ((∃ b', (localize c).run b = (.ok (), b')) ↔ t.CanTest) ∧
      ∀ b', (localize c).run b = (.ok (), b') →
        ∃ l : Localization Float, b'.altered = .ofVariant { t.variant with localization := l } ∧
          l.pairs.Pairwise (·.1 < ·.1) ∧
          (∀ a w, (a, w) ∈ l.pairs ↔ Visited t.machine c.tests .negative a ∧
            (Visited t.machine c.tests .positive a ∧ w = c.positivePathWeight ∨
              ¬ Visited t.machine c.tests .positive a ∧ w = c.negativePathWeight)) ∧
          ∀ (c₂ : Config) (b₂ b₂' : Bench) (t₂ : Probes c₂ b₂),
            c₂.positivePathWeight = c.positivePathWeight →
            c₂.negativePathWeight = c.negativePathWeight →
            (∀ polarity a, Visited t₂.machine c₂.tests polarity a ↔
              Visited t.machine c.tests polarity a) →
            (localize c₂).run b₂ = (.ok (), b₂') → b₂'.altered.variant.localization = l := by
  refine ⟨t.exists_run_localize_iff, fun b' h => ⟨⟨t.weights⟩, t.altered_of_run_localize h,
    t.pairwise_weights, fun a w => t.mem_weights, ?_⟩⟩
  intro c₂ b₂ b₂' t₂ hpositive hnegative hvisited h₂
  rw [t₂.altered_of_run_localize h₂]
  exact congrArg Localization.mk (t.weights_eq t₂ hnegative hpositive hvisited)

/-- A positive test leaves `1` twice and a word, and a negative one leaves `2` and `1`, each of them
failing: the second atom has the weight of the negative path, and the first one the weight of both.
What an earlier run has left has none. -/
theorem localize_by_visits_stale :
    ∃ (b' : Bench) (t : Work.Probes (Work.idleConfig 1) (Work.idleBench ["1 1 x", "2\n01"]))
      (l : Localization Float),
      (∃ place, t.machine.files.find t.machine.directory t.coverage
        = .ok (place, .file (.ofText "9"))) ∧
      (Work.localize (Work.idleConfig 1)).run (Work.idleBench ["1 1 x", "2\n01"])
        = (.ok (), b') ∧
      b'.altered = .ofVariant { t.variant with localization := l } ∧
      (1, 0.1) ∈ l.pairs ∧ (2, 1.0) ∈ l.pairs ∧ ∀ w, (9, w) ∉ l.pairs := by
  obtain ⟨t, -, hreply, hstale, hcan⟩ := Work.exists_probes_idle (.inr rfl) ["1 1 x", "2\n01"]
  obtain ⟨hruns, hstored⟩ := localize_by_visits t
  obtain ⟨b', hb'⟩ := hruns.mpr hcan
  obtain ⟨l, hl, -, hmem, -⟩ := hstored b' hb'
  have hvisits : Work.visitsOf t.machine (Work.idleConfig 1).tests
      = [(⟨.positive, 1, Nat.one_pos⟩, [1, 1]), (⟨.negative, 1, Nat.one_pos⟩, [2, 1])] := by
    simp only [Work.visitsOf, Work.covered, hreply]
    decide
  simp only [Work.visited_iff, hvisits] at hmem
  refine ⟨b', t, l, hstale, hb', hl, (hmem _ _).mpr ⟨by decide, .inl ⟨by decide, rfl⟩⟩,
    (hmem _ _).mpr ⟨by decide, .inr ⟨by decide, rfl⟩⟩, fun w hw => ?_⟩
  exact absurd ((hmem _ _).mp hw).1 (by decide)

end VariantRepair
