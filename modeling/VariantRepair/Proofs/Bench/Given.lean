import Mathlib.Tactic.Common
import VariantRepair.Proofs.Bench.Evaluated
import VariantRepair.Proofs.Bench.Handed

/-!
# The source that a test is given

A test command may name the source of the program that it tests. The sanity check keeps its source,
so the test finds the text there that its outcome is about. An evaluation does so only when sources
are kept, or when the source itself is what runs. Otherwise the source was deleted before the first
test.
-/

namespace VariantRepair

open Host

variable {c : Config}

/-! ### Places with nothing -/

namespace Host

variable {m₀ m : Machine} {place : Place} {path : String}

/-- A machine after some work in the same surroundings, with nothing at a place. -/
structure Machine.Lacks (m₀ : Machine) (place : Place) (m : Machine) : Prop where
  directory : m.directory = m₀.directory
  environment : m.environment = m₀.environment
  stay : m₀.files.DirectoriesStay m.files
  gone : m.files.get? place = none

lemma Machine.Lacks.refl (hgone : m₀.files.get? place = none) : m₀.Lacks place m₀ :=
  ⟨rfl, rfl, .refl _, hgone⟩

/-- A path that led to the place leads to nothing. -/
lemma Machine.Lacks.run_fileExists (h : m₀.Lacks place m)
    (hlocate : m₀.files.locate m₀.directory path = .ok place) :
    (fileExists path).run m = (.ok false, m) := by
  have hlocate : m.files.locate m.directory path = .ok place := by
    rw [h.directory]
    exact FileTree.locate_of_directoriesStay h.stay hlocate
  exact run_fileExists_of_none (run_look_of_none hlocate h.gone)

lemma lacks_warn (line : String) : Preserves (m₀.Lacks place) (warn line) :=
  .modify fun _ h => ⟨h.directory, h.environment, h.stay, h.gone⟩

lemma lacks_writeText (hpath : FileTree.placeOf m₀.directory path ≠ place) (s : String) :
    Preserves (m₀.Lacks place) (writeText path s) := by
  intro m hm
  rcases run_writeContent_cases path (.ofText s) m with ⟨f, hrun⟩ | ⟨q, old, hopens, hrun⟩
  · rw [writeText, hrun]
    exact hm
  · have hq : q = FileTree.placeOf m₀.directory path := by
      rw [FileTree.eq_placeOf_of_locate hopens.locate, hm.directory]
    rw [writeText, hrun]
    refine ⟨hm.directory, hm.environment, hm.stay.trans (.set hopens.not_directory _), ?_⟩
    rw [FileTree.get?_set_of_ne _ _ (hq ▸ hpath.symm)]
    exact hm.gone

/-- A process brings nothing to a place that is not that of its coverage file. -/
lemma lacks_start {environment : Option Config.Environment}
    (hcoverage : ∀ env, environment = some env → m₀.CoverageElsewhere (· = place) env)
    (words : List String) (seconds : Float) :
    Preserves (m₀.Lacks place) (start words seconds environment) := by
  refine .bind_get fun m hm => .bind (.modify fun _ _ => ?_) fun _ =>
    .bind (preserves_leaveCoverage (fun env path s henv hlookup => ?_) _) fun _ => ?_
  · exact ⟨hm.directory, hm.environment, hm.stay, hm.gone⟩
  · exact lacks_writeText (hcoverage env henv path hlookup) s
  · split
    · exact .throw _
    · exact .pure _

end Host

namespace Work

variable {test : Test} {tests : List Test} {b b₁ b' : Bench} {k : Compiled} {executable : Path}

/-! ### When the harness runs -/

/-- A test at a bench runs the harness on an executable: there is one, and the cache does not know
the outcome. -/
structure RunsHarness (test : Test) (b : Bench) (k : Compiled) (executable : Path) : Prop where
  callable : b.altered.callable "evaluate_test" = .ok ()
  compiled : b.altered.variant.compiled = some k
  success : k.success = true
  executable_eq : k.executable = some executable
  unknown : ∃ own, (ownCache "query").run b = (.ok own, b) ∧
    (own.bind fun cache => cache.query k.digest test) = none

/-- The harness is given the source of the last compilation, and its outcome is recorded under the
digest of that compilation. -/
lemma RunsHarness.exists_run_evaluateTest (h : RunsHarness test b k executable) :
    ∃ useCache, (evaluateTest c test).run b
      = (freshOutcome c k.digest executable k.source test useCache).run b := by
  obtain ⟨own, hown, hunknown⟩ := h.unknown
  have hread : (reading (·.callable "evaluate_test")).run b = (.ok (), b) := by
    rw [run_reading, h.callable]
  have hvariant : variant.run b = (.ok b.altered.variant, b) := rfl
  refine ⟨own.isSome, ?_⟩
  rw [evaluateTest, run_bind_of_ok hread, run_bind_of_ok hvariant, h.compiled]
  simp only [h.success, h.executable_eq]
  rw [run_bind_of_ok hown, hunknown]

/-- While tests are evaluated in turn, the harness runs one of them at a bench. -/
inductive HarnessAt (c : Config) (test : Test) (k : Compiled) (executable : Path) :
    List Test → Bench → Bench → Prop
  /-- It runs the first test. -/
  | here {tests : List Test} {b : Bench} (hruns : RunsHarness test b k executable) :
      HarnessAt c test k executable (test :: tests) b b
  /-- It runs a test after the first one. -/
  | later {first : Test} {tests : List Test} {outcome : Outcome} {b b₁ b' : Bench}
      (hfirst : (evaluateTest c first).run b = (.ok outcome, b₁))
      (hrest : HarnessAt c test k executable tests b₁ b') :
      HarnessAt c test k executable (first :: tests) b b'

namespace HarnessAt

lemma runs (h : HarnessAt c test k executable tests b b') : RunsHarness test b' k executable := by
  induction h with
  | here hruns => exact hruns
  | later _ _ ih => exact ih

/-- What every test preserves is still so when the harness runs. -/
lemma of_preserves {I : Bench → Prop} (hI : ∀ t, Preserves I (evaluateTest c t))
    (h : HarnessAt c test k executable tests b b') (hb : I b) : I b' := by
  induction h with
  | here => exact hb
  | later hfirst _ ih => exact ih ((hI _).of_run hb hfirst)

end HarnessAt

/-- A test that does not run the harness does nothing on the machine. -/
lemma runsHarness_or_machine_eq (c : Config) (test : Test) (b : Bench) :
    (∃ k executable, RunsHarness test b k executable) ∨
      ((evaluateTest c test).run b).2.machine = b.machine := by
  refine or_iff_not_imp_left.mpr fun hnone => ?_
  refine Preserves.run_bind_of (J := (· = b)) (I := fun b' : Bench => b'.machine = b.machine) rfl
    (preserves_reading _) (fun _ h => congrArg Bench.machine h) fun _ b₁ hb₁ hread => ?_
  rw [run_reading] at hread
  have hvariant : variant.run b₁ = (.ok b.altered.variant, b) := by
    rw [hb₁]
    rfl
  rw [run_bind_of_ok hvariant]
  split
  · exact Preserves.bind (I := fun b' : Bench => b'.machine = b.machine) (preserves_reading _)
      (fun _ => .throw _) b rfl
  · next k hk =>
    split
    · next executable hsuccess hexecutable =>
      refine Preserves.run_bind_of (J := (· = b)) (I := fun b' : Bench => b'.machine = b.machine)
        rfl (preserves_ownCache _) (fun _ h => congrArg Bench.machine h) fun own b₂ hb₂ hown => ?_
      subst hb₂
      split
      · have hcount : Preserves (fun b' : Bench => b'.machine = b₂.machine)
            (count Stats.recordCacheHit) := .modify fun _ h => h
        exact Preserves.bind (preserves_reading _) (fun _ => .bind hcount fun _ => .pure _) b₂ rfl
      · next hunknown =>
        exact absurd ⟨k, executable, (Prod.mk.inj hread).1, hk, hsuccess, hexecutable, own, hown,
          hunknown⟩ hnone
    · rfl

/-- When tests are evaluated and something is done on the machine, the harness runs one of them. -/
lemma exists_harnessAt (h : ((evaluateTests c tests).run b).2.machine ≠ b.machine) :
    ∃ test k executable b', HarnessAt c test k executable tests b b' := by
  induction tests generalizing b with
  | nil => exact absurd rfl h
  | cons first tests ih =>
    rcases runsHarness_or_machine_eq c first b with ⟨k, executable, hruns⟩ | hsame
    · exact ⟨first, k, executable, b, .here hruns⟩
    · cases hfirst : (evaluateTest c first).run b with
      | mk r b₁ =>
        rw [hfirst] at hsame
        cases r with
        | error f =>
          rw [evaluateTests, run_bind_of_error hfirst] at h
          exact absurd hsame h
        | ok outcome =>
          have hrest : ((evaluateTests c tests).run b₁).2.machine ≠ b₁.machine := by
            intro hrest
            rw [evaluateTests, run_bind_of_ok hfirst] at h
            refine h (Eq.trans ?_ (hrest.trans hsame))
            cases hlast : (evaluateTests c tests).run b₁ with
            | mk r b₂ =>
              cases r with
              | error f => rw [run_bind_of_error hlast]
              | ok outcomes => rw [run_bind_of_ok hlast]; rfl
          obtain ⟨test, k, executable, b', hat⟩ := ih hrest
          exact ⟨test, k, executable, b', .later hfirst hat⟩

/-- While a variant is compiled to a source of a certain name and then tested, the harness runs a
test at a bench. -/
def HarnessRuns (c : Config) (start : String) (keepSource : Bool) (b : Bench) (test : Test)
    (k : Compiled) (executable : Path) (b' : Bench) : Prop :=
  ∃ name success b₁, b.altered.sourceName start = .ok name ∧
    (compile c ((Path.ofText c.workDir).child name) ((Path.ofText c.workDir).child start)
      keepSource).run b = (.ok success, b₁) ∧
    HarnessAt c test k executable (Test.all c.posTests c.negTests) b₁ b'

/-! ### What a compilation leaves of its source -/

variable {text : String} {source sourcePath exePath : Path} {keepSource success : Bool}
  {content : Content}

/-- A compilation that ends leaves a record of the text of the variant, and the text in its source
unless it deletes it. -/
lemma of_run_compile (h : (compile c sourcePath exePath keepSource).run b = (.ok success, b₁)) :
    ∃ text k, b.altered.text = .ok text ∧ IsRecord c text k.source k ∧
      b₁.altered = b.altered.remember k ∧
      SourceLeft (!keepSource && k.executable.any (· ≠ k.source)) k.source (.ofText text)
        b₁.machine := by
  rw [compile_eq] at h
  obtain ⟨⟨text, source⟩, written, hwrite, h⟩ := exists_run_of_run_bind h
  obtain ⟨htext, -, haltered, hfile⟩ := of_run_writeSource hwrite
  obtain ⟨k, hrecord, -, hremember, hleft⟩ := of_run_compileWritten h
  obtain rfl := hrecord.source_eq
  rw [haltered] at hremember
  exact ⟨text, k, htext, hrecord, hremember, hleft _ hfile⟩

/-! ### What the harness finds -/

lemma HarnessAt.altered_eq (h : HarnessAt c test k executable tests b b') :
    b'.altered = b.altered := by
  have hkept (t : Test) : Preserves (Bench.Within (b.machine.Keeps (fun _ => False) fun _ => True)
      (fun _ => True) (· = b.altered)) (evaluateTest c t) :=
    within_evaluateTest (fun _ _ => id) Cache.takesNew_true t
  exact (h.of_preserves hkept ⟨.refl fun _ => False.elim, fun _ _ => trivial, rfl⟩).altered

section Found

variable (h : HarnessAt c test k executable tests b b')
  (hcoverage : b.machine.CoverageElsewhere
    (· = FileTree.placeOf b.machine.directory source.text) b.machine.environment)

include h hcoverage

/-- What was in a file before the tests is there when the harness runs. -/
lemma HarnessAt.fileAt (hfile : Cache.FileAt b.machine source.text content) :
    Cache.FileAt b'.machine source.text content := by
  obtain ⟨hnul, place, hfind⟩ := hfile
  obtain ⟨hlocate, hget⟩ := FileTree.find_eq_ok_iff.mp hfind
  obtain rfl := FileTree.eq_placeOf_of_locate hlocate
  have hkept := h.of_preserves (within_evaluateTest (C := (· = content)) (K := fun _ => True)
    (A := fun _ => True) hcoverage Cache.takesNew_true)
    ⟨.refl fun _ hq => ⟨content, hq ▸ hget, rfl⟩, fun _ _ => trivial, trivial⟩
  obtain ⟨_, hleft, rfl⟩ := hkept.machine.find rfl hlocate
  exact ⟨hnul, _, hleft⟩

/-- What was gone before the tests is gone when the harness runs. -/
lemma HarnessAt.run_fileExists {place : Place}
    (hlocate : b.machine.files.locate b.machine.directory source.text = .ok place)
    (hgone : b.machine.files.get? place = none) :
    (fileExists source.text).run b'.machine = (.ok false, b'.machine) := by
  obtain rfl := FileTree.eq_placeOf_of_locate hlocate
  have hrun (executable source' : String) (t : Test) : Preserves (Bench.Within
      (b.machine.Lacks (FileTree.placeOf b.machine.directory source.text)) (fun _ => True)
      fun _ => True) (runTest c executable source' t []) := by
    refine within_runTest_of_start (fun _ hm => hm.environment) lacks_warn
      (fun words => lacks_start ?_ words _) executable source' t
    rintro env henv
    obtain rfl := Option.some.inj henv
    exact hcoverage
  have hkept := h.of_preserves (within_evaluateTest_of_runTest hrun Cache.takesNew_true)
    ⟨.refl hgone, fun _ _ => trivial, trivial⟩
  exact hkept.machine.run_fileExists hlocate

end Found

/-- The text of the variant is in the source of a record, which has the digest of this text. -/
def SourceHolds (b : Bench) (k : Compiled) (m : Machine) : Prop :=
  ∃ text, b.altered.text = .ok text ∧ k.digest = textDigest text ∧
    Cache.FileAt m k.source.text (.ofText text)

lemma not_sourceHolds_of_gone {m : Machine}
    (hgone : (fileExists k.source.text).run m = (.ok false, m)) : ¬ SourceHolds b k m := by
  rintro ⟨text, -, -, hnul, place, hfind⟩
  rw [run_fileExists_of_find hnul hfind] at hgone
  cases hgone

section Given

variable {start : String}
  (hother : Compilation.producesExecutable c = true → executable ≠ k.source)
  (hcoverage : b.machine.CoverageElsewhere
    (· = FileTree.placeOf b.machine.directory k.source.text) b.machine.environment)

include hother hcoverage

/-- When the harness runs, the source is there unless it was deleted. -/
lemma sourceHolds_of_harnessRuns (h : HarnessRuns c start keepSource b test k executable b') :
    (Compilation.producesExecutable c = false ∨ keepSource = true → SourceHolds b k b'.machine) ∧
      (Compilation.producesExecutable c = true ∧ keepSource = false →
        (fileExists k.source.text).run b'.machine = (.ok false, b'.machine)) := by
  obtain ⟨name, success, b₁, -, hcompile, hat⟩ := h
  obtain ⟨text, k', htext, hrecord, haltered, hsource⟩ := of_run_compile hcompile
  have hb₁ : b.machine.Keeps (fun _ => False) (fun _ => True) b₁.machine :=
    ((within_compile (K := fun _ => True) (A := fun _ => True) False.elim
      fun _ _ _ => trivial).of_run
      ⟨.refl fun _ => False.elim, fun _ _ => trivial, trivial⟩ hcompile).machine
  -- tests leave the record alone, so it is the one of this compilation
  obtain rfl : k' = k := by
    have hk := hat.runs.compiled
    rw [hat.altered_eq, haltered] at hk
    exact Option.some.inj hk
  have hcoverage₁ : b₁.machine.CoverageElsewhere
      (· = FileTree.placeOf b₁.machine.directory k'.source.text) b₁.machine.environment := by
    intro path hpath
    rw [hb₁.environment] at hpath
    rw [hb₁.directory]
    exact hcoverage path hpath
  have hdeletes : (!keepSource && k'.executable.any (· ≠ k'.source))
      = (Compilation.producesExecutable c && !keepSource) := by
    have hexecutable := hat.runs.executable_eq
    rw [Bool.and_comm, hexecutable, Option.any_some]
    cases hcommand : Compilation.producesExecutable c with
    | true => rw [decide_eq_true (hother hcommand)]
    | false =>
      rcases hrecord.executable_eq hcommand with hnone | hsome
      · rw [hexecutable] at hnone
        cases hnone
      · obtain rfl := Option.some.inj (hexecutable.symm.trans hsome)
        simp
  rw [hdeletes, SourceLeft] at hsource
  constructor
  · intro hkept
    rw [if_neg (by rcases hkept with hkept | hkept <;> simp [hkept])] at hsource
    exact ⟨text, htext, hrecord.digest_eq, hat.fileAt hcoverage₁ hsource⟩
  · intro hdeleted
    rw [if_pos (by simpa using hdeleted)] at hsource
    obtain ⟨place, hlocate, hnone⟩ := hsource
    exact hat.run_fileExists hcoverage₁ hlocate hnone

end Given

/-! ### A line that is compiled -/

/-- A compilation ends well whose source is written and whose command makes an executable. -/
lemma exists_run_compile_of_produces (keep : Bool) {v : Variant Float} {exe : Path}
    {words : List String}
    (hcommand : Compilation.producesExecutable c = true) (hv : b.altered = .ofVariant v)
    (hwrite : (writeSource sourcePath).run b = (.ok (text, source), b₁))
    (hnul : '\x00' ∉ exePath.text.toList) (hexe : exePath.resolve b₁.machine.directory = exe)
    (hwords : Compilation.words c source exe = .ok words)
    (hending : ∃ out err, (b₁.machine.replies.head?.getD b₁.machine.further).ending
      = .finished 0 out err) :
    ∃ b', (compile c sourcePath exePath keep).run b = (.ok true, b') ∧
      b'.cache = b₁.cache ∧ b'.port = b₁.port ∧ b'.altered = .ofVariant
        { v with compiled := some ⟨textDigest text, true, source, some exe⟩ } := by
  obtain ⟨-, -, haltered, hfile⟩ := of_run_writeSource hwrite
  have hmade : (if Compilation.producesExecutable c then exePath.resolve b₁.machine.directory
      else source) = exe := (if_pos hcommand).trans hexe
  obtain ⟨stderr, hwritten⟩ :=
    exists_run_compileWritten (haltered.trans hv) hnul hmade hwords hending
  let b₂ : Bench := { b₁ with
    machine := { b₁.machine with
      replies := b₁.machine.replies.drop 1
      calls := b₁.machine.calls ++ [⟨words, c.compileTimeout, none⟩] }
    stats := b₁.stats.recordCompile true
    altered := .ofVariant { v with compiled := some ⟨textDigest text, true, source, some exe⟩ } }
  obtain ⟨m, hended⟩ :=
    run_compileEnded (b := b₂) rfl keep ⟨true, some exe, stderr⟩ hfile
  refine ⟨{ b₂ with machine := m }, ?_, rfl, rfl, rfl⟩
  rw [compile_eq, run_bind_of_ok hwrite]
  exact hwritten.trans hended

/-- A configuration that compiles in the root directory, where sources are kept or not. -/
def inRootKeeping (kept : Bool) : Config := inRoot.set .keepSource kept

@[simp] lemma keepSource_inRootKeeping (kept : Bool) : (inRootKeeping kept).keepSource = kept := rfl

lemma producesExecutable_inRootKeeping (kept : Bool) :
    Compilation.producesExecutable (inRootKeeping kept) = true := producesExecutable_inRoot

lemma coverageElsewhere_oneLine (ownSuffix : Option String) (S : Place → Prop) :
    (oneLine ownSuffix).machine.CoverageElsewhere S (oneLine ownSuffix).machine.environment := by
  intro path hpath
  cases hpath

/-- A line with the suffix `.s` is compiled in the root directory, and the harness runs the first
test, which names the source. -/
lemma exists_harnessRuns_oneLine {start : String} (hstart : start = "sanity" ∨ start = "variant")
    (keepSource kept : Bool) :
    ∃ test k executable b',
      HarnessRuns (inRootKeeping kept) start keepSource (oneLine (some ".s")) test k executable b' ∧
      k.source = .ofText ("/" ++ start ++ ".s") ∧ executable ≠ k.source ∧
      testWords (inRootKeeping kept) executable.text k.source.text test b'.port
        = .ok ["./test.sh", "/" ++ start, "p1", "808", "/" ++ start ++ ".s"] := by
  let c := inRootKeeping kept
  let b := oneLine (some ".s")
  have hroot : b.machine.files.find b.machine.directory "/" = .ok ([], .directory) :=
    FileTree.find_eq_ok_iff.mpr ⟨by decide +kernel, rfl⟩
  have hcompiles : Compiles inRoot b.machine ((Path.ofText inRoot.workDir).child (start ++ ".s"))
      (.ofText ("/" ++ start)) (.ofText ("/" ++ start ++ ".s")) [start ++ ".s"]
      ["cc", "/" ++ start ++ ".s", "-o", "/" ++ start ++ ".s"] := by
    rcases hstart with rfl | rfl <;>
      exact ⟨by decide, by decide, by decide, by decide,
        ⟨[], hroot⟩, ⟨none, by decide, by decide +kernel, rfl, fun _ => rfl⟩,
        by decide, ⟨_, _, rfl⟩⟩
  have hwrite := run_writeSource_of_compiles (b := b) rfl rfl hcompiles
  have hexe : '\x00' ∉ ((Path.ofText inRoot.workDir).child start).text.toList ∧
      ((Path.ofText inRoot.workDir).child start).resolve [] = .ofText ("/" ++ start) ∧
      Compilation.words inRoot (.ofText ("/" ++ start ++ ".s")) (.ofText ("/" ++ start))
        = .ok ["cc", "/" ++ start ++ ".s", "-o", "/" ++ start] := by
    rcases hstart with rfl | rfl <;>
      exact ⟨by decide, by decide, by decide⟩
  obtain ⟨b₁, hcompile, hcache, hport, hv⟩ := exists_run_compile_of_produces (c := c)
    (b := b) keepSource (producesExecutable_inRootKeeping kept) rfl hwrite hexe.1 hexe.2.1 hexe.2.2
    ⟨_, _, rfl⟩
  have hport : b₁.port = 808 := hport
  let test : Test := ⟨.positive, 1, Nat.one_pos⟩
  let k : Compiled :=
    ⟨textDigest "a\n", true, .ofText ("/" ++ start ++ ".s"), some (.ofText ("/" ++ start))⟩
  have hruns : RunsHarness test b₁ k (.ofText ("/" ++ start)) :=
    ⟨by rw [hv]; rfl, by rw [hv]; rfl, rfl, rfl, none, by rw [run_ownCache hv, hcache]; rfl, rfl⟩
  have htests : Test.all c.posTests c.negTests
      = test :: (Test.all c.posTests c.negTests).tail := rfl
  have hat : HarnessAt c test k (.ofText ("/" ++ start)) (Test.all c.posTests c.negTests)
      b₁ b₁ := by
    rw [htests]
    exact .here hruns
  refine ⟨test, k, _, b₁, ⟨start ++ ".s", true, b₁, rfl, hcompile, hat⟩, rfl, ?_, ?_⟩
  · change Path.ofText ("/" ++ start) ≠ .ofText ("/" ++ start ++ ".s")
    rcases hstart with rfl | rfl <;> decide
  · rw [hport]
    change testWords inRoot (Path.ofText ("/" ++ start)).text
      (Path.ofText ("/" ++ start ++ ".s")).text ⟨.positive, 1, Nat.one_pos⟩ 808 = _
    rcases hstart with rfl | rfl <;> decide +kernel

section Given

variable
  (hother : Compilation.producesExecutable c = true → executable ≠ k.source)
  (hcoverage : b.machine.CoverageElsewhere
    (· = FileTree.placeOf b.machine.directory k.source.text) b.machine.environment)

include hother hcoverage

/-- Whenever the sanity check runs the harness, the source that it names is there and holds the text
with the digest that the outcome is recorded under. This is so of an evaluation just when the
source itself is what runs or sources are kept; otherwise there is no such file. This is for sources
that neither the compiler nor a coverage file takes the place of. -/
theorem harness_is_given_source_iff :
    (HarnessRuns c "sanity" true b test k executable b' → SourceHolds b k b'.machine) ∧
    (HarnessRuns c "variant" c.keepSource b test k executable b' →
      (SourceHolds b k b'.machine ↔
        Compilation.producesExecutable c = false ∨ c.keepSource = true) ∧
      (¬ SourceHolds b k b'.machine →
        (fileExists k.source.text).run b'.machine = (.ok false, b'.machine))) := by
  constructor
  · intro h
    exact (sourceHolds_of_harnessRuns hother hcoverage h).1 (.inr rfl)
  · intro h
    obtain ⟨hholds, hgone⟩ := sourceHolds_of_harnessRuns hother hcoverage h
    by_cases hkept : Compilation.producesExecutable c = false ∨ c.keepSource = true
    · exact ⟨iff_of_true (hholds hkept) hkept, fun hnot => absurd (hholds hkept) hnot⟩
    · have hgone := hgone (by simpa using hkept)
      exact ⟨iff_of_false (not_sourceHolds_of_gone hgone) hkept, fun _ => hgone⟩

end Given

/-- The sanity check of a line keeps its source, and so does its evaluation if sources are kept. -/
theorem harness_is_given_source_iff_line :
    ∃ (c c' : Config) (b : Bench) (test test' : Test) (k k' : Compiled)
      (executable executable' : Path) (b₁ b₂ : Bench),
      HarnessRuns c "sanity" true b test k executable b₁ ∧ SourceHolds b k b₁.machine ∧
      Compilation.producesExecutable c' = true ∧
      HarnessRuns c' "variant" c'.keepSource b test' k' executable' b₂ ∧
      SourceHolds b k' b₂.machine := by
  let b := oneLine (some ".s")
  obtain ⟨test, k, executable, b₁, hruns, -, hother, -⟩ :=
    exists_harnessRuns_oneLine (.inl rfl) true false
  obtain ⟨test', k', executable', b₂, hruns', -, hother', -⟩ :=
    exists_harnessRuns_oneLine (.inr rfl) true true
  have hevaluates : HarnessRuns (inRootKeeping true) "variant" (inRootKeeping true).keepSource
      b test' k' executable' b₂ := by
    rw [keepSource_inRootKeeping]
    exact hruns'
  have hsanity : SourceHolds b k b₁.machine :=
    (harness_is_given_source_iff (fun _ => hother) (coverageElsewhere_oneLine _ _)).1 hruns
  have hvariant : SourceHolds b k' b₂.machine :=
    ((harness_is_given_source_iff (fun _ => hother') (coverageElsewhere_oneLine _ _)).2
      hevaluates).1.mpr (.inr (keepSource_inRootKeeping true))
  exact ⟨inRootKeeping false, inRootKeeping true, b, test, test', k, k', executable, executable',
    b₁, b₂, hruns, hsanity, producesExecutable_inRootKeeping true, hevaluates, hvariant⟩

/-- Where sources are not kept, an evaluation of a line tells its tests the path of a source that is
no longer there. -/
theorem evaluation_names_deleted_source :
    ∃ (c : Config) (b : Bench) (test : Test) (k : Compiled) (executable : Path) (b' : Bench),
      b.altered.Built ∧ HarnessRuns c "variant" c.keepSource b test k executable b' ∧
      testWords c executable.text k.source.text test b'.port
        = .ok ["./test.sh", "/variant", "p1", "808", "/variant.s"] ∧
      (fileExists k.source.text).run b'.machine = (.ok false, b'.machine) ∧
      ¬ SourceHolds b k b'.machine := by
  obtain ⟨test, k, executable, b', hruns, -, hother, hwords⟩ :=
    exists_harnessRuns_oneLine (.inr rfl) false false
  have hgone := (sourceHolds_of_harnessRuns (fun _ => hother) (coverageElsewhere_oneLine _ _)
    hruns).2 ⟨producesExecutable_inRootKeeping false, rfl⟩
  have hevaluates : HarnessRuns (inRootKeeping false) "variant" (inRootKeeping false).keepSource
      (oneLine (some ".s")) test k executable b' := by
    rw [keepSource_inRootKeeping]
    exact hruns
  exact ⟨inRootKeeping false, oneLine (some ".s"), test, k, executable, b', built_oneLine_suffix,
    hevaluates, hwords.trans (by decide), hgone, not_sourceHolds_of_gone hgone⟩

end Work

end VariantRepair
