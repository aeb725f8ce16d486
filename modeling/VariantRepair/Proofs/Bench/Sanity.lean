import Mathlib.Tactic.Common
import VariantRepair.Proofs.Bench.Evaluated
import VariantRepair.Proofs.Bench.Foreign
import VariantRepair.Proofs.Bench.Handed
import VariantRepair.Proofs.Bench.Ports

/-!
# The check of the unmodified program

The check compiles the program and takes the outcome of each test. It turns the program down when
this does not compile, and when a positive test is not passed or a negative one is. All tests have
their turn before that, so the failures that it names are all there are.
-/

namespace VariantRepair

open Host

/-! ### Outcomes and polarities -/

/-- A positive test is not passed, or a negative one is. A timeout is no pass. -/
def Mismatched (o : Test × Outcome) : Prop :=
  (o.1.polarity = .positive ∧ o.2 ≠ .passed) ∨ (o.1.polarity = .negative ∧ o.2 = .passed)

instance : DecidablePred Mismatched := fun o =>
  inferInstanceAs (Decidable
    ((o.1.polarity = .positive ∧ o.2 ≠ .passed) ∨ (o.1.polarity = .negative ∧ o.2 = .passed)))

/-- The tests whose outcomes are not as they should, with their outcomes. -/
def mismatches (outcomes : List (Test × Outcome)) : List String :=
  (outcomes.filter fun o => decide (Mismatched o)).map fun o => o.1.name ++ ":" ++ o.2.text

lemma mismatches_eq_nil_iff {outcomes : List (Test × Outcome)} :
    mismatches outcomes = [] ↔ ∀ o ∈ outcomes, ¬ Mismatched o := by
  simp [mismatches]

namespace Work

lemma not_asExpected (test : Test) (outcome : Outcome) :
    (!asExpected test outcome) = decide (Mismatched (test, outcome)) := by
  obtain ⟨polarity, index, hindex⟩ := test
  cases polarity <;> cases outcome <;> rfl

lemma unexpected_eq (outcomes : List (Test × Outcome)) :
    unexpected outcomes = mismatches outcomes := by
  simp only [unexpected, mismatches, not_asExpected]

variable {c : Config} {b b' : Bench}

/-! ### When the check turns a program down -/

/-- The tests of a check: the positive ones by number, and then the negative ones. -/
abbrev checkTests (c : Config) : List Test := Test.all c.posTests c.negTests

/-- The compilation of a check. -/
def compileOriginal (c : Config) : Work Bool := do
  reading (·.callable "sanity_check")
  reading (·.provides "config" "work_dir")
  let directory := Path.ofText c.workDir
  let source := directory.child (← reading (·.sourceName "sanity"))
  compile c source (directory.child "sanity") true

/-- What a check comes to when the program compiles or not, and its tests have outcomes. -/
def verdict (compiled : Bool) (outcomes : List (Test × Outcome)) : Except Failure Unit :=
  if !compiled then .error (.repair (.sanityCheck "original program does not compile" []))
  else if (mismatches outcomes).isEmpty then .ok ()
  else .error (.repair (.sanityCheck "original program does not match the test oracle"
    (mismatches outcomes)))

lemma verdict_of_matched {outcomes : List (Test × Outcome)} (h : mismatches outcomes = []) :
    verdict true outcomes = .ok () := by
  rw [verdict, h]
  rfl

lemma verdict_of_mismatched {outcomes : List (Test × Outcome)} (h : mismatches outcomes ≠ []) :
    verdict true outcomes = .error (.repair (.sanityCheck
      "original program does not match the test oracle" (mismatches outcomes))) := by
  rw [verdict, if_neg (by simp), if_neg (by simpa using h)]

/-- A check turns a program down. Either this does not compile, or it compiles, each test has an
outcome, from the cache or from the harness, and the outcome of some test is not as it should. -/
inductive Rejects (c : Config) (b : Bench) : String → List String → Bench → Prop
  | notCompiled {b' : Bench} (hcompile : (compileOriginal c).run b = (.ok false, b')) :
      Rejects c b "original program does not compile" [] b'
  | mismatched {k : Compiled} {outcomes : List (Test × Outcome)} {b₁ b' : Bench}
      (hcompile : (compileOriginal c).run b = (.ok true, b₁))
      (hrecord : b₁.altered.variant.compiled = some k) (hsuccess : k.success = true)
      (hrun : (evaluateTests c (checkTests c)).run b₁ = (.ok outcomes, b'))
      (hanswers : AnswersAll c k (checkTests c) b₁ outcomes b')
      (hsome : ∃ o ∈ outcomes, Mismatched o) :
      Rejects c b "original program does not match the test oracle" (mismatches outcomes) b'

lemma sanityCheck_eq (c : Config) : sanityCheck c = (do
    let compiled ← compileOriginal c
    if !compiled then throw (.repair (.sanityCheck "original program does not compile" []))
    let failures := mismatches (← evaluateTests c (checkTests c))
    if !failures.isEmpty then
      throw (.repair (.sanityCheck "original program does not match the test oracle" failures))
    onMachine (Host.say s!"[Sanity] ok: {c.posTests} positive, {c.negTests} negative")) := by
  simp only [sanityCheck, compileOriginal, bind_assoc, unexpected_eq]

lemma isForeign_compileOriginal : IsForeign (compileOriginal c) :=
  .bind (isForeign_callable _) fun _ => .bind (isForeign_provides _ _) fun _ =>
    .bind (isForeign_reading fun a => a.foreign_sourceName _) fun _ => isForeign_compile _ _ _

/-- A check of a program that does not compile runs no test. -/
lemma run_sanityCheck_of_not_compiled (h : (compileOriginal c).run b = (.ok false, b')) :
    (sanityCheck c).run b = (verdict false [], b') := by
  rw [sanityCheck_eq, run_bind_of_ok h]
  rfl

section Outcomes

variable {outcomes : List (Test × Outcome)} {b₁ : Bench}
  (hcompile : (compileOriginal c).run b = (.ok true, b₁))
  (hrun : (evaluateTests c (checkTests c)).run b₁ = (.ok outcomes, b'))

include hcompile hrun

/-- A check that finds nothing wrong says so. -/
lemma exists_run_sanityCheck_of_matched (hnone : mismatches outcomes = []) :
    ∃ out, (sanityCheck c).run b
      = (verdict true outcomes, { b' with machine := { b'.machine with out } }) := by
  rw [sanityCheck_eq, run_bind_of_ok hcompile]
  dsimp only
  rw [if_neg (by simp), run_bind_of_ok hrun, verdict_of_matched hnone, hnone]
  exact ⟨_, rfl⟩

/-- A check that finds tests with other outcomes than they should have names them. -/
lemma run_sanityCheck_of_mismatched (hsome : mismatches outcomes ≠ []) :
    (sanityCheck c).run b = (verdict true outcomes, b') := by
  have hfailures : (!(mismatches outcomes).isEmpty) = true := by simpa using hsome
  rw [sanityCheck_eq, run_bind_of_ok hcompile]
  dsimp only
  rw [if_neg (by simp), run_bind_of_ok hrun, if_pos hfailures, verdict_of_mismatched hsome]
  rfl

/-- A check of a program that compiles goes by the outcomes of all tests. -/
lemma exists_run_sanityCheck_of_outcomes : ∃ out, (sanityCheck c).run b
    = (verdict true outcomes, { b' with machine := { b'.machine with out } }) := by
  by_cases hnone : mismatches outcomes = []
  · exact exists_run_sanityCheck_of_matched hcompile hrun hnone
  · exact ⟨_, run_sanityCheck_of_mismatched hcompile hrun hnone⟩

end Outcomes

/-- What was compiled for a check is remembered. -/
lemma exists_record_of_run_compileOriginal {success : Bool}
    (h : (compileOriginal c).run b = (.ok success, b')) :
    ∃ k, b'.altered.variant.compiled = some k ∧ k.success = success := by
  obtain ⟨⟨⟩, -, h⟩ := of_run_reading_bind h
  obtain ⟨⟨⟩, -, h⟩ := of_run_reading_bind h
  obtain ⟨name, -, h⟩ := of_run_reading_bind h
  rw [compile_eq] at h
  obtain ⟨⟨text, source⟩, written, -, hcompile⟩ := exists_run_of_run_bind h
  obtain ⟨k, -, hsuccess, haltered, -⟩ := of_run_compileWritten hcompile
  exact ⟨k, by rw [haltered]; rfl, hsuccess⟩

/-- What a check finds wrong is wrong. -/
lemma rejects_of_run {reason : String} {failures : List String}
    (h : (sanityCheck c).run b = (.error (.repair (.sanityCheck reason failures)), b')) :
    Rejects c b reason failures b' := by
  -- compiling and testing fail in foreign ways only, so both have come to their ends
  have hown : ¬ Failure.IsForeign (.repair (.sanityCheck reason failures)) := id
  have hrun := h
  rw [sanityCheck_eq] at hrun
  obtain ⟨compiled, b₁, hcompile, hrun⟩ :=
    isForeign_compileOriginal.exists_run_of_run_bind hown hrun
  cases compiled with
  | false =>
    rw [run_sanityCheck_of_not_compiled hcompile] at h
    cases h
    exact .notCompiled hcompile
  | true =>
    obtain ⟨outcomes, b₂, htests, -⟩ :=
      (isForeign_evaluateTests (checkTests c)).exists_run_of_run_bind hown hrun
    by_cases hnone : mismatches outcomes = []
    · obtain ⟨out, haccepted⟩ := exists_run_sanityCheck_of_matched hcompile htests hnone
      rw [haccepted, verdict_of_matched hnone] at h
      cases h
    · rw [run_sanityCheck_of_mismatched hcompile htests hnone, verdict_of_mismatched hnone] at h
      cases h
      obtain ⟨k, hrecord, hsuccess⟩ := exists_record_of_run_compileOriginal hcompile
      refine .mismatched hcompile hrecord hsuccess htests
        (answersAll_of_run_evaluateTests hrecord htests) ?_
      simpa using mt mismatches_eq_nil_iff.mpr hnone

/-- A check fails with a finding exactly when the program does not compile, or some test has not the
outcome that it should have. -/
lemma run_sanityCheck_eq_error_iff {reason : String} {failures : List String} :
    (sanityCheck c).run b = (.error (.repair (.sanityCheck reason failures)), b') ↔
      Rejects c b reason failures b' := by
  refine ⟨rejects_of_run, ?_⟩
  rintro (hcompile | ⟨hcompile, -, -, htests, -, o, ho, hmismatched⟩)
  · exact run_sanityCheck_of_not_compiled hcompile
  · have hsome : mismatches _ ≠ [] := fun hnone =>
      mismatches_eq_nil_iff.mp hnone o ho hmismatched
    rw [run_sanityCheck_of_mismatched hcompile htests hsome, verdict_of_mismatched hsome]

/-! ### Outcomes from the cache and from processes -/

/-- The outcomes of tests in turn. One that is known is taken as it is, and any other one is that of
the next process. -/
def answered (known : Test → Option Bool) : (Nat → Outcome) → List Test → List (Test × Outcome)
  | _, [] => []
  | judged, test :: tests =>
    match known test with
    | some passed => (test, outcomeOfStored passed) :: answered known judged tests
    | none => (test, judged 0) :: answered known (fun i => judged (i + 1)) tests

/-- The tests whose outcome is not known. -/
def unknown (known : Test → Option Bool) (tests : List Test) : List Test :=
  tests.filter fun test => (known test).isNone

/-- The processes of tests in turn: one for each, with the next port. -/
inductive TestCalls (c : Config) (executable source : String) (environment : Config.Environment) :
    Int → List Test → List Call → Prop
  | nil {port : Int} : TestCalls c executable source environment port [] []
  | cons {port : Int} {test : Test} {tests : List Test} {words : List String} {calls : List Call}
      (hwords : testWords c executable source test port = .ok words)
      (hrest : TestCalls c executable source environment (nextPort port) tests calls) :
      TestCalls c executable source environment port (test :: tests)
        (⟨words, c.testTimeout, some environment⟩ :: calls)

section Answered

variable {known : Test → Option Bool} {judged : Nat → Outcome} {test : Test} {tests : List Test}

lemma answered_cons_of_known {passed : Bool} (h : known test = some passed) :
    answered known judged (test :: tests)
      = (test, outcomeOfStored passed) :: answered known judged tests := by
  rw [answered, h]

lemma answered_cons_of_unknown (h : known test = none) :
    answered known judged (test :: tests)
      = (test, judged 0) :: answered known (fun i => judged (i + 1)) tests := by
  rw [answered, h]

lemma unknown_cons_of_known {passed : Bool} (h : known test = some passed) :
    unknown known (test :: tests) = unknown known tests := by
  rw [unknown, List.filter_cons_of_neg (by rw [h]; nofun), unknown]

lemma unknown_cons_of_unknown (h : known test = none) :
    unknown known (test :: tests) = test :: unknown known tests := by
  rw [unknown, List.filter_cons_of_pos (by rw [h]; rfl), unknown]

/-- Each test has an outcome, in order. -/
lemma map_fst_answered : (answered known judged tests).map Prod.fst = tests := by
  induction tests generalizing judged with
  | nil => rfl
  | cons test tests ih =>
    cases hknown : known test with
    | some passed => rw [answered_cons_of_known hknown, List.map_cons, ih]
    | none => rw [answered_cons_of_unknown hknown, List.map_cons, ih]

end Answered

section Tests

variable {v : Variant Float} {k : Compiled} {executable : Path} {known : Test → Option Bool}
  {judged : Nat → Outcome} {tests : List Test}

/-- Tests of what was compiled come to their outcomes if the command of each has words and the
system starts the processes. Each test whose outcome is not known is run once, and no other. -/
lemma exists_run_evaluateTests (hv : b.altered = .ofVariant v) (hk : v.compiled = some k)
    (hsuccess : k.success = true) (hexecutable : k.executable = some executable)
    (hnodup : tests.Nodup)
    (hknown : ∀ test ∈ tests, (b.cache.bind fun cache => cache.query k.digest test) = known test)
    (hwords : ∀ test ∈ unknown known tests, ∀ port,
      ∃ words, testWords c executable.text k.source.text test port = .ok words)
    (hjudged : ∀ i < (unknown known tests).length,
      (b.machine.reply i).ending.judged = .ok (judged i)) :
    ∃ calls b', (evaluateTests c tests).run b = (.ok (answered known judged tests), b') ∧
      b.machine.Ran calls b'.machine ∧
      TestCalls c executable.text k.source.text b.machine.environment b.port (unknown known tests)
        calls := by
  induction tests generalizing b judged with
  | nil => exact ⟨[], b, rfl, .refl _, .nil⟩
  | cons test tests ih =>
    obtain ⟨hfresh, hnodup⟩ := List.nodup_cons.mp hnodup
    obtain ⟨hquery, hknown⟩ := List.forall_mem_cons.mp hknown
    cases hcases : known test with
    | some passed =>
      rw [unknown_cons_of_known hcases] at hwords hjudged ⊢
      have hfirst := run_evaluateTest_of_known (c := c) hv hk hsuccess hexecutable
        (hquery.trans hcases)
      obtain ⟨calls, b', hrest, hran, hcalls⟩ :=
        ih (b := { b with stats := b.stats.recordCacheHit }) hv hnodup hknown hwords hjudged
      refine ⟨calls, b', ?_, hran, hcalls⟩
      rw [evaluateTests, run_bind_of_ok hfirst, run_bind_of_ok hrest, answered_cons_of_known hcases]
      rfl
    | none =>
      rw [unknown_cons_of_unknown hcases] at hwords hjudged ⊢
      obtain ⟨hfirstWords, hwords⟩ := List.forall_mem_cons.mp hwords
      obtain ⟨words, hfirstWords⟩ := hfirstWords b.port
      obtain ⟨m, hrun, hran⟩ := exists_run_runTest_of_words [] hfirstWords
      rw [hjudged 0 (Nat.succ_pos _)] at hrun
      have hfirst := run_evaluateTest_of_run hv hk hsuccess hexecutable (hquery.trans hcases) hrun
      -- a run changes what the cache knows of its own test only
      have hknown' (test' : Test) (htest' : test' ∈ tests) :
          ((b.cache.map fun cache => cache.afterRun k.digest test (judged 0)).bind
            fun cache => cache.query k.digest test') = known test' := by
        have hne : (k.digest, test') ≠ (k.digest, test) := by
          rintro ⟨⟩
          exact hfresh htest'
        rw [← hknown test' htest', Option.bind_map]
        cases b.cache with
        | none => rfl
        | some cache => exact Cache.query_afterRun_of_ne hne _
      have hjudged' : ∀ i < (unknown known tests).length,
          (m.reply i).ending.judged = .ok (judged (i + 1)) := by
        intro i hi
        rw [hran.reply_eq, List.length_singleton, Nat.add_comm]
        exact hjudged (i + 1) (Nat.succ_lt_succ hi)
      obtain ⟨calls, b', hrest, hran', hcalls⟩ := ih (b := { b with
          machine := m, port := nextPort b.port, stats := b.stats.recordTest (judged 0 == .timeout)
          cache := b.cache.map fun cache => cache.afterRun k.digest test (judged 0) })
        hv hnodup hknown' hwords hjudged'
      refine ⟨_, b', ?_, hran.trans hran', ?_⟩
      · rw [evaluateTests, run_bind_of_ok hfirst, run_bind_of_ok hrest,
          answered_cons_of_unknown hcases]
        rfl
      · dsimp only at hcalls
        rw [hran.environment_eq] at hcalls
        exact .cons hfirstWords hcalls

end Tests

/-! ### A check with nothing in its way -/

/-- What runs when a program compiles: an executable, or the source itself. -/
def madeBy (c : Config) (directory : Place) (exePath source : Path) : Path :=
  if Compilation.producesExecutable c then exePath.resolve directory else source

/-- The record of a compilation whose process was judged. -/
def recorded (text : String) (source made : Path) (judged : Outcome) : Compiled where
  digest := textDigest text
  success := judged == .passed
  source := source
  executable := if judged = .passed then some made else none

section Compile

variable {v : Variant Float} {sourcePath exePath source : Path} {text : String}
  {words : List String} {judged : Outcome}

/-- A process that the system starts tells how a compilation went. -/
lemma told_of_judged {ending : Ending} (h : ending.judged = .ok judged) :
    ending.told = .ok ending := by
  cases ending with
  | failed text => cases h
  | _ => rfl

lemma ofEnding_of_judged (c : Config) (made : Path) {ending : Ending}
    (h : ending.judged = .ok judged) :
    (Compilation.ofEnding c made ending).success = (judged == .passed) ∧
      (Compilation.ofEnding c made ending).executable
        = if judged = .passed then some made else none := by
  cases ending with
  | finished status out err =>
    cases h
    rw [Compilation.ofEnding]
    by_cases hstatus : status = 0
    · rw [if_pos hstatus, if_pos hstatus]
      exact ⟨rfl, rfl⟩
    · rw [if_neg hstatus, if_neg hstatus]
      exact ⟨rfl, rfl⟩
  | timedOut =>
    cases h
    exact ⟨rfl, rfl⟩
  | missing text | denied text =>
    cases h
    exact ⟨rfl, rfl⟩
  | failed text => cases h

/-- Once its source is written, a compilation comes to its end if its command has words and the
system starts the process. -/
lemma exists_run_compileWritten_of_judged (text : String) {made : Path} {content : Content}
    (hv : b.altered = .ofVariant v) (hnul : '\x00' ∉ exePath.text.toList)
    (hmade : madeBy c b.machine.directory exePath source = made)
    (hwords : Compilation.words c source made = .ok words)
    (hfile : Cache.FileAt b.machine source.text content)
    (hjudged : (b.machine.reply 0).ending.judged = .ok judged) :
    ∃ m, (compileWritten c exePath true text source).run b
        = (.ok (judged == .passed), { b with
            machine := m, stats := b.stats.recordCompile (judged == .passed)
            altered := .ofVariant
              { v with compiled := some (recorded text source made judged) } }) ∧
      b.machine.Ran [⟨words, c.compileTimeout, none⟩] m := by
  obtain ⟨m, hstart, hran⟩ := exists_run_start words c.compileTimeout none b.machine
  rw [told_of_judged hjudged] at hstart
  have hcompile : (Compilation.run c source (exePath.resolve b.machine.directory)).run b.machine
      = (.ok (Compilation.ofEnding c made (b.machine.reply 0).ending), m) :=
    run_compilation_of_start hmade hwords hstart
  obtain ⟨hsuccess, hexecutable⟩ := ofEnding_of_judged c made hjudged
  generalize Compilation.ofEnding c made (b.machine.reply 0).ending = result
    at hcompile hsuccess hexecutable
  let b₁ : Bench := { b with
    machine := m, stats := b.stats.recordCompile result.success
    altered := .ofVariant { v with
      compiled := some ⟨textDigest text, result.success, source, result.executable⟩ } }
  obtain ⟨m', hended⟩ := run_compileEnded (b := b₁) rfl true result
    (fileAt_of_run_compilation hfile hcompile)
  have hran' : m.Ran [] m' := by
    have hkept : Preserves (Bench.Within (m.Ran []) (fun _ => True) fun _ => True)
        (compileEnded true source result) :=
      preserves_compileEnded (fun _ => within_onMachine (ran_warn _)) nofun
    exact (hkept.of_run ⟨.refl m, fun _ _ => trivial, trivial⟩ hended).machine
  refine ⟨m', ?_, hran.trans hran'⟩
  rw [run_compileWritten_of_run hv true text (run_resolve hnul _) hcompile, recorded, ← hsuccess,
    ← hexecutable]
  exact hended

lemma ran_writeSource {m : Machine} {calls : List Call} (sourcePath : Path) :
    Preserves (Bench.Within (m.Ran calls) (fun _ => True) fun _ => True)
      (writeSource sourcePath) :=
  .bind (preserves_reading _) fun _ => .bind (preserves_reading _) fun _ =>
    .bind (within_onMachine (preserves_resolve _)) fun _ =>
    .bind (within_onMachine (.bind (ran_needDirectories _) fun _ => ran_writeText _ _))
      fun _ => .pure _

end Compile

/-- What a check needs besides its processes: a variant that has all its parts, whose source can be
written, and words for each command. -/
structure Checkable (c : Config) (b : Bench) where
  variant : Variant Float
  text : String
  source : Path
  written : Bench
  /-- What runs when the program compiles. -/
  executable : Path
  /-- The words of the compile command. -/
  words : List String
  whole : b.altered = .ofVariant variant
  writes : (writeSource ((Path.ofText c.workDir).child ("sanity" ++ variant.suffix))).run b
    = (.ok (text, source), written)
  nul : '\x00' ∉ ((Path.ofText c.workDir).child "sanity").text.toList
  made : madeBy c b.machine.directory ((Path.ofText c.workDir).child "sanity") source = executable
  compiler : Compilation.words c source executable = .ok words
  tests : ∀ test ∈ checkTests c, ∀ port,
    ∃ words, testWords c executable.text source.text test port = .ok words

namespace Checkable

variable (p : Checkable c b) {judged : Nat → Outcome}

/-- What the cache knows of the program, before the check. -/
def known (test : Test) : Option Bool :=
  b.cache.bind fun cache => cache.query (textDigest p.text) test

/-- The outcomes of all tests when the program compiles: the first process is the compiler, and the
processes after it are tests. -/
def outcomes (judged : Nat → Outcome) : List (Test × Outcome) :=
  answered p.known (fun i => judged (i + 1)) (checkTests c)

lemma exists_run_compileOriginal (hjudged : (b.machine.reply 0).ending.judged = .ok (judged 0)) :
    ∃ m, (compileOriginal c).run b = (.ok (judged 0 == .passed), { b with
        machine := m, stats := b.stats.recordCompile (judged 0 == .passed)
        altered := .ofVariant { p.variant with
          compiled := some (recorded p.text p.source p.executable (judged 0)) } }) ∧
      b.machine.Ran [⟨p.words, c.compileTimeout, none⟩] m := by
  have hwritten : p.written = { b with machine := p.written.machine } :=
    (onlyMachine_writeSource _).of_run rfl p.writes
  have hran : b.machine.Ran [] p.written.machine :=
    ((ran_writeSource _).of_run ⟨.refl _, fun _ _ => trivial, trivial⟩ p.writes).machine
  obtain ⟨-, -, -, hfile⟩ := of_run_writeSource p.writes
  obtain ⟨m, hcompile, hran'⟩ := exists_run_compileWritten_of_judged (c := c)
    (b := { b with machine := p.written.machine }) p.text p.whole p.nul
    (by rw [hran.directory_eq]; exact p.made) p.compiler hfile
    (by rw [hran.reply_eq]; exact hjudged)
  refine ⟨m, ?_, hran.trans hran'⟩
  rw [compileOriginal, run_bind_of_ok (run_callable p.whole _),
    run_bind_of_ok (run_provides p.whole _ _)]
  dsimp only
  rw [run_bind_of_ok (run_sourceName p.whole _), compile_eq, run_bind_of_ok p.writes, hwritten]
  exact hcompile

/-- A check with nothing in its way comes to a verdict. It starts the compiler. If this succeeds,
each test whose outcome the cache does not know is run once, in order, and no other test is run. -/
lemma exists_run_sanityCheck (hcompiler : (b.machine.reply 0).ending.judged = .ok (judged 0))
    (htests : ∀ i < (unknown p.known (checkTests c)).length,
      (b.machine.reply (i + 1)).ending.judged = .ok (judged (i + 1))) :
    ∃ calls b', (sanityCheck c).run b = (verdict (judged 0 == .passed) (p.outcomes judged), b') ∧
      b.machine.Ran (⟨p.words, c.compileTimeout, none⟩ :: calls) b'.machine ∧
      TestCalls c p.executable.text p.source.text b.machine.environment b.port
        (if judged 0 = .passed then unknown p.known (checkTests c) else []) calls := by
  obtain ⟨m, hcompile, hran⟩ := p.exists_run_compileOriginal hcompiler
  cases hpassed : judged 0 == Outcome.passed with
  | false =>
    have hne : judged 0 ≠ .passed := by simpa using hpassed
    rw [hpassed] at hcompile
    rw [if_neg hne]
    exact ⟨[], _, run_sanityCheck_of_not_compiled hcompile, hran, .nil⟩
  | true =>
    have heq : judged 0 = .passed := by simpa using hpassed
    rw [hpassed] at hcompile
    rw [if_pos heq]
    rw [heq] at hcompile
    have htests' : ∀ i < (unknown p.known (checkTests c)).length,
        (m.reply i).ending.judged = .ok (judged (i + 1)) := by
      intro i hi
      rw [hran.reply_eq, List.length_singleton, Nat.add_comm]
      exact htests i hi
    obtain ⟨calls, b', hrun, hran', hcalls⟩ := exists_run_evaluateTests (b := { b with
        machine := m, stats := b.stats.recordCompile true
        altered := .ofVariant { p.variant with
          compiled := some (recorded p.text p.source p.executable .passed) } })
      rfl rfl rfl rfl (Test.nodup_all _ _) (fun _ _ => rfl)
      (fun test htest => p.tests test (List.mem_of_mem_filter htest)) htests'
    obtain ⟨out, hverdict⟩ := exists_run_sanityCheck_of_outcomes hcompile hrun
    refine ⟨calls, _, hverdict, ?_, ?_⟩
    · have hran'' := hran.trans hran'
      exact ⟨hran''.calls_eq, hran''.directory_eq, hran''.environment_eq, hran''.reply_eq⟩
    · dsimp only at hcalls
      rw [hran.environment_eq] at hcalls
      exact hcalls

end Checkable

end Work

end VariantRepair
