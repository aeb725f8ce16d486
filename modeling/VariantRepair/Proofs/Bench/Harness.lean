import Mathlib.Tactic.Common
import VariantRepair.Bench.Test
import VariantRepair.Proofs.Bench.Blind
import VariantRepair.Proofs.Cache.Stored
import VariantRepair.Proofs.Host.Kept
import VariantRepair.Proofs.Test.Name
import VariantRepair.Proofs.Variant.History

/-!
# Evaluating tests, one by one and in sessions

What the evaluation of a test does with the cache, and what many evaluations do that share one.
-/

/-!
## Evaluating a test

A test of a compiled program is answered by the cache if it knows the outcome, and else by the
harness, which starts one process. What the harness says is put into the cache unless it is a
timeout. All other work leaves the cache as it is.
-/

namespace VariantRepair

variable {α β : Type}

/-- What a test comes to is known from how its process ended; at most a line is printed. -/
lemma Work.preserves_outcomeOf {J : Host.Machine → Prop}
    (hwarn : ∀ line, Preserves J (Host.warn line)) (test : Test) (e : Host.Ending) :
    Preserves J (Work.outcomeOf test e) := by
  cases e with
  | finished status out err => exact .pure _
  | timedOut => exact .pure _
  | _ => exact .bind (hwarn _) fun _ => .pure _

namespace Host

/-! ### Actions that start no process -/

/-- An action that starts no process. -/
def KeepsCalls (a : Action α) : Prop :=
  ∀ m, (a.run m).2.calls = m.calls

namespace KeepsCalls

lemma pure (a : α) : KeepsCalls (pure a) := fun _ => rfl

lemma calls_bind {f : α → Action β} (hf : ∀ x, KeepsCalls (f x)) (a : Action α) (m : Machine) :
    ((a >>= f).run m).2.calls = (a.run m).2.calls :=
  Preserves.run_bind (I := (·.calls = (a.run m).2.calls)) rfl fun x m' h => (hf x m').trans h

lemma outcomeOf (test : Test) (e : Ending) : KeepsCalls (Work.outcomeOf test e) := fun m =>
  Work.preserves_outcomeOf (J := (·.calls = m.calls)) (fun _ => .modify fun _ h => h) test e m rfl

end KeepsCalls

/-- Starting a process starts that process. -/
lemma calls_start (words : List String) (seconds : Float)
    (environment : Option Config.Environment) (m : Machine) :
    ((start words seconds environment).run m).2.calls
      = m.calls ++ [⟨words, seconds, environment⟩] := by
  have hstarted : m.Started (· = [⟨words, seconds, environment⟩])
      ((start words seconds environment).run m).2 :=
    started_run_start (P := (· = [])) (.refl rfl) fun _ h => congrArg (· ++ [_]) h
  obtain ⟨calls, hcalls, rfl⟩ := hstarted.calls
  exact hcalls

end Host

namespace Work

/-! ### The harness -/

section RunTest

variable {c : Config} {executable source : String} {test : Test} {extra : List (String × String)}
  {b : Bench}

lemma run_runTest :
    (runTest c executable source test extra).run b
      = match testWords c executable source test b.port with
        | .error e => (.error e, b)
        | .ok argv => (onMachine do
            outcomeOf test (← Host.start argv c.testTimeout
              (some (withVariables b.machine.environment extra)))).run
            { b with port := nextPort b.port } := by
  have hget : (get : Work Bench).run b = (.ok b, b) := rfl
  rw [runTest, run_bind_of_ok hget]
  cases testWords c executable source test b.port <;> rfl

/-- A run of a test that has an outcome starts one process, takes a port, and leaves the rest of the
bench alone. -/
lemma run_runTest_of_ok {o : Outcome}
    (h : ((runTest c executable source test extra).run b).1 = .ok o) :
    ∃ words m, testWords c executable source test b.port = .ok words ∧
      (runTest c executable source test extra).run b
        = (.ok o, { b with machine := m, port := nextPort b.port }) ∧
      m.calls = b.machine.calls
        ++ [⟨words, c.testTimeout, some (withVariables b.machine.environment extra)⟩] := by
  rw [run_runTest] at h ⊢
  cases hwords : testWords c executable source test b.port with
  | error e =>
    rw [hwords] at h
    cases h
  | ok argv =>
    rw [hwords] at h
    dsimp only at h ⊢
    rw [run_onMachine] at h ⊢
    refine ⟨argv, _, rfl, Prod.ext h rfl, ?_⟩
    rw [Host.KeepsCalls.calls_bind (fun e => .outcomeOf test e), Host.calls_start]

/-- A test that was run has a name that can be written. -/
lemma isReadable_of_testWords {words : List String} {port : Int}
    (h : testWords c executable source test port = .ok words) : test.IsReadable := by
  cases hwritten : test.written with
  | ok name => exact Test.isReadable_of_written hwritten
  | error f =>
    rw [testWords, hwritten] at h
    cases h

/-- A run of a test that fails leaves all but the machine and the port alone. -/
lemma run_runTest_of_error {f : Failure}
    (h : ((runTest c executable source test extra).run b).1 = .error f) :
    ∃ m port, (runTest c executable source test extra).run b
      = (.error f, { b with machine := m, port }) := by
  rw [run_runTest] at h ⊢
  cases hwords : testWords c executable source test b.port with
  | error e =>
    rw [hwords] at h
    cases h
    exact ⟨b.machine, b.port, rfl⟩
  | ok argv =>
    rw [hwords] at h
    dsimp only at h ⊢
    rw [run_onMachine] at h ⊢
    exact ⟨_, _, Prod.ext h rfl⟩

end RunTest

end Work

/-- The cache after a run of a test: the run is noted, and so is its outcome unless it is a
timeout. -/
def Cache.afterRun (cache : Cache) (digest : String) (test : Test) (o : Outcome) : Cache :=
  if o = .timeout then cache.recordEvaluation digest test
  else (cache.recordEvaluation digest test).add digest test (o == .passed)

lemma Cache.query_afterRun_of_ne {cache : Cache} {digest digest' : String} {test test' : Test}
    (h : (digest', test') ≠ (digest, test)) (o : Outcome) :
    (cache.afterRun digest test o).query digest' test' = cache.query digest' test' := by
  rw [afterRun]
  split_ifs
  · rw [query_recordEvaluation]
  · rw [query_add, query_recordEvaluation]
    split_ifs with hkey
    · exact absurd hkey h
    · rfl

namespace Work

/-! ### Tests of compiled programs -/

section Evaluate

variable {c : Config} {test : Test} {b : Bench} {v : Variant Float} {k : Compiled}
  (hv : b.altered = .ofVariant v)

include hv

lemma run_callable (operation : String) :
    (reading (·.callable operation)).run b = (.ok (), b) := by
  rw [run_reading, hv]
  rfl

lemma run_provides (part asked : String) :
    (reading (·.provides part asked)).run b = (.ok (), b) := by
  rw [run_reading, hv]
  rfl

lemma run_name : (reading (·.name)).run b = (.ok v.name, b) := by
  rw [run_reading, hv]
  rfl

lemma run_variant : variant.run b = (.ok v, b) := by
  have hrun : variant.run b = (.ok b.altered.variant, b) := rfl
  rw [hrun, hv]
  rfl

lemma run_ownCache (asked : String) : (ownCache asked).run b = (.ok b.cache, b) := by
  have hpart : b.altered.part? "cache" = none := by
    rw [hv]
    rfl
  have hget : (get : Work Bench).run b = (.ok b, b) := rfl
  rw [ownCache, run_bind_of_ok hget, hpart]
  rfl

/-- A variant that has not been compiled has no outcomes. -/
lemma run_evaluateTest_of_none (hk : v.compiled = none) :
    (evaluateTest c test).run b = (.error (.notCompiled v.name), b) := by
  rw [evaluateTest, run_bind_of_ok (run_callable hv _), run_bind_of_ok (run_variant hv), hk]
  dsimp only
  rw [run_bind_of_ok (run_name hv)]
  rfl

/-- A test of what could not be compiled fails. -/
lemma run_evaluateTest_of_unsuccessful (hk : v.compiled = some k)
    (hfailed : k.success = false ∨ k.executable = none) :
    (evaluateTest c test).run b = (.ok .failed, b) := by
  rw [evaluateTest, run_bind_of_ok (run_callable hv _), run_bind_of_ok (run_variant hv), hk]
  rcases hfailed with hfailed | hfailed
  · simp only [hfailed]
    rfl
  · simp only [hfailed]
    cases k.success <;> rfl

section Success

variable {executable : Path} (hk : v.compiled = some k) (hsuccess : k.success = true)
  (hexecutable : k.executable = some executable)

include hk hsuccess hexecutable

/-- An outcome that the cache knows is taken from it. -/
lemma run_evaluateTest_of_known {passed : Bool}
    (hknown : (b.cache.bind fun cache => cache.query k.digest test) = some passed) :
    (evaluateTest c test).run b
      = (.ok (outcomeOfStored passed), { b with stats := b.stats.recordCacheHit }) := by
  rw [evaluateTest, run_bind_of_ok (run_callable hv _), run_bind_of_ok (run_variant hv), hk]
  simp only [hsuccess, hexecutable]
  rw [run_bind_of_ok (run_ownCache hv _), hknown]
  dsimp only
  rw [run_bind_of_ok (run_provides hv _ _)]
  rfl

/-- A run of a test that the cache does not know is counted, and goes into the cache. -/
lemma run_evaluateTest_of_run {o : Outcome} {m : Host.Machine}
    (hunknown : (b.cache.bind fun cache => cache.query k.digest test) = none)
    (hrun : (runTest c executable.text k.source.text test []).run b
      = (.ok o, { b with machine := m, port := nextPort b.port })) :
    (evaluateTest c test).run b = (.ok o, { b with
      machine := m, port := nextPort b.port, stats := b.stats.recordTest (o == .timeout)
      cache := b.cache.map fun cache => cache.afterRun k.digest test o }) := by
  rw [evaluateTest, run_bind_of_ok (run_callable hv _), run_bind_of_ok (run_variant hv), hk]
  simp only [hsuccess, hexecutable]
  rw [run_bind_of_ok (run_ownCache hv _), hunknown]
  dsimp only
  let b' : Bench := { b with machine := m, port := nextPort b.port }
  have hstats : (reading (·.provides "stats" "record_test")).run b' = (.ok (), b') :=
    run_provides (b := b') hv _ _
  rw [freshOutcome, run_bind_of_ok (run_provides hv _ _), run_bind_of_ok hrun,
    run_bind_of_ok hstats]
  obtain ⟨machine, cache, stats, port, altered⟩ := b
  cases cache with
  | none => rfl
  | some cache => cases o <;> rfl

/-- An outcome that the cache does not know comes from the harness. -/
lemma run_evaluateTest_of_unknown {o : Outcome}
    (hunknown : (b.cache.bind fun cache => cache.query k.digest test) = none)
    (hrun : ((runTest c executable.text k.source.text test []).run b).1 = .ok o) :
    ∃ words m, testWords c executable.text k.source.text test b.port = .ok words ∧
      (evaluateTest c test).run b = (.ok o, { b with
        machine := m, port := nextPort b.port, stats := b.stats.recordTest (o == .timeout)
        cache := b.cache.map fun cache => cache.afterRun k.digest test o }) ∧
      m.calls = b.machine.calls ++ [⟨words, c.testTimeout, some b.machine.environment⟩] := by
  obtain ⟨words, m, hwords, hrun, hcalls⟩ := run_runTest_of_ok hrun
  exact ⟨words, m, hwords, run_evaluateTest_of_run hv hk hsuccess hexecutable hunknown hrun, hcalls⟩

/-- When the harness fails, nothing but the machine and the port has changed. -/
lemma run_evaluateTest_of_error {f : Failure}
    (hunknown : (b.cache.bind fun cache => cache.query k.digest test) = none)
    (hrun : ((runTest c executable.text k.source.text test []).run b).1 = .error f) :
    ∃ m port, (evaluateTest c test).run b = (.error f, { b with machine := m, port }) := by
  obtain ⟨m, port, hrest⟩ := run_runTest_of_error hrun
  refine ⟨m, port, ?_⟩
  rw [evaluateTest, run_bind_of_ok (run_callable hv _), run_bind_of_ok (run_variant hv), hk]
  simp only [hsuccess, hexecutable]
  rw [run_bind_of_ok (run_ownCache hv _), hunknown]
  dsimp only
  rw [freshOutcome, run_bind_of_ok (run_provides hv _ _), run_bind_of_error hrest]

end Success

/-- What a test of a variant comes to: what it answers, and what it leaves on the bench. -/
inductive Tests (c : Config) (test : Test) (v : Variant Float) (b : Bench) :
    Except Failure Outcome → Bench → Prop
  | notCompiled (hk : v.compiled = none) : Tests c test v b (.error (.notCompiled v.name)) b
  | unsuccessful {k : Compiled} (hk : v.compiled = some k)
      (hfailed : k.success = false ∨ k.executable = none) : Tests c test v b (.ok .failed) b
  | known {k : Compiled} {executable : Path} {passed : Bool} (hk : v.compiled = some k)
      (hsuccess : k.success = true) (hexecutable : k.executable = some executable)
      (hknown : (b.cache.bind fun cache => cache.query k.digest test) = some passed) :
      Tests c test v b (.ok (outcomeOfStored passed)) { b with stats := b.stats.recordCacheHit }
  | broken {k : Compiled} {executable : Path} {f : Failure} {m : Host.Machine} {port : Int}
      (hk : v.compiled = some k) (hsuccess : k.success = true)
      (hexecutable : k.executable = some executable)
      (hunknown : (b.cache.bind fun cache => cache.query k.digest test) = none) :
      Tests c test v b (.error f) { b with machine := m, port }
  | ran {k : Compiled} {executable : Path} {words : List String} {o : Outcome}
      {m : Host.Machine} (hk : v.compiled = some k) (hsuccess : k.success = true)
      (hexecutable : k.executable = some executable)
      (hunknown : (b.cache.bind fun cache => cache.query k.digest test) = none)
      (hwords : testWords c executable.text k.source.text test b.port = .ok words)
      (hcalls : m.calls
        = b.machine.calls ++ [⟨words, c.testTimeout, some b.machine.environment⟩]) :
      Tests c test v b (.ok o) { b with
        machine := m, port := nextPort b.port, stats := b.stats.recordTest (o == .timeout)
        cache := b.cache.map fun cache => cache.afterRun k.digest test o }

/-- A test of a variant comes to one of these. -/
lemma tests_run : Tests c test v b ((evaluateTest c test).run b).1
    ((evaluateTest c test).run b).2 := by
  cases hk : v.compiled with
  | none =>
    rw [run_evaluateTest_of_none hv hk]
    exact .notCompiled hk
  | some k =>
    by_cases hfailed : k.success = false ∨ k.executable = none
    · rw [run_evaluateTest_of_unsuccessful hv hk hfailed]
      exact .unsuccessful hk hfailed
    · obtain ⟨hsuccess, hexecutable⟩ := not_or.mp hfailed
      have hsuccess : k.success = true := by simpa using hsuccess
      obtain ⟨executable, hexecutable⟩ := Option.ne_none_iff_exists'.mp hexecutable
      cases hquery : b.cache.bind fun cache => cache.query k.digest test with
      | some passed =>
        rw [run_evaluateTest_of_known hv hk hsuccess hexecutable hquery]
        exact .known hk hsuccess hexecutable hquery
      | none =>
        cases hrun : ((runTest c executable.text k.source.text test []).run b).1 with
        | error f =>
          obtain ⟨m, port, hevaluate⟩ :=
            run_evaluateTest_of_error hv hk hsuccess hexecutable hquery hrun
          rw [hevaluate]
          exact .broken hk hsuccess hexecutable hquery
        | ok o =>
          obtain ⟨words, m, hwords, hevaluate, hcalls⟩ :=
            run_evaluateTest_of_unknown hv hk hsuccess hexecutable hquery hrun
          rw [hevaluate]
          exact .ran hk hsuccess hexecutable hquery hwords hcalls

end Evaluate

end Work

end VariantRepair

/-!
## Sessions

Several variants are edited, copied, compiled and tested in any order. They share the cache, the
counters and the ports; what happens outside, the machine that a step finds, is given with the step.
-/

namespace VariantRepair

variable {α : Type}

/-- Variants that are worked on in turn, and what they share. -/
structure Session where
  machine : Host.Machine
  cache : Option Cache
  stats : Stats
  port : Int
  variants : List (Variant Float)

/-- A step of a session; variants go by their positions. -/
inductive Step where
  | attempt (i : Nat) (t : Attempt)
  /-- A copy joins the variants at the end. -/
  | copy (i : Nat)
  | compile (i : Nat) (source exe : Path) (keepSource : Bool)
  | test (i : Nat) (t : Test)

/-- What comes back from a step. -/
inductive Answer where
  /-- There is no variant at the position. -/
  | missing
  | edited (r : Except Failure Unit)
  | copied
  | compiled (r : Except Failure Bool)
  | tested (r : Except Failure Outcome)

namespace Session

/-- The session when it finds a machine. -/
def on (s : Session) (m : Host.Machine) : Session :=
  { s with machine := m }

/-- The bench with a variant on it. -/
def bench (s : Session) (v : Variant Float) : Bench :=
  { machine := s.machine, cache := s.cache, stats := s.stats, port := s.port
    altered := .ofVariant v }

/-- The session that work on the `i`-th variant leaves. -/
def leave (s : Session) (i : Nat) (b : Bench) : Session :=
  { machine := b.machine, cache := b.cache, stats := b.stats, port := b.port
    variants := s.variants.set i b.altered.variant }

/-- Work on the `i`-th variant. -/
def work (s : Session) (i : Nat) (w : Work α) (answer : Except Failure α → Answer) :
    Answer × Session :=
  match s.variants[i]? with
  | none => (.missing, s)
  | some v => (answer (w.run (s.bench v)).1, s.leave i (w.run (s.bench v)).2)

/-- The record of the last compilation of the `i`-th variant. -/
def compiled? (s : Session) (i : Nat) : Option Compiled :=
  s.variants[i]?.bind (·.compiled)

end Session

/-- Take a step. -/
def Step.take (c : Config) (s : Session) : Step → Answer × Session
  | .attempt i t => s.work i (Work.alter (t.make c.untouchedWeight)) .edited
  | .copy i =>
    match s.variants[i]? with
    | none => (.missing, s)
    | some v => (.copied, { s with variants := s.variants ++ [v] })
  | .compile i source exe keepSource => s.work i (Work.compile c source exe keepSource) .compiled
  | .test i t => s.work i (Work.evaluateTest c t) .tested

/-- The test runs of a step: the program and the test, once for each process that was started. -/
def Step.testRuns (before after : Session) : Step → List CacheKey
  | .test i t =>
    match before.compiled? i with
    | some k =>
      List.replicate (after.machine.calls.length - before.machine.calls.length) (k.digest, t)
    | none => []
  | _ => []

/-- Steps, each with the machine that it finds. -/
abbrev Timeline := List (Host.Machine × Step)

namespace Session

/-- Take steps in turn. -/
def run (c : Config) : Session → Timeline → List Answer × Session
  | s, [] => ([], s)
  | s, (m, step) :: rest =>
    let (answer, s) := step.take c (s.on m)
    let (answers, s) := run c s rest
    (answer :: answers, s)

/-- The test runs of all steps, in order. -/
def testRuns (c : Config) : Session → Timeline → List CacheKey
  | _, [] => []
  | s, (m, step) :: rest =>
    let after := (step.take c (s.on m)).2
    step.testRuns (s.on m) after ++ testRuns c after rest

end Session

end VariantRepair
