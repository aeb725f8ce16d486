import Mathlib.Tactic.Common
import VariantRepair.Proofs.Bench.Sanity
import VariantRepair.Proofs.CommandLine.Archived

/-!
# Runs that check their program

A run may be asked to check its program before it makes edits. Unless the check succeeds, such a run
does nothing that comes after it: no variant is evaluated, and none is archived.
-/

namespace VariantRepair

open Host

namespace CommandLine

open Work

variable {o : Options} {c : Config} {m m' : Machine} {b b' : Bench}

/-- Load the program and check it. -/
def loadAndCheck (o : Options) (c : Config) : Work Unit := do
  loadProgram c (nonempty o.loadSnapshot)
  sanityCheck c

/-- A run that loads its program and checks it, and then only writes the cache. -/
def checkOnly (o : Options) : Action Unit := do
  let c ← CommandLine.resolve o
  let bench ← setUp o c
  let (r, bench) := (thenClose (loadAndCheck o c)).run bench
  set bench.machine
  ofExcept r

/-- A run comes to the check of its program, and the check succeeds. -/
def ChecksWell (o : Options) (m : Machine) : Prop :=
  ∃ c resolved start checked, (CommandLine.resolve o).run m = (.ok c, resolved) ∧
    (setUp o c).run resolved = (.ok start, start.machine) ∧
    (loadAndCheck o c).run start = (.ok (), checked)

/-! ### Nothing after a check that fails -/

/-- Work that is asked to check its program begins with that. -/
lemma process_eq_of_sanity (h : o.sanity = .value true) :
    process o c = (do loadAndCheck o c; weigh o c; snapshot o; repair o c) := by
  simp only [process_eq, afterLoading_eq, prepare_eq, check, loadAndCheck, h, if_true, bind_assoc]

/-- The work of a run with a check that fails is the check, before the cache is written and after
that. -/
lemma run_thenClose_process {f : Failure} (hsanity : o.sanity = .value true)
    (h : (loadAndCheck o c).run b = (.error f, b')) :
    ∃ f' b'', (thenClose (process o c)).run b = (.error f', b'') ∧
      (thenClose (loadAndCheck o c)).run b = (.error f', b'') := by
  have hprocess : (process o c).run b = (.error f, b') := by
    rw [process_eq_of_sanity hsanity, run_bind_of_error h]
  obtain ⟨f', b'', hfailed, hclosed⟩ := exists_run_thenClose_of_error hprocess
  obtain ⟨f₁, b₁, hfailed', hclosed'⟩ := exists_run_thenClose_of_error h
  rw [hfailed] at hfailed'
  cases hfailed'
  exact ⟨f', b'', hclosed, hclosed'⟩

/-- Unless its check succeeds, a run is nothing but its check, and fails. -/
lemma run_eq_checkOnly (hsanity : o.sanity = .value true) (hfails : ¬ ChecksWell o m) :
    (run o).run m = (checkOnly o).run m ∧ ∃ f, ((run o).run m).1 = .error f := by
  rw [run_eq, checkOnly]
  cases hresolve : (CommandLine.resolve o).run m with
  | mk r m₁ =>
    cases r with
    | error f =>
      rw [run_bind_of_error hresolve, run_bind_of_error hresolve]
      exact ⟨rfl, f, rfl⟩
    | ok c =>
      rw [run_bind_of_ok hresolve, run_bind_of_ok hresolve, runWith_eq]
      cases hsetUp : (setUp o c).run m₁ with
      | mk r m₂ =>
        cases r with
        | error f =>
          rw [run_bind_of_error hsetUp, run_bind_of_error hsetUp]
          exact ⟨rfl, f, rfl⟩
        | ok start =>
          rw [run_bind_of_ok hsetUp, run_bind_of_ok hsetUp]
          obtain rfl := machine_of_run_setUp hsetUp
          cases hcheck : (loadAndCheck o c).run start with
          | mk r checked =>
            cases r with
            -- here the check has succeeded, which `hfails` excludes
            | ok u => exact absurd ⟨c, m₁, start, checked, hresolve, hsetUp, hcheck⟩ hfails
            | error f =>
              obtain ⟨f', closed, hprocess, hchecked⟩ := run_thenClose_process hsanity hcheck
              rw [hprocess, hchecked]
              exact ⟨rfl, f', rfl⟩

/-- The check of a program fails with a finding exactly when the program does not compile, or it
compiles, each test has an outcome, and some outcome is not as the polarity of its test says; then
the finding names all tests of this kind, with their outcomes.

If nothing but processes can stand in the way of a check, and the system starts them, the check
comes to such a verdict. It starts the compiler, and if this succeeds, one process for each test
whose outcome the cache does not know, in order, however the tests before it have ended.

A run that is asked to check its program does nothing after the check unless this succeeds. -/
theorem sanity_check_decides (c : Config) (b : Bench) (o : Options) (m : Machine) :
    (∀ reason failures b', (sanityCheck c).run b
        = (.error (.repair (.sanityCheck reason failures)), b') ↔
      Rejects c b reason failures b') ∧
    (∀ (p : Checkable c b) (judged : Nat → Outcome),
      (∀ i ≤ (unknown p.known (checkTests c)).length,
        (b.machine.reply i).ending.judged = .ok (judged i)) →
      (p.outcomes judged).map Prod.fst = checkTests c ∧
      ∃ calls b', (sanityCheck c).run b = (verdict (judged 0 == .passed) (p.outcomes judged), b') ∧
        b.machine.Ran (⟨p.words, c.compileTimeout, none⟩ :: calls) b'.machine ∧
        TestCalls c p.executable.text p.source.text b.machine.environment b.port
          (if judged 0 = .passed then unknown p.known (checkTests c) else []) calls) ∧
    (o.sanity = .value true → ¬ ChecksWell o m →
      (run o).run m = (checkOnly o).run m ∧ ∃ f, ((run o).run m).1 = .error f) :=
  ⟨fun _ _ _ => run_sanityCheck_eq_error_iff,
    fun p _ hjudged => ⟨map_fst_answered, p.exists_run_sanityCheck (hjudged 0 (Nat.zero_le _))
      fun i hi => hjudged (i + 1) hi⟩,
    run_eq_checkOnly⟩

namespace OneLine

/-- The line is compiled for its check. -/
lemma compiles_check (out : String) : Compiles config { machine with out := out }
    ((Path.ofText config.workDir).child "sanity") ((Path.ofText config.workDir).child "sanity")
    (.ofText "/repair_work/sanity") ["repair_work", "sanity"] ["c"] := by
  have hparent : machine.files.find [] (Path.ofText "/repair_work/sanity").parent.text
      = .ok (["repair_work"], .directory) :=
    FileTree.find_eq_ok_iff.mpr ⟨by decide +kernel, rfl⟩
  have hlocate : machine.files.locate [] (Path.ofText "/repair_work/sanity").text
      = .ok ["repair_work", "sanity"] := by
    decide +kernel
  have hresolve : ((Path.ofText config.workDir).child "sanity").resolve []
      = .ofText "/repair_work/sanity" := by
    decide
  exact ⟨by decide, by decide, hresolve, by decide, ⟨_, hparent⟩,
    ⟨none, by decide, hlocate, rfl, fun _ => rfl⟩, by decide, ⟨_, _, rfl⟩⟩

/-- Nothing stands in the way of a check of the line. -/
def checkable (out : String) : Checkable config (bench loaded out) where
  variant := loaded
  text := "a\n"
  source := .ofText "/repair_work/sanity"
  written := { bench loaded out with machine := { (bench loaded out).machine with
    files := machine.files.set ["repair_work", "sanity"] (.file (.ofText "a\n")) } }
  executable := .ofText "/repair_work/sanity"
  words := ["c"]
  whole := rfl
  writes := run_writeSource_of_compiles rfl rfl (compiles_check out)
  nul := by decide
  made := by
    change madeBy config [] _ _ = _
    decide
  compiler := by decide
  tests test htest _ :=
    ⟨["t"], testWords_of_plain (by decide) (by decide) (isReadable_of_mem htest)⟩

end OneLine

/-- Where every process succeeds, a negative test passes as well, and the check of the line says so.
The line is not archived. -/
theorem sanity_check_decides_line :
    ∃ (c : Config) (b : Bench) (o : Options) (m : Machine) (p : Checkable c b),
      (∀ i ≤ (unknown p.known (checkTests c)).length,
        (b.machine.reply i).ending.judged = .ok .passed) ∧
      (∃ b', (sanityCheck c).run b = (.error (.repair (.sanityCheck
        "original program does not match the test oracle" ["n1:passed"])), b')) ∧
      nonempty o.archive = some "a" ∧ o.sanity = .value true ∧ ¬ ChecksWell o m ∧
      (run o).run m = (checkOnly o).run m ∧ ∃ f, ((run o).run m).1 = .error f := by
  let o : Options := { OneLine.options "a" with sanity := .value true }
  obtain ⟨out, hload⟩ := OneLine.run_loadProgram
  let p := OneLine.checkable out
  have hjudged : ∀ i ≤ (unknown p.known (checkTests OneLine.config)).length,
      ((OneLine.bench OneLine.loaded out).machine.reply i).ending.judged = .ok .passed :=
    fun _ _ => rfl
  have hmismatches : mismatches (p.outcomes fun _ => .passed) = ["n1:passed"] := by
    change mismatches (answered (fun _ => none) (fun _ => .passed) (Test.all 5 1)) = _
    decide +kernel
  obtain ⟨-, hcheck, -⟩ := sanity_check_decides OneLine.config (OneLine.bench OneLine.loaded out) o
    OneLine.machine
  obtain ⟨-, calls, b', hverdict, -⟩ := hcheck p (fun _ => .passed) hjudged
  rw [verdict, hmismatches] at hverdict
  have hfails : ¬ ChecksWell o OneLine.machine := by
    rintro ⟨c, resolved, start, checked, hresolve, hsetUp, hchecked⟩
    obtain ⟨rfl, rfl⟩ := eq_of_run_eq_ok (@OneLine.run_resolve_options "a") hresolve
    obtain ⟨rfl, -⟩ := eq_of_run_eq_ok (@OneLine.run_setUp "a") hsetUp
    have hrejected : (loadAndCheck o OneLine.config).run (OneLine.bench (.empty .lines) "")
        = (.error (.repair (.sanityCheck "original program does not match the test oracle"
          ["n1:passed"])), b') :=
      (run_bind_of_ok hload _).trans hverdict
    rw [hrejected] at hchecked
    cases hchecked
  obtain ⟨-, -, hgate⟩ := sanity_check_decides OneLine.config (OneLine.bench OneLine.loaded out) o
    OneLine.machine
  exact ⟨_, _, o, OneLine.machine, p, hjudged, ⟨b', hverdict⟩, rfl, rfl, hfails, hgate rfl hfails⟩

end CommandLine

end VariantRepair
