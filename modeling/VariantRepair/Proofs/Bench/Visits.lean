import Mathlib.Logic.Function.Iterate
import Mathlib.Tactic.Common
import VariantRepair.Proofs.Bench.Evaluated
import VariantRepair.Proofs.Bench.WorkFiles
import VariantRepair.Proofs.Host.Coverage

/-!
# The atoms that tests visit

All tests leave their coverage at one path. Before each of them the file there is deleted, so what
is read after a test is what that test has left, whatever an earlier one or an earlier run left. The
tests of one kind together visit the numbers in the texts that they leave.
-/

namespace VariantRepair

open Host

namespace Work

variable {c : Config} {b b' : Bench} {v : Variant Float} {tests : List Test}

/-! ### One test -/

section Visits

variable {executable source coverage : String} {test : Test} {place : Place}

/-- Run a test and read which atoms it has visited. -/
def visit (c : Config) (executable source coverage : String) (test : Test) :
    Work (Test × List Int) := do
  onMachine (deleteFile coverage)
  reading (·.provides "harness" "run")
  let _ ← runTest c executable source test [(Program.coverageVariable, coverage)]
  let visited ← onMachine (readCoverage coverage)
  return (test, visited)

lemma visits_cons (c : Config) (executable source coverage : String) (test : Test)
    (tests : List Test) :
    visits c executable source coverage (test :: tests) = (do
      let v ← visit c executable source coverage test
      return v :: (← visits c executable source coverage tests)) := by
  simp only [visits, visit, bind_assoc, pure_bind]

/-- Can a test be run? Its command has to have words, and the system has to start it. -/
structure Runs (c : Config) (executable source : String) (test : Test) (port : Int)
    (reply : Reply) : Prop where
  words : ∃ words, testWords c executable source test port = .ok words
  started : ∀ text, reply.ending ≠ .failed text

/-- The numbers in the text that a process leaves. -/
def covered (reply : Reply) : List Int :=
  reply.coverage.elim [] coveredAtoms

/-- A bench before and after a test: the coverage file can be written as before, the test has taken
a port, and the process of the next test is the next one. -/
structure Tested (coverage : String) (place : Place) (b b' : Bench) : Prop where
  writable : Writable b'.machine coverage place
  altered_eq : b'.altered = b.altered
  port_eq : b'.port = nextPort b.port
  reply_eq : ∀ k, b'.machine.reply k = b.machine.reply (k + 1)

/-- The outcome of a test changes nothing but what was printed. -/
lemma exists_run_outcomeOf (test : Test) (e : Ending) (m : Machine) :
    ∃ o err, (outcomeOf test e).run m = (.ok o, { m with err }) := by
  cases e with
  | finished status out err =>
    by_cases hstatus : status = 0
    · exact ⟨_, m.err, rfl⟩
    · exact ⟨_, m.err, rfl⟩
  | timedOut => exact ⟨_, m.err, rfl⟩
  | _ => exact ⟨_, _, rfl⟩

/-- A test whose command has words has an outcome if the system starts it, and leaves its coverage
text, if it has any, where nothing was. -/
lemma exists_run_runTest {words : List String} (hwritable : Writable b.machine coverage place)
    (hnone : b.machine.files.get? place = none)
    (hwords : testWords c executable source test b.port = .ok words) :
    ∃ r m, (runTest c executable source test [(Program.coverageVariable, coverage)]).run b
        = (r, { b with machine := m, port := nextPort b.port }) ∧
      b.machine.Left m coverage place ∧
      ((∃ o, r = .ok o) ↔ ∀ text, (b.machine.reply 0).ending ≠ .failed text) := by
  obtain ⟨m, hstart, hleft⟩ := hwritable.exists_run_start hnone
    (lookup_withVariables b.machine.environment _ _) words c.testTimeout
  rw [run_runTest, hwords]
  dsimp only
  rw [run_onMachine, ← Ending.isOk_told_iff]
  cases htold : (b.machine.reply 0).ending.told with
  | error f =>
    rw [htold] at hstart
    rw [run_bind_of_error hstart]
    exact ⟨_, m, rfl, hleft, by simp⟩
  | ok e =>
    rw [htold] at hstart
    obtain ⟨o, err, houtcome⟩ := exists_run_outcomeOf test e m
    rw [run_bind_of_ok hstart, houtcome]
    have hwritable := hleft.writable
    exact ⟨_, { m with err }, rfl,
      ⟨⟨hwritable.nul, hwritable.locate, hwritable.not_directory, hwritable.parent⟩,
        hleft.get?, hleft.reply_eq⟩, by simp⟩

section Visit

variable (hwritable : Writable b.machine coverage place)

include hwritable

/-- A test that can be run visits the numbers in the text that it leaves. -/
lemma exists_run_visit (hv : b.altered = .ofVariant v)
    (h : Runs c executable source test b.port (b.machine.reply 0)) :
    ∃ b', (visit c executable source coverage test).run b
        = (.ok (test, covered (b.machine.reply 0)), b') ∧
      Tested coverage place b b' := by
  obtain ⟨t, hdelete, hcleared, hnone⟩ := hwritable.exists_run_deleteFile
  obtain ⟨words, hwords⟩ := h.words
  let b₁ : Bench := { b with machine := { b.machine with files := t } }
  have hprovides : (reading (·.provides "harness" "run")).run b₁ = (.ok (), b₁) :=
    run_provides (b := b₁) hv _ _
  obtain ⟨r, m, hrun, hleft, hok⟩ := exists_run_runTest (b := b₁) hcleared hnone hwords
  obtain ⟨o, rfl⟩ := hok.mpr h.started
  let b₂ : Bench := { b with machine := m, port := nextPort b.port }
  have hread : (onMachine (readCoverage coverage)).run b₂
      = (.ok (covered (b.machine.reply 0)), b₂) :=
    run_onMachine_of_ok (hleft.writable.run_readCoverage hleft.get?)
  refine ⟨b₂, ?_, hleft.writable, rfl, rfl, hleft.reply_eq⟩
  rw [visit, run_bind_of_ok (run_onMachine_of_ok hdelete), run_bind_of_ok hprovides,
    run_bind_of_ok hrun, run_bind_of_ok hread]
  rfl

/-- A test that has visited some atoms can be run. -/
lemma runs_of_run_visit {p : Test × List Int}
    (h : (visit c executable source coverage test).run b = (.ok p, b')) :
    Runs c executable source test b.port (b.machine.reply 0) := by
  obtain ⟨t, hdelete, hcleared, hnone⟩ := hwritable.exists_run_deleteFile
  rw [visit, run_bind_of_ok (run_onMachine_of_ok hdelete)] at h
  obtain ⟨⟨⟩, -, h⟩ := of_run_reading_bind h
  obtain ⟨o, b₂, hrun, -⟩ := exists_run_of_run_bind h
  obtain ⟨words, -, hwords, -⟩ := run_runTest_of_ok (congrArg Prod.fst hrun)
  obtain ⟨r, m, hrun', -, hok⟩ := exists_run_runTest hcleared hnone hwords
  refine ⟨⟨words, hwords⟩, hok.mp ⟨o, ?_⟩⟩
  exact (congrArg Prod.fst (hrun'.symm.trans hrun))

end Visit

/-! ### All tests -/

/-- Tests with what their processes leave, in order. -/
def visitsOf (m : Machine) (tests : List Test) : List (Test × List Int) :=
  tests.mapIdx fun k test => (test, covered (m.reply k))

/-- Can tests be run in order? Each has a port and a process of its own. -/
def RunsAll (c : Config) (executable source : String) (tests : List Test) (port : Int)
    (m : Machine) : Prop :=
  ∀ k test, tests[k]? = some test → Runs c executable source test (nextPort^[k] port) (m.reply k)

lemma runsAll_cons_iff (hreply : ∀ k, b'.machine.reply k = b.machine.reply (k + 1))
    (hport : b'.port = nextPort b.port) :
    RunsAll c executable source (test :: tests) b.port b.machine ↔
      Runs c executable source test b.port (b.machine.reply 0) ∧
        RunsAll c executable source tests b'.port b'.machine := by
  rw [hport]
  refine ⟨fun h => ⟨h 0 test rfl, fun k t ht => ?_⟩, fun h k t ht => ?_⟩
  · rw [hreply]
    exact h (k + 1) t ht
  · cases k with
    | zero =>
      obtain rfl := Option.some.inj ht
      exact h.1
    | succ k =>
      rw [← hreply]
      exact h.2 k t ht

/-- Tests that can be run visit the numbers in the texts that their processes leave, each in its
own. -/
lemma exists_run_visits (hwritable : Writable b.machine coverage place)
    (hv : b.altered = .ofVariant v) (h : RunsAll c executable source tests b.port b.machine) :
    ∃ b', (visits c executable source coverage tests).run b
      = (.ok (visitsOf b.machine tests), b') := by
  induction tests generalizing b with
  | nil => exact ⟨b, rfl⟩
  | cons test tests ih =>
    obtain ⟨b₁, hrun, htested⟩ := exists_run_visit hwritable hv (h 0 test rfl)
    have hrest := ((runsAll_cons_iff htested.reply_eq htested.port_eq).mp h).2
    obtain ⟨b₂, hruns⟩ := ih htested.writable (htested.altered_eq.trans hv) hrest
    refine ⟨b₂, ?_⟩
    rw [visits_cons, run_bind_of_ok hrun, run_bind_of_ok hruns, visitsOf, visitsOf,
      List.mapIdx_cons]
    simp only [htested.reply_eq]
    rfl

/-- Tests that have visited some atoms can be run. -/
lemma runsAll_of_run_visits {vs : List (Test × List Int)}
    (hwritable : Writable b.machine coverage place) (hv : b.altered = .ofVariant v)
    (h : (visits c executable source coverage tests).run b = (.ok vs, b')) :
    RunsAll c executable source tests b.port b.machine := by
  induction tests generalizing b b' vs with
  | nil => exact nofun
  | cons test tests ih =>
    rw [visits_cons] at h
    obtain ⟨p, b₁, hvisit, h⟩ := exists_run_of_run_bind h
    obtain ⟨ps, b₂, hvisits, -⟩ := exists_run_of_run_bind h
    have hruns := runs_of_run_visit hwritable hvisit
    -- the run that was given is the one that is known of such a test
    obtain ⟨b₁', hvisit', htested⟩ := exists_run_visit hwritable hv hruns
    obtain ⟨rfl, rfl⟩ := eq_of_run_eq_ok hvisit hvisit'
    exact (runsAll_cons_iff htested.reply_eq htested.port_eq).mpr
      ⟨hruns, ih htested.writable (htested.altered_eq.trans hv) hvisits⟩

end Visits

/-! ### What is visited -/

/-- The atoms that the tests of a polarity visit: the whole numbers among the words of the texts
that their processes leave. -/
def Visited (m : Machine) (tests : List Test) (polarity : Polarity) (a : Int) : Prop :=
  ∃ k test text word, tests[k]? = some test ∧ test.polarity = polarity ∧
    (m.reply k).coverage = some text ∧ word ∈ Text.words text ∧ Number.parseInt word = .ok a

lemma mem_covered {reply : Reply} {a : Int} : a ∈ covered reply ↔
    ∃ text word, reply.coverage = some text ∧ word ∈ Text.words text ∧
      Number.parseInt word = .ok a := by
  have hnumber (word : String) : (Number.parseInt word).toOption = some a ↔
      Number.parseInt word = .ok a := by
    cases Number.parseInt word <;> simp [Except.toOption]
  rw [covered]
  cases reply.coverage with
  | none => simp
  | some text => simp [coveredAtoms, hnumber]

lemma mem_visitedBy {m : Machine} {p : Test → Bool} {polarity : Polarity} {a : Int}
    (hp : ∀ test, p test = true ↔ test.polarity = polarity) :
    a ∈ visitedBy p (visitsOf m tests) ↔ Visited m tests polarity a := by
  rw [visitedBy, List.mem_flatMap]
  constructor
  · rintro ⟨⟨test, atoms⟩, hmem, ha⟩
    obtain ⟨hmem, htest⟩ := List.mem_filter.mp hmem
    obtain ⟨k, hk⟩ := List.mem_iff_getElem?.mp hmem
    rw [visitsOf, List.getElem?_mapIdx] at hk
    obtain ⟨test, hget, ⟨⟩⟩ := Option.map_eq_some_iff.mp hk
    obtain ⟨text, word, htext, hword, hnumber⟩ := mem_covered.mp ha
    exact ⟨k, test, text, word, hget, (hp test).mp htest, htext, hword, hnumber⟩
  · rintro ⟨k, test, text, word, hget, htest, htext, hword, hnumber⟩
    refine ⟨(test, covered (m.reply k)), List.mem_filter.mpr ⟨?_, (hp test).mpr htest⟩,
      mem_covered.mpr ⟨text, word, htext, hword, hnumber⟩⟩
    refine List.mem_iff_getElem?.mpr ⟨k, ?_⟩
    rw [visitsOf, List.getElem?_mapIdx, hget]
    rfl

lemma visited_iff {m : Machine} {polarity : Polarity} {a : Int} :
    Visited m tests polarity a ↔ a ∈ visitedBy (·.polarity == polarity) (visitsOf m tests) :=
  (mem_visitedBy fun test => by simp).symm

end Work

end VariantRepair
