import Mathlib.Algebra.Order.Ring.Int
import Mathlib.Logic.Function.Iterate
import Mathlib.Tactic.Common
import VariantRepair.Proofs.Bench.Harness
import VariantRepair.Proofs.Command.Templates
import VariantRepair.Proofs.Host.Coverage

/-!
# Processes and ports

How processes that are started one after another end, and which ports they are given.
-/

/-!
## Processes one after another

How processes end is given beforehand, and each of them takes the next end. So after any work the
processes that it has started tell which ends are left.
-/

namespace VariantRepair.Host

variable {m m' m'' : Machine} {calls calls' : List Call}

/-- A machine after work that has started some processes: they are noted in order, and the next
process is the one that comes after them. -/
structure Machine.Ran (m : Machine) (calls : List Call) (m' : Machine) : Prop where
  calls_eq : m'.calls = m.calls ++ calls
  directory_eq : m'.directory = m.directory
  environment_eq : m'.environment = m.environment
  reply_eq : ∀ k, m'.reply k = m.reply (calls.length + k)

namespace Machine.Ran

lemma refl (m : Machine) : m.Ran [] m where
  calls_eq := (List.append_nil _).symm
  directory_eq := rfl
  environment_eq := rfl
  reply_eq k := by rw [List.length_nil, Nat.zero_add]

lemma trans (h : m.Ran calls m') (h' : m'.Ran calls' m'') : m.Ran (calls ++ calls') m'' where
  calls_eq := by rw [h'.calls_eq, h.calls_eq, List.append_assoc]
  directory_eq := h'.directory_eq.trans h.directory_eq
  environment_eq := h'.environment_eq.trans h.environment_eq
  reply_eq k := by rw [h'.reply_eq, h.reply_eq, List.length_append, Nat.add_assoc]

end Machine.Ran

/-! ### Work that starts no process -/

lemma ran_warn (line : String) : Preserves (m.Ran calls) (warn line) :=
  .modify fun _ h => ⟨h.calls_eq, h.directory_eq, h.environment_eq, h.reply_eq⟩

lemma ran_changeFiles (f : FileTree → FileTree) : Preserves (m.Ran calls) (changeFiles f) :=
  .modify fun _ h => ⟨h.calls_eq, h.directory_eq, h.environment_eq, h.reply_eq⟩

lemma ran_writeText (path s : String) : Preserves (m.Ran calls) (writeText path s) :=
  .bind (preserves_openPlace path) fun _ => ran_changeFiles _

lemma ran_needDirectories (path : Path) : Preserves (m.Ran calls) (needDirectories path) :=
  preserves_needDirectories (preserves_makeDirectory fun _ _ h _ =>
    ⟨h.calls_eq, h.directory_eq, h.environment_eq, h.reply_eq⟩) path

/-! ### Starting a process -/

/-- A coverage text that cannot be written is no failure. -/
lemma exists_run_leaveCoverage (environment : Option Config.Environment)
    (coverage : Option String) (m : Machine) :
    ∃ m', (leaveCoverage environment coverage).run m = (.ok (), m') := by
  unfold leaveCoverage
  split
  · next text path _ =>
    cases hwrite : (writeText path text).run m with
    | mk r m' =>
      cases r with
      | ok u => exact ⟨m', run_tryCatch_of_ok hwrite _⟩
      | error f => exact ⟨m', run_tryCatch_of_error hwrite _⟩
  · exact ⟨m, rfl⟩

lemma ran_called (m : Machine) (call : Call) : m.Ran [call] (m.called call) where
  calls_eq := rfl
  directory_eq := rfl
  environment_eq := rfl
  reply_eq k := by rw [Machine.reply_called, List.length_singleton, Nat.add_comm]

/-- Whoever starts a process is told of its end, whether it can leave its coverage text or not. -/
lemma exists_run_start (words : List String) (seconds : Float)
    (environment : Option Config.Environment) (m : Machine) :
    ∃ m', (start words seconds environment).run m = ((m.reply 0).ending.told, m') ∧
      m.Ran [⟨words, seconds, environment⟩] m' := by
  obtain ⟨m', hleave⟩ := exists_run_leaveCoverage environment (m.reply 0).coverage
    (m.called ⟨words, seconds, environment⟩)
  exact ⟨m', run_start_of_leave hleave,
    (preserves_leaveCoverage (fun _ path s _ _ => ran_writeText path s) _).of_run
      (ran_called m _) hleave⟩

/-- What a test comes to when its process ends: an outcome, unless the system could not start the
process. -/
def Ending.judged : Ending → Except Failure Outcome
  | .finished status _ _ => .ok (if status = 0 then .passed else .failed)
  | .timedOut => .ok .timeout
  | .missing _ | .denied _ => .ok .failed
  | .failed text => .error (.process text)

/-- An end that is a failure for one is so for the other. -/
lemma Ending.judged_of_told_error {ending : Ending} {f : Failure} (h : ending.told = .error f) :
    ending.judged = .error f := by
  cases ending with
  | failed text =>
    cases h
    rfl
  | _ => cases h

end VariantRepair.Host

/-!
## Ports in turn

A run of a test takes a port as soon as its command has words, however its process ends. From any
port the turn comes in the end to the eight hundred ports up to 1600, and goes round in them for
ever; so a port that an earlier test has left in use is not given out again for eight hundred runs.
-/

namespace VariantRepair

open Host

/-! ### The turn of ports -/

section Turn

variable {p : Int}

/-- The ports that are given out in the long run. -/
def InTurn (p : Int) : Prop :=
  801 ≤ p ∧ p ≤ 1600

lemma nextPort_of_lt (h : p < 1600) : nextPort p = p + 1 := by
  have hceiling : ¬ portCeiling < p + 1 := by
    rw [portCeiling]
    omega
  rw [nextPort, if_neg hceiling]

lemma nextPort_of_le (h : 1600 ≤ p) : nextPort p = p - 799 := by
  have hceiling : portCeiling < p + 1 := by
    rw [portCeiling]
    omega
  rw [nextPort, if_pos hceiling, portWrap]
  omega

lemma inTurn_nextPort (h : InTurn p) : InTurn (nextPort p) := by
  obtain ⟨hlow, hhigh⟩ := h
  rcases lt_or_ge p 1600 with hp | hp
  · rw [nextPort_of_lt hp]
    exact ⟨by omega, by omega⟩
  · rw [nextPort_of_le hp]
    exact ⟨by omega, by omega⟩

/-- Within the turn, ports go up by one and come back after the last one. -/
lemma iterate_nextPort (h : InTurn p) (n : Nat) :
    nextPort^[n] p = 801 + (p - 801 + n) % 800 := by
  obtain ⟨hlow, hhigh⟩ := h
  induction n with
  | zero =>
    rw [Function.iterate_zero_apply]
    omega
  | succ n ih =>
    rw [Function.iterate_succ_apply', ih]
    rcases lt_or_ge (801 + (p - 801 + n) % 800) 1600 with hn | hn
    · rw [nextPort_of_lt hn]
      push_cast
      omega
    · rw [nextPort_of_le hn]
      push_cast
      omega

lemma inTurn_iterate (h : InTurn p) (n : Nat) : InTurn (nextPort^[n] p) := by
  rw [iterate_nextPort h]
  exact ⟨by omega, by omega⟩

/-- How far a port is from the turn. -/
def turnDistance (p : Int) : Nat :=
  (801 - p).toNat + (p - 1600).toNat

lemma turnDistance_nextPort_lt (h : ¬ InTurn p) : turnDistance (nextPort p) < turnDistance p := by
  rw [InTurn] at h
  rw [turnDistance, turnDistance]
  rcases lt_or_ge p 1600 with hp | hp
  · rw [nextPort_of_lt hp]
    omega
  · rw [nextPort_of_le hp]
    omega

/-- Every port comes into the turn. -/
lemma exists_inTurn_iterate (p : Int) : ∃ n, InTurn (nextPort^[n] p) := by
  induction hd : turnDistance p using Nat.strong_induction_on generalizing p with
  | _ d ih =>
    by_cases hp : InTurn p
    · exact ⟨0, hp⟩
    · obtain ⟨n, hn⟩ := ih _ (hd ▸ turnDistance_nextPort_lt hp) (nextPort p) rfl
      exact ⟨n + 1, hn⟩

/-- A port comes back after eight hundred runs at the earliest. -/
lemma iterate_nextPort_ne {k : Nat} (hk : 0 < k) (hlt : k < 800) : nextPort^[k] p ≠ p := by
  by_cases hp : InTurn p
  · obtain ⟨hlow, hhigh⟩ := id hp
    rw [iterate_nextPort hp]
    omega
  · -- a port out of the turn is left for good, since the distance never grows again
    have hle : ∀ n, turnDistance (nextPort^[n + 1] p) < turnDistance p := by
      intro n
      induction n with
      | zero => exact turnDistance_nextPort_lt hp
      | succ n ih =>
        rw [Function.iterate_succ_apply']
        by_cases hn : InTurn (nextPort^[n + 1] p)
        · obtain ⟨hlow, hhigh⟩ := inTurn_nextPort hn
          rw [turnDistance]
          omega
        · exact (turnDistance_nextPort_lt hn).trans ih
    obtain ⟨n, rfl⟩ := Nat.exists_eq_add_of_lt hk
    intro heq
    have hless := hle n
    rw [Nat.zero_add] at heq
    rw [heq] at hless
    exact lt_irrefl _ hless

/-- Ports in turn are different for eight hundred runs. -/
lemma nodup_turn (p : Int) {n : Nat} (h : n ≤ 800) :
    ((List.range n).map (nextPort^[·] p)).Nodup := by
  refine List.Nodup.map_on ?_ List.nodup_range
  have hlt {i j : Nat} (hj : j < n) (hij : i < j) : nextPort^[i] p ≠ nextPort^[j] p := by
    obtain ⟨k, rfl⟩ := Nat.exists_eq_add_of_lt hij
    have hsplit : nextPort^[i + k + 1] p = nextPort^[k + 1] (nextPort^[i] p) := by
      rw [← Function.iterate_add_apply, Nat.add_comm (k + 1) i, Nat.add_assoc]
    rw [hsplit]
    exact (iterate_nextPort_ne (Nat.succ_pos k) (by omega)).symm
  intro i hi j hj heq
  rcases Nat.lt_trichotomy i j with hij | hij | hij
  · exact absurd heq (hlt (List.mem_range.mp hj) hij)
  · exact hij
  · exact absurd heq.symm (hlt (List.mem_range.mp hi) hij)

end Turn

/-! ### One run -/

namespace Work

variable {c : Config} {b : Bench} {executable source : String} {test : Test}

/-- The outcome of a test is that of its process, and a message is all that it leaves. -/
lemma exists_run_outcomeOf_of_told {ending e : Ending} (h : ending.told = .ok e) (m : Machine) :
    ∃ o err, ending.judged = .ok o ∧ (outcomeOf test e).run m = (.ok o, { m with err }) := by
  cases ending with
  | finished status out err =>
    cases h
    by_cases hstatus : status = 0
    · exact ⟨_, m.err, rfl, by rw [outcomeOf, if_pos hstatus]; rfl⟩
    · exact ⟨_, m.err, rfl, by rw [outcomeOf, if_neg hstatus]; rfl⟩
  | timedOut =>
    cases h
    exact ⟨_, m.err, rfl, rfl⟩
  | missing text | denied text =>
    cases h
    exact ⟨_, _, rfl, rfl⟩
  | failed text => cases h

/-- A run of a test whose command has words starts one process and takes a port, whatever comes of
it. -/
lemma exists_run_runTest_of_words {words : List String} (extra : List (String × String))
    (hwords : testWords c executable source test b.port = .ok words) :
    ∃ m, (runTest c executable source test extra).run b
        = ((b.machine.reply 0).ending.judged,
          { b with machine := m, port := nextPort b.port }) ∧
      b.machine.Ran [⟨words, c.testTimeout, some (withVariables b.machine.environment extra)⟩]
        m := by
  obtain ⟨m, hstart, hran⟩ := exists_run_start words c.testTimeout
    (some (withVariables b.machine.environment extra)) b.machine
  rw [run_runTest, hwords]
  dsimp only
  rw [run_onMachine]
  cases htold : (b.machine.reply 0).ending.told with
  | error f =>
    rw [htold] at hstart
    rw [run_bind_of_error hstart]
    rw [Ending.judged_of_told_error htold]
    exact ⟨m, rfl, hran⟩
  | ok e =>
    rw [htold] at hstart
    obtain ⟨o, err, hjudged, houtcome⟩ := exists_run_outcomeOf_of_told htold m
    rw [run_bind_of_ok hstart, houtcome, hjudged]
    exact ⟨{ m with err }, rfl, hran.calls_eq, hran.directory_eq, hran.environment_eq,
      hran.reply_eq⟩

end Work

/-! ### Run after run -/

/-- A run of the harness: what it is given, and the machine that it finds. -/
structure Trial where
  machine : Machine
  executable : String
  source : String
  test : Test
  extra : List (String × String)

namespace Trial

variable (c : Config)

/-- The words of the command, with a port. -/
def words (t : Trial) (port : Int) : Except Failure (List String) :=
  Work.testWords c t.executable t.source t.test port

/-- The process of the trial, when its command has these words. -/
def call (t : Trial) (words : List String) : Call :=
  ⟨words, c.testTimeout, some (Work.withVariables t.machine.environment t.extra)⟩

/-- Do a trial. The port is the one that the trials before it have left. -/
def run (b : Bench) (t : Trial) : Except Failure Outcome × Bench :=
  (Work.runTest c t.executable t.source t.test t.extra).run { b with machine := t.machine }

/-- Do trials in turn, however they end. -/
def runAll (b : Bench) (ts : List Trial) : Bench :=
  ts.foldl (fun b t => (t.run c b).2) b

/-- The port that the process of a trial is given, if it starts one: a trial whose command has no
words starts none. -/
def taken (b : Bench) (t : Trial) : List Int :=
  (t.words c b.port).toOption.toList.map fun _ => b.port

/-- The ports that the processes of trials are given. -/
def ports : Bench → List Trial → List Int
  | _, [] => []
  | b, t :: ts => t.taken c b ++ ports (t.run c b).2 ts

variable {c} {b : Bench}

lemma taken_of_words {t : Trial} {words : List String} (h : t.words c b.port = .ok words) :
    t.taken c b = [b.port] := by
  rw [taken, h]
  rfl

lemma taken_of_no_words {t : Trial} {f : Failure} (h : t.words c b.port = .error f) :
    t.taken c b = [] := by
  rw [taken, h]
  rfl

lemma exists_run_of_words {t : Trial} {words : List String} (h : t.words c b.port = .ok words) :
    ∃ m, t.run c b
        = ((t.machine.reply 0).ending.judged, { b with machine := m, port := nextPort b.port }) ∧
      m.calls = t.machine.calls ++ [t.call c words] := by
  rw [Trial.words] at h
  obtain ⟨m, hrun, hran⟩ := Work.exists_run_runTest_of_words (b := { b with machine := t.machine })
    t.extra h
  rw [run]
  exact ⟨m, hrun, hran.calls_eq⟩

lemma run_of_no_words {t : Trial} {f : Failure} (h : t.words c b.port = .error f) :
    t.run c b = (.error f, { b with machine := t.machine }) := by
  rw [words] at h
  have hwords : Work.testWords c t.executable t.source t.test
      ({ b with machine := t.machine } : Bench).port = .error f := h
  rw [run, Work.run_runTest, hwords]

/-- The ports of trials are taken in turn, and the next one is left. -/
lemma ports_eq (b : Bench) (ts : List Trial) :
    ports c b ts = (List.range (ports c b ts).length).map (nextPort^[·] b.port) ∧
      (runAll c b ts).port = nextPort^[(ports c b ts).length] b.port := by
  induction ts generalizing b with
  | nil => simp only [ports, runAll, List.length_nil, List.range_zero, List.map_nil,
      List.foldl_nil, Function.iterate_zero_apply, and_self]
  | cons t ts ih =>
    obtain ⟨hports, hport⟩ := ih (t.run c b).2
    rw [ports, runAll, List.foldl_cons, ← runAll]
    cases hwords : t.words c b.port with
    | ok words =>
      obtain ⟨m, hrun, -⟩ := exists_run_of_words hwords
      rw [hrun] at hports hport
      rw [taken_of_words hwords, hrun]
      refine ⟨?_, hport⟩
      rw [List.singleton_append, List.length_cons, List.range_succ_eq_map, List.map_cons,
        List.map_map]
      exact congrArg (b.port :: ·) hports
    | error f =>
      rw [run_of_no_words hwords] at hports hport
      rw [taken_of_no_words hwords, run_of_no_words hwords, List.nil_append]
      exact ⟨hports, hport⟩

end Trial

/-- From whatever port the runs of the harness start, after finitely many of them the port is one
of 801 to 1600, and stays so. There the port after `n` further runs is known: ports go up by one
and come back to 801 after 1600. Each run whose command has words starts its process with the next
port, whether this ends in time or not, well or not, or cannot be started at all; a run whose
command has none starts no process and takes no port. So among any eight hundred runs that take one,
no two take the same. -/
theorem ports_go_round (c : Config) (b : Bench) :
    (∀ (t : Trial) (words : List String), t.words c b.port = .ok words → ∃ m, t.run c b
        = ((t.machine.reply 0).ending.judged, { b with machine := m, port := nextPort b.port }) ∧
      m.calls = t.machine.calls ++ [t.call c words]) ∧
    (∀ (t : Trial) (f : Failure), t.words c b.port = .error f →
      t.run c b = (.error f, { b with machine := t.machine })) ∧
    (∃ n, ∀ ts, n ≤ (Trial.ports c b ts).length → InTurn (Trial.runAll c b ts).port) ∧
    (InTurn b.port → ∀ ts, (Trial.runAll c b ts).port
      = 801 + (b.port - 801 + (Trial.ports c b ts).length) % 800) ∧
    (∀ ts, Trial.ports c b ts
      = (List.range (Trial.ports c b ts).length).map (nextPort^[·] b.port)) ∧
    (∀ ts, (Trial.ports c b ts).length ≤ 800 → (Trial.ports c b ts).Nodup) := by
  refine ⟨fun t words => Trial.exists_run_of_words, fun t f => Trial.run_of_no_words, ?_,
    fun hturn ts => ?_, fun ts => (Trial.ports_eq b ts).1, fun ts hlength => ?_⟩
  · obtain ⟨n, hn⟩ := exists_inTurn_iterate b.port
    refine ⟨n, fun ts hlength => ?_⟩
    obtain ⟨k, hk⟩ := Nat.exists_eq_add_of_le' hlength
    rw [(Trial.ports_eq b ts).2, hk, Function.iterate_add_apply]
    exact inTurn_iterate hn k
  · rw [(Trial.ports_eq b ts).2, iterate_nextPort hturn]
  · rw [(Trial.ports_eq b ts).1]
    exact nodup_turn b.port hlength

/-- A process that cannot be started takes the last port of the turn, and the first one is left. -/
theorem ports_go_round_failed :
    ∃ (c : Config) (b : Bench) (t : Trial), b.port = 1600 ∧ InTurn b.port ∧
      t.words c b.port = .ok ["t"] ∧ (t.machine.reply 0).ending = .failed "broken" ∧
      ∃ m, t.run c b = (.error (.process "broken"), { b with machine := m, port := 801 }) ∧
        m.calls = [t.call c ["t"]] ∧ (Trial.runAll c b [t]).port = 801 := by
  let c : Config := Config.default.set .testCommand "t"
  let m : Machine :=
    { Machine.ofDirectory [] "1" with further := { coverage := none, ending := .failed "broken" } }
  let b : Bench :=
    { machine := m, cache := none, stats := .zero, port := 1600
      altered := .ofVariant (.empty .lines) }
  let t : Trial := ⟨m, "/e", "/s", ⟨.positive, 1, Nat.one_pos⟩, []⟩
  have hturn : InTurn b.port := ⟨by decide, by decide⟩
  have hwords : t.words c b.port = .ok ["t"] :=
    Work.testWords_of_plain (by decide) (by decide) (Test.isReadable_one _)
  obtain ⟨htakes, -, -, hround, -, -⟩ := ports_go_round c b
  obtain ⟨m', hrun, hcalls⟩ := htakes t _ hwords
  have hone : (Trial.ports c b [t]).length = 1 := by
    rw [Trial.ports, Trial.taken_of_words hwords]
    rfl
  have hport := hround hturn [t]
  rw [hone] at hport
  exact ⟨c, b, t, rfl, hturn, hwords, rfl, m', hrun, hcalls, hport⟩

end VariantRepair
