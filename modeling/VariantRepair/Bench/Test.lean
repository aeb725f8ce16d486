import VariantRepair.Toolchain.Outcome
import VariantRepair.Config.Basic
import VariantRepair.Host.Process
import VariantRepair.Bench.Basic

/-!
Testing: running the test command, and the outcome of a test on the program that was compiled last,
from the cache if it is known there.
-/

namespace VariantRepair

/-! ### Ports

Each run of a test gets the next port number, so that a server which an earlier test has left
running is not in the way. -/

/-- How far ports go back when they reach their end. -/
def portWrap : Int := 800

/-- The greatest port that is given out in the long run. -/
def portCeiling : Int := 1600

/-- The port after another. -/
def nextPort (port : Int) : Int :=
  if portCeiling < port + 1 then port + 1 - portWrap else port + 1

end VariantRepair

namespace VariantRepair.Work

open Host

/-- The words of the test command. -/
def testWords (c : Config) (executable source : String) (test : Test) (port : Int) :
    Except Failure (List String) := do
  let name ← test.written
  (Command.substitute c.testCommand
    [("__EXE_NAME__", Command.quoteWord executable), ("__TEST_NAME__", name),
     ("__SOURCE_NAME__", Command.quoteWord source),
     ("__PORT__", toString port)]).mapError fun e => .refused (.command e)

/-- An environment with further variables. -/
def withVariables (env : Config.Environment) (extra : List (String × String)) :
    Config.Environment :=
  extra.foldl (fun env p => env.set p.1 p.2) env

/-- What an ending of the test command means. -/
def outcomeOf (test : Test) : Ending → Action Outcome
  | .finished status _ _ => return if status = 0 then .passed else .failed
  | .timedOut => return .timeout
  | .missing text | .denied text | .failed text => do
    warn s!"[Test] cannot run test command for {test.name}: {text}"
    return .failed

/-- Run a test on an executable. Every run takes the next port, whatever comes out. -/
def runTest (c : Config) (executable source : String) (test : Test)
    (extra : List (String × String)) : Work Outcome := do
  let b ← get
  let argv ← ofExcept (testWords c executable source test b.port)
  modify fun b => { b with port := nextPort b.port }
  let environment := withVariables b.machine.environment extra
  onMachine do outcomeOf test (← start argv c.testTimeout (some environment))

/-- The outcome that a stored truth value stands for. -/
def outcomeOfStored (passed : Bool) : Outcome :=
  if passed then .passed else .failed

/-- The cache that the variant at hand uses; `asked` is what is asked of it. -/
def ownCache (asked : String) : Work (Option Cache) := do
  let b ← get
  match b.altered.part? "cache" with
  | none => return b.cache
  | some .null => return none
  | some v => throw (.noAttribute v.typeName asked)

/-- The outcome of a test that the cache does not know. A timeout is not put into the cache. -/
def freshOutcome (c : Config) (digest : String) (executable source : Path) (test : Test)
    (useCache : Bool) : Work Outcome := do
  reading (·.provides "harness" "run")
  let outcome ← runTest c executable.text source.text test []
  reading (·.provides "stats" "record_test")
  count (·.recordTest (outcome == .timeout))
  if useCache then
    changeCache (·.recordEvaluation digest test)
    if outcome != .timeout then changeCache (·.add digest test (outcome == .passed))
  return outcome

/-- The outcome of a test on the program that was compiled last. -/
def evaluateTest (c : Config) (test : Test) : Work Outcome := do
  reading (·.callable "evaluate_test")
  match (← variant).compiled with
  | none => throw (.notCompiled (← reading (·.name)))
  | some compiled =>
    match compiled.success, compiled.executable with
    | true, some executable =>
      let cache ← ownCache "query"
      match cache.bind fun cache => cache.query compiled.digest test with
      | some passed =>
        reading (·.provides "stats" "record_cache_hit")
        count Stats.recordCacheHit
        return outcomeOfStored passed
      | none =>
        freshOutcome c compiled.digest executable compiled.source test cache.isSome
    | _, _ => return .failed

/-- Does a test pass on the program that was compiled last? -/
def testPasses (c : Config) (test : Test) : Work Bool := do
  reading (·.callable "test_case")
  return (← evaluateTest c test) == .passed

/-- The outcomes of tests, in order. -/
def evaluateTests (c : Config) : List Test → Work (List (Test × Outcome))
  | [] => return []
  | test :: tests => do
    let outcome ← evaluateTest c test
    return (test, outcome) :: (← evaluateTests c tests)

end VariantRepair.Work
