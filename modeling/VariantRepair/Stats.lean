import VariantRepair.Number.Binary64
import VariantRepair.Value.Basic

/-!
Counters of the costly steps of a run: compilations, test runs, and test runs that the cache has
saved.
-/

namespace VariantRepair

/-- The counters of a run. -/
structure Stats where
  compileAttempts : Nat
  compileFailures : Nat
  testEvaluations : Nat
  testTimeouts : Nat
  cacheHits : Nat
deriving Repr, DecidableEq

namespace Stats

/-- All counters at zero. -/
def zero : Stats := ⟨0, 0, 0, 0, 0⟩

instance : Inhabited Stats := ⟨zero⟩

/-- Count a compilation. -/
def recordCompile (s : Stats) (success : Bool) : Stats :=
  { s with
    compileAttempts := s.compileAttempts + 1
    compileFailures := if success then s.compileFailures else s.compileFailures + 1 }

/-- Count a test run. -/
def recordTest (s : Stats) (timedOut : Bool) : Stats :=
  { s with
    testEvaluations := s.testEvaluations + 1
    testTimeouts := if timedOut then s.testTimeouts + 1 else s.testTimeouts }

/-- Count a test run that was saved. -/
def recordCacheHit (s : Stats) : Stats :=
  { s with cacheHits := s.cacheHits + 1 }

/-- The outcomes that were asked for: run or saved. -/
def lookups (s : Stats) : Nat :=
  s.testEvaluations + s.cacheHits

/-- The share of test runs that were saved. -/
def hitRate (s : Stats) : Float :=
  if s.lookups = 0 then 0.0 else Number.nearest false s.cacheHits s.lookups

/-- The counters and the hit rate, by name. -/
def summary (s : Stats) : List (Value × Value) :=
  [(.str "compile_attempts", .int s.compileAttempts),
   (.str "compile_failures", .int s.compileFailures),
   (.str "test_evaluations", .int s.testEvaluations),
   (.str "test_timeouts", .int s.testTimeouts),
   (.str "cache_hits", .int s.cacheHits),
   (.str "cache_hit_rate", .float s.hitRate)]

end Stats

end VariantRepair
