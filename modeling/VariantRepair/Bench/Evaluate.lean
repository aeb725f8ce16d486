import VariantRepair.Json.Writer
import VariantRepair.Evaluation
import VariantRepair.Bench.Compile
import VariantRepair.Bench.Test

/-!
Evaluating the variant at hand: compile it, run every test, and note the result in a file if one is
given. The sanity check does so with the unmodified program, which has to compile, pass the positive
tests and fail the negative ones.
-/

namespace VariantRepair.Work

/-- Put the line of an evaluation behind what a file holds; its directory is made if it is
missing. -/
def noteEvaluation (path : String) (e : Evaluation) : Host.Action Unit := do
  let directory := (Path.splitLast path).1
  Host.needSpelledDirectories path.length (if directory.isEmpty then "." else directory)
  Host.appendText path (Json.write Json.lineLayout (.map e.toMap) ++ "\n")

/-- Evaluate the variant at hand. -/
def evaluate (c : Config) (output : Option String) : Work Evaluation := do
  let directory := Path.ofText c.workDir
  let source := directory.child (← reading (·.sourceName "variant"))
  let compiled ← compile c source (directory.child "variant") c.keepSource
  let name ← reading (·.name)
  let outcomes ← evaluateTests c (Test.all c.posTests c.negTests)
  let e : Evaluation :=
    { name, digest := (← variant).compiled.map (·.digest), compiled, outcomes
      fitness := fitnessOf (outcomes.map fun o => (o.1.name, o.2 == .passed)) c.negativeTestWeight
      maxFitness := Evaluation.greatestFitness c.posTests c.negTests c.negativeTestWeight }
  match output with
  | some path => if !path.isEmpty then onMachine (noteEvaluation path e)
  | none => pure ()
  return e

/-! ### The sanity check -/

/-- Does a test come out as its polarity says? A timeout is a failing run. -/
def asExpected (test : Test) (outcome : Outcome) : Bool :=
  (outcome == .passed) == test.isPositive

/-- The tests that do not come out as expected, with their outcomes. -/
def unexpected (outcomes : List (Test × Outcome)) : List String :=
  (outcomes.filter fun o => !asExpected o.1 o.2).map fun o => o.1.name ++ ":" ++ o.2.text

/-- Check the variant at hand; a failure says what is wrong. -/
def sanityCheck (c : Config) : Work Unit := do
  reading (·.callable "sanity_check")
  reading (·.provides "config" "work_dir")
  let directory := Path.ofText c.workDir
  let source := directory.child (← reading (·.sourceName "sanity"))
  if !(← compile c source (directory.child "sanity") true) then
    throw (.repair (.sanityCheck "original program does not compile" []))
  let failures := unexpected (← evaluateTests c (Test.all c.posTests c.negTests))
  if !failures.isEmpty then
    throw (.repair (.sanityCheck "original program does not match the test oracle" failures))
  onMachine (Host.say s!"[Sanity] ok: {c.posTests} positive, {c.negTests} negative")

end VariantRepair.Work
