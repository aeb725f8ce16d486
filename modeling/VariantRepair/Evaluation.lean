import VariantRepair.Weight
import VariantRepair.Number.Binary64
import VariantRepair.Toolchain.Outcome
import VariantRepair.Test
import VariantRepair.Value.Basic

/-!
The evaluation of a variant: the outcome of each test, and the fitness that they sum up to.
-/

namespace VariantRepair

/-- The sum over the tests that pass: one for a positive test, `negativeWeight` for another. Tests
are told apart by the first letter of their names. -/
def fitnessOf {W : Type} [Weight W] (outcomes : List (String × Bool)) (negativeWeight : W) : W :=
  outcomes.foldl
    (fun score o =>
      if o.2 then score + (if o.1.startsWith "p" then 1 else negativeWeight) else score) 0

/-- The sum over all tests when each of them passes, from the numbers of tests. -/
def greatestFitnessOf {W : Type} [Weight W] (positives negatives negativeWeight : W) : W :=
  positives + negativeWeight * negatives

/-- The outcomes of the tests of a variant. -/
structure Evaluation where
  name : String
  digest : Option String
  compiled : Bool
  outcomes : List (Test × Outcome)
  fitness : Float
  maxFitness : Float

namespace Evaluation

/-- Did the variant compile and pass its tests, of which there is at least one? -/
def passedAll (e : Evaluation) : Bool :=
  e.compiled && !e.outcomes.isEmpty && e.outcomes.all fun o => o.2 == .passed

/-- The evaluation as a mapping. -/
def toMap (e : Evaluation) : List (Value × Value) :=
  [(.str "name", .str e.name),
   (.str "digest", (e.digest.map Value.str).getD .null),
   (.str "compiled", .bool e.compiled),
   (.str "outcomes", .map (e.outcomes.map fun o => (.str o.1.name, .str o.2.text))),
   (.str "fitness", .float e.fitness),
   (.str "max_fitness", .float e.maxFitness),
   (.str "passed_all", .bool e.passedAll)]

/-- The greatest fitness that a number of tests allows. -/
def greatestFitness (positives negatives : Int) (negativeWeight : Float) : Float :=
  let real (n : Int) : Float := (Number.ofInt? n).getD 0.0
  greatestFitnessOf (real positives) (real negatives) negativeWeight

end Evaluation

end VariantRepair
