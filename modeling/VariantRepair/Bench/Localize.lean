import VariantRepair.Localization.FaultRows
import VariantRepair.Bench.Compile
import VariantRepair.Bench.Test

/-!
Computing the fault localization of a program: all atoms alike, by the lines of a fault file, or by
the atoms that the tests visit.
-/

namespace VariantRepair.Work

open Host

/-- The rows of a fault file. -/
def readFaultFile (path : String) : Action (List (Int × Float)) := do
  let path := (Path.ofText path).text
  let text ←
    try readText path
    catch f =>
      if f.isSystem then throw (.repair (.faultLocalization (.unreadable path f.message)))
      else throw f
  ofExcept (faultRows path text)

/-- Every atom with the weight one. -/
def uniformWeights (size : Nat) : List (Int × Float) :=
  (atomIds size).map fun a => (a, 1.0)

/-- Give an atom a weight unless it has a greater one. -/
def raise (l : Localization Float) (atom : Int) (weight : Float) : Localization Float :=
  let old := l.getD atom 0.0
  l.set atom (if weight < old then old else weight)

/-- The weights with those that a row gives to the atoms of its line, where they are greater. -/
def raiseRow (a : Altered) (l : Localization Float) (row : Int × Float) :
    Except Failure (Localization Float) := do
  let atoms ← a.atomsAtLine (.int row.1)
  return (atoms.filterMap Value.whole?).foldl (fun l atom => raise l atom row.2) l

/-- The greatest weight that rows give to each atom. -/
def rowWeights (a : Altered) (rows : List (Int × Float)) : Except Failure (Localization Float) :=
  rows.foldlM (raiseRow a) ∅

/-- The weights by the fault file. -/
def lineLocalization (c : Config) : Work (Localization Float) := do
  if c.faultFile.isEmpty then throw (.repair (.faultLocalization .noFaultFile))
  let rows ← onMachine (readFaultFile c.faultFile)
  reading fun a => rowWeights a rows

/-- The numbers among the words of a coverage text. -/
def coveredAtoms (text : String) : List Int :=
  (Text.words text).filterMap fun w => (Number.parseInt w).toOption

/-- The numbers in a coverage file; none if it is missing. -/
def readCoverage (path : String) : Action (List Int) := do
  if ← isFile path then return coveredAtoms (← readText path) else return []

/-- The atoms that each test visits, with the tests. -/
def visits (c : Config) (executable source coverage : String) :
    List Test → Work (List (Test × List Int))
  | [] => return []
  | test :: tests => do
    onMachine (deleteFile coverage)
    reading (·.provides "harness" "run")
    let _ ← runTest c executable source test [(Program.coverageVariable, coverage)]
    let visited ← onMachine (readCoverage coverage)
    return (test, visited) :: (← visits c executable source coverage tests)

/-- The atoms visited by the tests that satisfy `p`. -/
def visitedBy (p : Test → Bool) (vs : List (Test × List Int)) : List Int :=
  (vs.filter fun v => p v.1).flatMap (·.2)

/-- The weights by the atoms that the tests visit in the program with probes. -/
def pathLocalization (c : Config) : Work (Localization Float) := do
  let directory := (← onMachine (resolve (.ofText c.workDir))).child "coverage"
  onMachine (needDirectories directory)
  let source := directory.child (← reading (·.sourceName "coverage"))
  let text ← reading (·.probedText)
  onMachine (writeText source.text text)
  reading (·.provides "compiler" "compile")
  let result ← onMachine (Compilation.run c source (directory.child "coverage"))
  match result.success, result.executable with
  | true, some executable =>
    let coverage := (directory.child "coverage.path").text
    let vs ← visits c executable.text source.text coverage (Test.all c.posTests c.negTests)
    return .ofList (pathWeights (visitedBy (!·.isPositive) vs) (visitedBy Test.isPositive vs)
      c.negativePathWeight c.positivePathWeight)
  | _, _ => throw (.repair (.faultLocalization (.notCompiled result.stderr)))

/-- Compute the weights by the scheme of the configuration. -/
def localization (c : Config) : Work (Localization Float) := do
  if c.faultScheme == "uniform" then return .ofList (uniformWeights (← reading (·.size)))
  else if c.faultScheme == "line" then lineLocalization c
  else if c.faultScheme == "path" then pathLocalization c
  else throw (.refused (.unknownScheme c.faultScheme))

/-- Compute the weights and give them to the variant at hand. -/
def localize (c : Config) : Work Unit := do
  reading (·.callable "compute_fault_localization")
  reading (·.provides "config" "fault_scheme")
  let l ← localization c
  alter (Altered.setLocalization l)
  let weighted ← reading (·.weighted)
  let size ← reading (·.size)
  onMachine (say
    s!"[Localization] scheme={c.faultScheme} weighted_atoms={weighted.length}/{size}")

end VariantRepair.Work
