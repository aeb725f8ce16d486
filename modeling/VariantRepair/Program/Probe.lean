import VariantRepair.Language.Tree

/-!
Probes: statements that note down which atom runs. Each of them calls a function that is defined at
the start of the module and appends the number of the atom to the coverage file, a line each.
-/

namespace VariantRepair.Program

open VariantRepair.Language

/-- The variable that names the coverage file. -/
def coverageVariable : String := "REPAIR_COVERAGE_FILE"

/-- The function that a probe calls. -/
def probeName : String := "__repair_probe__"

/-- The name that the module of the operating system is bound to. -/
def systemName : String := "__repair_os__"

/-- A constant text. -/
def textExpr (s : String) : Expr :=
  .constant (.str (s.toList.map Char.toNat) false)

/-- The probe of an atom. -/
def probe (atom : Nat) : Simple :=
  .expr (.call (.name probeName) [.constant (.int atom)] [])

/-- The file that the environment names. -/
def coveragePath : Expr :=
  .call (.member (.member (.name systemName) "environ") "get") [textExpr coverageVariable] []

/-- Append the number of the atom to the file. -/
def noteAtom : Stmt Simple :=
  .with false
    [(.call (.name "open") [.name "path", textExpr "a"] [(some "encoding", textExpr "utf-8")],
      some (.name "handle"))]
    [.leaf (.expr (.call (.member (.name "handle") "write")
      [.formatted [.value (.name "atom_id") none none, .literal [10]]] []))]

/-- What stands before the program when it has probes. -/
def probePrologue : List (Stmt Simple) :=
  [.leaf (.import [⟨"os", some systemName⟩]),
   .function false [] probeName (.mk [] [.mk "atom_id" none none] none [] none) none
    [.leaf (.assign [.name "path"] coveragePath), .if (.name "path") [noteAtom] []]]

end VariantRepair.Program
