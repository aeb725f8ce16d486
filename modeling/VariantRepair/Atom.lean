import VariantRepair.Failure

/-!
Atoms: the units of a program that edits address, numbered from one.
-/

namespace VariantRepair

/-- How ids stay in step with a program when atoms are deleted and appended. -/
inductive Renumbering where
  /-- A deleted atom leaves an empty place behind, and an appended one joins the place it is
  appended to: no id changes. -/
  | tombstone
  /-- A deleted atom disappears and an appended one gets the next id: the ids behind shift. -/
  | compact
deriving Repr, DecidableEq

/-- The name of a way of renumbering. -/
def Renumbering.text : Renumbering → String
  | tombstone => "tombstone"
  | compact => "compact"

/-- The failure that a value is no atom id of a program with `maxAtom` atoms. -/
def invalidAtom (v : Value) (maxAtom : Int) : Failure :=
  .naming v fun shown => .naming (.int maxAtom) fun last => .repair (.invalidAtom shown last)

/-- The atom id that a value is, when it is an integer from one to `maxAtom`. -/
def checkAtom (v : Value) (maxAtom : Int) : Except Failure Int :=
  match v with
  | .int n => if 1 ≤ n ∧ n ≤ maxAtom then .ok n else .error (invalidAtom v maxAtom)
  | v => .error (invalidAtom v maxAtom)

/-- All atom ids of a program with `maxAtom` atoms. -/
def atomIds (maxAtom : Int) : List Int :=
  (List.range maxAtom.toNat).map fun i : Nat => (i : Int) + 1

end VariantRepair
