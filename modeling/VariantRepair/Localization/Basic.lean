import VariantRepair.Weight
import VariantRepair.Atom

/-!
Fault localization: how suspicious the atoms of a program are. A localization gives weights to
some atom ids, at most one to each. It remembers in which order the ids came, and shows them in
their own order.
-/

namespace VariantRepair

/-- Weights of atoms, in the order in which the atoms came. -/
structure Localization (W : Type) where
  pairs : List (Int × W)
deriving Repr, DecidableEq

namespace Localization

variable {W : Type}

instance : EmptyCollection (Localization W) := ⟨{ pairs := [] }⟩

instance : Inhabited (Localization W) := ⟨∅⟩

/-- The number of atoms that have a weight. -/
def size (l : Localization W) : Nat :=
  l.pairs.length

/-- The weight of an atom. -/
def get? (l : Localization W) (atom : Int) : Option W :=
  (l.pairs.find? fun p => p.1 == atom).map (·.2)

/-- The weight of an atom, or a default. -/
def getD (l : Localization W) (atom : Int) (default : W) : W :=
  (l.get? atom).getD default

/-- Put a pair in the place of one with the same id, or at the end. -/
def place (atom : Int) (weight : W) : List (Int × W) → List (Int × W)
  | [] => [(atom, weight)]
  | p :: ps => if atom = p.1 then (atom, weight) :: ps else p :: place atom weight ps

/-- Give an atom a weight. -/
def set (l : Localization W) (atom : Int) (weight : W) : Localization W :=
  { pairs := place atom weight l.pairs }

/-- Give atoms their weights in turn. -/
def ofList (pairs : List (Int × W)) : Localization W :=
  pairs.foldl (fun l p => l.set p.1 p.2) ∅

/-- The atoms that have a weight, in the order of their ids. -/
def sorted (l : Localization W) : List (Int × W) :=
  l.pairs.mergeSort fun p q => p.1 ≤ q.1

/-- The atoms with a positive weight, in the order of their ids. -/
def positive [Weight W] (l : Localization W) : List (Int × W) :=
  l.sorted.filter fun p => decide (0 < p.2)

/-- Every atom of a program, with its weight if it has one. -/
def full? (l : Localization W) (maxAtom : Int) : List (Int × Option W) :=
  (atomIds maxAtom).map fun a => (a, l.get? a)

/-- Every atom of a program with its weight, or a default. -/
def full (l : Localization W) (maxAtom : Int) (default : W) : List (Int × W) :=
  (atomIds maxAtom).map fun a => (a, l.getD a default)

/-- Drop an atom and shift the ids above it down by one. -/
def remove (l : Localization W) (atom : Int) : Localization W :=
  { pairs := l.pairs.filterMap fun p =>
      if p.1 < atom then some p else if atom < p.1 then some (p.1 - 1, p.2) else none }

/-- Shift the ids above an atom up by one. -/
def shiftUp (l : Localization W) (atom : Int) : Localization W :=
  { pairs := l.pairs.map fun p => if atom < p.1 then (p.1 + 1, p.2) else p }

/-- Shift the ids above an atom up by one and give the id after it a weight. -/
def insertAfter (l : Localization W) (atom : Int) (weight : W) : Localization W :=
  (l.shiftUp atom).set (atom + 1) weight

end Localization

end VariantRepair
