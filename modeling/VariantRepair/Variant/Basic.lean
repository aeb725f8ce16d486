import VariantRepair.Edit
import VariantRepair.Program.Basic
import VariantRepair.Localization.Basic

/-!
Variants: a program with the weights of its atoms and the edits that have been made to it. An edit
checks its atoms first, and a variant whose edit is refused stays as it was.
-/

namespace VariantRepair

/-- The text that was compiled last, by its digest, and what came out. -/
structure Compiled where
  digest : String
  success : Bool
  source : Path
  executable : Option Path
deriving Repr, DecidableEq

/-- A program under repair. -/
structure Variant (W : Type) where
  program : Program
  localization : Localization W
  /-- The edits since the program was read. -/
  history : List Edit
  /-- The suffix of the file that the program was read from, if it had one. -/
  ownSuffix : Option String
  compiled : Option Compiled

namespace Variant

variable {W : Type}

/-- A variant without atoms. -/
def empty (b : Backend) : Variant W :=
  { program := .empty b, localization := ∅, history := [], ownSuffix := none, compiled := none }

instance : Inhabited (Variant W) := ⟨empty .lines⟩

def backend (v : Variant W) : Backend := v.program.backend

/-- The number of atoms. -/
def size (v : Variant W) : Nat := v.program.size

/-- The suffix of rendered sources. -/
def suffix (v : Variant W) : String := v.ownSuffix.getD v.backend.suffix

/-- The name of the variant: the text of its edits. -/
def name (v : Variant W) : String :=
  if v.history.isEmpty then "original" else Edit.listText v.history

/-- The variant with a fresh program: weights, edits and binaries are forgotten. -/
def restart (v : Variant W) (p : Program) : Variant W :=
  { v with program := p, localization := ∅, history := [], compiled := none }

/-- The variant with the program that a text holds. -/
def readText (v : Variant W) (text : String) : Except Failure (Variant W) :=
  (Program.read v.backend text).map v.restart

/-! ### Weights -/

/-- The atoms with a positive weight. -/
def weighted [Weight W] (v : Variant W) : List (Int × W) :=
  v.localization.positive

/-- All atoms with their weights; `untouched` is the weight of those that have none. -/
def allWeighted (v : Variant W) (untouched : W) : List (Int × W) :=
  v.localization.full v.size untouched

/-! ### Edits -/

/-- The id that a value is. -/
def checkAtom (v : Variant W) (atom : Value) : Except Failure Int :=
  VariantRepair.checkAtom atom v.size

/-- Remove an atom. -/
def delete (v : Variant W) (atom : Value) : Except Failure (Variant W) := do
  let a ← v.checkAtom atom
  let localization := match v.backend.renumbering with
    | .compact => v.localization.remove a
    | .tombstone => v.localization
  return { v with
    program := v.program.delete a.toNat, localization, history := v.history ++ [.delete a] }

/-- Put a copy of an atom behind another; where the copy is an atom of its own, it has the weight
of what it copies. -/
def append (v : Variant W) (untouched : W) (target source : Value) :
    Except Failure (Variant W) := do
  let d ← v.checkAtom target
  let s ← v.checkAtom source
  let localization := match v.backend.renumbering with
    | .compact => v.localization.insertAfter d (v.localization.getD s untouched)
    | .tombstone => v.localization
  return { v with
    program := v.program.append d.toNat s.toNat, localization
    history := v.history ++ [.append d s] }

/-- Exchange two atoms; an atom with itself is no edit. -/
def swap (v : Variant W) (first second : Value) : Except Failure (Variant W) := do
  let a ← v.checkAtom first
  let b ← v.checkAtom second
  if a = b then return v
  else
    return { v with
      program := v.program.swap a.toNat b.toNat, history := v.history ++ [.swap a b] }

/-- Make an edit. -/
def apply (v : Variant W) (untouched : W) : Edit → Except Failure (Variant W)
  | .delete a => v.delete (.int a)
  | .append d s => v.append untouched (.int d) (.int s)
  | .swap a b => v.swap (.int a) (.int b)

end Variant

end VariantRepair
