import VariantRepair.Program.Backend
import VariantRepair.Program.Lines
import VariantRepair.Program.Module

/-!
Programs taken apart into atoms: the lines of a text, or a module with slots for its simple
statements. The operations here trust that their atoms exist.
-/

namespace VariantRepair

/-- A program taken apart. -/
inductive Program where
  | lines (ls : List String)
  | module (m : Program.SlotModule)

namespace Program

/-- How the program is taken apart. -/
def backend : Program → Backend
  | lines _ => .lines
  | module _ => .python

/-- The program without any atom. -/
def empty : Backend → Program
  | .lines => lines []
  | .python => module .empty

instance : Inhabited Program := ⟨empty .lines⟩

/-- The program that a text holds. -/
def read (b : Backend) (text : String) : Except Failure Program :=
  match b with
  | .lines => .ok (lines (Lines.ofText text))
  | .python => ((SlotModule.read text).map module).mapError Failure.ofSource

/-- The number of atoms. -/
def size : Program → Nat
  | lines ls => ls.length
  | module m => m.size

/-- The text of the program. -/
def text : Program → Except Failure String
  | lines ls => .ok (Lines.text ls)
  | module m => m.text.mapError Failure.ofPrinting

/-- The atoms that cover a line. -/
def atomsAtLine (p : Program) (line : Int) : List Int :=
  match p with
  | lines ls => if 1 ≤ line ∧ line ≤ ls.length then [line] else []
  | module m => (m.atomsAtLine line).map fun a : Nat => (a : Int)

/-! ### Edits -/

/-- Remove an atom. -/
def delete (p : Program) (atom : Nat) : Program :=
  match p with
  | lines ls => lines (Lines.delete ls atom)
  | module m => module (m.delete atom)

/-- Put a copy of an atom behind another. -/
def append (p : Program) (target source : Nat) : Program :=
  match p with
  | lines ls => lines (Lines.append ls target source)
  | module m => module (m.append target source)

/-- Exchange two atoms. -/
def swap (p : Program) (first second : Nat) : Program :=
  match p with
  | lines ls => lines (Lines.swap ls first second)
  | module m => module (m.swap first second)

end Program

end VariantRepair
