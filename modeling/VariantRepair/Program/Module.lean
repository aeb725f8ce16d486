import VariantRepair.Language.Parser.Module
import VariantRepair.Language.Leaves
import VariantRepair.Language.Filled
import VariantRepair.Language.Printer.Module
import VariantRepair.Program.Probe

/-!
Modules whose simple statements are atoms. The tree of the module is kept with numbers for its
simple statements, and the statements themselves are kept in slots, one for each number. A deleted
atom leaves its slot empty, so that every number stays valid.
-/

namespace VariantRepair.Program

open VariantRepair.Language

/-- A module, its simple statements in slots. -/
structure SlotModule where
  /-- The statements that stay first: a string that documents the module, and future imports. -/
  header : List Simple
  /-- The other statements, with numbers from one on for the simple ones. -/
  template : List (Stmt Nat)
  /-- What stands at each number. -/
  slots : List (List Simple)
  /-- The first and the last line that each number had in the text. -/
  spans : List (Nat × Nat)

namespace SlotModule

/-- The module without any statement. -/
def empty : SlotModule := ⟨[], [], [], []⟩

instance : Inhabited SlotModule := ⟨empty⟩

/-- Does a statement stay at the head of the module? `isFirst` says that nothing comes before. -/
def isHeader (isFirst : Bool) : Simple → Bool
  | .importFrom module _ _ => module == some "__future__"
  | s => isFirst && s.documentation?.isSome

/-- The statements that stay first, and the others. -/
def splitHeader (isFirst : Bool) : List (Stmt Located) → List Simple × List (Stmt Located)
  | .leaf s :: ss =>
    if isHeader isFirst s.statement then
      let (header, rest) := splitHeader false ss
      (s.statement :: header, rest)
    else ([], .leaf s :: ss)
  | ss => ([], ss)

/-- The module of a parsed tree, each slot holding its own statement. -/
def ofStatements (statements : List (Stmt Located)) : SlotModule :=
  let (header, body) := splitHeader true statements
  let leaves := blockLeaves body
  { header, template := numberBlock 1 body, slots := leaves.map ([·.statement])
    spans := leaves.map fun s => (s.first, s.last) }

/-- The module that a text holds. -/
def read (text : String) : Except SourceError SlotModule :=
  (readModule text).map ofStatements

/-- The number of atoms. -/
def size (m : SlotModule) : Nat := m.slots.length

/-- The statements of an atom; none for a number that no atom has. -/
def slot (m : SlotModule) (atom : Nat) : List Simple :=
  if atom = 0 then [] else m.slots.getD (atom - 1) []

/-! ### Edits -/

/-- Empty the slot of an atom. -/
def delete (m : SlotModule) (atom : Nat) : SlotModule :=
  { m with slots := m.slots.set (atom - 1) [] }

/-- Put what one atom holds behind what another one holds. -/
def append (m : SlotModule) (target source : Nat) : SlotModule :=
  { m with slots := m.slots.set (target - 1) (m.slot target ++ m.slot source) }

/-- Exchange what two atoms hold. -/
def swap (m : SlotModule) (first second : Nat) : SlotModule :=
  { m with slots := (m.slots.set (first - 1) (m.slot second)).set (second - 1) (m.slot first) }

/-! ### Text -/

/-- The tree of the module: each number replaced by its slot, and empty bodies filled. -/
def tree (m : SlotModule) : List (Stmt Simple) :=
  m.header.map .leaf ++ fillBlock (expandBlock m.slot m.template)

/-- The tree of the module with the probe of each atom before its slot, behind the header and the
prologue of the probes. -/
def probedTree (m : SlotModule) : List (Stmt Simple) :=
  m.header.map .leaf ++ probePrologue ++
    fillBlock (expandBlock (fun k => probe k :: m.slot k) m.template)

/-- Statements as text, with a line break at the end unless there are none. -/
def treeText (statements : List (Stmt Simple)) : Printed :=
  if statements.isEmpty then .ok "" else return (← printModule statements) ++ "\n"

/-- The text of the module. -/
def text (m : SlotModule) : Printed :=
  treeText m.tree

/-- The text of the module with probes. -/
def probedText (m : SlotModule) : Printed :=
  treeText m.probedTree

/-- Simple statements as text, one to a line. -/
def slotText (statements : List Simple) : Printed :=
  return "\n".intercalate (← statements.mapM Simple.print)

/-- The atoms whose text covered a line. -/
def atomsAtLine (m : SlotModule) (line : Int) : List Nat :=
  ((m.spans.zipIdx 1).filter fun (span, _) => (span.1 : Int) ≤ line && line ≤ span.2).map (·.2)

end SlotModule

end VariantRepair.Program
