import VariantRepair.Value.Container
import VariantRepair.Variant.Basic

/-!
Variants with altered parts. A stored state can put values of any type in place of the parts of a
variant, and even of its operations. Such a part is used as far as its value allows, and where it
does not, an operation fails; what the operation has done before stays done.

The parts go by the names that they have in stored states.
-/

namespace VariantRepair

/-- A variant, and the values that are in place of some of its parts. -/
structure Altered where
  variant : Variant Float
  parts : List (String × Value)

namespace Altered

instance : Inhabited Altered := ⟨{ variant := default, parts := [] }⟩

/-- A variant that has all its parts. -/
def ofVariant (v : Variant Float) : Altered :=
  { variant := v, parts := [] }

/-- The name of the part that holds the atoms. -/
def atomsPart : Backend → String
  | .lines => "_lines"
  | .python => "_slots"

/-- The names of the parts that a fresh program replaces. -/
def programParts : List String :=
  ["_lines", "_slots", "_spans", "_header", "_template", "_localization", "_history"]

/-- The names of the parts that are shared between variants and are not stored. -/
def sharedParts : List String :=
  ["config", "cache", "stats", "compiler", "harness"]

/-- What is in place of a part. -/
def part? (a : Altered) (name : String) : Option Value :=
  a.parts.lookup name

/-- The variant without what is in place of some parts. -/
def restore (a : Altered) (names : List String) : Altered :=
  { a with parts := a.parts.filter fun p => !names.contains p.1 }

/-- The variant with a value in place of a part. -/
def replace (a : Altered) (name : String) (v : Value) : Altered :=
  { a with parts := (name, v) :: a.parts.filter fun p => p.1 != name }

/-- An operation can be called unless a value is in its place. -/
def callable (a : Altered) (operation : String) : Except Failure Unit :=
  match a.part? operation with
  | some v => .error (.misuse (.notCallable v.typeName))
  | none => .ok ()

/-- A part provides what it should unless a value is in its place. -/
def provides (a : Altered) (part asked : String) : Except Failure Unit :=
  match a.part? part with
  | some v => .error (.noAttribute v.typeName asked)
  | none => .ok ()

/-! ### Reading -/

/-- The name of the backend. -/
def key (a : Altered) : Value :=
  (a.part? "key").getD (.str a.variant.backend.key)

/-- The suffix of rendered sources. -/
def suffix (a : Altered) : Value :=
  (a.part? "source_suffix").getD (.str a.variant.suffix)

/-- The name of a rendered source. -/
def sourceName (a : Altered) (start : String) : Except Failure String :=
  a.suffix.needText.map (start ++ ·)

/-- The number of atoms. -/
def size (a : Altered) : Except Failure Nat := do
  a.callable "max_atom"
  match a.part? (atomsPart a.variant.backend) with
  | some v => v.needLength
  | none => return a.variant.size

/-- The name of the variant. -/
def name (a : Altered) : Except Failure String := do
  a.callable "name"
  match a.part? "_history" with
  | none => return a.variant.name
  | some v =>
    if v.truthy then
      return " ".intercalate (← (← v.needItems).mapM Value.needText)
    else return "original"

/-- The edits that were made. -/
def history (a : Altered) : Except Failure (List Edit) := do
  match a.part? "_history" with
  | none => return a.variant.history
  | some v =>
    match ← v.needItems with
    | [] => return []
    | e :: _ => throw (.noAttribute e.typeName "op")

/-- An operation that the backend does not provide. -/
def unimplemented (a : Altered) (operation : String) : Failure :=
  let backend := if a.key.truthy then a.key.text else ""
  .repair (.unimplemented operation backend)

/-- The module with its parts, when they are such that it has a text. -/
def module (a : Altered) (m : Program.SlotModule) : Except Failure Program.SlotModule := do
  a.callable "_render"
  a.provides "_template" "_fields"
  let m ←
    match a.part? "_slots" with
    | none => pure m
    | some (.map _) => pure { m with slots := [] }
    | some v =>
      if (Language.blockLeaves m.template).isEmpty then pure m
      else throw (.noAttribute v.typeName "get")
  match a.part? "_header" with
  | none | some (.list []) => return m
  | some (.list (item :: _)) => throw (.noAttribute item.typeName "_fields")
  | some (.str _) => throw (.misuse (.textConcatenation "list"))
  | some v => throw (.misuse (.operands "+" v.typeName "list"))

/-- The text of the program. -/
def text (a : Altered) : Except Failure String := do
  a.callable "output_source"
  match a.variant.program, a.part? "_lines" with
  | .lines _, some v => if v.truthy then return (← v.join "\n") ++ "\n" else return ""
  | .lines ls, none => return Program.Lines.text ls
  | .module m, _ => (← a.module m).text.mapError .ofPrinting

/-- The text of the program with a probe before each atom. -/
def probedText (a : Altered) : Except Failure String := do
  a.callable "instrumented_source"
  match a.variant.program with
  | .lines _ => throw (a.unimplemented "instrumented_source")
  | .module m => (← a.module m).probedText.mapError .ofPrinting

/-- The atoms with a positive weight. -/
def weighted (a : Altered) : Except Failure (List (Int × Float)) := do
  a.callable "get_localization"
  a.provides "_localization" "entries"
  return a.variant.weighted

/-- All atoms with their weights. -/
def allWeighted (a : Altered) (untouched : Float) : Except Failure (List (Int × Float)) := do
  a.callable "get_full_localization"
  a.provides "_localization" "full"
  let n ← a.size
  a.provides "config" "untouched_weight"
  return a.variant.localization.full n untouched

/-- The atoms of a module with the lines that they had in the text. -/
def spanPairs (a : Altered) (m : Program.SlotModule) : Except Failure (List (Value × Value)) :=
  match a.part? "_spans" with
  | some (.map pairs) => Value.sortedPairs pairs
  | some v => .error (.noAttribute v.typeName "items")
  | none =>
    .ok ((m.spans.zipIdx 1).map fun (span, atom) => (.int atom, .list [.int span.1, .int span.2]))

/-- The atoms that cover a line, which may be any value. -/
def atomsAtLine (a : Altered) (line : Value) : Except Failure (List Value) := do
  a.callable "atoms_at_line"
  match a.variant.program, line, a.parts with
  | program, .int n, [] => return (program.atomsAtLine n).map .int
  | .lines _, _, _ =>
    if !(← (Value.int 1).atMost line) then return []
    let n ← match a.part? "_lines" with
      | some v => v.needLength
      | none => pure a.variant.size
    return if ← line.atMost (.int n) then [line] else []
  | .module m, _, _ =>
    (← a.spanPairs m).filterMapM fun (atom, span) => do
      let (first, last) ← span.pair
      return if ← line.isBetween first last then some atom else none

/-- The line at a position counted from one. -/
def line (a : Altered) (position : Value) : Except Failure Value := do
  a.callable "line"
  match a.variant.program with
  | .lines ls =>
    let lines := (a.part? "_lines").getD (.list (ls.map .str))
    lines.item (← position.minusOne)
  | .module _ => throw (.noAttribute a.variant.backend.className "line")

/-- The text of what an atom of a module holds. -/
def slotText (a : Altered) (atom : Value) : Except Failure String := do
  a.callable "slot_source"
  match a.variant.program with
  | .lines _ => throw (.noAttribute a.variant.backend.className "slot_source")
  | .module m =>
    match a.part? "_slots" with
    | some v =>
      match ← (← v.item atom).needItems with
      | [] => return ""
      | s :: _ => throw (.noAttribute s.typeName "_fields")
    | none =>
      let slots := m.slots.zipIdx 1
      if !atom.hashable then throw (.misuse (.unhashable atom.typeName))
      match slots.find? fun s => Value.int s.2 == atom with
      | some (slot, _) => (Program.SlotModule.slotText slot).mapError .ofPrinting
      | none => throw (.naming atom .key)

/-! ### Edits -/

/-- A change of a variant. What was changed before a failure stays changed. -/
abbrev Alteration := ExceptT Failure (StateM Altered)

/-- Read something off the variant. -/
def reading {α : Type} (f : Altered → Except Failure α) : Alteration α := do
  ofExcept (f (← get))

/-- Change the parts that the variant has. -/
def change (f : Variant Float → Variant Float) : Alteration Unit :=
  modify fun a => { a with variant := f a.variant }

/-- Change something of a variant that has all its parts. -/
def changePlain (f : Variant Float → Except Failure (Variant Float)) : Alteration Unit := do
  let v ← ofExcept (f (← get).variant)
  change fun _ => v

/-- Do atoms get new numbers when one is deleted or inserted? -/
def isCompact (a : Altered) : Bool :=
  (a.part? "renumbering").isNone && a.variant.backend.renumbering == .compact

/-- Note that an edit was made. -/
def note (e : Edit) : Alteration Unit := do
  match (← get).part? "_history" with
  | none => change fun v => { v with history := v.history ++ [e] }
  | some (.list items) => modify (·.replace "_history" (.list (items ++ [.str e.text])))
  | some v => throw (.noAttribute v.typeName "append")

/-- Remove an atom from the program. -/
def deleteAtom (atom : Int) : Alteration Unit := do
  reading (·.callable "_delete")
  let part := atomsPart (← get).variant.backend
  match (← get).variant.backend, (← get).part? part with
  | _, none => change fun v => { v with program := v.program.delete atom.toNat }
  | .lines, some (.list items) =>
    modify (·.replace part (.list (items.eraseIdx (atom.toNat - 1))))
  | .lines, some (.map pairs) =>
    let _ ← ofExcept (Value.atKey pairs (.int (atom - 1)))
  | .lines, some v => throw (.misuse (.noItemDeletion v.typeName))
  | .python, some v =>
    match v with
    | .list items =>
      if items.length ≤ atom then throw (.index "list assignment index out of range")
      modify (·.replace part (v.withItem atom (.list [])))
    | .map _ => modify (·.replace part (v.withItem atom (.list [])))
    | v => throw (.misuse (.noItemAssignment v.typeName))

/-- Put a copy of an atom behind another in the program. -/
def appendAtom (target source : Int) : Alteration Unit := do
  reading (·.callable "_append")
  let part := atomsPart (← get).variant.backend
  match (← get).variant.backend, (← get).part? part with
  | _, none => change fun v => { v with program := v.program.append target.toNat source.toNat }
  | .lines, some (.list items) =>
    let copied ← ofExcept (Value.item (.list items) (.int (source - 1)))
    modify (·.replace part (.list (items.insertIdx target.toNat copied)))
  | .lines, some v => throw (.noAttribute v.typeName "insert")
  | .python, some v =>
    match ← ofExcept (v.item (.int target)) with
    | .list items =>
      let copied ← ofExcept (v.item (.int source) >>= Value.needItems)
      modify (·.replace part (v.withItem target (.list (items ++ copied))))
    | slot => throw (.noAttribute slot.typeName "extend")

/-- Exchange two atoms of the program. -/
def swapAtoms (first second : Int) : Alteration Unit := do
  reading (·.callable "_swap")
  let part := atomsPart (← get).variant.backend
  let shift := if part == "_lines" then 1 else 0
  match (← get).part? part with
  | none => change fun v => { v with program := v.program.swap first.toNat second.toNat }
  | some v =>
    let b ← ofExcept (v.item (.int (second - shift)))
    let a ← ofExcept (v.item (.int (first - shift)))
    match v with
    | .list _ | .map _ =>
      modify (·.replace part ((v.withItem (first - shift) b).withItem (second - shift) a))
    | v => throw (.misuse (.noItemAssignment v.typeName))

/-- The id that a value is. -/
def atomOf (atom : Value) (size : Nat) : Alteration Int :=
  ofExcept (checkAtom atom size)

/-- Remove an atom. -/
def delete (atom : Value) : Alteration Unit := do
  if (← get).parts.isEmpty then changePlain (·.delete atom)
  else
    reading (·.callable "delete")
    let id ← atomOf atom (← reading size)
    deleteAtom id
    if (← get).isCompact then
      reading (·.provides "_localization" "remove_atom")
      change fun v => { v with localization := v.localization.remove id }
    note (.delete id)

/-- Put a copy of an atom behind another. -/
def append (untouched : Float) (target source : Value) : Alteration Unit := do
  if (← get).parts.isEmpty then changePlain (·.append untouched target source)
  else
    reading (·.callable "append")
    let n ← reading size
    let d ← atomOf target n
    let s ← atomOf source n
    reading (·.provides "_localization" "weight")
    reading (·.provides "config" "untouched_weight")
    let weight := (← get).variant.localization.getD s untouched
    appendAtom d s
    if (← get).isCompact then
      change fun v => { v with localization := v.localization.insertAfter d weight }
    note (.append d s)

/-- Exchange two atoms; an atom with itself is no edit. -/
def swap (first second : Value) : Alteration Unit := do
  if (← get).parts.isEmpty then changePlain (·.swap first second)
  else
    reading (·.callable "swap")
    let n ← reading size
    let a ← atomOf first n
    let b ← atomOf second n
    if a ≠ b then
      swapAtoms a b
      note (.swap a b)

/-- Make an edit. -/
def apply (untouched : Float) : Edit → Alteration Unit
  | .delete a => delete (.int a)
  | .append d s => append untouched (.int d) (.int s)
  | .swap a b => swap (.int a) (.int b)

/-- Make edits in turn. -/
def applyAll (untouched : Float) : List Edit → Alteration Unit
  | [] => return
  | e :: es => do
    apply untouched e
    applyAll untouched es

/-! ### Programs and weights -/

/-- Put the program that a text holds in place of the one there is. -/
def readText (text : String) : Alteration Unit := do
  reading (·.callable "from_source")
  changePlain (·.readText text)
  modify (·.restore programParts)

/-- Give the sources that are rendered a suffix. -/
def setSuffix (suffix : String) : Alteration Unit := do
  change fun v => { v with ownSuffix := some suffix }
  modify (·.restore ["source_suffix"])

/-- Put weights in place of those there are. -/
def setLocalization (l : Localization Float) : Alteration Unit := do
  change fun v => { v with localization := l }
  modify (·.restore ["_localization"])

end Altered

end VariantRepair
