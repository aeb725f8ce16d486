import VariantRepair.Number.Written
import VariantRepair.Localization.Checked
import VariantRepair.Variant.Altered

/-!
A listing of the atoms of a variant, a line for each, with their weights.
-/

namespace VariantRepair

/-- A text at the end of four places. -/
def fourPlaces (text : String) : String :=
  String.ofList (List.replicate (4 - text.length) ' ') ++ text

/-- What is shown of an atom's text: its first line, and how many there are behind it. -/
def preview (text : String) : String :=
  match Text.lines text with
  | [] => "<deleted>"
  | [l] => l
  | l :: ls => l ++ s!" ... (+{ls.length} lines)"

/-- The line of an atom; `place` tells where the atom was in the text, if that is known. -/
def atomLine (atom place : String) (weight : Float) (text : String) : String :=
  "  " ++ fourPlaces atom ++ " " ++ place ++ "w=" ++ Number.twoPlaces weight ++ " " ++ text

/-- The lines that some items give, up to one that gives none, and the failure that it is. -/
def linesOf {α : Type} (f : α → Except Failure String) : List α → List String × Option Failure
  | [] => ([], none)
  | x :: xs =>
    match f x with
    | .error e => ([], some e)
    | .ok line => (line :: (linesOf f xs).1, (linesOf f xs).2)

namespace Altered

/-- The weight that an atom is shown with. -/
def shownWeight (a : Altered) (untouched : Float) (atom : Value) : Except Failure Float := do
  a.provides "_localization" "weight"
  a.provides "config" "untouched_weight"
  return a.variant.localization.getD (← Localization.toId atom) untouched

/-- The line of a line of text. -/
def itemLine (a : Altered) (untouched : Float) (item : Value × Nat) : Except Failure String := do
  let weight ← a.shownWeight untouched (.int item.2)
  return atomLine (toString item.2) "" weight (← item.1.needText)

/-- Where an atom of a module was in the text; line zero if that is not known. -/
def placeOf (a : Altered) (spans : List (Value × Value)) (atom : Value) :
    Except Failure String := do
  match a.part? "_spans" with
  | none | some (.map _) =>
    let (first, last) ← ((Value.lookup atom spans).getD (.list [.int 0, .int 0])).pair
    return "L" ++ (← first.needText) ++ "-" ++ (← last.needText) ++ " "
  | some v => throw (.noAttribute v.typeName "get")

/-- The line of an atom of a module. -/
def slotLine (a : Altered) (untouched : Float) (spans : List (Value × Value)) (atom : Value) :
    Except Failure String := do
  let place ← a.placeOf spans atom
  let text ← a.slotText atom
  let weight ← a.shownWeight untouched atom
  return atomLine (← atom.needText) place weight (preview text)

/-- The atoms of a module: its numbers, or what is in their place. -/
def slotAtoms (a : Altered) (m : Program.SlotModule) : Except Failure (List Value) :=
  match a.part? "_slots" with
  | none => .ok ((atomIds m.size).map Value.int)
  | some (.map pairs) => (Value.sortedPairs pairs).map fun ps => ps.map (·.1)
  | some v => v.needItems

/-- The first line of a listing. -/
def listingHead (a : Altered) : Except Failure String := do
  a.callable "debug_info"
  let n ← a.size
  let name ← a.name
  return s!"[Debug] {a.variant.backend.key} representation: {n} atoms, variant {name}"

/-- The lines of a listing, and the failure that ends it early. -/
def listing (a : Altered) (untouched : Float) : List String × Option Failure :=
  match a.listingHead with
  | .error e => ([], some e)
  | .ok head =>
    let (lines, failure) :=
      match a.variant.program with
      | .lines ls =>
        let items := (a.part? "_lines").elim (ls.map Value.str) fun v => v.items?.getD []
        linesOf (a.itemLine untouched) (items.zipIdx 1)
      | .module m =>
        let spans := (a.spanPairs m).toOption.getD []
        match a.slotAtoms m with
        | .error e => ([], some e)
        | .ok atoms => linesOf (a.slotLine untouched spans) atoms
    (head :: lines, failure)

end Altered

end VariantRepair
