import VariantRepair.Value.Container
import VariantRepair.Localization.Basic

/-!
Operations on a localization whose arguments are any values: weights are checked, and ids are
converted to integers or compared as the numbers they are.
-/

namespace VariantRepair.Localization

/-- A weight between zero and one. -/
def checkWeight (v : Value) : Except Failure Float :=
  match v.toFloat with
  | .error e => .error (.ofConversion e)
  | .ok x => if Weight.inUnit x then .ok x else .error (.refused (.weight v.display))

/-- The integer that a value stands for as an id. -/
def toId (v : Value) : Except Failure Int :=
  v.toInt.mapError .ofConversion

/-- Give an atom a weight. The weight is checked first. -/
def setValue (l : Localization Float) (atom weight : Value) :
    Except Failure (Localization Float) := do
  let w ← checkWeight weight
  let a ← toId atom
  return l.set a w

/-- Give atoms their weights in turn. -/
def ofValues (pairs : List (Value × Value)) : Except Failure (Localization Float) :=
  pairs.foldlM (fun l p => l.setValue p.1 p.2) ∅

/-- Drop the atom that a value is equal to and shift the ids above the value down by one. An id next
above a fraction meets the one below it, and of the two the one that came later gives the weight. -/
def removeValue (l : Localization Float) (v : Value) : Except Failure (Localization Float) := do
  let pairs ← l.pairs.filterMapM fun p => do
    match ← v.position "<" p.1 with
    | some .lt => return some p
    | some .gt => return some (p.1 - 1, p.2)
    | _ => return none
  return ofList pairs

/-- Shift the ids above a value up by one. -/
def shiftUpValue (l : Localization Float) (v : Value) : Except Failure (Localization Float) := do
  let pairs ← l.pairs.mapM fun p => do
    match ← v.position ">" p.1 with
    | some .gt => return (p.1 + 1, p.2)
    | _ => return p
  return { pairs }

/-- The value one above a number. -/
def successor (v : Value) : Except Failure Value :=
  match v.whole? with
  | some n => .ok (.int (n + 1))
  | none =>
    match v with
    | .float x => .ok (.float (x + 1))
    | .str _ => .error (.misuse (.textConcatenation "int"))
    | .list _ => .error (.misuse (.listConcatenation "int"))
    | v => .error (.misuse (.operands "+" v.typeName "int"))

/-- Shift the ids above a value up by one and give the id after it a weight, if there is one. The
ids stay shifted when the weight is refused. -/
def insertAfterValue (l : Localization Float) (v weight : Value) :
    Localization Float × Option Failure :=
  match l.shiftUpValue v with
  | .error e => (l, some e)
  | .ok shifted =>
    match weight with
    | .null => (shifted, none)
    | weight =>
      match successor v >>= fun next => shifted.setValue next weight with
      | .error e => (shifted, some e)
      | .ok l => (l, none)

/-- The weights as a mapping. -/
def toMap (l : Localization Float) : Value :=
  .map (l.sorted.map fun p => (.int p.1, .float p.2))

/-- The form of a localization in messages, if its ids can be written. -/
def shown (l : Localization Float) : Except Failure String :=
  match l.toMap.shown with
  | .ok s => .ok ("FaultLocalization(" ++ s ++ ")")
  | .error e => .error (.ofConversion e)

/-- Do two localizations give the same atoms equal weights? -/
def equal (l m : Localization Float) : Bool :=
  l.pairs.length == m.pairs.length &&
    (l.sorted.zip m.sorted).all fun (p, q) => p.1 == q.1 && p.2 == q.2

end VariantRepair.Localization
