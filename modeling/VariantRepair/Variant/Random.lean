import VariantRepair.Chance
import VariantRepair.Localization.Choice
import VariantRepair.Variant.Altered

/-!
Random edits: the kind is drawn by the weights of the kinds, the atom that is changed by its
suspicion, and the atom that is copied or exchanged with it among all atoms alike.
-/

namespace VariantRepair

variable {G W : Type} [Weight W]

namespace Variant

/-- Atoms by their weights, and all alike if no weight is positive. -/
def evened (entries : List (Int × W)) : List (Int × W) :=
  if entries.any fun e => decide (0 < e.2) then entries else entries.map fun e => (e.1, 1)

/-- The atoms to choose from: those with a positive weight, else all atoms by their weights, and if
no weight is positive all alike. -/
def candidates (v : Variant W) (untouched : W) : List (Int × W) :=
  evened (if v.weighted.isEmpty then v.allWeighted untouched else v.weighted)

/-- An atom by its weight. -/
def drawAtom (dice : Chance.Dice G W) (entries : List (Int × W)) (g : G) : Except Failure Int × G :=
  match choiceTotal entries with
  | .error e => (.error e, g)
  | .ok total =>
    let (point, g) := dice.upTo total g
    ((chooseAt entries point).map (·.1), g)

/-- An edit of a program with `size` atoms drawn at random, the atom that is changed from some
entries. -/
def drawFrom (dice : Chance.Dice G W) (size : Nat) (entries : List (Int × W)) (weights : List W)
    (g : G) : Except Failure Edit × G :=
  match drawAtom dice entries g with
  | (.error e, g) => (.error e, g)
  | (.ok atom, g) =>
    match dice.case weights g with
    | (.error e, g) => (.error e, g)
    | (.ok 0, g) => (.ok (.delete atom), g)
    | (.ok kind, g) =>
      let (other, g) := dice.below size g
      let other : Int := other + 1
      (.ok (if kind = 1 then .append atom other else .swap atom other), g)

/-- The weights of deleting, appending and swapping, none of them negative. -/
def kindWeights (weights : W × W × W) : List W :=
  [weights.1, weights.2.1, weights.2.2].map Weight.clamp

/-- An edit drawn at random. `weights` are those of deleting, appending and swapping. -/
def drawEdit (dice : Chance.Dice G W) (v : Variant W) (untouched : W) (weights : W × W × W)
    (g : G) : Except Failure Edit × G :=
  let weights := kindWeights weights
  if Weight.sum weights ≤ 0 then (.error (.refused .noOperator), g)
  else if v.size = 0 then (.error (.refused .noAtoms), g)
  else drawFrom dice v.size (v.candidates untouched) weights g

/-- Make a number of random edits, each on what the ones before it left; the edits made, and the
failure that ended them early. -/
def drawEdits (dice : Chance.Dice G W) (untouched : W) (weights : W × W × W) :
    (count : Nat) → Variant W → G → List Edit × Option Failure × Variant W × G
  | 0, v, g => ([], none, v, g)
  | count + 1, v, g =>
    match drawEdit dice v untouched weights g with
    | (.error e, g) => ([], some e, v, g)
    | (.ok edit, g) =>
      match v.apply untouched edit with
      | .error e => ([], some e, v, g)
      | .ok v =>
        let (edits, failure, v, g) := drawEdits dice untouched weights count v g
        (edit :: edits, failure, v, g)

end Variant

namespace Altered

/-- The number of atoms and the atoms to choose from. -/
def choices (a : Altered) (untouched : Float) (weights : List Float) :
    Except Failure (Nat × List (Int × Float)) := do
  if Weight.sum weights ≤ 0 then throw (.refused .noOperator)
  let n ← a.size
  if n = 0 then throw (.refused .noAtoms)
  let weighted ← a.weighted
  let entries ← if weighted.isEmpty then a.allWeighted untouched else pure weighted
  return (n, Variant.evened entries)

/-- Make a number of random edits on a variant with altered parts. -/
def drawAltered (dice : Chance.Dice G Float) (untouched : Float) (weights : List Float) :
    (count : Nat) → Altered → G → List Edit × Option Failure × Altered × G
  | 0, a, g => ([], none, a, g)
  | count + 1, a, g =>
    match a.choices untouched weights with
    | .error e => ([], some e, a, g)
    | .ok (n, entries) =>
      match Variant.drawFrom dice n entries weights g with
      | (.error e, g) => ([], some e, a, g)
      | (.ok edit, g) =>
        match (apply untouched edit).run a with
        | (.error e, a) => ([], some e, a, g)
        | (.ok (), a) =>
          let (edits, failure, a, g) := drawAltered dice untouched weights count a g
          (edit :: edits, failure, a, g)

/-- Make a number of random edits; the edits made, and the failure that ended them early. -/
def drawEdits (dice : Chance.Dice G Float) (untouched : Float) (weights : Float × Float × Float)
    (count : Nat) (a : Altered) (g : G) : List Edit × Option Failure × Altered × G :=
  if a.parts.isEmpty then
    let (edits, failure, v, g) := Variant.drawEdits dice untouched weights count a.variant g
    (edits, failure, .ofVariant v, g)
  else drawAltered dice untouched (Variant.kindWeights weights) count a g

end Altered

end VariantRepair
