import VariantRepair.Weight
import VariantRepair.Failure

/-!
Choice by weight: the running sums of the weights cut an interval into one piece for each entry,
and a point of the interval chooses the entry whose piece it lies in.
-/

namespace VariantRepair

variable {α W : Type} [Weight W]

/-- The first entry with a positive weight whose running sum reaches the point; `sum` is the sum
of the entries before. -/
def reaching? (point sum : W) : List (α × W) → Option (α × W)
  | [] => none
  | (a, w) :: rest =>
    let sum := sum + w
    if point ≤ sum ∧ 0 < w then some (a, w) else reaching? point sum rest

/-- The last entry with a positive weight. -/
def lastPositive? (entries : List (α × W)) : Option (α × W) :=
  entries.reverse.find? fun e => decide (0 < e.2)

/-- The total weight, when there is something to choose from. -/
def choiceTotal (entries : List (α × W)) : Except Failure W :=
  if entries.isEmpty then .error (.refused .emptyLocalization)
  else
    let total := Weight.sum (entries.map (·.2))
    if total ≤ 0 then .error (.refused .zeroLocalization) else .ok total

/-- The entry that a point chooses; a point beyond the last sum chooses the last entry. -/
def chooseAt (entries : List (α × W)) (point : W) : Except Failure (α × W) :=
  match reaching? point 0 entries with
  | some e => .ok e
  | none =>
    match lastPositive? entries with
    | some e => .ok e
    | none => .error (.refused .zeroLocalization)

end VariantRepair
