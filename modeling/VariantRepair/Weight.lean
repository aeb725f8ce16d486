/-!
Weights: the numbers that localization, random choice and fitness compute with. Running programs
use doubles; any ordered field will do.
-/

namespace VariantRepair

/-- Numbers that can be added, multiplied and compared. -/
class Weight (W : Type) extends Zero W, One W, Add W, Mul W, LE W, LT W where
  decLE : ∀ a b : W, Decidable (a ≤ b)
  decLT : ∀ a b : W, Decidable (a < b)
  /-- Is the number finite? -/
  finite : W → Bool

instance Weight.decidableLE (W : Type) [Weight W] (a b : W) : Decidable (a ≤ b) := Weight.decLE a b

instance Weight.decidableLT (W : Type) [Weight W] (a b : W) : Decidable (a < b) := Weight.decLT a b

instance : Weight Float where
  zero := 0.0
  one := 1.0
  decLE := fun a b => Float.decLe a b
  decLT := fun a b => Float.decLt a b
  finite := Float.isFinite

namespace Weight

variable {W : Type} [Weight W]

/-- The sum of a list of weights, from the left. -/
def sum (ws : List W) : W :=
  ws.foldl (· + ·) 0

/-- The weight, or zero if it is not positive. -/
def clamp (w : W) : W :=
  if 0 < w then w else 0

/-- Does the weight lie between zero and one? -/
def inUnit (w : W) : Bool :=
  decide (0 ≤ w) && decide (w ≤ 1)

end Weight

end VariantRepair
