import Mathlib.Algebra.Order.Field.Power
import Mathlib.Algebra.Order.Field.Rat
import Mathlib.Data.Int.ConditionallyCompleteOrder
import Mathlib.Data.Prod.Lex
import Mathlib.Order.WithBot
import VariantRepair.Weight

/-!
# Exact arithmetic

The numbers of an ordered ring are weights that are added, multiplied and compared without any
rounding. Each finite double is a rational number, and has the sign of that number.

Doubles between zero and one are compared by their ranks, which are in a linear order; two of them
are equal exactly when neither is less. The two zeros have the same rank.
-/

namespace VariantRepair

/-- Exact arithmetic with the numbers of an ordered ring, all of which are finite. -/
instance Weight.exact (K : Type) [CommRing K] [LinearOrder K] : Weight K where
  decLE _ _ := inferInstance
  decLT _ _ := inferInstance
  finite _ := true

namespace Weight

variable {K : Type} [CommRing K] [LinearOrder K]

lemma sum_eq (ws : List K) : sum ws = ws.sum :=
  List.sum_eq_foldl.symm

lemma clamp_eq (w : K) : clamp w = max w 0 := by
  rw [clamp]
  rcases lt_or_ge 0 w with h | h
  · rw [max_eq_left h.le]
    exact if_pos h
  · rw [max_eq_right h]
    exact if_neg h.not_gt

/-- A reading of weights in another arithmetic that keeps the signs of those between zero and
one. -/
structure KeepsSign {V W : Type} [Weight V] [Weight W] (f : V → W) : Prop where
  nonneg {w : V} (h : inUnit w = true) : 0 ≤ f w
  pos_iff {w : V} (h : inUnit w = true) : 0 < f w ↔ 0 < w

end Weight

/-! ### Doubles as rational numbers -/

namespace Number

open Float.Model

/-- The rational number that a double is; zero for one that is not finite. -/
def exact (x : Float) : ℚ :=
  match x.toModel.unpack with
  | .finite .positive mantissa exponent _ => mantissa * 2 ^ exponent
  | .finite .negative mantissa exponent _ => -(mantissa * 2 ^ exponent)
  | _ => 0

lemma lt_iff_unpack {x y : Float} : x < y ↔ x.toModel.unpack.lt y.toModel.unpack = true := by
  change Float.lt x y = true ↔ _
  rw [Float.lt, decide_eq_true_eq]
  rfl

lemma le_iff_unpack {x y : Float} : x ≤ y ↔ x.toModel.unpack.le y.toModel.unpack = true := by
  change Float.le x y = true ↔ _
  rw [Float.le, decide_eq_true_eq]
  rfl

/-- A double between zero and one is zero, or it is finite and positive. -/
lemma unpack_of_inUnit {x : Float} (h : Weight.inUnit x = true) :
    (∃ s, x.toModel.unpack = .zero s) ∨ ∃ m e h, x.toModel.unpack = .finite .positive m e h := by
  rw [Weight.inUnit, Bool.and_eq_true, decide_eq_true_eq, decide_eq_true_eq] at h
  have hzero : UnpackedFloat.le (.zero .positive) x.toModel.unpack = true := le_iff_unpack.mp h.1
  have hone : x.toModel.unpack.le (.finite .positive (2 ^ 52) (-52) (by decide)) = true :=
    le_iff_unpack.mp h.2
  revert hzero hone
  cases x.toModel.unpack with
  | infinity s =>
    cases s with
    | positive => exact fun _ hone => absurd hone Bool.false_ne_true
    | negative => exact fun hzero => absurd hzero Bool.false_ne_true
  | notANumber => exact fun hzero => absurd hzero Bool.false_ne_true
  | zero s => exact fun _ _ => .inl ⟨s, rfl⟩
  | finite s m e h =>
    cases s with
    | positive => exact fun _ _ => .inr ⟨m, e, h, rfl⟩
    | negative => exact fun hzero => absurd hzero Bool.false_ne_true

lemma finite_pos {mantissa : Nat} (h : 0 < mantissa) (exponent : Int) :
    (0 : ℚ) < mantissa * 2 ^ exponent :=
  mul_pos (Nat.cast_pos.mpr h) (zpow_pos two_pos exponent)

/-- The exact value of a double between zero and one has the sign of the double. -/
lemma keepsSign_exact : Weight.KeepsSign exact where
  nonneg {x} h := by
    obtain ⟨s, hx⟩ | ⟨m, e, hm, hx⟩ := unpack_of_inUnit h
    · rw [exact, hx]
    · rw [exact, hx]
      exact (finite_pos hm e).le
  pos_iff {x} h := by
    have hlt : 0 < x ↔ UnpackedFloat.lt (.zero .positive) x.toModel.unpack = true := lt_iff_unpack
    refine Iff.trans ?_ hlt.symm
    obtain ⟨s, hx⟩ | ⟨m, e, hm, hx⟩ := unpack_of_inUnit h
    · rw [exact, hx]
      exact iff_of_false (lt_irrefl (0 : ℚ)) Bool.false_ne_true
    · rw [exact, hx]
      exact iff_of_true (finite_pos hm e) rfl

end Number

end VariantRepair

namespace VariantRepair.Number

/-! ### The order of weights -/

open Float.Model

/-- Where a double that is not negative stands among the others: zero comes first, then the exponent
decides and after it the mantissa. -/
def rank (x : Float) : WithBot (ℤ ×ₗ ℕ) :=
  match x.toModel.unpack with
  | .finite _ mantissa exponent _ => ↑(toLex (exponent, mantissa))
  | _ => ⊥

section Rank

variable {x y z : Float} {m m' : ℕ} {e e' : ℤ}

lemma compare_toLex : compare (↑(toLex (e, m)) : WithBot (ℤ ×ₗ ℕ)) ↑(toLex (e', m'))
    = (compare e e').then (compare m m') := by
  rcases lt_trichotomy e e' with he | rfl | he
  · rw [compare_lt_iff_lt.mpr he, Ordering.lt_then, compare_lt_iff_lt, WithBot.coe_lt_coe,
      Prod.Lex.toLex_lt_toLex]
    exact .inl he
  · rw [compare_eq_iff_eq.mpr rfl, Ordering.eq_then]
    rcases lt_trichotomy m m' with hm | rfl | hm
    · rw [compare_lt_iff_lt.mpr hm, compare_lt_iff_lt, WithBot.coe_lt_coe,
        Prod.Lex.toLex_lt_toLex]
      exact .inr ⟨rfl, hm⟩
    · rw [compare_eq_iff_eq.mpr rfl, compare_eq_iff_eq.mpr rfl]
    · rw [compare_gt_iff_gt.mpr hm, compare_gt_iff_gt, WithBot.coe_lt_coe,
        Prod.Lex.toLex_lt_toLex]
      exact .inr ⟨rfl, hm⟩
  · rw [compare_gt_iff_gt.mpr he, Ordering.gt_then, compare_gt_iff_gt, WithBot.coe_lt_coe,
      Prod.Lex.toLex_lt_toLex]
    exact .inl he

/-- Doubles between zero and one are compared by their ranks. -/
lemma compare_unpack (hx : Weight.inUnit x = true) (hy : Weight.inUnit y = true) :
    x.toModel.unpack.compare y.toModel.unpack = some (compare (rank x) (rank y)) := by
  rw [rank, rank]
  obtain ⟨s, hx⟩ | ⟨m, e, hm, hx⟩ := unpack_of_inUnit hx
  · obtain ⟨s', hy⟩ | ⟨m', e', hm', hy⟩ := unpack_of_inUnit hy
    · rw [hx, hy]
      exact congrArg some (compare_eq_iff_eq.mpr rfl).symm
    · rw [hx, hy]
      exact congrArg some (compare_lt_iff_lt.mpr (WithBot.bot_lt_coe _)).symm
  · obtain ⟨s', hy⟩ | ⟨m', e', hm', hy⟩ := unpack_of_inUnit hy
    · rw [hx, hy]
      exact congrArg some (compare_gt_iff_gt.mpr (WithBot.bot_lt_coe _)).symm
    · rw [hx, hy]
      exact congrArg some compare_toLex.symm

lemma lt_iff_rank (hx : Weight.inUnit x = true) (hy : Weight.inUnit y = true) :
    x < y ↔ rank x < rank y := by
  rw [lt_iff_unpack, UnpackedFloat.lt, compare_unpack hx hy, ← compare_lt_iff_lt]
  simp

lemma le_iff_rank (hx : Weight.inUnit x = true) (hy : Weight.inUnit y = true) :
    x ≤ y ↔ rank x ≤ rank y := by
  rw [le_iff_unpack, UnpackedFloat.le, compare_unpack hx hy, ← compare_le_iff_le, Option.any_some,
    Ordering.isLE_iff_ne_gt]

lemma beq_iff_rank (hx : Weight.inUnit x = true) (hy : Weight.inUnit y = true) :
    (x == y) = true ↔ rank x = rank y := by
  change (x.toModel.unpack.compare y.toModel.unpack == some .eq) = true ↔ _
  rw [compare_unpack hx hy, ← compare_eq_iff_eq]
  simp

lemma not_lt_zero (hx : Weight.inUnit x = true) : ¬ x < 0.0 := by
  have hzero : Weight.inUnit (0.0 : Float) = true := by decide +kernel
  have hbot : rank 0.0 = ⊥ := rfl
  rw [lt_iff_rank hx hzero, hbot]
  exact not_lt_bot

protected lemma le_of_lt (hx : Weight.inUnit x = true) (hy : Weight.inUnit y = true) (h : x < y) :
    x ≤ y :=
  (le_iff_rank hx hy).mpr ((lt_iff_rank hx hy).mp h).le

protected lemma le_of_not_lt (hx : Weight.inUnit x = true) (hy : Weight.inUnit y = true)
    (h : ¬ x < y) : y ≤ x :=
  (le_iff_rank hy hx).mpr (not_lt.mp (mt (lt_iff_rank hx hy).mpr h))

protected lemma le_refl (hx : Weight.inUnit x = true) : x ≤ x :=
  (le_iff_rank hx hx).mpr le_rfl

protected lemma le_trans (hx : Weight.inUnit x = true) (hy : Weight.inUnit y = true)
    (hz : Weight.inUnit z = true) (hxy : x ≤ y) (hyz : y ≤ z) : x ≤ z :=
  (le_iff_rank hx hz).mpr (((le_iff_rank hx hy).mp hxy).trans ((le_iff_rank hy hz).mp hyz))

/-- Two weights of which neither is greater are equal. -/
lemma beq_of_le (hx : Weight.inUnit x = true) (hy : Weight.inUnit y = true) (hxy : x ≤ y)
    (hyx : y ≤ x) : (x == y) = true :=
  (beq_iff_rank hx hy).mpr (((le_iff_rank hx hy).mp hxy).antisymm ((le_iff_rank hy hx).mp hyx))

end Rank

end VariantRepair.Number
