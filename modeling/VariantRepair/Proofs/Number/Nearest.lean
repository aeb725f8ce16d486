import Mathlib.Algebra.Order.Field.Power
import Mathlib.Algebra.Order.Field.Rat
import Mathlib.Data.Int.Log
import Mathlib.Data.Rat.Floor
import Mathlib.Tactic.FieldSimp
import Mathlib.Tactic.Linarith
import Mathlib.Tactic.NormNum
import Mathlib.Tactic.Ring
import VariantRepair.Number.Shortest

/-!
# The double nearest to a ratio

A double has a mantissa and a power of two, and the ratios that are rounded to it are those of an
interval around it: half a unit of its last place to either side, or a quarter of one below a power
of two, where the doubles lie closer. The ends belong to the interval when the mantissa is even. For
any ratio in the interval the bits of that double are computed.
-/

namespace VariantRepair.Number

variable {num den n d m : Nat} {q e k : Int} {r : ℚ}

/-! ### Scaling -/

lemma twoTo_pos (n : Nat) : 0 < twoTo n := Nat.two_pow_pos n

lemma tenTo_pos (n : Nat) : 0 < tenTo n := Nat.pow_pos (by decide)

@[simp] lemma cast_twoTo (n : Nat) : (twoTo n : ℚ) = 2 ^ n := by
  simp [twoTo]

@[simp] lemma cast_tenTo (n : Nat) : (tenTo n : ℚ) = 10 ^ n := by
  simp [tenTo]

/-- A ratio that is scaled by a power of a base, above or below the line. -/
lemma ratio_scale {base : ℚ} (hbase : base ≠ 0) {power : Nat → Nat}
    (hpower : ∀ n, (power n : ℚ) = base ^ n) (num den : Nat) (k : Int) :
    let s := if 0 ≤ k then (num * power k.toNat, den) else (num, den * power (-k).toNat)
    (s.1 : ℚ) / s.2 = num / den * base ^ k := by
  intro s
  by_cases hk : 0 ≤ k
  · have hs : s = (num * power k.toNat, den) := if_pos hk
    obtain ⟨n, rfl⟩ := Int.eq_ofNat_of_zero_le hk
    rw [hs, zpow_natCast]
    push_cast [hpower, Int.toNat_natCast]
    ring
  · have hs : s = (num, den * power (-k).toNat) := if_neg hk
    obtain ⟨n, hn⟩ := Int.eq_ofNat_of_zero_le (show 0 ≤ -k by omega)
    obtain rfl : k = -n := by omega
    rw [hs, zpow_neg, zpow_natCast]
    push_cast [hpower, neg_neg, Int.toNat_natCast]
    field_simp

lemma ratio_scaleTwo (num den : Nat) (k : Int) :
    ((scaleTwo num den k).1 : ℚ) / (scaleTwo num den k).2 = num / den * 2 ^ k :=
  ratio_scale two_ne_zero cast_twoTo num den k

lemma ratio_scaleTen (num den : Nat) (k : Int) :
    ((scaleTen num den k).1 : ℚ) / (scaleTen num den k).2 = num / den * 10 ^ k :=
  ratio_scale (by norm_num) cast_tenTo num den k

lemma scaleTwo_pos (hden : 0 < den) (num : Nat) (k : Int) : 0 < (scaleTwo num den k).2 := by
  rw [scaleTwo]
  split_ifs
  · exact hden
  · exact Nat.mul_pos hden (twoTo_pos _)

lemma scaleTen_pos (hden : 0 < den) (num : Nat) (k : Int) : 0 < (scaleTen num den k).2 := by
  rw [scaleTen]
  split_ifs
  · exact hden
  · exact Nat.mul_pos hden (tenTo_pos _)

/-! ### Logarithms -/

/-- The logarithm of a ratio is the difference of the logarithms of its parts, or one less. -/
lemma log_ratio {base a b : Nat} (hbase : 1 < base) (hnum : base ^ a ≤ num ∧ num < base ^ (a + 1))
    (hden : base ^ b ≤ den ∧ den < base ^ (b + 1)) :
    Int.log base ((num : ℚ) / den)
      = if (num : ℚ) / den < (base : ℚ) ^ ((a : Int) - b) then (a : Int) - b - 1
        else (a : Int) - b := by
  have hbase₀ : (0 : ℚ) < base := Nat.cast_pos.mpr (by omega)
  have hpow (k : Int) : (0 : ℚ) < (base : ℚ) ^ k := zpow_pos hbase₀ k
  have hdenpos : (0 : ℚ) < den := Nat.cast_pos.mpr ((Nat.pow_pos (by omega)).trans_le hden.1)
  have hnumpos : (0 : ℚ) < num := Nat.cast_pos.mpr ((Nat.pow_pos (by omega)).trans_le hnum.1)
  have hnum₁ : (base : ℚ) ^ (a : Int) ≤ num := by exact_mod_cast hnum.1
  have hnum₂ : (num : ℚ) < (base : ℚ) ^ ((a : Int) + 1) := by exact_mod_cast hnum.2
  have hden₁ : (base : ℚ) ^ (b : Int) ≤ den := by exact_mod_cast hden.1
  have hden₂ : (den : ℚ) < (base : ℚ) ^ ((b : Int) + 1) := by exact_mod_cast hden.2
  have hratio := div_pos hnumpos hdenpos
  have hlow : (base : ℚ) ^ ((a : Int) - b - 1) ≤ num / den := by
    rw [le_div_iff₀ hdenpos]
    calc (base : ℚ) ^ ((a : Int) - b - 1) * den
        ≤ (base : ℚ) ^ ((a : Int) - b - 1) * (base : ℚ) ^ ((b : Int) + 1) :=
          mul_le_mul_of_nonneg_left hden₂.le (hpow _).le
      _ = (base : ℚ) ^ (a : Int) := by
          rw [← zpow_add₀ hbase₀.ne']
          congr 1
          omega
      _ ≤ num := hnum₁
  have hhigh : (num : ℚ) / den < (base : ℚ) ^ ((a : Int) - b + 1) := by
    rw [div_lt_iff₀ hdenpos]
    calc (num : ℚ) < (base : ℚ) ^ ((a : Int) + 1) := hnum₂
      _ = (base : ℚ) ^ ((a : Int) - b + 1) * (base : ℚ) ^ (b : Int) := by
          rw [← zpow_add₀ hbase₀.ne']
          congr 1
          omega
      _ ≤ (base : ℚ) ^ ((a : Int) - b + 1) * den := mul_le_mul_of_nonneg_left hden₁ (hpow _).le
  have hle := (Int.zpow_le_iff_le_log hbase hratio).mp hlow
  have hlt := (Int.lt_zpow_iff_log_lt hbase hratio).mp hhigh
  split_ifs with h
  · have := (Int.lt_zpow_iff_log_lt hbase hratio).mp h
    omega
  · have := (Int.zpow_le_iff_le_log hbase hratio).mp (not_lt.mp h)
    omega

/-- A ratio is below a power of two just when it is below one after it was scaled down. -/
lemma scaleTwo_lt_iff (hden : 0 < den) (k : Int) :
    (scaleTwo num den (-k)).1 < (scaleTwo num den (-k)).2 ↔ (num : ℚ) / den < 2 ^ k := by
  have hpos : (0 : ℚ) < (scaleTwo num den (-k)).2 := Nat.cast_pos.mpr (scaleTwo_pos hden num (-k))
  rw [← Nat.cast_lt (α := ℚ), ← div_lt_one₀ hpos, ratio_scaleTwo, zpow_neg,
    mul_inv_lt_iff₀ (zpow_pos two_pos k), one_mul]

lemma floorLogTwo_eq_log (hnum : 0 < num) (hden : 0 < den) :
    floorLogTwo num den = Int.log 2 ((num : ℚ) / den) := by
  have hfloor : floorLogTwo num den
      = if (scaleTwo num den (-((num.log2 : Int) - den.log2))).1
            < (scaleTwo num den (-((num.log2 : Int) - den.log2))).2
        then (num.log2 : Int) - den.log2 - 1 else (num.log2 : Int) - den.log2 := rfl
  rw [hfloor, log_ratio one_lt_two ⟨Nat.log2_self_le hnum.ne', Nat.lt_log2_self⟩
    ⟨Nat.log2_self_le hden.ne', Nat.lt_log2_self⟩]
  simp only [scaleTwo_lt_iff hden, Nat.cast_ofNat]

/-! ### Rounding -/

/-- In whole numbers: a quotient that is at most one half from a number is rounded to it, if the
number is even or the quotient is nearer. -/
lemma roundDiv_eq_of_nat (hd : 0 < d) (hlow : 2 * (d * m) ≤ 2 * n + d)
    (hhigh : 2 * n ≤ 2 * (d * m) + d)
    (hodd : m % 2 = 1 → 2 * n + d ≠ 2 * (d * m) ∧ 2 * n ≠ 2 * (d * m) + d) :
    roundDiv n d = m := by
  have hdiv := Nat.div_add_mod n d
  have hmod := Nat.mod_lt n hd
  -- The quotient is the number itself or the one before it.
  have hq : n / d = m ∨ n / d + 1 = m := by
    have hle : n / d ≤ m := by
      by_contra h
      have : d * (m + 1) ≤ d * (n / d) := Nat.mul_le_mul_left d (by omega)
      rw [Nat.mul_add] at this
      omega
    have hge : m ≤ n / d + 1 := by
      by_contra h
      have : d * (n / d + 2) ≤ d * m := Nat.mul_le_mul_left d (by omega)
      rw [Nat.mul_add] at this
      omega
    omega
  rw [roundDiv]
  rcases hq with hq | hq
  · rw [hq] at hdiv ⊢
    split_ifs <;> omega
  · obtain rfl := hq
    rw [Nat.mul_add] at hlow hhigh hodd
    split_ifs <;> omega

/-- A ratio that is at most one half from a number is rounded to it in the same way. -/
lemma roundDiv_eq (hd : 0 < d) (hlow : (m : ℚ) - 1 / 2 ≤ n / d) (hhigh : (n : ℚ) / d ≤ m + 1 / 2)
    (hodd : m % 2 = 1 → (n : ℚ) / d ≠ m - 1 / 2 ∧ (n : ℚ) / d ≠ m + 1 / 2) :
    roundDiv n d = m := by
  have hdpos : (0 : ℚ) < d := Nat.cast_pos.mpr hd
  rw [le_div_iff₀ hdpos] at hlow
  rw [div_le_iff₀ hdpos] at hhigh
  rw [ne_eq, ne_eq, div_eq_iff hdpos.ne', div_eq_iff hdpos.ne'] at hodd
  apply roundDiv_eq_of_nat hd
  · have : (2 : ℚ) * (d * m) ≤ 2 * n + d := by linarith
    exact_mod_cast this
  · have : (2 : ℚ) * n ≤ 2 * (d * m) + d := by linarith
    exact_mod_cast this
  · intro hm
    obtain ⟨hstart, hend⟩ := hodd hm
    constructor
    · intro h
      have : (2 : ℚ) * n + d = 2 * (d * m) := by exact_mod_cast h
      exact hstart (by linarith)
    · intro h
      have : (2 : ℚ) * n = 2 * (d * m) + d := by exact_mod_cast h
      exact hend (by linarith)

/-! ### The interval of a double -/

/-- The mantissas and exponents of doubles: below the least power of two the mantissa is small. -/
structure IsCanonical (m : Nat) (q : Int) : Prop where
  least : -1074 ≤ q
  greatest : q ≤ 971
  mantissa : m < twoTo 53
  normal : -1074 < q → twoTo 52 ≤ m

/-- The bits of a double without its sign. -/
def bitsOf (m : Nat) (q : Int) : Nat :=
  if m < twoTo 52 then m else (q + 1075).toNat * twoTo 52 + (m - twoTo 52)

/-- A ratio is rounded to `m * 2 ^ q`: it lies in the interval, and for an odd mantissa not at its
ends. -/
structure IsNear (m : Nat) (q : Int) (r : ℚ) : Prop where
  low : ((roundingInterval m q).1 : ℚ) ≤ r * 2 ^ (2 - q)
  high : r * 2 ^ (2 - q) ≤ (roundingInterval m q).2
  inside : m % 2 = 1 →
    r * 2 ^ (2 - q) ≠ (roundingInterval m q).1 ∧ r * 2 ^ (2 - q) ≠ (roundingInterval m q).2

namespace IsNear

lemma low_pos (h : IsNear m q r) (hm : m ≠ 0) : 0 < r := by
  have hlow : 1 ≤ (roundingInterval m q).1 := by
    rw [roundingInterval]
    dsimp only
    split_ifs <;> omega
  have hscaled : 0 < r * 2 ^ (2 - q) := by
    have : (1 : ℚ) ≤ (roundingInterval m q).1 := by exact_mod_cast hlow
    linarith [h.low]
  exact (mul_pos_iff_of_pos_right (zpow_pos two_pos _)).mp hscaled

/-- A ratio in the interval is at most half a unit from the mantissa, and nearer to an odd one. -/
lemma half (h : IsNear m q r) (hm : m ≠ 0) :
    (m : ℚ) - 1 / 2 ≤ r * 2 ^ (-q) ∧ r * 2 ^ (-q) ≤ m + 1 / 2 ∧
      (m % 2 = 1 → r * 2 ^ (-q) ≠ m - 1 / 2 ∧ r * 2 ^ (-q) ≠ m + 1 / 2) := by
  have hscale : r * 2 ^ (2 - q) = 4 * (r * 2 ^ (-q)) := by
    rw [sub_eq_add_neg, zpow_add₀ two_ne_zero]
    norm_num
    ring
  obtain ⟨hlow, hhigh, hinside⟩ := h
  have hend : (((roundingInterval m q).2 : ℕ) : ℚ) = 4 * m + 2 := by
    rw [roundingInterval]
    push_cast
    ring
  rw [hscale, hend] at hhigh
  rw [hscale, hend] at hinside
  rw [hscale] at hlow
  by_cases hpower : m = twoTo 52 ∧ -1074 < q
  · have hstart : (((roundingInterval m q).1 : ℕ) : ℚ) = 4 * m - 1 := by
      rw [roundingInterval, if_pos hpower]
      push_cast [show 1 ≤ 4 * m by omega]
      ring
    rw [hstart] at hlow
    refine ⟨by linarith, by linarith, fun hodd => ?_⟩
    obtain rfl := hpower.1
    exact absurd hodd (by decide)
  · have hstart : (((roundingInterval m q).1 : ℕ) : ℚ) = 4 * m - 2 := by
      rw [roundingInterval, if_neg hpower]
      push_cast [show 2 ≤ 4 * m by omega]
      ring
    rw [hstart] at hlow hinside
    refine ⟨by linarith, by linarith, fun hodd => ?_⟩
    obtain ⟨h₁, h₂⟩ := hinside hodd
    exact ⟨fun h => h₁ (by linarith), fun h => h₂ (by linarith)⟩

/-- Below a power of two the interval ends a quarter of a unit from the mantissa. -/
lemma quarter (h : IsNear (twoTo 52) q r) (hq : -1074 < q) : 2 ^ 52 - 1 / 4 ≤ r * 2 ^ (-q) := by
  have hscale : r * 2 ^ (2 - q) = 4 * (r * 2 ^ (-q)) := by
    rw [sub_eq_add_neg, zpow_add₀ two_ne_zero]
    norm_num
    ring
  have hlow := h.low
  rw [roundingInterval, if_pos ⟨rfl, hq⟩, hscale] at hlow
  have hstart : ((4 * twoTo 52 - 1 : ℕ) : ℚ) = 4 * 2 ^ 52 - 1 := by
    norm_num [twoTo]
  dsimp only at hlow
  rw [hstart] at hlow
  linarith

end IsNear

/-! ### Bits -/

lemma nearestBits_eq {q' : Int} {m' : Nat} (hnum : num ≠ 0)
    (hq : max (floorLogTwo num den - 52) (-1074) = q)
    (hm : roundDiv (scaleTwo num den (-q)).1 (scaleTwo num den (-q)).2 = m)
    (hcarry : (if m = twoTo 53 then (twoTo 52, q + 1) else (m, q)) = (m', q')) (hq' : q' ≤ 971) :
    nearestBits num den = bitsOf m' q' := by
  rw [nearestBits, if_neg hnum]
  dsimp only
  rw [hq, hm, hcarry, bitsOf]
  dsimp only
  rw [if_neg (show ¬ 2047 ≤ (q' + 1075).toNat by omega)]

/-- A bound on a scaled ratio is one on its logarithm. -/
lemma scaled_lt_iff (hnum : 0 < num) (hden : 0 < den) (q : Int) (k : Nat) :
    (num : ℚ) / den * 2 ^ (-q) < 2 ^ k ↔ floorLogTwo num den < k + q := by
  have hr : (0 : ℚ) < num / den := div_pos (Nat.cast_pos.mpr hnum) (Nat.cast_pos.mpr hden)
  rw [floorLogTwo_eq_log hnum hden, ← Int.lt_zpow_iff_log_lt one_lt_two hr, zpow_neg,
    mul_inv_lt_iff₀ (zpow_pos two_pos q), Nat.cast_ofNat, zpow_add₀ two_ne_zero, zpow_natCast]

/-- A ratio is scaled to what is at most one half from a mantissa, and rounded to it. -/
lemma roundDiv_scaleTwo_eq (hden : 0 < den) (q : Int)
    (hlow : (m : ℚ) - 1 / 2 ≤ num / den * 2 ^ (-q)) (hhigh : (num : ℚ) / den * 2 ^ (-q) ≤ m + 1 / 2)
    (hodd : m % 2 = 1 →
      (num : ℚ) / den * 2 ^ (-q) ≠ m - 1 / 2 ∧ (num : ℚ) / den * 2 ^ (-q) ≠ m + 1 / 2) :
    roundDiv (scaleTwo num den (-q)).1 (scaleTwo num den (-q)).2 = m := by
  rw [← ratio_scaleTwo] at hlow hhigh
  rw [← ratio_scaleTwo] at hodd
  exact roundDiv_eq (scaleTwo_pos hden num (-q)) hlow hhigh hodd

/-- Right below a power of two a ratio is scaled to one digit more, and rounded up to the power. -/
lemma nearestBits_below_power (hnum : 0 < num) (hden : 0 < den) (hq : -1074 < q) (hq' : q ≤ 971)
    (hclose : 2 ^ 52 - 1 / 4 ≤ (num : ℚ) / den * 2 ^ (-q))
    (hbelow : (num : ℚ) / den * 2 ^ (-q) < 2 ^ 52) :
    nearestBits num den = bitsOf (twoTo 52) q := by
  have hdouble : (num : ℚ) / den * 2 ^ (-(q - 1)) = 2 * ((num : ℚ) / den * 2 ^ (-q)) := by
    rw [show -(q - 1) = 1 + -q by ring, zpow_add₀ two_ne_zero, zpow_one]
    ring
  have hfloor : floorLogTwo num den = 51 + q := by
    have habove := mt (scaled_lt_iff hnum hden q 51).mpr
      (not_lt.mpr (by norm_num at hclose ⊢; linarith))
    have hunder := (scaled_lt_iff hnum hden q 52).mp hbelow
    omega
  have hround : roundDiv (scaleTwo num den (-(q - 1))).1 (scaleTwo num den (-(q - 1))).2
      = twoTo 53 := by
    refine roundDiv_scaleTwo_eq hden (q - 1) ?_ ?_ (fun hodd => absurd hodd (by decide))
    · rw [hdouble, cast_twoTo]
      linarith
    · rw [hdouble, cast_twoTo]
      linarith
  refine nearestBits_eq hnum.ne' (q := q - 1) (by omega) hround ?_ hq'
  rw [if_pos rfl, sub_add_cancel]

/-- The bits of a double are computed from any ratio that is rounded to it. -/
theorem nearestBits_of_isNear (hmq : IsCanonical m q) (hm : m ≠ 0) (hden : 0 < den)
    (h : IsNear m q ((num : ℚ) / den)) : nearestBits num den = bitsOf m q := by
  have hnum : 0 < num := by
    have hr := h.low_pos hm
    rwa [div_pos_iff_of_pos_right (Nat.cast_pos.mpr hden), Nat.cast_pos] at hr
  obtain ⟨hlow, hhigh, hodd⟩ := h.half hm
  have hround := roundDiv_scaleTwo_eq hden q hlow hhigh hodd
  have hcarry : (if m = twoTo 53 then (twoTo 52, q + 1) else (m, q)) = (m, q) :=
    if_neg hmq.mantissa.ne
  have hmantissa : (m : ℚ) + 1 ≤ 2 ^ 53 := by
    have := hmq.mantissa
    exact_mod_cast this
  have hbelow : floorLogTwo num den < 53 + q :=
    (scaled_lt_iff hnum hden q 53).mp (by linarith)
  by_cases hleast : q = -1074
  · exact nearestBits_eq hnum.ne' (by omega) hround hcarry hmq.greatest
  have hq : -1074 < q := lt_of_le_of_ne hmq.least (Ne.symm hleast)
  by_cases hpower : (num : ℚ) / den * 2 ^ (-q) < 2 ^ 52
  · -- The ratio lies below the power of two that it is rounded to.
    obtain rfl : m = twoTo 52 := by
      have hlt : (m : ℚ) < 2 ^ 52 + 1 := by linarith
      have hlt : m < 2 ^ 52 + 1 := by exact_mod_cast hlt
      exact le_antisymm (Nat.lt_succ_iff.mp hlt) (hmq.normal hq)
    exact nearestBits_below_power hnum hden hq hmq.greatest (h.quarter hq) hpower
  · have habove := mt (scaled_lt_iff hnum hden q 52).mpr hpower
    exact nearestBits_eq hnum.ne' (by omega) hround hcarry hmq.greatest

end VariantRepair.Number
