import Mathlib
import VariantRepair.Number.Reading
import VariantRepair.Proofs.Number.Shortest

/-!
# Doubles are read back from decimals

A finite double has a mantissa and an exponent, and is determined by them and by its sign. So it is
the double that is read from any decimal in its interval, the shortest one among them.
-/

namespace VariantRepair.Number

variable {x : Float} {negative : Bool} {m : Nat} {q : Int}

/-! ### Bits -/

/-- The parts of a finite double, and its bits from them. -/
lemma bits_of_finite (h : Binary64.ofFloat x = .finite negative m q) : IsCanonical m q ∧
    x.toBits.toNat = if negative then twoTo 63 + bitsOf m q else bitsOf m q := by
  have h52 : twoTo 52 = 4503599627370496 := rfl
  have h53 : twoTo 53 = 9007199254740992 := rfl
  have h63 : twoTo 63 = 9223372036854775808 := rfl
  have h11 : twoTo 11 = 2048 := rfl
  have hlt : x.toBits.toNat < 18446744073709551616 := x.toBits.toNat_lt
  unfold Binary64.ofFloat at h
  simp only [h52, h63, h11] at h
  generalize x.toBits.toNat = bits at h hlt
  have hsign (b : Bool) : (bits / 9223372036854775808 == 1) = b →
      bits / 9223372036854775808 = if b then 1 else 0 := by
    rintro rfl
    by_cases hone : bits / 9223372036854775808 = 1
    · simp [hone]
    · simp [hone]
      omega
  split_ifs at h with hinfinite hfraction hzero
  · obtain ⟨hb, rfl, rfl⟩ := Binary64.finite.inj h
    have hb := hsign negative hb
    refine ⟨⟨by omega, by omega, by rw [h53]; omega, fun h => by omega⟩, ?_⟩
    have hbits : bitsOf (bits % 4503599627370496) (-1074) = bits % 4503599627370496 := by
      rw [bitsOf, h52, if_pos (by omega)]
    rw [hbits, h63]
    cases negative
    · rw [if_neg Bool.false_ne_true] at hb ⊢
      omega
    · rw [if_pos rfl] at hb ⊢
      omega
  · obtain ⟨hb, rfl, rfl⟩ := Binary64.finite.inj h
    have hb := hsign negative hb
    refine ⟨⟨by omega, by omega, by rw [h53]; omega, fun _ => by rw [h52]; omega⟩, ?_⟩
    have hbits : bitsOf (4503599627370496 + bits % 4503599627370496)
        ((bits / 4503599627370496 % 2048 : Nat) - 1075)
          = bits / 4503599627370496 % 2048 * 4503599627370496 + bits % 4503599627370496 := by
      rw [bitsOf, h52, if_neg (by omega), sub_add_cancel, Int.toNat_natCast,
        Nat.add_sub_cancel_left]
    rw [hbits, h63]
    cases negative
    · rw [if_neg Bool.false_ne_true] at hb ⊢
      omega
    · rw [if_pos rfl] at hb ⊢
      omega

/-- A finite double is the nearest one to a ratio that gives its bits. -/
lemma nearest_eq (h : Binary64.ofFloat x = .finite negative m q) {num den : Nat}
    (hbits : nearestBits num den = bitsOf m q) : nearest negative num den = x := by
  rw [nearest, hbits, ← (bits_of_finite h).2, UInt64.ofNat_toNat, Float.ofBits_toBits]

/-! ### Decimals -/

/-- The size of a decimal by the number of its digits and its exponent. -/
lemma point_bounds {digits : Nat} (hdigits : digits ≠ 0) (e : Int) :
    (10 : ℚ) ^ ((digitCount digits : Int) + e - 1) ≤ digits * 10 ^ e ∧
      (digits : ℚ) * 10 ^ e < 10 ^ ((digitCount digits : Int) + e) := by
  obtain ⟨hlow, hhigh⟩ := digitCount_bounds (Nat.pos_of_ne_zero hdigits)
  have hpos := digitCount_pos digits
  have hlow' : (10 : ℚ) ^ ((digitCount digits : Int) - 1) ≤ digits := by
    have hexp : ((digitCount digits : Int) - 1) = ((digitCount digits - 1 : Nat) : Int) := by omega
    rw [hexp, zpow_natCast]
    exact_mod_cast hlow
  have hhigh' : (digits : ℚ) < 10 ^ (digitCount digits : Int) := by
    rw [Nat.sub_add_cancel hpos] at hhigh
    rw [zpow_natCast]
    exact_mod_cast hhigh
  have hten : (0 : ℚ) < 10 ^ e := zpow_pos (by norm_num) e
  constructor
  · rw [add_sub_right_comm, zpow_add₀ (by norm_num)]
    exact mul_le_mul_of_nonneg_right hlow' hten.le
  · rw [zpow_add₀ (by norm_num)]
    exact mul_lt_mul_of_pos_right hhigh' hten

/-- The ratios that are rounded to a double are neither very large nor very small. -/
lemma IsNear.bounds {r : ℚ} (hmq : IsCanonical m q) (hm : m ≠ 0) (h : IsNear m q r) :
    (10 : ℚ) ^ (-400 : Int) < r ∧ r < 10 ^ (400 : Int) := by
  have hscale (k : Int) : (0 : ℚ) < 2 ^ k := zpow_pos two_pos k
  have hr : r = r * 2 ^ (2 - q) * 2 ^ (q - 2) := by
    rw [mul_assoc, ← zpow_add₀ two_ne_zero, sub_add_sub_cancel, sub_self, zpow_zero, mul_one]
  have hpow : (2 : ℚ) ^ 1076 < 10 ^ 400 :=
    calc (2 : ℚ) ^ 1076 ≤ 2 ^ (3 * 400) := pow_le_pow_right₀ one_le_two (by decide)
      _ = 8 ^ 400 := by rw [pow_mul]; norm_num
      _ < 10 ^ 400 := pow_lt_pow_left₀ (by norm_num) (by norm_num) (by decide)
  have hstart : (1 : ℚ) ≤ (roundingInterval m q).1 := by
    have : 1 ≤ (roundingInterval m q).1 := by
      rw [roundingInterval]
      dsimp only
      split_ifs <;> omega
    exact_mod_cast this
  have hend : (((roundingInterval m q).2 : ℕ) : ℚ) ≤ 2 ^ (55 : Int) := by
    have hmantissa : m < 2 ^ 53 := hmq.mantissa
    have : (roundingInterval m q).2 ≤ 2 ^ 55 := by
      rw [roundingInterval]
      dsimp only
      omega
    exact_mod_cast this
  constructor
  · calc (10 : ℚ) ^ (-400 : Int) = (10 ^ 400)⁻¹ := by rw [zpow_neg]; rfl
      _ < (2 ^ 1076)⁻¹ := inv_strictAnti₀ (pow_pos two_pos _) hpow
      _ = 1 * 2 ^ (-1076 : Int) := by rw [one_mul, zpow_neg]; rfl
      _ ≤ 1 * 2 ^ (q - 2) := by
          rw [one_mul, one_mul]
          exact zpow_le_zpow_right₀ one_le_two (by have := hmq.least; omega)
      _ ≤ r * 2 ^ (2 - q) * 2 ^ (q - 2) :=
          mul_le_mul_of_nonneg_right (hstart.trans h.low) (hscale _).le
      _ = r := hr.symm
  · calc r = r * 2 ^ (2 - q) * 2 ^ (q - 2) := hr
      _ ≤ 2 ^ (55 : Int) * 2 ^ (q - 2) :=
          mul_le_mul_of_nonneg_right (h.high.trans hend) (hscale _).le
      _ ≤ 2 ^ (55 : Int) * 2 ^ (969 : Int) :=
          mul_le_mul_of_nonneg_left
            (zpow_le_zpow_right₀ one_le_two (by have := hmq.greatest; omega)) (hscale _).le
      _ = 2 ^ 1024 := by rw [← zpow_add₀ two_ne_zero]; rfl
      _ ≤ 2 ^ 1076 := pow_le_pow_right₀ one_le_two (by decide)
      _ < 10 ^ 400 := hpow

/-- A double is read from any decimal that is rounded to it. -/
theorem ofDecimal_of_isNear (h : Binary64.ofFloat x = .finite negative m q) (hm : m ≠ 0)
    {digits : Nat} {e : Int} (hnear : IsNear m q (digits * 10 ^ e)) :
    ofDecimal negative digits e = x := by
  obtain ⟨hmq, -⟩ := bits_of_finite h
  have hpos := hnear.low_pos hm
  have hdigits : digits ≠ 0 := by
    rintro rfl
    simp at hpos
  obtain ⟨hsmall, hlarge⟩ := hnear.bounds hmq hm
  obtain ⟨hlow, hhigh⟩ := point_bounds hdigits e
  have hgreat := (zpow_lt_zpow_iff_right₀ (by norm_num)).mp (hlow.trans_lt hlarge)
  have hleast := (zpow_lt_zpow_iff_right₀ (by norm_num)).mp (hsmall.trans hhigh)
  have hcount : ((toString digits).length : Int) = digitCount digits := rfl
  have hratio := ratio_scaleTen digits 1 e
  have hden := scaleTen_pos one_pos digits e
  rw [ofDecimal]
  dsimp only
  rw [if_neg hdigits, if_neg (by omega), if_neg (by omega)]
  refine nearest_eq h (nearestBits_of_isNear hmq hm hden ?_)
  rw [hratio, Nat.cast_one, div_one]
  exact hnear

/-- A zero is read from any form of zero with its sign. -/
lemma ofDecimal_of_zero (h : Binary64.ofFloat x = .finite negative 0 q) (e : Int) :
    ofDecimal negative 0 e = x :=
  nearest_eq h rfl

/-! ### Infinities -/

section Infinite

open Float.Model

lemma eq_ofModel (x : Float) : x = .ofModel (.pack x.toModel.unpack) :=
  (Float.ofBits_toBits x).symm

lemma toNat_unpackExponent (x : Float) :
    (@UnpackedFloat.unpackExponent Format.binary64 x.toModel.toBits.toBitVec).toNat
      = x.toBits.toNat / twoTo 52 % twoTo 11 := by
  rw [UnpackedFloat.unpackExponent_def, BitVec.extractLsb'_toNat, Nat.shiftRight_eq_div_pow]
  rfl

/-- A double whose exponent has all its bits is an infinity or no number. -/
lemma unpack_of_exponent (h : x.toBits.toNat / twoTo 52 % twoTo 11 = 2047) :
    x.toModel.unpack = .notANumber ∨ ∃ s, x.toModel.unpack = .infinity s := by
  have hexponent : @UnpackedFloat.unpackExponent Format.binary64 x.toModel.toBits.toBitVec
      = -1#_ :=
    BitVec.eq_of_toNat_eq ((toNat_unpackExponent x).trans h)
  rw [Float.Model.unpack, UnpackedFloat.unpack]
  dsimp only
  rw [if_pos hexponent]
  split_ifs
  · exact .inr ⟨_, rfl⟩
  · exact .inl rfl

/-- A double is finite, an infinity, or no number. -/
lemma float_cases (x : Float) : x = notANumber ∨ x = infinity ∨ x = -infinity ∨
    x.isNaN = false ∧ x.isInf = false ∧
      ∃ negative m q, Binary64.ofFloat x = .finite negative m q := by
  have hx := eq_ofModel x
  have hfinite (hnan : x.toModel.unpack ≠ .notANumber)
      (hinfinity : ∀ s, x.toModel.unpack ≠ .infinity s) :
      ∃ negative m q, Binary64.ofFloat x = .finite negative m q := by
    have hfield : x.toBits.toNat / twoTo 52 % twoTo 11 ≠ 2047 := fun h =>
      (unpack_of_exponent h).elim hnan fun ⟨s, hs⟩ => hinfinity s hs
    unfold Binary64.ofFloat
    dsimp only
    rw [if_neg hfield]
    split_ifs
    · exact ⟨_, _, _, rfl⟩
    · exact ⟨_, _, _, rfl⟩
  have hnan : x.isNaN = x.toModel.unpack.isNaN := rfl
  have hinf : x.isInf = x.toModel.unpack.isInf := rfl
  rw [hnan, hinf]
  generalize x.toModel.unpack = u at hx hfinite
  cases u with
  | notANumber => exact .inl hx
  | infinity s =>
    cases s with
    | positive => exact .inr (.inl hx)
    | negative => exact .inr (.inr (.inl hx))
  | zero s => exact .inr (.inr (.inr ⟨rfl, rfl, hfinite nofun nofun⟩))
  | finite s m e hm => exact .inr (.inr (.inr ⟨rfl, rfl, hfinite nofun nofun⟩))

end Infinite

end VariantRepair.Number
