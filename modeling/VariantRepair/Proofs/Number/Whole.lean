import VariantRepair.Proofs.Json.Number
import VariantRepair.Proofs.Number.Decimal

/-!
# Integers as doubles

An integer is read as the double that is nearest to it. Its first fifty-three binary digits are
kept, and the rest is rounded: so the integer comes back from the double just when it has no more
digits than these before its zeros, and otherwise an integer nearby comes back in its place.
-/

namespace VariantRepair.Number

variable {n m k : Nat} {q : Int}

/-! ### Quotients -/

lemma twoTo_add (m n : Nat) : twoTo (m + n) = twoTo m * twoTo n := Nat.pow_add 2 m n

lemma twoTo_le_twoTo {m n : Nat} (h : m ≤ n) : twoTo m ≤ twoTo n :=
  Nat.pow_le_pow_right two_pos h

lemma roundDiv_one (n : Nat) : roundDiv n 1 = n := by
  rw [roundDiv]
  rw [Nat.div_one, Nat.mod_one, if_neg (by decide), if_neg (by decide)]

lemma twoTo_le_iff (hn : n ≠ 0) : twoTo k ≤ n ↔ k ≤ Nat.log2 n := (Nat.le_log2 hn).symm

lemma lt_twoTo_iff (hn : n ≠ 0) : n < twoTo k ↔ Nat.log2 n < k := (Nat.log2_lt hn).symm

/-- A quotient without a remainder is not rounded. -/
lemma roundDiv_mul_of_dvd {d : Nat} (hd : 0 < d) (h : d ∣ n) : roundDiv n d * d = n := by
  rw [roundDiv, Nat.mod_eq_zero_of_dvd h, if_neg (by omega), if_neg (by omega),
    Nat.div_mul_cancel h]

/-- A rounded quotient is the quotient or the number behind it. -/
lemma roundDiv_bounds (num den : Nat) :
    num / den ≤ roundDiv num den ∧ roundDiv num den ≤ num / den + 1 := by
  rw [roundDiv]
  split_ifs <;> omega

/-- A rounded quotient is off by at most one half. -/
lemma two_mul_dist_roundDiv_le (num : Nat) {den : Nat} (hden : 0 < den) :
    2 * num ≤ 2 * (roundDiv num den * den) + den ∧
      2 * (roundDiv num den * den) ≤ 2 * num + den := by
  have hdiv := Nat.div_add_mod num den
  have hmod := Nat.mod_lt num hden
  have heven := Nat.mod_lt (num / den) two_pos
  rw [roundDiv]
  rw [Nat.mul_comm] at hdiv
  split_ifs
  · rw [Nat.add_mul]
    omega
  · have hodd : num / den % 2 = 0 ∨ num / den % 2 = 1 := by omega
    rcases hodd with h | h <;> rw [h, Nat.add_mul] <;> omega
  · omega

/-! ### Rounded integers -/

/-- How many binary digits a number has behind its first fifty-three. -/
def excess (n : Nat) : Nat := Nat.log2 n - 52

/-- A number with its first fifty-three binary digits, rounded to the nearest such number, a tie to
the one with an even digit there. -/
def roundNat (n : Nat) : Nat := roundDiv n (twoTo (excess n)) * twoTo (excess n)

/-- An integer that is rounded in its size. -/
def roundWhole (n : Int) : Int := if n < 0 then -(roundNat n.natAbs : Int) else roundNat n.natAbs

/-- The integers that doubles stand for: those with at most fifty-three binary digits before zeros,
within the range of doubles. -/
def IsDouble (n : Int) : Prop :=
  ∃ m k : Nat, m < twoTo 53 ∧ k ≤ 971 ∧ n.natAbs = m * twoTo k

/-- An integer is rounded to a double within their range. -/
def InRange (n : Int) : Prop := roundNat n.natAbs < twoTo 1024

instance (n : Int) : Decidable (InRange n) :=
  inferInstanceAs (Decidable (roundNat n.natAbs < twoTo 1024))

lemma excess_eq_zero (h : n < twoTo 53) : excess n = 0 := by
  have hlog : n ≠ 0 → Nat.log2 n < 53 := fun hn => (lt_twoTo_iff hn).mp h
  rw [excess]
  by_cases hn : n = 0
  · rw [hn]
    decide
  · have := hlog hn
    omega

lemma roundNat_of_lt (h : n < twoTo 53) : roundNat n = n := by
  have hone : twoTo 0 = 1 := rfl
  rw [roundNat, excess_eq_zero h, hone, roundDiv_one, Nat.mul_one]

/-- Of a number with more digits, fifty-three are left when the others are cut off. -/
lemma div_excess_bounds (h : twoTo 52 ≤ n) :
    twoTo 52 ≤ n / twoTo (excess n) ∧ n / twoTo (excess n) < twoTo 53 := by
  have hn : n ≠ 0 := by
    rintro rfl
    exact absurd h (by decide)
  have hlog : 52 ≤ Nat.log2 n := (twoTo_le_iff hn).mp h
  constructor
  · rw [Nat.le_div_iff_mul_le (twoTo_pos _)]
    calc twoTo 52 * twoTo (excess n) = twoTo (52 + excess n) := (twoTo_add 52 _).symm
      _ = twoTo (Nat.log2 n) := by rw [excess, Nat.add_sub_cancel' hlog]
      _ ≤ n := Nat.log2_self_le hn
  · rw [Nat.div_lt_iff_lt_mul (twoTo_pos _)]
    calc n < twoTo (Nat.log2 n + 1) := Nat.lt_log2_self
      _ = twoTo (53 + excess n) := by rw [excess]; congr 1; omega
      _ = twoTo 53 * twoTo (excess n) := twoTo_add 53 _

lemma roundDiv_excess_bounds (h : twoTo 52 ≤ n) :
    twoTo 52 ≤ roundDiv n (twoTo (excess n)) ∧ roundDiv n (twoTo (excess n)) ≤ twoTo 53 := by
  obtain ⟨hlow, hhigh⟩ := div_excess_bounds h
  obtain ⟨hfloor, hceil⟩ := roundDiv_bounds n (twoTo (excess n))
  exact ⟨hlow.trans hfloor, hceil.trans hhigh⟩

/-- A rounded number has the leading binary digit of the number, unless it is the next power of
two. -/
lemma twoTo_log2_le_roundNat (hn : n ≠ 0) : twoTo (Nat.log2 n) ≤ roundNat n := by
  by_cases h : n < twoTo 52
  · rw [roundNat_of_lt (h.trans (by decide))]
    exact Nat.log2_self_le hn
  · have h := not_lt.mp h
    have hlog : 52 ≤ Nat.log2 n := (twoTo_le_iff hn).mp h
    calc twoTo (Nat.log2 n) = twoTo (52 + excess n) := by rw [excess, Nat.add_sub_cancel' hlog]
      _ = twoTo 52 * twoTo (excess n) := twoTo_add 52 _
      _ ≤ roundNat n := Nat.mul_le_mul_right _ (roundDiv_excess_bounds h).1

/-- A rounded number is off by at most one part in two to the fifty-third. -/
lemma dist_roundNat_le (n : Nat) :
    twoTo 53 * n ≤ twoTo 53 * roundNat n + n ∧ twoTo 53 * roundNat n ≤ twoTo 53 * n + n := by
  by_cases h : n < twoTo 52
  · rw [roundNat_of_lt (h.trans (by decide))]
    omega
  · have hcut : twoTo 52 * twoTo (excess n) ≤ n :=
      (Nat.le_div_iff_mul_le (twoTo_pos _)).mp (div_excess_bounds (not_lt.mp h)).1
    obtain ⟨hlow, hhigh⟩ := two_mul_dist_roundDiv_le n (twoTo_pos (excess n))
    have h52 : twoTo 52 = 4503599627370496 := rfl
    have h53 : twoTo 53 = 9007199254740992 := rfl
    rw [h52] at hcut
    rw [h53, roundNat]
    omega

/-- A number is left as it is by rounding just when it has no more than fifty-three digits before
its zeros. -/
lemma roundNat_eq_self_iff : roundNat n = n ↔ ∃ m k, m < twoTo 53 ∧ n = m * twoTo k := by
  constructor
  · intro h
    by_cases hn : n < twoTo 53
    · exact ⟨n, 0, hn, (Nat.mul_one n).symm⟩
    · have hn : twoTo 52 ≤ n := (by decide : twoTo 52 ≤ twoTo 53).trans (not_lt.mp hn)
      have hdvd : twoTo (excess n) ∣ n := ⟨_, (h.symm.trans (Nat.mul_comm _ _))⟩
      exact ⟨_, _, (div_excess_bounds hn).2, (Nat.div_mul_cancel hdvd).symm⟩
  · rintro ⟨m, k, hm, rfl⟩
    by_cases hn : m * twoTo k < twoTo 53
    · exact roundNat_of_lt hn
    · -- The digits that are rounded are among the zeros.
      have hle : excess (m * twoTo k) ≤ k := by
        have hpos : m * twoTo k ≠ 0 := fun h => hn (by rw [h]; decide)
        have hlog : Nat.log2 (m * twoTo k) < 53 + k := by
          rw [← lt_twoTo_iff hpos, twoTo_add]
          exact Nat.mul_lt_mul_of_pos_right hm (twoTo_pos k)
        rw [excess]
        omega
      exact roundDiv_mul_of_dvd (twoTo_pos _) ((Nat.pow_dvd_pow 2 hle).mul_left m)

/-- A rounded integer is off by at most one part in two to the fifty-third. -/
lemma dist_roundWhole_le (n : Int) : twoTo 53 * (roundWhole n - n).natAbs ≤ n.natAbs := by
  have h53 : twoTo 53 = 9007199254740992 := rfl
  have hdist := dist_roundNat_le n.natAbs
  rw [h53] at hdist ⊢
  rw [roundWhole]
  split_ifs <;> omega

lemma roundWhole_eq_self_iff {n : Int} :
    roundWhole n = n ↔ ∃ m k, m < twoTo 53 ∧ n.natAbs = m * twoTo k := by
  rw [← roundNat_eq_self_iff, roundWhole]
  split_ifs <;> omega

/-- An integer is a double just when it is within their range and rounding leaves it as it is. -/
theorem isDouble_iff {n : Int} : IsDouble n ↔ InRange n ∧ roundWhole n = n := by
  rw [roundWhole_eq_self_iff]
  constructor
  · rintro ⟨m, k, hm, hk, hn⟩
    refine ⟨?_, m, k, hm, hn⟩
    rw [InRange, roundNat_eq_self_iff.mpr ⟨m, k, hm, hn⟩, hn]
    calc m * twoTo k < twoTo 53 * twoTo k := Nat.mul_lt_mul_of_pos_right hm (twoTo_pos k)
      _ = twoTo (53 + k) := (twoTo_add 53 k).symm
      _ ≤ twoTo 1024 := twoTo_le_twoTo (by omega)
  · rintro ⟨hrange, m, k, hm, hn⟩
    by_cases hk : k ≤ 971
    · exact ⟨m, k, hm, hk, hn⟩
    · -- The zeros beyond the greatest exponent belong to the mantissa.
      have hsplit : m * twoTo k = m * twoTo (k - 971) * twoTo 971 := by
        rw [Nat.mul_assoc, ← twoTo_add, Nat.sub_add_cancel (by omega)]
      rw [InRange, roundNat_eq_self_iff.mpr ⟨m, k, hm, hn⟩, hn, hsplit,
        show 1024 = 53 + 971 from rfl, twoTo_add] at hrange
      exact ⟨m * twoTo (k - 971), 971, Nat.lt_of_mul_lt_mul_right hrange, le_rfl,
        hn.trans hsplit⟩

/-- Integers up to two to the fifty-third are doubles. -/
lemma isDouble_of_le {n : Int} (h : n.natAbs ≤ twoTo 53) : IsDouble n := by
  rcases h.lt_or_eq with h | h
  · exact ⟨n.natAbs, 0, h, by omega, (Nat.mul_one _).symm⟩
  · exact ⟨twoTo 52, 1, by decide, by omega, h⟩

/-! ### Doubles from their bits -/

/-- Bits whose exponent is not the one of infinities are those of a double. -/
lemma toBits_ofBits {bits : UInt64} (h : bits.toNat / twoTo 52 % twoTo 11 ≠ 2047) :
    (Float.ofBits bits).toBits = bits := by
  have hvalid : Float.Model.Format.binary64.Valid bits.toBitVec := by
    refine ⟨fun hexponent => absurd ?_ h⟩
    have hnat := congrArg BitVec.toNat hexponent
    rw [Float.Model.UnpackedFloat.unpackExponent_def, BitVec.extractLsb'_toNat,
      Nat.shiftRight_eq_div_pow] at hnat
    exact hnat
  let x : Float := .ofModel ⟨bits, hvalid⟩
  have hx : Float.ofBits bits = x := Float.ofBits_toBits x
  rw [hx]
  rfl

/-- The double with the bits of a mantissa and an exponent has this mantissa and this exponent. -/
lemma ofFloat_ofBits (h : IsCanonical m q) (negative : Bool) :
    Binary64.ofFloat (Float.ofBits (UInt64.ofNat
      (if negative then twoTo 63 + bitsOf m q else bitsOf m q))) = .finite negative m q := by
  have h11 : twoTo 11 = 2048 := rfl
  have h52 : twoTo 52 = 4503599627370496 := rfl
  have h53 : twoTo 53 = 9007199254740992 := rfl
  have h63 : twoTo 63 = 9223372036854775808 := rfl
  obtain ⟨hleast, hgreatest, hmantissa, hnormal⟩ := h
  generalize hbits : (if negative then twoTo 63 + bitsOf m q else bitsOf m q) = bits
  rw [bitsOf, h52, h63] at hbits
  rw [h53] at hmantissa
  rw [h52] at hnormal
  have hexponent : (q + 1075).toNat < 2047 := by omega
  have hlt : bits < 2 ^ 64 := by
    split_ifs at hbits <;> omega
  have hnat : (UInt64.ofNat bits).toNat = bits := UInt64.toNat_ofNat_of_lt hlt
  have hsign : (bits / 9223372036854775808 == 1) = negative := by
    cases negative <;> simp only [if_true, Bool.false_eq_true, if_false] at hbits <;>
      simp only [beq_iff_eq, beq_eq_false_iff_ne] <;> split_ifs at hbits <;> omega
  have hfield : bits / 4503599627370496 % 2048
      = if m < 4503599627370496 then 0 else (q + 1075).toNat := by
    split_ifs at hbits ⊢ <;> omega
  have hfraction : bits % 4503599627370496
      = if m < 4503599627370496 then m else m - 4503599627370496 := by
    split_ifs at hbits ⊢ <;> omega
  have hfinite : (UInt64.ofNat bits).toNat / twoTo 52 % twoTo 11 ≠ 2047 := by
    rw [hnat, h52, h11, hfield]
    split_ifs
    · decide
    · exact hexponent.ne
  unfold Binary64.ofFloat
  dsimp only
  rw [toBits_ofBits hfinite, if_neg hfinite, hnat, h52, h11, h63, hsign, hfield, hfraction]
  split_ifs with hm hq hq
  · rw [show q = -1074 by omega]
  · omega
  · omega
  · rw [Nat.add_sub_cancel' (not_lt.mp hm), Int.toNat_of_nonneg (by omega), add_sub_cancel_right]

/-! ### The double nearest to an integer -/

lemma floorLogTwo_one (hn : n ≠ 0) : floorLogTwo n 1 = Nat.log2 n := by
  rw [floorLogTwo_eq_log (Nat.pos_of_ne_zero hn) one_pos, Nat.cast_one, div_one, Int.log_natCast,
    Nat.log2_eq_log_two]

/-- The mantissa that an integer is rounded to, and its exponent. -/
lemma exists_mantissa (hn : n ≠ 0) :
    ∃ m, roundDiv (scaleTwo n 1 (-((Nat.log2 n : Int) - 52))).1
        (scaleTwo n 1 (-((Nat.log2 n : Int) - 52))).2 = m ∧
      twoTo 52 ≤ m ∧ m ≤ twoTo 53 ∧ (m : ℚ) * 2 ^ ((Nat.log2 n : Int) - 52) = roundNat n := by
  by_cases h : n < twoTo 52
  · -- All digits of the integer fit, with zeros behind them.
    have hlog : Nat.log2 n < 52 := (lt_twoTo_iff hn).mp h
    obtain ⟨k, hk⟩ := Nat.exists_eq_add_of_lt hlog
    have hscale : scaleTwo n 1 (-((Nat.log2 n : Int) - 52)) = (n * twoTo (k + 1), 1) := by
      rw [scaleTwo, if_pos (by omega)]
      congr 3
      omega
    rw [hscale]
    refine ⟨_, roundDiv_one _, ?_, ?_, ?_⟩
    · calc twoTo 52 = twoTo (Nat.log2 n) * twoTo (k + 1) := by rw [← twoTo_add]; congr 1
        _ ≤ n * twoTo (k + 1) := Nat.mul_le_mul_right _ (Nat.log2_self_le hn)
    · calc n * twoTo (k + 1) ≤ twoTo (Nat.log2 n + 1) * twoTo (k + 1) :=
          Nat.mul_le_mul_right _ Nat.lt_log2_self.le
        _ = twoTo 53 := by rw [← twoTo_add]; congr 1; omega
    · rw [roundNat_of_lt (h.trans (by decide)), Nat.cast_mul, cast_twoTo, mul_assoc,
        ← zpow_natCast, ← zpow_add₀ two_ne_zero]
      have hzero : ((k + 1 : ℕ) : ℤ) + ((Nat.log2 n : ℤ) - 52) = 0 := by omega
      rw [hzero, zpow_zero, mul_one]
  · have h := not_lt.mp h
    have hlog : 52 ≤ Nat.log2 n := (twoTo_le_iff hn).mp h
    have hexcess : (Nat.log2 n : Int) - 52 = excess n := by
      rw [excess]
      omega
    have hscale : scaleTwo n 1 (-(excess n : Int)) = (n, twoTo (excess n)) := by
      rw [scaleTwo]
      split_ifs with hpos
      · have hone : twoTo 0 = 1 := rfl
        rw [show excess n = 0 by omega, Nat.cast_zero, neg_zero, Int.toNat_zero, hone, mul_one]
      · rw [neg_neg, Int.toNat_natCast, one_mul]
    rw [hexcess, hscale]
    refine ⟨_, rfl, (roundDiv_excess_bounds h).1, (roundDiv_excess_bounds h).2, ?_⟩
    rw [roundNat, Nat.cast_mul, cast_twoTo, zpow_natCast]

/-- A number with a mantissa and an exponent of doubles is in their range. -/
lemma lt_of_mul_zpow (h : (m : ℚ) * 2 ^ q = k) (hm : m < twoTo 53) (hq : q ≤ 971) :
    k < twoTo 1024 := by
  rw [show 1024 = 53 + 971 from rfl, twoTo_add, ← Nat.cast_lt (α := ℚ)]
  calc (k : ℚ) = m * 2 ^ q := h.symm
    _ < twoTo 53 * 2 ^ q := mul_lt_mul_of_pos_right (Nat.cast_lt.mpr hm) (zpow_pos two_pos q)
    _ ≤ twoTo 53 * 2 ^ ((971 : ℕ) : ℤ) :=
      mul_le_mul_of_nonneg_left (zpow_le_zpow_right₀ one_le_two hq) (Nat.cast_nonneg _)
    _ = (twoTo 53 * twoTo 971 : ℕ) := by rw [zpow_natCast, ← cast_twoTo, Nat.cast_mul]

/-- A number with a full mantissa and a greater exponent is beyond the range of doubles. -/
lemma le_of_mul_zpow (h : (m : ℚ) * 2 ^ q = k) (hm : twoTo 52 ≤ m) (hq : 972 ≤ q) :
    twoTo 1024 ≤ k := by
  rw [show 1024 = 52 + 972 from rfl, twoTo_add, ← Nat.cast_le (α := ℚ)]
  calc ((twoTo 52 * twoTo 972 : ℕ) : ℚ) = twoTo 52 * 2 ^ ((972 : ℕ) : ℤ) := by
        rw [zpow_natCast, ← cast_twoTo, Nat.cast_mul]
    _ ≤ twoTo 52 * 2 ^ q :=
      mul_le_mul_of_nonneg_left (zpow_le_zpow_right₀ one_le_two hq) (Nat.cast_nonneg _)
    _ ≤ m * 2 ^ q := mul_le_mul_of_nonneg_right (Nat.cast_le.mpr hm) (zpow_pos two_pos q).le
    _ = k := h

/-- The bits of the double nearest to a natural number: those of the double that the number is
rounded to, or those of an infinity. -/
inductive RoundsTo (n : Nat) : Nat → Prop
  | finite {m : Nat} {q : Int} (canonical : IsCanonical m q)
      (value : (m : ℚ) * 2 ^ q = roundNat n) (range : roundNat n < twoTo 1024) :
      RoundsTo n (bitsOf m q)
  | infinite (range : twoTo 1024 ≤ roundNat n) : RoundsTo n (2047 * twoTo 52)

lemma roundsTo_nearestBits (n : Nat) : RoundsTo n (nearestBits n 1) := by
  by_cases hn : n = 0
  · subst hn
    have hzero : roundNat 0 = 0 := roundNat_of_lt (by decide)
    refine .finite (m := 0) (q := -1074) ⟨le_rfl, by decide, by decide, fun h => absurd h ?_⟩ ?_ ?_
    · decide
    · rw [hzero, Nat.cast_zero, zero_mul]
    · rw [hzero]
      exact twoTo_pos _
  · obtain ⟨m, hround, hlow, hhigh, hvalue⟩ := exists_mantissa hn
    have hq : max (floorLogTwo n 1 - 52) (-1074) = (Nat.log2 n : Int) - 52 := by
      rw [floorLogTwo_one hn]
      omega
    have hleast : -52 ≤ (Nat.log2 n : Int) - 52 := by omega
    generalize (Nat.log2 n : Int) - 52 = q at hround hvalue hq hleast
    obtain ⟨m', q', hcarry, hlow', hhigh', hvalue', hle⟩ : ∃ m' q',
        (if m = twoTo 53 then (twoTo 52, q + 1) else (m, q)) = (m', q') ∧ twoTo 52 ≤ m' ∧
          m' < twoTo 53 ∧ (m' : ℚ) * 2 ^ q' = roundNat n ∧ q ≤ q' := by
      by_cases hm : m = twoTo 53
      · refine ⟨twoTo 52, q + 1, if_pos hm, le_rfl, by decide, ?_, by omega⟩
        rw [← hvalue, hm, cast_twoTo, cast_twoTo, zpow_add₀ two_ne_zero]
        ring
      · exact ⟨m, q, if_neg hm, hlow, lt_of_le_of_ne hhigh hm, hvalue, le_rfl⟩
    by_cases hgreatest : q' ≤ 971
    · rw [nearestBits_eq hn hq hround hcarry hgreatest]
      exact .finite ⟨by omega, hgreatest, hhigh', fun _ => hlow'⟩ hvalue'
        (lt_of_mul_zpow hvalue' hhigh' hgreatest)
    · have hbits : nearestBits n 1 = 2047 * twoTo 52 := by
        rw [nearestBits, if_neg hn]
        dsimp only
        rw [hq, hround, hcarry]
        dsimp only
        rw [if_neg (not_lt.mpr hlow'), if_pos (by omega)]
      rw [hbits]
      exact .infinite (le_of_mul_zpow hvalue' hlow' (by omega))

/-- The integer part of a double, by its mantissa and its exponent. -/
lemma integerPart_eq (h : (m : ℚ) * 2 ^ q = k) :
    (if 0 ≤ q then m * twoTo q.toNat else m / twoTo (-q).toNat) = k := by
  split_ifs with hq
  · obtain ⟨e, rfl⟩ := Int.eq_ofNat_of_zero_le hq
    rw [zpow_natCast, ← cast_twoTo, ← Nat.cast_mul, Nat.cast_inj] at h
    exact h
  · obtain ⟨e, he⟩ := Int.eq_ofNat_of_zero_le (show 0 ≤ -q by omega)
    obtain rfl : q = -e := by omega
    rw [zpow_neg, zpow_natCast, ← cast_twoTo, ← div_eq_mul_inv,
      div_eq_iff (Nat.cast_ne_zero.mpr (twoTo_pos e).ne'), ← Nat.cast_mul, Nat.cast_inj] at h
    rw [neg_neg, Int.toNat_natCast, h, Nat.mul_div_cancel _ (twoTo_pos e)]

lemma isInf_of_finite {x : Float} {negative : Bool}
    (h : Binary64.ofFloat x = .finite negative m q) : x.isInf = false := by
  rcases float_cases x with rfl | rfl | rfl | ⟨-, hinf, -⟩
  · have hnan : Binary64.ofFloat notANumber = .nan := by decide
    cases hnan.symm.trans h
  · have hpositive : Binary64.ofFloat infinity = .infinite false := by decide
    cases hpositive.symm.trans h
  · have hnegative : Binary64.ofFloat (-infinity) = .infinite true := by decide
    cases hnegative.symm.trans h
  · exact hinf

/-- An integer beyond the range of doubles is read as an infinity. -/
lemma nearest_of_le (h : twoTo 1024 ≤ roundNat n) (negative : Bool) :
    nearest negative n 1 = if negative then -infinity else infinity := by
  have hrounds := roundsTo_nearestBits n
  rw [nearest]
  generalize nearestBits n 1 = bits at hrounds
  cases hrounds with
  | finite canonical value range => exact absurd h (not_le.mpr range)
  | infinite => cases negative <;> rfl

/-- An integer within the range of doubles is read as a finite one, whose integer part is what the
integer is rounded to. -/
lemma nearest_of_lt (h : roundNat n < twoTo 1024) (negative : Bool) :
    (nearest negative n 1).isInf = false ∧ truncate? (nearest negative n 1)
      = some (if negative then -(roundNat n : Int) else roundNat n) := by
  have hrounds := roundsTo_nearestBits n
  rw [nearest]
  generalize nearestBits n 1 = bits at hrounds
  cases hrounds with
  | infinite range => exact absurd h (not_lt.mpr range)
  | finite canonical value =>
    have hfinite := ofFloat_ofBits canonical negative
    refine ⟨isInf_of_finite hfinite, ?_⟩
    rw [truncate?, hfinite]
    dsimp only
    rw [integerPart_eq value]

/-- An integer as a double, if it is within the range of doubles. -/
lemma ofInt?_eq (n : Int) :
    ofInt? n = if InRange n then some (nearest (n < 0) n.natAbs 1) else none := by
  rw [ofInt?]
  by_cases h : InRange n
  · rw [(nearest_of_lt h _).1, if_pos h, if_neg Bool.false_ne_true]
  · rw [nearest_of_le (not_lt.mp h), if_neg h]
    have hinf (negative : Bool) :
        (if negative = true then -infinity else infinity : Float).isInf = true := by
      cases negative <;> decide
    rw [hinf, if_pos rfl]

/-! ### Integers in decimal digits -/

lemma plainChars_toString (n : Int) :
    plainChars (toString n) = Json.sign (decide (n < 0)) ++ Nat.toDigits 10 n.natAbs := by
  have hplain : ∀ c ∈ Json.sign (decide (n < 0)) ++ Nat.toDigits 10 n.natAbs,
      plainChar c = c ∧ Text.isAsciiBlank c = false := by
    intro c hc
    rcases List.mem_append.mp hc with hc | hc
    · obtain rfl : c = '-' := by
        rw [Json.sign] at hc
        split_ifs at hc
        · exact List.mem_singleton.mp hc
        · cases hc
      decide
    · have hdigit := Json.areDigits_toDigits _ c hc
      exact ⟨plainChar_of_isDigit hdigit, isAsciiBlank_of_isDigit hdigit⟩
  rw [plainChars, Json.toList_toString_int,
    (List.map_congr_left fun c hc => (hplain c hc).1).trans (List.map_id' _)]
  exact Text.trimChars_eq_self fun c hc => (hplain c hc).2

lemma splitSign_sign {ds : List Char} (h : Json.AreDigits ds) (negative : Bool) :
    splitSign (Json.sign negative ++ ds) = (negative, ds) := by
  cases negative with
  | false => exact splitSign_of_digits h
  | true => rfl

lemma dropUnderscores?_of_digits {ds : List Char} (h : Json.AreDigits ds) (before : Bool) :
    dropUnderscores? before ds = some ds := by
  induction ds generalizing before with
  | nil => rfl
  | cons c cs ih =>
    obtain ⟨hc, hcs⟩ := List.forall_mem_cons.mp h
    rw [dropUnderscores?]
    · rw [ih hcs, Option.map_some]
    · rintro rfl
      exact absurd hc (by decide)

lemma twoTo_three_mul_le (n : Nat) : twoTo (3 * n) ≤ tenTo n :=
  calc twoTo (3 * n) = 8 ^ n := Nat.pow_mul 2 3 n
    _ ≤ tenTo n := Nat.pow_le_pow_left (by decide) n

/-- An integer with more than four hundred digits is beyond the range of doubles. -/
lemma le_roundNat_of_length (h : 400 < (Nat.toDigits 10 n).length) : twoTo 1024 ≤ roundNat n := by
  have hten : tenTo 400 ≤ n :=
    not_lt.mp fun hn => absurd (length_toDigits_le (by decide) hn) (not_le.mpr h)
  have htwo : twoTo 1024 ≤ n :=
    (twoTo_le_twoTo (by decide : 1024 ≤ 3 * 400)).trans ((twoTo_three_mul_le 400).trans hten)
  have hn : n ≠ 0 := ((twoTo_pos 1024).trans_le htwo).ne'
  exact (twoTo_le_twoTo ((twoTo_le_iff hn).mp htwo)).trans (twoTo_log2_le_roundNat hn)

/-- An integer in decimal digits is read as the double that is nearest to it. -/
lemma ofDecimal_zero (negative : Bool) (n : Nat) :
    ofDecimal negative n 0 = nearest negative n 1 := by
  have hlength : ((toString n).length : Int) = (Nat.toDigits 10 n).length := by
    rw [← Nat.toList_repr, String.length_toList]
    rfl
  have hscale : scaleTen n 1 0 = (n, 1) := congrArg (·, 1) (Nat.mul_one n)
  rw [ofDecimal]
  dsimp only
  rw [hlength, hscale, add_zero]
  by_cases hzero : n = 0
  · rw [if_pos hzero, hzero]
  · rw [if_neg hzero]
    by_cases hlarge : 400 < (Nat.toDigits 10 n).length
    · rw [if_pos (by omega), nearest_of_le (le_roundNat_of_length hlarge)]
      cases negative <;> rfl
    · rw [if_neg (by omega), if_neg (by omega)]

lemma toLower_of_isDigit {c : Char} (h : c.isDigit = true) : c.toLower = c := by
  obtain ⟨hlow, hhigh⟩ := toNat_of_isDigit h
  have hupper : ¬ (65 ≤ c.toNat ∧ c.toNat ≤ 90) := by omega
  rw [Char.toLower, dif_neg]
  exact hupper

/-- The digits of an integer are read as the double that is nearest to it. -/
theorem parseFloat_toString (n : Int) :
    parseFloat (toString n) = .ok (nearest (n < 0) n.natAbs 1) := by
  have hdigits := Json.areDigits_toDigits n.natAbs
  have hlower : (Nat.toDigits 10 n.natAbs).map Char.toLower = Nat.toDigits 10 n.natAbs :=
    (List.map_congr_left fun c hc => toLower_of_isDigit (hdigits c hc)).trans (List.map_id' _)
  have hword {word : String} (h : 'n' ∈ word.toList) :
      String.ofList (Nat.toDigits 10 n.natAbs) ≠ word := by
    rintro rfl
    rw [String.toList_ofList] at h
    exact Bool.false_ne_true (hdigits 'n' h)
  have hdecimal : decimal? (decide (n < 0)) (Nat.toDigits 10 n.natAbs)
      = some (nearest (n < 0) n.natAbs 1) := by
    have hspan := @Json.span_digits _ [] hdigits nofun
    rw [List.append_nil] at hspan
    rw [decimal?, hspan.1, hspan.2]
    simp only [List.isEmpty_eq_false_iff.mpr Nat.toDigits_ne_nil, Bool.false_and,
      Bool.false_eq_true, if_false, exponentPart?, Option.map_some, List.append_nil,
      digitsValue_of_digits hdigits, Nat.ofDigitChars_ten_toDigits, List.length_nil, Nat.cast_zero,
      sub_zero, ofDecimal_zero]
  rw [parseFloat, plainChars_toString, splitSign_sign hdigits]
  dsimp only
  rw [hlower, if_neg (not_or.mpr ⟨hword (by simp), hword (by simp)⟩), if_neg (hword (by simp)),
    dropUnderscores?_of_digits hdigits, Option.bind_some, hdecimal]

end VariantRepair.Number
