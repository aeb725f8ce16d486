import Mathlib.Data.Nat.Cast.Order.Field
import VariantRepair.Proofs.Number.Decimal
import VariantRepair.Proofs.Number.Nearest

/-!
# The shortest decimal of a double

A decimal is only taken for a double if it lies in the interval of ratios that are rounded to it.
With seventeen digits the grid of decimals is finer than the interval is wide, so that there always
is such a decimal.
-/

namespace VariantRepair.Number

variable {m n count : Nat} {q : Int} {d : Decimal}

/-! ### Digits -/

lemma digitCount_eq (n : Nat) : digitCount n = (Nat.toDigits 10 n).length := by
  rw [digitCount, ← String.length_toList]
  change (String.ofList (Nat.toDigits 10 n)).toList.length = _
  rw [String.toList_ofList]

lemma digitCount_pos (n : Nat) : 0 < digitCount n := by
  rw [digitCount_eq]
  exact List.length_pos_iff.mpr Nat.toDigits_ne_nil

/-- The number of digits of a number is one more than its logarithm. -/
lemma digitCount_bounds (hn : 0 < n) :
    10 ^ (digitCount n - 1) ≤ n ∧ n < 10 ^ (digitCount n - 1 + 1) := by
  have hpos := digitCount_pos n
  rw [Nat.sub_add_cancel hpos]
  rw [digitCount_eq] at hpos ⊢
  refine ⟨?_, (Nat.length_toDigits_le_iff (by decide) hpos).mp le_rfl⟩
  by_cases hone : (Nat.toDigits 10 n).length = 1
  · rw [hone]
    exact hn
  · by_contra h
    have hle := (Nat.length_toDigits_le_iff (b := 10) (k := (Nat.toDigits 10 n).length - 1)
      (by decide) (by omega)).mpr (not_le.mp h)
    omega

lemma scaleTen_lt_iff {num den : Nat} (hden : 0 < den) (k : Int) :
    (scaleTen num den (-k)).1 < (scaleTen num den (-k)).2 ↔ (num : ℚ) / den < 10 ^ k := by
  have hpos : (0 : ℚ) < (scaleTen num den (-k)).2 := Nat.cast_pos.mpr (scaleTen_pos hden num (-k))
  rw [← Nat.cast_lt (α := ℚ), ← div_lt_one₀ hpos, ratio_scaleTen, zpow_neg,
    mul_inv_lt_iff₀ (zpow_pos (by norm_num) k), one_mul]

lemma floorLogTen_eq_log {num den : Nat} (hnum : 0 < num) (hden : 0 < den) :
    floorLogTen num den = Int.log 10 ((num : ℚ) / den) := by
  have hfloor : floorLogTen num den
      = if (scaleTen num den (-((digitCount num : Int) - digitCount den))).1
            < (scaleTen num den (-((digitCount num : Int) - digitCount den))).2
        then (digitCount num : Int) - digitCount den - 1
        else (digitCount num : Int) - digitCount den := rfl
  have hlog := log_ratio (by decide) (digitCount_bounds hnum) (digitCount_bounds hden)
  have hdiff : ((digitCount num - 1 : Nat) : Int) - (digitCount den - 1 : Nat)
      = (digitCount num : Int) - digitCount den := by
    have := digitCount_pos num
    have := digitCount_pos den
    omega
  rw [hdiff] at hlog
  rw [hfloor, hlog]
  simp only [scaleTen_lt_iff hden, Nat.cast_ofNat]

/-! ### Decimals near a double -/

/-- The number that a decimal writes. -/
def Decimal.value (d : Decimal) : ℚ := d.digits * 10 ^ d.exponent

/-- The test of a decimal against the interval, in whole numbers. -/
def passes (m : Nat) (q : Int) (d : Decimal) : Bool :=
  let s := scaleTen d.digits 1 d.exponent
  let s := scaleTwo s.1 s.2 (-(q - 2))
  let ends := roundingInterval m q
  if m % 2 == 0 then ends.1 * s.2 ≤ s.1 && s.1 ≤ ends.2 * s.2
  else ends.1 * s.2 < s.1 && s.1 < ends.2 * s.2

lemma passes_iff : passes m q d = true ↔ IsNear m q d.value := by
  let t := scaleTen d.digits 1 d.exponent
  let s := scaleTwo t.1 t.2 (-(q - 2))
  have hb : (0 : ℚ) < s.2 :=
    Nat.cast_pos.mpr (scaleTwo_pos (scaleTen_pos one_pos d.digits d.exponent) _ _)
  have hratio : (s.1 : ℚ) / s.2 = d.value * 2 ^ (2 - q) := by
    rw [ratio_scaleTwo, ratio_scaleTen, Nat.cast_one, div_one, neg_sub, Decimal.value]
  have hlow {low : Nat} : low * s.2 ≤ s.1 ↔ (low : ℚ) ≤ d.value * 2 ^ (2 - q) := by
    rw [← hratio, le_div_iff₀ hb]
    exact_mod_cast Iff.rfl
  have hhigh {high : Nat} : s.1 ≤ high * s.2 ↔ d.value * 2 ^ (2 - q) ≤ high := by
    rw [← hratio, div_le_iff₀ hb]
    exact_mod_cast Iff.rfl
  change (if m % 2 == 0 then
      (roundingInterval m q).1 * s.2 ≤ s.1 && s.1 ≤ (roundingInterval m q).2 * s.2
    else (roundingInterval m q).1 * s.2 < s.1 && s.1 < (roundingInterval m q).2 * s.2) = true ↔ _
  by_cases heven : m % 2 = 0
  · rw [if_pos (by simpa using heven), Bool.and_eq_true, decide_eq_true_eq, decide_eq_true_eq,
      hlow, hhigh]
    exact ⟨fun h => ⟨h.1, h.2, fun hodd => by omega⟩, fun h => ⟨h.low, h.high⟩⟩
  · rw [if_neg (by simpa using heven), Bool.and_eq_true, decide_eq_true_eq, decide_eq_true_eq,
      ← not_le, ← not_le, hlow, hhigh, not_le, not_le]
    constructor
    · exact fun h => ⟨h.1.le, h.2.le, fun _ => ⟨h.1.ne', h.2.ne⟩⟩
    · intro h
      obtain ⟨hne, hne'⟩ := h.inside (by omega)
      exact ⟨lt_of_le_of_ne h.low hne.symm, lt_of_le_of_ne h.high hne'⟩

section Grid

variable {num den n unit : Nat} {step : Int}
  (hratio : scaleTwo (4 * m) 1 (q - 2) = (num, den))
  (hstep : floorLogTen num den - (count : Int) + 1 = step)
  (hsteps : scaleTen num den (-step) = (n, unit))

include hratio hstep hsteps

lemma decimalOfLength?_eq : decimalOfLength? m q count
    = match passes m q ⟨n / unit, step⟩, passes m q ⟨n / unit + 1, step⟩ with
      | true, true =>
        if 2 * (n % unit) < unit ∨ (2 * (n % unit) = unit ∧ n / unit % 2 = 0) then
          some ⟨n / unit, step⟩
        else some ⟨n / unit + 1, step⟩
      | true, false => some ⟨n / unit, step⟩
      | false, true => some ⟨n / unit + 1, step⟩
      | false, false => none := by
  unfold decimalOfLength?
  simp only [hratio, hstep, hsteps]
  rfl

/-- If no decimal is taken, neither neighbour of the ratio on the grid lies in the interval. -/
lemma not_isNear_of_decimalOfLength? (h : decimalOfLength? m q count = none) :
    ¬ IsNear m q (Decimal.value ⟨n / unit, step⟩) ∧
      ¬ IsNear m q (Decimal.value ⟨n / unit + 1, step⟩) := by
  rw [← passes_iff, ← passes_iff]
  rw [decimalOfLength?_eq hratio hstep hsteps] at h
  split at h
  · split_ifs at h
  · cases h
  · cases h
  · next hlower hupper => exact ⟨Bool.eq_false_iff.mp hlower, Bool.eq_false_iff.mp hupper⟩

end Grid

/-- A decimal is only taken if it lies in the interval. -/
lemma isNear_of_decimalOfLength? (h : decimalOfLength? m q count = some d) :
    IsNear m q d.value := by
  rw [decimalOfLength?_eq rfl rfl rfl] at h
  rw [← passes_iff]
  split at h
  · next hlower hupper =>
    split_ifs at h
    · exact Option.some.inj h ▸ hlower
    · exact Option.some.inj h ▸ hupper
  · next hlower _ => exact Option.some.inj h ▸ hlower
  · next _ hupper => exact Option.some.inj h ▸ hupper
  · cases h

/-! ### Seventeen digits -/

/-- A ratio lies in the interval if it is less than half a unit from the mantissa and, where that is
a power of two, not below it. -/
lemma isNear_of_lt {r : ℚ} (hm : m ≠ 0) (hlow : (m : ℚ) - 1 / 2 < r * 2 ^ (-q))
    (hhigh : r * 2 ^ (-q) < m + 1 / 2)
    (hpower : m = twoTo 52 → -1074 < q → (m : ℚ) ≤ r * 2 ^ (-q)) : IsNear m q r := by
  have hscale : r * 2 ^ (2 - q) = 4 * (r * 2 ^ (-q)) := by
    rw [sub_eq_add_neg, zpow_add₀ two_ne_zero]
    norm_num
    ring
  have hstart : (((roundingInterval m q).1 : ℕ) : ℚ) < 4 * (r * 2 ^ (-q)) := by
    rw [roundingInterval]
    dsimp only
    split_ifs with h
    · have := hpower h.1 h.2
      push_cast [show 1 ≤ 4 * m by omega]
      linarith
    · push_cast [show 2 ≤ 4 * m by omega]
      linarith
  have hend : 4 * (r * 2 ^ (-q)) < (((roundingInterval m q).2 : ℕ) : ℚ) := by
    rw [roundingInterval]
    push_cast
    linarith
  rw [← hscale] at hstart hend
  exact ⟨hstart.le, hend.le, fun _ => ⟨hstart.ne', hend.ne⟩⟩

/-- Of two neighbours on a grid around the mantissa one lies in the interval, if a step of the grid
is less than a unit, and less than half of one at a power of two. -/
lemma isNear_of_grid {k : Nat} {step : Int} {width : ℚ} (hm : m ≠ 0)
    (hwidth : (10 : ℚ) ^ step * 2 ^ (-q) = width) (hlower : k * width ≤ m)
    (hupper : (m : ℚ) < (k + 1) * width) (hunit : width < 1)
    (hhalf : m = twoTo 52 → width < 1 / 2) :
    IsNear m q (Decimal.value ⟨k, step⟩) ∨ IsNear m q (Decimal.value ⟨k + 1, step⟩) := by
  have hscale (j : Nat) : Decimal.value ⟨j, step⟩ * 2 ^ (-q) = j * width := by
    rw [Decimal.value, mul_assoc, hwidth]
  by_cases hpower : m = twoTo 52
  · have := hhalf hpower
    refine .inr (isNear_of_lt hm ?_ ?_ fun _ _ => ?_)
    all_goals
      rw [hscale]
      push_cast
      linarith
  · by_cases hclose : (m : ℚ) - 1 / 2 < k * width
    · refine .inl (isNear_of_lt hm ?_ ?_ fun h => absurd h hpower)
      all_goals
        rw [hscale]
        linarith
    · refine .inr (isNear_of_lt hm ?_ ?_ fun h => absurd h hpower)
      all_goals
        rw [hscale]
        push_cast
        linarith

section Seventeen

variable {num den n unit : Nat} {step : Int} (hm : m ≠ 0)
  (hratio : scaleTwo (4 * m) 1 (q - 2) = (num, den))
  (hstep : floorLogTen num den - 16 = step) (hsteps : scaleTen num den (-step) = (n, unit))

include hratio

lemma den_pos : 0 < den := by
  have := scaleTwo_pos one_pos (4 * m) (q - 2)
  rwa [hratio] at this

lemma ratio_eq : (num : ℚ) / den = m * 2 ^ q := by
  have := ratio_scaleTwo (4 * m) 1 (q - 2)
  rw [hratio] at this
  rw [this, zpow_sub₀ two_ne_zero]
  push_cast
  norm_num
  ring

include hstep hm in
/-- A step of the grid of seventeen digits is at most `10 ^ (-16)` of the mantissa. -/
lemma width_le : (10 : ℚ) ^ step * 2 ^ (-q) * 10 ^ 16 ≤ m := by
  have hvalue := ratio_eq hratio
  have hpos : (0 : ℚ) < num / den := by
    rw [hvalue]
    exact mul_pos (Nat.cast_pos.mpr (Nat.pos_of_ne_zero hm)) (zpow_pos two_pos q)
  have hnum : 0 < num := by
    rcases Nat.eq_zero_or_pos num with rfl | h
    · simp at hpos
    · exact h
  have hlog := Int.zpow_log_le_self (b := 10) (by decide) hpos
  have hexp : floorLogTen num den = step + 16 := by omega
  rw [← floorLogTen_eq_log hnum (den_pos hratio), hexp, hvalue, Nat.cast_ofNat,
    zpow_add₀ (by norm_num)] at hlog
  calc (10 : ℚ) ^ step * 2 ^ (-q) * 10 ^ 16 = 10 ^ step * 10 ^ (16 : Int) * 2 ^ (-q) := by ring
    _ ≤ m * 2 ^ q * 2 ^ (-q) := mul_le_mul_of_nonneg_right hlog (zpow_pos two_pos _).le
    _ = m := by rw [mul_assoc, ← zpow_add₀ two_ne_zero, add_neg_cancel, zpow_zero, mul_one]

include hsteps in
/-- How many steps the ratio is: not less than the whole steps, and less than one more. -/
lemma steps_bounds : ((n / unit : Nat) : ℚ) * ((10 : ℚ) ^ step * 2 ^ (-q)) ≤ m ∧
    (m : ℚ) < ((n / unit : Nat) + 1) * ((10 : ℚ) ^ step * 2 ^ (-q)) := by
  have hwidth : (0 : ℚ) < 10 ^ step * 2 ^ (-q) :=
    mul_pos (zpow_pos (by norm_num) _) (zpow_pos two_pos _)
  have hunit : 0 < unit := by
    have := scaleTen_pos (den_pos hratio) num (-step)
    rwa [hsteps] at this
  have hcount : (n : ℚ) / unit * ((10 : ℚ) ^ step * 2 ^ (-q)) = m := by
    have hscaled := ratio_scaleTen num den (-step)
    rw [hsteps, ratio_eq hratio] at hscaled
    rw [hscaled]
    calc (m : ℚ) * 2 ^ q * 10 ^ (-step) * (10 ^ step * 2 ^ (-q))
        = m * (2 ^ q * 2 ^ (-q)) * (10 ^ (-step) * 10 ^ step) := by ring
      _ = m := by
        rw [← zpow_add₀ two_ne_zero, ← zpow_add₀ (by norm_num), add_neg_cancel, neg_add_cancel,
          zpow_zero, zpow_zero, mul_one, mul_one]
  have hfloor : ((n / unit : Nat) : ℚ) ≤ n / unit := Nat.cast_div_le
  have hceil : (n : ℚ) / unit < (n / unit : Nat) + 1 := by
    have hlt := Nat.lt_mul_div_succ n hunit
    rw [Nat.mul_comm] at hlt
    rw [div_lt_iff₀ (Nat.cast_pos.mpr hunit)]
    exact_mod_cast hlt
  exact ⟨hcount ▸ mul_le_mul_of_nonneg_right hfloor hwidth.le,
    hcount ▸ mul_lt_mul_of_pos_right hceil hwidth⟩

end Seventeen

/-- In the interval of any double there is a decimal of seventeen digits. -/
lemma exists_decimalOfLength? (hmq : IsCanonical m q) (hm : m ≠ 0) :
    ∃ d, decimalOfLength? m q 17 = some d := by
  rcases hratio : scaleTwo (4 * m) 1 (q - 2) with ⟨num, den⟩
  generalize hstep : floorLogTen num den - 16 = step
  rcases hsteps : scaleTen num den (-step) with ⟨n, unit⟩
  have hle := width_le hm hratio hstep
  obtain ⟨hlower, hupper⟩ := steps_bounds hratio hsteps
  have hmantissa : (m : ℚ) < 2 ^ 53 := by
    have := hmq.mantissa
    exact_mod_cast this
  cases hfound : decimalOfLength? m q 17 with
  | some d => exact ⟨d, rfl⟩
  | none =>
    have hneither := not_isNear_of_decimalOfLength? hratio (by omega) hsteps hfound
    generalize hwidth : (10 : ℚ) ^ step * 2 ^ (-q) = width at hle hlower hupper
    refine absurd (isNear_of_grid hm hwidth hlower hupper (by linarith) fun hpower => ?_)
      (not_or.mpr hneither)
    rw [hpower, cast_twoTo] at hle
    linarith

/-! ### The shortest form -/

/-- Zeros that are dropped do not change the number. -/
lemma Decimal.value_dropZeros (fuel : Nat) (d : Decimal) : (d.dropZeros fuel).value = d.value := by
  induction fuel generalizing d with
  | zero => rfl
  | succ fuel ih =>
    rw [dropZeros]
    split_ifs with h
    · have hdigits : (d.digits : ℚ) = (d.digits / 10 : Nat) * 10 := by
        have := Nat.div_add_mod d.digits 10
        rw [h.2, Nat.add_zero, Nat.mul_comm] at this
        exact_mod_cast this.symm
      rw [ih, value, value, hdigits, zpow_add_one₀ (by norm_num)]
      ring
    · rfl

/-- The shortest decimal of a double is rounded to it. -/
theorem isNear_shortest (hmq : IsCanonical m q) (hm : m ≠ 0) :
    IsNear m q (shortest m q).value := by
  rw [shortest, if_neg hm]
  cases hfound : (List.range 17).findSome? fun k => decimalOfLength? m q (k + 1) with
  | some d =>
    obtain ⟨k, -, hk⟩ := List.exists_of_findSome?_eq_some hfound
    dsimp only
    rw [Decimal.value_dropZeros]
    exact isNear_of_decimalOfLength? hk
  | none =>
    obtain ⟨d, hd⟩ := exists_decimalOfLength? hmq hm
    have := List.findSome?_eq_none_iff.mp hfound 16 (List.mem_range.mpr (by decide))
    rw [hd] at this
    cases this

end VariantRepair.Number
