import Mathlib.Data.List.Basic
import Mathlib.Data.List.Induction
import VariantRepair.Number.Reading
import VariantRepair.Proofs.Text.Words

/-!
# Numbers in decimal digits

Digits of any script are read as the number that they write, up to the greatest number of digits
that are read at all. So the digits that a natural number is written with are read back as that
number.
-/

namespace VariantRepair.Number

open Text

/-! ### Plain digits -/

variable {c : Char} {ds : List Char}

lemma toNat_of_isDigit (h : c.isDigit = true) : 48 ≤ c.toNat ∧ c.toNat ≤ 57 := by
  rw [Char.isDigit, Bool.and_eq_true, decide_eq_true_eq, decide_eq_true_eq] at h
  exact h

lemma isDigit_of_toNat (hlow : 48 ≤ c.toNat) (hhigh : c.toNat ≤ 57) : c.isDigit = true := by
  rw [Char.isDigit, Bool.and_eq_true, decide_eq_true_eq, decide_eq_true_eq]
  exact ⟨hlow, hhigh⟩

lemma digitValue?_of_isDigit (h : c.isDigit = true) : digitValue? c = some (c.toNat - 48) := by
  obtain ⟨hlow, hhigh⟩ := toNat_of_isDigit h
  have hzero : 48 ≤ c.toNat ∧ c.toNat < 48 + 10 := ⟨hlow, by omega⟩
  rw [digitValue?, zeroDigits, List.find?_cons_of_pos (by simpa using hzero), Option.map_some]

lemma isDigit_of_isDigit (h : c.isDigit = true) : Text.isDigit c = true := by
  rw [Text.isDigit, digitValue?_of_isDigit h, Option.isSome_some]

lemma isAsciiDigit_of_isDigit (h : c.isDigit = true) : isAsciiDigit c = true := by
  rw [isAsciiDigit, Bool.and_eq_true, decide_eq_true_eq, decide_eq_true_eq]
  exact toNat_of_isDigit h

lemma isBlank_of_isDigit (h : c.isDigit = true) : isBlank c = false := by
  obtain ⟨hlow, hhigh⟩ := toNat_of_isDigit h
  simp [isBlank]
  omega

lemma isAsciiBlank_of_isDigit (h : c.isDigit = true) : isAsciiBlank c = false := by
  obtain ⟨hlow, hhigh⟩ := toNat_of_isDigit h
  simp [isAsciiBlank]
  omega

lemma plainChar_of_isDigit (h : c.isDigit = true) : plainChar c = c := by
  obtain ⟨-, hhigh⟩ := toNat_of_isDigit h
  rw [plainChar, if_pos (by omega)]

/-! ### Digits of any script -/

lemma digitValue?_lt {d : Nat} (h : digitValue? c = some d) : d < 10 := by
  rw [digitValue?, Option.map_eq_some_iff] at h
  obtain ⟨z, hz, rfl⟩ := h
  have hbounds := List.find?_some hz
  simp only [Bool.and_eq_true, decide_eq_true_eq] at hbounds
  omega

/-- Where the zeros of the scripts stand: the plain one, and then none before U+0660 and none next
to a blank. -/
lemma zeroDigits_cases : ∀ z ∈ zeroDigits, z = 0x30 ∨ (0x660 ≤ z ∧ z ≤ 0x1090) ∨
    (0x17E0 ≤ z ∧ z ≤ 0x1C50) ∨ 0xA620 ≤ z := by
  decide

lemma exists_zeroDigit (h : Text.isDigit c = true) :
    ∃ z ∈ zeroDigits, z ≤ c.toNat ∧ c.toNat < z + 10 := by
  rw [Text.isDigit, digitValue?, Option.isSome_map, List.find?_isSome] at h
  simpa using h

lemma isBlank_of_scriptDigit (h : Text.isDigit c = true) : isBlank c = false := by
  obtain ⟨z, hz, hlow, hhigh⟩ := exists_zeroDigit h
  have hcases := zeroDigits_cases z hz
  simp [isBlank]
  omega

/-- A digit of any script is read as the plain digit of its value. -/
lemma plainChar_of_scriptDigit (h : Text.isDigit c = true) :
    (plainChar c).isDigit = true ∧ digitValue? (plainChar c) = digitValue? c := by
  have hplain : ∀ d < 10, (Char.ofNat (48 + d)).isDigit = true ∧
      digitValue? (Char.ofNat (48 + d)) = some d := by decide
  by_cases hsmall : c.toNat < 128
  · obtain ⟨z, hz, hlow, hhigh⟩ := exists_zeroDigit h
    have hcases := zeroDigits_cases z hz
    rw [plainChar, if_pos hsmall]
    exact ⟨isDigit_of_toNat (by omega) (by omega), rfl⟩
  · obtain ⟨d, hd⟩ := Option.isSome_iff_exists.mp h
    simp only [plainChar, if_neg hsmall, hd]
    exact hplain d (digitValue?_lt hd)

/-! ### Runs of digits -/

lemma splitSign_of_digits (h : ∀ c ∈ ds, c.isDigit = true) : splitSign ds = (false, ds) := by
  cases ds with
  | nil => rfl
  | cons c cs =>
    have hc : c.isDigit = true := h c List.mem_cons_self
    rw [splitSign]
    · rintro ds ⟨rfl, -⟩
      exact absurd hc (by decide)
    · rintro ds ⟨rfl, -⟩
      exact absurd hc (by decide)

lemma digitRun?_of_digits (h : ∀ c ∈ ds, c.isDigit = true) (before : Bool) :
    digitRun? before ds = some (ds, []) := by
  induction ds generalizing before with
  | nil => rfl
  | cons c cs ih =>
    obtain ⟨hc, hcs⟩ := List.forall_mem_cons.mp h
    rw [digitRun?]
    · rw [if_pos (isAsciiDigit_of_isDigit hc), ih hcs, Option.map_some]
    · rintro rfl
      exact absurd hc (by decide)

lemma digitsValue_of_digits (h : ∀ c ∈ ds, c.isDigit = true) :
    digitsValue ds = Nat.ofDigitChars 10 ds 0 := by
  rw [digitsValue, Nat.ofDigitChars_eq_foldl]
  refine List.foldl_ext _ _ 0 fun n c hc => ?_
  rw [digitValue?_of_isDigit (h c hc)]
  rfl

lemma digitsValue_map_plainChar (h : ∀ c ∈ ds, Text.isDigit c = true) :
    digitsValue (ds.map plainChar) = digitsValue ds := by
  rw [digitsValue, List.foldl_map]
  exact List.foldl_ext _ _ 0 fun n c hc => by rw [(plainChar_of_scriptDigit (h c hc)).2]

/-- Digits of any script are read as the number that they write, leading zeros or not, unless they
are too many. -/
theorem parseInt_of_scriptDigits (hne : ds ≠ []) (h : ∀ c ∈ ds, Text.isDigit c = true) :
    parseInt (String.ofList ds)
      = if digitLimit < ds.length then .error (.tooLong ds.length) else .ok (digitsValue ds) := by
  have hdigits : ∀ c ∈ ds.map plainChar, c.isDigit = true := by
    intro c hc
    obtain ⟨d, hd, rfl⟩ := List.mem_map.mp hc
    exact (plainChar_of_scriptDigit (h d hd)).1
  have hplain : plainChars (String.ofList ds) = ds.map plainChar := by
    rw [plainChars, String.toList_ofList]
    exact trimChars_eq_self fun c hc => isAsciiBlank_of_isDigit (hdigits c hc)
  have hempty : (ds.map plainChar).isEmpty = false := by simpa using hne
  simp only [parseInt, hplain, splitSign_of_digits hdigits, digitRun?_of_digits hdigits,
    List.length_map, hempty, digitsValue_map_plainChar h]
  rfl

/-! ### The digits of a number -/

lemma isDigit_of_mem_toDigits {n : Nat} (hc : c ∈ Nat.toDigits 10 n) : c.isDigit = true :=
  Nat.isDigit_of_mem_toDigits (by decide) (by decide) hc

lemma digitsValue_toDigits (n : Nat) : digitsValue (Nat.toDigits 10 n) = n := by
  rw [digitsValue_of_digits fun _ hc => isDigit_of_mem_toDigits hc, Nat.ofDigitChars_ten_toDigits]

lemma length_toDigits_le {n k : Nat} (hk : 0 < k) (h : n < tenTo k) :
    (Nat.toDigits 10 n).length ≤ k :=
  (Nat.length_toDigits_le_iff (by decide) hk).mpr h

/-- The digits of a number that has not too many of them are read as the number. -/
theorem parseInt_toDigits {n : Nat} (h : n < tenTo digitLimit) :
    parseInt (String.ofList (Nat.toDigits 10 n)) = .ok n := by
  have hdigits : ∀ c ∈ Nat.toDigits 10 n, Text.isDigit c = true := fun c hc =>
    isDigit_of_isDigit (isDigit_of_mem_toDigits hc)
  have hlen : ¬ digitLimit < (Nat.toDigits 10 n).length :=
    Nat.not_lt.mpr (length_toDigits_le (by decide) h)
  rw [parseInt_of_scriptDigits Nat.toDigits_ne_nil hdigits, if_neg hlen, digitsValue_toDigits]

/-! ### Numbers that were read -/

lemma digitsValue_append_singleton (ds : List Char) (c : Char) :
    digitsValue (ds ++ [c]) = 10 * digitsValue ds + (digitValue? c).getD 0 := by
  rw [digitsValue, List.foldl_append]
  rfl

lemma tenTo_succ (n : Nat) : tenTo (n + 1) = tenTo n * 10 := rfl

lemma tenTo_le_tenTo {m n : Nat} (h : m ≤ n) : tenTo m ≤ tenTo n :=
  Nat.pow_le_pow_right (by decide) h

lemma digitsValue_lt (ds : List Char) : digitsValue ds < tenTo ds.length := by
  induction ds using List.reverseRecOn with
  | nil => decide
  | append_singleton ds c ih =>
    have hdigit : (digitValue? c).getD 0 < 10 := by
      cases h : digitValue? c with
      | none => decide
      | some d => exact digitValue?_lt h
    rw [digitsValue_append_singleton, List.length_append, List.length_singleton, tenTo_succ]
    omega

/-- A number that was read has few enough digits. -/
theorem natAbs_lt_of_parseInt {s : String} {n : Int} (h : parseInt s = .ok n) :
    n.natAbs < tenTo digitLimit := by
  rw [parseInt] at h
  split at h
  split at h
  · cases h
  · next ds rest hrun =>
    split_ifs at h with hlong hform hnegative
    all_goals
      have hvalue : digitsValue ds < tenTo digitLimit :=
        Nat.lt_of_lt_of_le (digitsValue_lt ds) (tenTo_le_tenTo (Nat.not_lt.mp hlong))
      obtain rfl := Except.ok.inj h
      simpa using hvalue

end VariantRepair.Number
