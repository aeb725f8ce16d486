import Mathlib.Tactic.Common
import VariantRepair.Test
import VariantRepair.Proofs.Number.Decimal

/-!
# The names of tests are read back

The name of a test is its letter and its index. It is read back as the test, as long as the index
has no more digits than are read; and no test with more digits is ever read.
-/

namespace VariantRepair

open Text Number

/-- The index of the test has few enough digits to be read. -/
def Test.IsReadable (t : Test) : Prop :=
  t.index < tenTo digitLimit

lemma Test.isReadable_one (p : Polarity) : (⟨p, 1, Nat.one_pos⟩ : Test).IsReadable := by
  change 1 < tenTo digitLimit
  decide +kernel

/-- The letter of a polarity, as a character. -/
def Polarity.char : Polarity → Char
  | positive => 'p'
  | negative => 'n'

namespace Polarity

lemma letter_eq (p : Polarity) : p.letter = String.ofList [p.char] := by
  cases p <;> rfl

lemma ofText?_singleton_char (p : Polarity) : ofText? (String.singleton p.char) = some p := by
  cases p <;> rfl

lemma isBlank_char (p : Polarity) : isBlank p.char = false := by
  cases p <;> rfl

end Polarity

namespace Test

variable {t : Test} {s : String}

lemma name_eq (t : Test) :
    t.name = String.ofList (t.polarity.char :: Nat.toDigits 10 t.index) := by
  rw [name, Polarity.letter_eq, Nat.toString_eq_ofList_toDigits, ← String.ofList_append,
    List.singleton_append]

lemma nameParts?_name (t : Test) :
    nameParts? t.name = some (t.polarity, Nat.toDigits 10 t.index) := by
  have hdigits : ∀ c ∈ Nat.toDigits 10 t.index, c.isDigit = true := fun _ hc =>
    isDigit_of_mem_toDigits hc
  have htrim : trimChars isBlank (t.polarity.char :: Nat.toDigits 10 t.index)
      = t.polarity.char :: Nat.toDigits 10 t.index :=
    trimChars_eq_self (List.forall_mem_cons.mpr
      ⟨t.polarity.isBlank_char, fun c hc => isBlank_of_isDigit (hdigits c hc)⟩)
  have hall : (Nat.toDigits 10 t.index).all Text.isDigit = true :=
    List.all_eq_true.mpr fun c hc => isDigit_of_isDigit (hdigits c hc)
  rw [nameParts?, name_eq, String.toList_ofList, htrim]
  simp only [List.isEmpty_eq_false_iff.mpr Nat.toDigits_ne_nil, hall,
    Polarity.ofText?_singleton_char]
  rfl

/-- The name of a test is read as the test. -/
theorem parse_name (h : t.IsReadable) : parse t.name = .ok t := by
  rw [parse, nameParts?_name]
  simp only [parseInt_toDigits h, make, Int.toNat_natCast, t.index_pos, dif_pos]

lemma parseValue_name (h : t.IsReadable) : parseValue (.str t.name) = .ok t := by
  have hwritten : (Value.str t.name).written = .ok t.name := rfl
  rw [parseValue, hwritten]
  simp only [parse_name h]

/-- The tests whose names can be written are those whose names can be read. -/
lemma isOverlong_eq_false_iff : isOverlong t.index = false ↔ t.IsReadable := by
  rw [isOverlong, decide_eq_false_iff_not, Nat.not_le]
  rfl

lemma written_of_isReadable (h : t.IsReadable) : t.written = .ok t.name := by
  rw [written, isOverlong_eq_false_iff.mpr h, if_neg Bool.false_ne_true]

lemma isReadable_of_written (h : t.written = .ok s) : t.IsReadable := by
  rw [written] at h
  split_ifs at h with hlong
  exact isOverlong_eq_false_iff.mp (by simpa using hlong)

/-- A test that was read has an index with few enough digits. -/
theorem isReadable_of_parse (h : parse s = .ok t) : t.IsReadable := by
  rw [parse] at h
  split at h
  · cases h
  · split at h
    · next n hn =>
      rw [make] at h
      split_ifs at h
      obtain rfl := Except.ok.inj h
      have hlt := natAbs_lt_of_parseInt hn
      change n.toNat < tenTo digitLimit
      omega
    · cases h

lemma isReadable_of_parseValue {v : Value} (h : parseValue v = .ok t) : t.IsReadable := by
  rw [parseValue] at h
  split at h
  · cases h
  · next s _ =>
    split at h
    · cases h
    · exact isReadable_of_parse h

end Test

end VariantRepair
