import Mathlib.Data.List.Basic
import Mathlib.Data.List.TakeWhile
import Mathlib.Tactic.Common
import VariantRepair.Text.Utf8

/-!
# Texts are read back from their bytes

The bytes of a text are those of its characters in turn. Each character has a first byte that says
how many follow, and the bytes that follow lie in the range that the first one asks for. So the
characters are read back one by one.
-/

namespace VariantRepair.Text

variable {c : Char} {first b : UInt8} {n : Nat}

/-! ### The bytes of a text -/

lemma loop_toList (bytes : ByteArray) (i : Nat) (read : List UInt8) :
    ByteArray.toList.loop bytes i read = read.reverse ++ bytes.data.toList.drop i := by
  induction i, read using ByteArray.toList.loop.induct bytes with
  | case1 i read hi ih =>
    have hlength : i < bytes.data.toList.length := by simpa using hi
    have hget : bytes.get! i = bytes.data.toList[i] := getElem!_pos bytes.data i hi
    rw [ByteArray.toList.loop, if_pos hi, ih, List.reverse_cons, List.append_assoc,
      List.singleton_append, hget, List.getElem_cons_drop]
  | case2 i read hi =>
    have hlength : bytes.data.toList.length ≤ i := by simpa using hi
    rw [ByteArray.toList.loop, if_neg hi, List.drop_of_length_le hlength, List.append_nil]

lemma utf8Bytes_ofList (cs : List Char) :
    utf8Bytes (String.ofList cs) = cs.flatMap String.utf8EncodeChar := by
  rw [utf8Bytes, String.toUTF8_eq_toByteArray, String.toByteArray_ofList, ByteArray.toList,
    loop_toList, List.utf8Encode, List.data_toByteArray]
  rfl

/-! ### Single bytes -/

lemma toNat_ofNat (hn : n < 256) : (UInt8.ofNat n).toNat = n :=
  UInt8.toNat_ofNat_of_lt' hn

lemma isContinuation_iff : isContinuation b = true ↔ 0x80 ≤ b.toNat ∧ b.toNat < 0xC0 := by
  rw [isContinuation, Bool.and_eq_true, decide_eq_true_iff, decide_eq_true_iff,
    UInt8.le_iff_toNat_le, UInt8.lt_iff_toNat_lt]
  rfl

/-- How many bytes follow a first byte, by its value. -/
def follow? (first : Nat) : Option Nat :=
  if first < 0x80 then some 0 else if first < 0xC2 then none else if first < 0xE0 then some 1
  else if first < 0xF0 then some 2 else if first < 0xF5 then some 3 else none

lemma followers?_eq (first : UInt8) : followers? first = follow? first.toNat := by
  simp only [followers?, follow?, UInt8.lt_iff_toNat_lt, UInt8.reduceToNat]

/-- Can a byte come directly after a first one? By their values: two first bytes ask for more than
others, and two for less. -/
def Seconds (first b : Nat) : Prop :=
  (if first = 0xE0 then 0xA0 else if first = 0xF0 then 0x90 else 0x80) ≤ b ∧
    b ≤ if first = 0xED then 0x9F else if first = 0xF4 then 0x8F else 0xBF

lemma seconds_iff : ((secondRange first).1 ≤ b && b ≤ (secondRange first).2) = true ↔
    Seconds first.toNat b.toNat := by
  simp only [secondRange, Seconds, ← UInt8.toNat_inj, Bool.and_eq_true, decide_eq_true_iff,
    UInt8.le_iff_toNat_le, UInt8.reduceToNat]
  split_ifs <;> simp_all

/-! ### Single characters -/

/-- The number that a first byte and what the others add to it write. -/
def codeOf (first : Nat) (others : List Nat) : Nat :=
  others.foldl (fun n d => 64 * n + d)
    (if others.length = 0 then first else first % Number.twoTo (6 - others.length))

/-- The bytes of a character by their values: a first one, and what each of those that follow
adds. -/
structure Spells (c : Char) (first : Nat) (others : List Nat) : Prop where
  bytes : String.utf8EncodeChar c
    = UInt8.ofNat first :: others.map fun d => UInt8.ofNat (d + 128)
  first_lt : first < 256
  others_lt : ∀ d ∈ others, d < 64
  count : follow? first = some others.length
  second : ∀ d ∈ others.head?, Seconds first (d + 128)
  code : codeOf first others = c.toNat

/-- Every character has such bytes: one to four, by the range that it lies in. -/
lemma exists_spells (c : Char) : ∃ first others, Spells c first others := by
  have hvalid : c.toNat < 0xD800 ∨ 0xDFFF < c.toNat ∧ c.toNat < 0x110000 := c.valid
  have hbytes : String.utf8EncodeChar c
      = if c.toNat ≤ 0x7F then [.ofNat c.toNat]
        else if c.toNat ≤ 0x7FF then
          [.ofNat (c.toNat / 64 % 32 + 192), .ofNat (c.toNat % 64 + 128)]
        else if c.toNat ≤ 0xFFFF then
          [.ofNat (c.toNat / 4096 % 16 + 224), .ofNat (c.toNat / 64 % 64 + 128),
            .ofNat (c.toNat % 64 + 128)]
        else
          [.ofNat (c.toNat / 262144 % 8 + 240), .ofNat (c.toNat / 4096 % 64 + 128),
            .ofNat (c.toNat / 64 % 64 + 128), .ofNat (c.toNat % 64 + 128)] := rfl
  have hlt (n : Nat) : n % 64 < 64 := Nat.mod_lt n (by decide)
  split_ifs at hbytes with hone htwo hthree
  · refine ⟨_, [], hbytes, by omega, by simp, ?_, by simp, rfl⟩
    rw [follow?, if_pos (by omega)]
    rfl
  · refine ⟨_, [c.toNat % 64], hbytes, by omega, by simp [hlt], ?_, ?_, ?_⟩
    · rw [follow?, if_neg, if_neg, if_pos]
      · rfl
      all_goals omega
    · simp only [List.head?_cons, Option.mem_some_iff, forall_eq', Seconds]
      split_ifs <;> omega
    · change 64 * ((c.toNat / 64 % 32 + 192) % 2 ^ 5) + c.toNat % 64 = c.toNat
      omega
  · refine ⟨_, [c.toNat / 64 % 64, c.toNat % 64], hbytes, by omega, by simp [hlt], ?_, ?_, ?_⟩
    · rw [follow?, if_neg, if_neg, if_neg, if_pos]
      · rfl
      all_goals omega
    · simp only [List.head?_cons, Option.mem_some_iff, forall_eq', Seconds]
      split_ifs <;> omega
    · change 64 * (64 * ((c.toNat / 4096 % 16 + 224) % 2 ^ 4) + c.toNat / 64 % 64) + c.toNat % 64
        = c.toNat
      omega
  · refine ⟨_, [c.toNat / 4096 % 64, c.toNat / 64 % 64, c.toNat % 64], hbytes, by omega,
      by simp [hlt], ?_, ?_, ?_⟩
    · rw [follow?, if_neg, if_neg, if_neg, if_neg, if_pos]
      · rfl
      all_goals omega
    · simp only [List.head?_cons, Option.mem_some_iff, forall_eq', Seconds]
      split_ifs <;> omega
    · change 64 * (64 * (64 * ((c.toNat / 262144 % 8 + 240) % 2 ^ 3) + c.toNat / 4096 % 64)
        + c.toNat / 64 % 64) + c.toNat % 64 = c.toNat
      omega

/-! ### Reading -/

/-- The bytes that belong to a character that has been read are passed over. -/
lemma decodeFrom_skip (bytes rest : List UInt8) (position : Nat) :
    decodeFrom position bytes.length (bytes ++ rest)
      = decodeFrom (position + bytes.length) 0 rest := by
  induction bytes generalizing position with
  | nil => rfl
  | cons b bytes ih =>
    rw [List.cons_append, List.length_cons, decodeFrom, ih, Nat.add_right_comm, Nat.add_assoc]

namespace Spells

variable {first : Nat} {others : List Nat} (h : Spells c first others)

include h

lemma goodFollowers_eq (rest : List UInt8) :
    goodFollowers (UInt8.ofNat first) others.length
      ((others.map fun d => UInt8.ofNat (d + 128)) ++ rest) = others.length := by
  have hothers : ∀ d ∈ others, (UInt8.ofNat (d + 128)).toNat = d + 128 := fun d hd =>
    toNat_ofNat (by have := h.others_lt d hd; omega)
  rw [goodFollowers, List.take_left' (List.length_map _)]
  cases others with
  | nil => rfl
  | cons d others =>
    obtain ⟨hd, hothers⟩ := List.forall_mem_cons.mp hothers
    have hsecond := h.second d rfl
    rw [← hd, ← toNat_ofNat h.first_lt] at hsecond
    have htake : (others.map fun d => UInt8.ofNat (d + 128)).takeWhile isContinuation
        = others.map fun d => UInt8.ofNat (d + 128) := by
      refine List.takeWhile_eq_self_iff.mpr fun b hb => ?_
      obtain ⟨d, hd, rfl⟩ := List.mem_map.mp hb
      have hlt := h.others_lt d (List.mem_cons_of_mem _ hd)
      rw [isContinuation_iff, hothers d hd]
      omega
    rw [List.map_cons]
    dsimp only
    rw [if_pos (seconds_iff.mpr hsecond), htake, List.length_map, List.length_cons, Nat.add_comm]

lemma foldl_eq : (others.map fun d => UInt8.ofNat (d + 128)).foldl
    (fun n b => 64 * n + b.toNat % 64) n = others.foldl (fun n d => 64 * n + d) n := by
  have hlt := h.others_lt
  rw [List.foldl_map]
  refine List.foldl_ext _ _ _ fun n d hd => ?_
  have := hlt d hd
  rw [toNat_ofNat (by omega)]
  omega

/-- The character is read from its bytes. -/
lemma decodeFrom_append (rest : List UInt8) (position : Nat) :
    decodeFrom position 0 (String.utf8EncodeChar c ++ rest)
      = (decodeFrom (position + 1 + others.length) 0 rest).map (c :: ·) := by
  have hfirst := toNat_ofNat h.first_lt
  have hchar : decodeChar position (UInt8.ofNat first)
      ((others.map fun d => UInt8.ofNat (d + 128)) ++ rest) = .ok (c, others.length) := by
    rw [decodeChar, followers?_eq, hfirst, h.count]
    dsimp only
    rw [if_pos (h.goodFollowers_eq rest), List.take_left' (List.length_map _), h.foldl_eq]
    change Except.ok (Char.ofNat (codeOf first others), _) = _
    rw [h.code, Char.ofNat_toNat]
  have hskip := decodeFrom_skip (others.map fun d => UInt8.ofNat (d + 128)) rest (position + 1)
  rw [List.length_map] at hskip
  rw [h.bytes, List.cons_append, decodeFrom, hchar]
  dsimp only
  rw [hskip]

end Spells

lemma decodeFrom_flatMap (cs : List Char) (position : Nat) :
    decodeFrom position 0 (cs.flatMap String.utf8EncodeChar) = .ok cs := by
  induction cs generalizing position with
  | nil => rfl
  | cons c cs ih =>
    obtain ⟨first, others, h⟩ := exists_spells c
    rw [List.flatMap_cons, h.decodeFrom_append, ih]
    rfl

/-- Every text is read back from its bytes. -/
theorem decodeUtf8_utf8Bytes (s : String) : decodeUtf8 (utf8Bytes s) = .ok s := by
  have hbytes := utf8Bytes_ofList s.toList
  rw [String.ofList_toList] at hbytes
  rw [hbytes, decodeUtf8, decodeFrom_flatMap]
  exact congrArg Except.ok String.ofList_toList

end VariantRepair.Text
