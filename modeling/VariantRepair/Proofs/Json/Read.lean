import Mathlib.Tactic.Common
import VariantRepair.Json.Reader
import VariantRepair.Value.Convert
import VariantRepair.Proofs.Number.Decimal
import VariantRepair.Proofs.Value.Field

/-!
# Values that are read from JSON text

A text with an integer that has too many digits is refused while it is read, so that whatever value
is read can be written.
-/

namespace VariantRepair

open Number

/-! ### Integers in values -/

namespace Value

variable {v w : Value} {vs : List Value} {ps : List (Value × Value)}

lemma isOverlongItem_eq_false_iff :
    isOverlongItem vs = false ↔ ∀ v ∈ vs, v.isOverlong = false := by
  induction vs with
  | nil => simp [isOverlongItem]
  | cons v vs ih => simp [isOverlongItem, ih]

lemma isOverlongPair_eq_false_iff :
    isOverlongPair ps = false ↔ ∀ p ∈ ps, p.1.isOverlong = false ∧ p.2.isOverlong = false := by
  induction ps with
  | nil => simp [isOverlongPair]
  | cons p ps ih => simp [isOverlongPair, ih]

lemma isOverlong_list : (list vs).isOverlong = false ↔ ∀ v ∈ vs, v.isOverlong = false := by
  rw [isOverlong, isOverlongItem_eq_false_iff]

lemma isOverlong_map :
    (map ps).isOverlong = false ↔ ∀ p ∈ ps, p.1.isOverlong = false ∧ p.2.isOverlong = false := by
  rw [isOverlong, isOverlongPair_eq_false_iff]

lemma isOverlong_ofPoints (points : List Nat) : (ofPoints points).isOverlong = false := by
  rw [ofPoints]
  split <;> rfl

lemma mem_insertPair {p : Value × Value} (h : p ∈ insertPair ps v w) :
    p ∈ ps ∨ p = (v, w) ∨ ∃ q ∈ ps, p = (q.1, w) := by
  rw [insertPair] at h
  split_ifs at h
  · obtain ⟨q, hq, heq⟩ := List.mem_map.mp h
    split_ifs at heq
    · exact .inr (.inr ⟨q, hq, heq.symm⟩)
    · exact .inl (heq ▸ hq)
  · rcases List.mem_append.mp h with h | h
    · exact .inl h
    · exact .inr (.inl (List.mem_singleton.mp h))

/-- What holds of all keys and of all values holds of those that pairs are collected to. -/
lemma forall_mem_collect {K V : Value → Prop} (h : ∀ p ∈ ps, K p.1 ∧ V p.2) :
    ∀ p ∈ collect ps, K p.1 ∧ V p.2 := by
  have hfold (acc : List (Value × Value)) (hacc : ∀ p ∈ acc, K p.1 ∧ V p.2) :
      ∀ p ∈ ps.foldl (fun acc p => insertPair acc p.1 p.2) acc, K p.1 ∧ V p.2 := by
    induction ps generalizing acc with
    | nil => exact hacc
    | cons p ps ih =>
      obtain ⟨hp, hps⟩ := List.forall_mem_cons.mp h
      refine ih hps _ fun q hq => ?_
      rcases mem_insertPair hq with hq | rfl | ⟨r, hr, rfl⟩
      · exact hacc q hq
      · exact hp
      · exact ⟨(hacc r hr).1, hp.2⟩
  exact hfold [] nofun

end Value

namespace Json

/-! ### Steps of reading -/

/-- A step of reading gives what is of a kind, if it gives anything. -/
def Yields {ε α : Type} (P : α → Prop) (r : Except ε α) : Prop :=
  ∀ a, r = .ok a → P a

namespace Yields

variable {ε α β : Type} {P : α → Prop} {Q : β → Prop}

lemma ok {a : α} (h : P a) : Yields P (.ok a : Except ε α) := by
  rintro _ ⟨⟩
  exact h

lemma error (e : ε) : Yields P (.error e : Except ε α) := nofun

lemma bind {r : Except ε α} {f : α → Except ε β} (hr : Yields P r)
    (hf : ∀ a, P a → Yields Q (f a)) : Yields Q (r >>= f) := by
  cases r with
  | ok a => exact hf a (hr a rfl)
  | error e => exact error e

end Yields

/-- A value without integers that are too long, and the text that is left. -/
def IsShort (r : Value × List Char) : Prop :=
  r.1.isOverlong = false

lemma isShort_int {n : Int} (h : n.natAbs < tenTo digitLimit) (rest : List Char) :
    IsShort (.int n, rest) := by
  rw [IsShort, Value.isOverlong, Number.isOverlong, decide_eq_false_iff_not, Nat.not_le]
  exact h

lemma isShort_float (x : Float) (rest : List Char) : IsShort (.float x, rest) := by
  simp [IsShort, Value.isOverlong]

lemma yields_number (cs : List Char) : Yields IsShort (number cs) := by
  have hdigits {ds : List Char} (h : ¬ digitLimit < ds.length) :
      Text.digitsValue ds < tenTo digitLimit :=
    Nat.lt_of_lt_of_le (digitsValue_lt ds) (tenTo_le_tenTo (Nat.not_lt.mp h))
  unfold number
  dsimp only
  split_ifs with hwhole hreal hlong hnegative
  · exact .error _
  · exact .error _
  · exact .ok (isShort_int (by simpa using hdigits hlong) _)
  · exact .ok (isShort_int (by simpa using hdigits hlong) _)
  · exact .ok (isShort_float _ _)

lemma yields_scalar (cs : List Char) : Yields IsShort (scalar cs) := by
  unfold scalar
  split_ifs
  all_goals first | exact .ok rfl | exact yields_number cs

/-! ### Values -/

/-- The items of a list, and the text that is left. -/
def AreShort (r : List Value × List Char) : Prop :=
  ∀ v ∈ r.1, v.isOverlong = false

/-- The members of an object, and the text that is left. -/
def ArePairsShort (r : List (Value × Value) × List Char) : Prop :=
  ∀ p ∈ r.1, p.1.isOverlong = false ∧ p.2.isOverlong = false

section Step

variable {fuel : Nat} (hvalue : ∀ cs, Yields IsShort (value fuel cs))

lemma yields_value (hitems : ∀ cs, Yields AreShort (items fuel cs))
    (hmembers : ∀ cs, Yields ArePairsShort (members fuel cs)) (cs : List Char) :
    Yields IsShort (value (fuel + 1) cs) := by
  unfold value
  split
  · refine .bind (P := fun _ => True) (fun _ _ => trivial) fun r _ => .ok ?_
    exact Value.isOverlong_ofPoints r.1
  · split
    · exact .ok rfl
    · exact .bind (hitems _) fun r hr => .ok (Value.isOverlong_list.mpr hr)
  · split
    · exact .ok rfl
    · exact .bind (hmembers _) fun r hr =>
        .ok (Value.isOverlong_map.mpr (Value.forall_mem_collect
          (K := (·.isOverlong = false)) (V := (·.isOverlong = false)) hr))
  · exact yields_scalar _

include hvalue

lemma yields_items (hitems : ∀ cs, Yields AreShort (items fuel cs)) (cs : List Char) :
    Yields AreShort (items (fuel + 1) cs) := by
  unfold items
  refine .bind (hvalue cs) fun r hr => ?_
  dsimp only
  split
  · refine .ok fun v hv => ?_
    obtain rfl := List.mem_singleton.mp hv
    exact hr
  · refine .bind (hitems _) fun rs hrs => .ok fun v hv => ?_
    rcases List.mem_cons.mp hv with rfl | hv
    · exact hr
    · exact hrs v hv
  · exact .error _

lemma yields_members (hmembers : ∀ cs, Yields ArePairsShort (members fuel cs)) (cs : List Char) :
    Yields ArePairsShort (members (fuel + 1) cs) := by
  unfold members
  split
  · refine .bind (P := fun _ => True) (fun _ _ => trivial) fun key _ => ?_
    dsimp only
    split
    · refine .bind (hvalue _) fun r hr => ?_
      have hkey := Value.isOverlong_ofPoints key.1
      split
      · refine .ok fun p hp => ?_
        obtain rfl := List.mem_singleton.mp hp
        exact ⟨hkey, hr⟩
      · refine .bind (hmembers _) fun rs hrs => .ok fun p hp => ?_
        rcases List.mem_cons.mp hp with rfl | hp
        · exact ⟨hkey, hr⟩
        · exact hrs p hp
      · exact .error _
    · exact .error _
  · exact .error _

end Step

lemma yields_all (fuel : Nat) : (∀ cs, Yields IsShort (value fuel cs)) ∧
    (∀ cs, Yields AreShort (items fuel cs)) ∧ ∀ cs, Yields ArePairsShort (members fuel cs) := by
  induction fuel with
  | zero =>
    exact ⟨fun cs => .error (Stop.fault .value cs), fun cs => .error (Stop.fault .value cs),
      fun cs => .error (Stop.fault .value cs)⟩
  | succ fuel ih =>
    obtain ⟨hvalue, hitems, hmembers⟩ := ih
    exact ⟨yields_value hitems hmembers, yields_items hvalue hitems,
      yields_members hvalue hmembers⟩

/-- Whatever value a text holds can be written. -/
lemma isOverlong_of_parse {s : String} {v : Value} (h : parse s = .ok v) :
    v.isOverlong = false := by
  have hdocument : Yields (·.isOverlong = false) (document s.toList) := by
    rw [document]
    split_ifs
    · exact .error _
    · refine .bind ((yields_all _).1 _) fun r hr => ?_
      dsimp only
      split_ifs
      · exact .ok hr
      · exact .error _
  rw [parse] at h
  split at h
  · next hok =>
    obtain rfl := Except.ok.inj h
    exact hdocument _ hok
  · cases h
  · cases h

end Json

end VariantRepair
