import Mathlib.Data.List.Nodup
import Mathlib.Tactic.Common
import VariantRepair.Proofs.Bench.Localized
import VariantRepair.Proofs.Localization.Greatest
import VariantRepair.Proofs.Variant.Refused

/-!
# Calls on a localization

Atoms that are dropped or inserted move the weights of those above by one id, and no weight is lost,
joined with another or brought in: an insertion is undone by dropping what was inserted. Whatever
values a call is given, it leaves one weight between zero and one to each of some atoms. A call that
fails leaves the weights as they were, except that an insertion whose weight is refused has moved
the weights above its place already.
-/

namespace VariantRepair

/-! ### Renumbering keeps each weight -/

namespace Localization

section Renumbering

variable {W : Type} {l : Localization W}

lemma map_fst_remove (l : Localization W) (a : Int) :
    (l.remove a).pairs.map (·.1)
      = (l.pairs.map (·.1)).filterMap fun i =>
          if i < a then some i else if a < i then some (i - 1) else none := by
  rw [remove, List.map_filterMap, List.filterMap_map]
  refine List.filterMap_congr fun p _ => ?_
  rw [Function.comp_apply]
  split_ifs <;> rfl

/-- No two atoms meet where one is dropped. -/
lemma Nodup.remove (h : l.Nodup) (a : Int) : (l.remove a).Nodup := by
  rw [Nodup, map_fst_remove]
  refine List.Nodup.filterMap (fun i j k hi hj => ?_) h
  rw [Option.mem_def] at hi hj
  split_ifs at hi hj <;> simp only [Option.some.injEq] at hi hj <;> omega

/-- No two atoms meet where those above a place move up, whatever the place is. -/
lemma nodup_raised (above : Int → Prop) [DecidablePred above]
    (hmono : ∀ i j, above i → i < j → above j) (h : l.Nodup) :
    ({ pairs := l.pairs.map fun p => if above p.1 then (p.1 + 1, p.2) else p } :
      Localization W).Nodup := by
  have hkeys : (l.pairs.map fun p => if above p.1 then (p.1 + 1, p.2) else p).map (·.1)
      = (l.pairs.map (·.1)).map fun i => if above i then i + 1 else i := by
    rw [List.map_map, List.map_map]
    refine List.map_congr_left fun p _ => ?_
    simp only [Function.comp_apply]
    split_ifs <;> rfl
  rw [Nodup, hkeys]
  refine h.map fun i j hij => ?_
  split_ifs at hij with hi hj hj
  · omega
  · exact absurd (hmono i j hi (by omega)) hj
  · exact absurd (hmono j i hj (by omega)) hi
  · exact hij

lemma Nodup.shiftUp (h : l.Nodup) (a : Int) : (l.shiftUp a).Nodup :=
  nodup_raised (a < ·) (fun _ _ => Int.lt_trans) h

lemma Nodup.insertAfter (h : l.Nodup) (a : Int) (w : W) : (l.insertAfter a w).Nodup :=
  (h.shiftUp a).set _ w

lemma nodup_ofList (pairs : List (Int × W)) : (ofList pairs).Nodup := by
  have hfold : ∀ (pairs : List (Int × W)) (l : Localization W), l.Nodup →
      (pairs.foldl (fun l p => l.set p.1 p.2) l).Nodup := by
    intro pairs
    induction pairs with
    | nil => exact fun _ h => h
    | cons p pairs ih => exact fun l h => ih _ (h.set p.1 p.2)
  exact hfold pairs ∅ nodup_empty

/-- Where an atom is dropped, its weight goes and no other one. -/
lemma size_remove (h : l.Nodup) (a : Int) :
    (l.remove a).size + (if (l.get? a).isSome then 1 else 0) = l.size := by
  have hsize : (l.remove a).size = l.pairs.countP fun p => p.1 ≠ a := by
    rw [size, remove, List.length_filterMap_eq_countP]
    refine List.countP_congr fun p _ => ?_
    split_ifs <;> simp <;> omega
  have hown : l.pairs.countP (fun p => p.1 = a) = if (l.get? a).isSome then 1 else 0 := by
    have hcount : l.pairs.countP (fun p => p.1 = a) = (l.pairs.map (·.1)).count a := by
      rw [List.count, List.countP_map]
      exact List.countP_congr fun p _ => by simp
    have hmem : a ∈ l.pairs.map (·.1) ↔ (l.get? a).isSome = true := by
      rw [h.mem_map_fst_iff, Option.isSome_iff_exists]
    rw [hcount, List.Nodup.count h]
    simp only [hmem]
  rw [hsize, ← hown, size, List.length_eq_countP_add_countP (fun p => decide (p.1 = a)),
    Nat.add_comm]
  simp

/-- No atom that has a weight comes to the place of one that is inserted. -/
lemma notMem_shiftUp (l : Localization W) (a : Int) : a + 1 ∉ (l.shiftUp a).pairs.map (·.1) := by
  intro hmem
  obtain ⟨q, hq, heq⟩ := List.mem_map.mp hmem
  obtain ⟨p, -, rfl⟩ := List.mem_map.mp hq
  split_ifs at heq <;> omega

lemma pairs_insertAfter (l : Localization W) (a : Int) (w : W) :
    (l.insertAfter a w).pairs = (l.shiftUp a).pairs ++ [(a + 1, w)] :=
  place_of_notMem (l.notMem_shiftUp a)

lemma size_insertAfter (l : Localization W) (a : Int) (w : W) :
    (l.insertAfter a w).size = l.size + 1 := by
  rw [size, pairs_insertAfter, List.length_append, shiftUp, List.length_map]
  rfl

/-- Dropping an atom that was inserted brings everything back, in the same order. -/
lemma remove_insertAfter (l : Localization W) (a : Int) (w : W) :
    (l.insertAfter a w).remove (a + 1) = l := by
  obtain ⟨ps⟩ := l
  rw [remove, pairs_insertAfter, shiftUp, List.filterMap_append, List.filterMap_map]
  congr 1
  conv_rhs => rw [← List.append_nil ps, ← List.filterMap_some (l := ps)]
  refine congrArg₂ _ (List.filterMap_congr fun p _ => ?_) (by simp)
  rw [Function.comp_apply]
  by_cases h : a < p.1
  · rw [if_pos h, if_neg (by simp only; omega), if_pos (by simp only; omega), Int.add_sub_cancel]
  · rw [if_neg h, if_pos (by omega)]

end Renumbering

/-! ### Renumbering by checked calls -/

section Checked

variable {l : Localization Float} {weight : Value} {w : Float}

lemma filterMapM_eq_ok {α β : Type} {f : α → Except Failure (Option β)} {g : α → Option β}
    (h : ∀ x, f x = .ok (g x)) (xs : List α) : xs.filterMapM f = .ok (xs.filterMap g) := by
  induction xs with
  | nil => exact List.filterMapM_nil
  | cons x xs ih =>
    rw [List.filterMapM_cons, h x, ih, List.filterMap_cons]
    cases g x <;> rfl

/-- Dropping an atom, when the ids are ordered against the value that is given for it. -/
lemma removeValue_of_position {v : Value} {f : Int → Option Ordering}
    (h : ∀ n, v.position "<" n = .ok (f n)) (l : Localization Float) :
    l.removeValue v = .ok (ofList (l.pairs.filterMap fun p =>
      match f p.1 with
      | some .lt => some p
      | some .gt => some (p.1 - 1, p.2)
      | _ => none)) := by
  rw [removeValue, filterMapM_eq_ok (g := fun p => match f p.1 with
    | some .lt => some p
    | some .gt => some (p.1 - 1, p.2)
    | _ => none)]
  · rfl
  · intro p
    rw [h]
    rcases f p.1 with _ | _ | _ | _ <;> rfl

lemma removeValue_int (h : l.Nodup) (a : Int) : l.removeValue (.int a) = .ok (l.remove a) := by
  have hpairs : (l.pairs.filterMap fun p => match some (compare p.1 a) with
      | some .lt => some p
      | some .gt => some (p.1 - 1, p.2)
      | _ => none) = (l.remove a).pairs := by
    refine List.filterMap_congr fun p _ => ?_
    cases hcompare : compare p.1 a with
    | lt => rw [if_pos (Int.compare_eq_lt.mp hcompare)]
    | gt =>
      have hgt := Int.compare_eq_gt.mp hcompare
      rw [if_neg (Int.lt_asymm hgt), if_pos hgt]
    | eq =>
      rw [Int.compare_eq_eq.mp hcompare, if_neg (Int.lt_irrefl a), if_neg (Int.lt_irrefl a)]
  rw [removeValue_of_position (f := fun n => some (compare n a)) (fun _ => rfl), hpairs]
  exact congrArg Except.ok (congrArg Localization.mk (pairs_ofList (h.remove a)))

/-- A weight that passes the check is given to the atom that is inserted. -/
lemma insertAfterValue_of_checkWeight (l : Localization Float) (a : Int)
    (hw : checkWeight weight = .ok w) :
    l.insertAfterValue (.int a) weight = (l.insertAfter a w, none) := by
  have hset : (successor (.int a) >>= fun next => (l.shiftUp a).setValue next weight)
      = .ok (l.insertAfter a w) := by
    change (l.shiftUp a).setValue (.int (a + 1)) weight = _
    rw [setValue, hw]
    rfl
  rw [insertAfterValue, shiftUpValue_int]
  dsimp only
  split
  · cases hw
  · rw [hset]

end Checked

/-- Dropping an atom and inserting one renumber the weights: below the place they stay, above it
they are those of the next atom and of the one before, and the inserted atom has the weight that it
is given. No weight is lost, joined with another or brought in, as their number shows; and dropping
the inserted atom gives back what there was. -/
theorem renumbering_keeps_weights {l : Localization Float} (hl : l.Nodup) (a : Int) {weight : Value}
    {w : Float} (hw : checkWeight weight = .ok w) :
    ∃ dropped inserted : Localization Float,
      l.removeValue (.int a) = .ok dropped ∧
      l.insertAfterValue (.int a) weight = (inserted, none) ∧
      (∀ i, dropped.get? i = if i < a then l.get? i else l.get? (i + 1)) ∧
      (∀ i, inserted.get? i
        = if i ≤ a then l.get? i else if i = a + 1 then some w else l.get? (i - 1)) ∧
      dropped.Nodup ∧ inserted.Nodup ∧
      dropped.size + (if (l.get? a).isSome then 1 else 0) = l.size ∧
      inserted.size = l.size + 1 ∧
      inserted.removeValue (.int (a + 1)) = .ok l := by
  have hinserted := hl.insertAfter a w
  refine ⟨l.remove a, l.insertAfter a w, removeValue_int hl a,
    insertAfterValue_of_checkWeight l a hw, fun i => ?_, l.get?_insertAfter a w, hl.remove a,
    hinserted, size_remove hl a, l.size_insertAfter a w, ?_⟩
  · rw [get?_remove]
    split_ifs <;> rfl
  · rw [removeValue_int hinserted, remove_insertAfter]

/-- Two atoms have a weight, one of them beyond any program. The first one is dropped, or another
one is inserted right behind it. -/
theorem renumbering_keeps_weights_two :
    ∃ dropped inserted : Localization Float,
      (⟨[(-7, 1.0), (5, 0.5)]⟩ : Localization Float).Nodup ∧
      checkWeight (.str "0.25") = .ok 0.25 ∧
      (⟨[(-7, 1.0), (5, 0.5)]⟩ : Localization Float).removeValue (.int (-7)) = .ok dropped ∧
      dropped.get? 4 = some 0.5 ∧ dropped.get? (-7) = none ∧ dropped.size = 1 ∧
      (⟨[(-7, 1.0), (5, 0.5)]⟩ : Localization Float).insertAfterValue (.int (-7)) (.str "0.25")
        = (inserted, none) ∧
      inserted.get? (-6) = some 0.25 ∧ inserted.get? 6 = some 0.5 ∧ inserted.size = 3 := by
  have hnodup : (⟨[(-7, 1.0), (5, 0.5)]⟩ : Localization Float).Nodup := by
    rw [Nodup]
    decide
  have hweight : checkWeight (.str "0.25") = .ok 0.25 :=
    checkWeight_eq_ok_iff.mpr ⟨by decide +kernel, by decide⟩
  obtain ⟨dropped, inserted, hdrop, hinsert, hdropped, hinserted, -, -, hfewer, hmore, -⟩ :=
    renumbering_keeps_weights hnodup (-7) hweight
  refine ⟨dropped, inserted, hnodup, hweight, hdrop, ?_, ?_, ?_, hinsert, ?_, ?_, ?_⟩
  · rw [hdropped]
    rfl
  · rw [hdropped]
    rfl
  · exact Nat.add_right_cancel (m := 1) hfewer
  · rw [hinserted]
    rfl
  · rw [hinserted]
    rfl
  · exact hmore

end Localization

/-! ### Places -/

/-- What lies above a double has everything beyond it above the double, too. -/
lemma Number.position?_mono {x : Float} {i j : Int} (h : position? i x = some .gt) (hij : i < j) :
    position? j x = some .gt := by
  rw [position?] at h ⊢
  split at h
  · cases h
  · exact h
  · next negative m q _ =>
    dsimp only at h ⊢
    rw [Option.some.injEq, Int.compare_eq_gt] at h ⊢
    exact Int.lt_of_lt_of_le h (Int.mul_le_mul_of_nonneg_right (Int.le_of_lt hij)
      (Int.natCast_nonneg _))

namespace Value

variable {v : Value}

/-- Integers are ordered against the value, or it is no number. -/
lemma position_cases (v : Value) :
    (∃ f : Int → Option Ordering, (∀ operator n, v.position operator n = .ok (f n)) ∧
      ∀ i j, f i = some .gt → i < j → f j = some .gt) ∨
    ∃ f : String → Failure, ∀ operator n, v.position operator n = .error (f operator) := by
  cases hwhole : v.whole? with
  | some m =>
    refine .inl ⟨fun n => some (compare n m), fun operator n => ?_, fun i j hi hij => ?_⟩
    · simp only [position, hwhole]
    · rw [Option.some.injEq, Int.compare_eq_gt] at hi ⊢
      exact Int.lt_trans hi hij
  | none =>
    cases v with
    | float x =>
      exact .inl ⟨(Number.position? · x), fun _ _ => rfl, fun _ _ => Number.position?_mono⟩
    | bool b | int n => cases hwhole
    | _ => exact .inr ⟨_, fun _ _ => rfl⟩

/-- Does an integer lie above the value? Above what is no number there is none. -/
def isBelow (v : Value) (n : Int) : Bool :=
  match v.position ">" n with
  | .ok (some .gt) => true
  | _ => false

end Value

namespace Localization

/-- The weights with those above a place on the next atom each. -/
def raisedAbove (l : Localization Float) (v : Value) : Localization Float :=
  { pairs := l.pairs.map fun p => if v.isBelow p.1 then (p.1 + 1, p.2) else p }

section Places

variable {l l' : Localization Float} {v weight : Value}

lemma raisedAbove_eq_self_iff :
    l.raisedAbove v = l ↔ ∀ p ∈ l.pairs, v.isBelow p.1 = false := by
  constructor
  · intro h p hp
    have hmap : l.pairs.map (fun p => if v.isBelow p.1 then (p.1 + 1, p.2) else p)
        = l.pairs.map id := by
      rw [List.map_id]
      exact congrArg pairs h
    have hself := List.map_inj_left.mp hmap p hp
    by_contra hbelow
    rw [Bool.not_eq_false] at hbelow
    rw [if_pos hbelow] at hself
    have hfst : p.1 + 1 = p.1 := congrArg Prod.fst hself
    omega
  · intro h
    refine congrArg Localization.mk ((List.map_congr_left fun p hp => ?_).trans (List.map_id _))
    rw [h p hp]
    rfl

lemma Nodup.raisedAbove (h : l.Nodup) (v : Value) : (l.raisedAbove v).Nodup := by
  refine nodup_raised (fun n => v.isBelow n = true) (fun i j hi hij => ?_) h
  obtain ⟨f, hf, hmono⟩ | ⟨f, hf⟩ := v.position_cases
  · have hgt : f i = some .gt := by
      rw [Value.isBelow, hf] at hi
      split at hi
      · next heq => exact Except.ok.inj heq
      · cases hi
    rw [Value.isBelow, hf, hmono i j hgt hij]
  · rw [Value.isBelow, hf] at hi
    cases hi

lemma InUnit.raisedAbove (h : l.InUnit) (v : Value) : (l.raisedAbove v).InUnit := by
  intro p hp
  obtain ⟨q, hq, rfl⟩ := List.mem_map.mp hp
  split_ifs
  · exact h q hq
  · exact h q hq

/-- The weights above a value are moved, or there are none. -/
lemma shiftUpValue_cases (l : Localization Float) (v : Value) :
    l.shiftUpValue v = .ok (l.raisedAbove v) ∨
      (∃ f, l.shiftUpValue v = .error f) ∧ l.raisedAbove v = l := by
  obtain ⟨f, hf, -⟩ | ⟨f, hf⟩ := v.position_cases
  · refine .inl ?_
    rw [shiftUpValue, mapM_eq_ok (g := fun p => if v.isBelow p.1 then (p.1 + 1, p.2) else p)]
    · rfl
    · intro p
      rw [Value.isBelow, hf]
      rcases f p.1 with _ | _ | _ | _ <;> rfl
  · have hself : l.raisedAbove v = l := raisedAbove_eq_self_iff.mpr fun p _ => by
      rw [Value.isBelow, hf]
    obtain ⟨ps⟩ := l
    cases ps with
    | nil => exact .inl rfl
    | cons p ps =>
      refine .inr ⟨⟨f ">", ?_⟩, hself⟩
      rw [shiftUpValue, List.mapM_cons, hf]
      rfl

/-- An insertion first moves the weights above its place. Then it fails, or it ends, with a weight
that passes the check if one is given. -/
lemma insertAfterValue_cases (l : Localization Float) (v weight : Value) :
    (∃ f, l.insertAfterValue v weight = (l.raisedAbove v, some f)) ∨
      l.insertAfterValue v weight = (l.raisedAbove v, none) ∨
      ∃ a w, checkWeight weight = .ok w ∧
        l.insertAfterValue v weight = ((l.raisedAbove v).set a w, none) := by
  rw [insertAfterValue]
  obtain hshift | ⟨⟨f, hshift⟩, hself⟩ := l.shiftUpValue_cases v
  · rw [hshift]
    dsimp only
    split
    · exact .inr (.inl rfl)
    · cases hset : successor v >>= fun next => (l.raisedAbove v).setValue next weight with
      | error f => exact .inl ⟨f, rfl⟩
      | ok l' =>
        cases hnext : successor v with
        | error f =>
          rw [hnext] at hset
          cases hset
        | ok next =>
          rw [hnext] at hset
          obtain ⟨a, w, hw, rfl⟩ := of_setValue_eq_ok hset
          exact .inr (.inr ⟨a, w, hw, rfl⟩)
  · rw [hshift, hself]
    exact .inl ⟨f, rfl⟩

/-- Dropping an atom fails, or it gives the weights that are left to their atoms in turn. -/
lemma removeValue_cases (l : Localization Float) (v : Value) :
    (∃ f, l.removeValue v = .error f) ∨
      ∃ g : Int × Float → Option (Int × Float), (∀ p q, g p = some q → q.2 = p.2) ∧
        l.removeValue v = .ok (ofList (l.pairs.filterMap g)) := by
  obtain ⟨f, hf, -⟩ | ⟨f, hf⟩ := v.position_cases
  · refine .inr ⟨_, fun p q h => ?_, removeValue_of_position (hf "<") l⟩
    split at h <;> cases h <;> rfl
  · obtain ⟨ps⟩ := l
    cases ps with
    | nil => exact .inr ⟨fun _ => none, nofun, rfl⟩
    | cons p ps =>
      refine .inl ⟨f "<", ?_⟩
      rw [removeValue, List.filterMapM_cons, hf]
      rfl

end Places

/-! ### Calls with any values -/

/-- A call that changes a localization, with whatever values it is given. -/
inductive Call where
  | set (atom weight : Value)
  | remove (atom : Value)
  /-- An atom is inserted behind another one; without a weight if that is null. -/
  | insertAfter (atom weight : Value)

/-- The localization that a change leaves, and its failure. A change that fails leaves what there
was. -/
def settled (l : Localization Float) :
    Except Failure (Localization Float) → Localization Float × Option Failure
  | .ok l' => (l', none)
  | .error f => (l, some f)

/-- What a call leaves, and its failure if it fails. -/
def Call.make (l : Localization Float) : Call → Localization Float × Option Failure
  | .set atom weight => l.settled (l.setValue atom weight)
  | .remove atom => l.settled (l.removeValue atom)
  | .insertAfter atom weight => l.insertAfterValue atom weight

/-- A localization that was made of weights and then changed by calls, some of which may have
failed. -/
inductive Reached : Localization Float → Prop
  | made {pairs : List (Value × Value)} {l : Localization Float} (h : ofValues pairs = .ok l) :
      Reached l
  | call {l : Localization Float} (h : Reached l) (c : Call) : Reached (c.make l).1

/-- An insertion at a place with weights above it. -/
def Call.MovesWeights (l : Localization Float) : Call → Prop
  | .insertAfter atom _ => ∃ p ∈ l.pairs, atom.isBelow p.1 = true
  | _ => False

section Calls

variable {l l' : Localization Float}

lemma fst_settled_of_failed {r : Except Failure (Localization Float)} {f : Failure}
    (h : (l.settled r).2 = some f) : (l.settled r).1 = l := by
  cases r with
  | ok l' => cases h
  | error f' => rfl

/-- What a call leaves has one weight between zero and one to each of its atoms, if there was no
other weight before. -/
lemma valid_make (hnodup : l.Nodup) (hunit : l.InUnit) (c : Call) :
    (c.make l).1.Nodup ∧ (c.make l).1.InUnit := by
  cases c with
  | set atom weight =>
    rw [Call.make]
    cases hset : l.setValue atom weight with
    | error f => exact ⟨hnodup, hunit⟩
    | ok l' =>
      obtain ⟨a, w, hw, rfl⟩ := of_setValue_eq_ok hset
      exact ⟨hnodup.set a w, hunit.set a (inUnit_of_checkWeight hw)⟩
  | remove atom =>
    rw [Call.make]
    obtain ⟨f, hremove⟩ | ⟨g, hweight, hremove⟩ := l.removeValue_cases atom
    · rw [hremove]
      exact ⟨hnodup, hunit⟩
    · rw [hremove]
      refine ⟨nodup_ofList _, inUnit_ofList fun q hq => ?_⟩
      obtain ⟨p, hp, hq⟩ := List.mem_filterMap.mp hq
      rw [hweight p q hq]
      exact hunit p hp
  | insertAfter atom weight =>
    have hraised := hnodup.raisedAbove atom
    have hinUnit := hunit.raisedAbove atom
    rw [Call.make]
    obtain ⟨f, h⟩ | h | ⟨a, w, hw, h⟩ := l.insertAfterValue_cases atom weight
    · rw [h]
      exact ⟨hraised, hinUnit⟩
    · rw [h]
      exact ⟨hraised, hinUnit⟩
    · rw [h]
      exact ⟨hraised.set a w, hinUnit.set a (inUnit_of_checkWeight hw)⟩

lemma nodup_of_ofValues {pairs : List (Value × Value)} (h : ofValues pairs = .ok l) : l.Nodup :=
  of_ofValues nodup_empty (fun _ a w _ hl _ => hl.set a w) h

lemma Reached.valid (h : l.Reached) : l.Nodup ∧ l.InUnit := by
  induction h with
  | made h => exact ⟨nodup_of_ofValues h, inUnit_of_ofValues h⟩
  | call h c ih => exact valid_make ih.1 ih.2 c

end Calls

/-- Whatever values calls are given, they leave one weight between zero and one to each of some
atoms. A call that fails leaves the weights as they were, unless it is an insertion with weights
above its place: these are on the next atoms then, and nothing is there for the place itself. -/
theorem failed_calls_keep_weights {l : Localization Float} (hl : l.Reached) (c : Call) :
    (c.make l).1.Nodup ∧ (c.make l).1.InUnit ∧
      ∀ f, (c.make l).2 = some f →
        ((c.make l).1 = l ↔ ¬ c.MovesWeights l) ∧
        ∀ atom weight, c = .insertAfter atom weight → (c.make l).1 = l.raisedAbove atom := by
  obtain ⟨hnodup, hunit⟩ := hl.valid
  obtain ⟨hnodup', hunit'⟩ := valid_make hnodup hunit c
  refine ⟨hnodup', hunit', fun f hfailed => ?_⟩
  cases c with
  | set atom weight => exact ⟨iff_of_true (fst_settled_of_failed hfailed) not_false, nofun⟩
  | remove atom => exact ⟨iff_of_true (fst_settled_of_failed hfailed) not_false, nofun⟩
  | insertAfter atom weight =>
    have hraised : (l.insertAfterValue atom weight).1 = l.raisedAbove atom := by
      rw [Call.make] at hfailed
      obtain ⟨f', h⟩ | h | ⟨a, w, hw, h⟩ := l.insertAfterValue_cases atom weight
      · rw [h]
      · rw [h]
      · rw [h] at hfailed
        cases hfailed
    rw [Call.make, hraised, raisedAbove_eq_self_iff]
    refine ⟨?_, ?_⟩
    · simp only [Call.MovesWeights, not_exists, not_and, Bool.not_eq_true]
    · rintro atom' weight' ⟨⟩
      rfl

/-- Of two atoms the second comes to the first one when what lies between them is dropped, a call in
between has failed, and then an atom is to be inserted behind what is no number. -/
theorem failed_calls_keep_weights_text :
    ∃ (l : Localization Float) (f : Failure), l.Reached ∧ l.pairs = [(1, 0.25)] ∧
      ((Call.insertAfter (.str "1") (.float 0.5)).make l).2 = some f ∧
      ((Call.insertAfter (.str "1") (.float 0.5)).make l).1 = l := by
  have hmade : ofValues [(.int 1, .float 0.5), (.int 2, .float 0.25)]
      = .ok ⟨[(1, 0.5), (2, 0.25)]⟩ := by rfl
  have hreached : Reached ⟨[(1, 0.25)]⟩ :=
    ((Reached.made hmade).call (.set (.int 3) (.float 1.5))).call (.remove (.float 1.5))
  obtain ⟨-, -, hkeeps⟩ :=
    failed_calls_keep_weights hreached (.insertAfter (.str "1") (.float 0.5))
  obtain ⟨hself, -⟩ := hkeeps _ rfl
  refine ⟨_, _, hreached, rfl, rfl, hself.mpr ?_⟩
  rintro ⟨p, -, hbelow⟩
  cases hbelow

/-- An atom has a weight, and another one is to be inserted in front of it, with a weight above one.
The call fails, and the weight is on another atom. -/
theorem failed_insertion_moves_weights :
    ∃ (l l' : Localization Float) (f : Failure), l.Reached ∧
      (Call.insertAfter (.int 1) (.float 1.5)).make l = (l', some f) ∧
      l.get? 2 = some 0.5 ∧ l'.get? 2 = none ∧ l'.get? 3 = some 0.5 ∧ l' ≠ l := by
  have hmade : ofValues [(.int 2, .float 0.5)] = .ok ⟨[(2, 0.5)]⟩ := by rfl
  refine ⟨⟨[(2, 0.5)]⟩, ⟨[(3, 0.5)]⟩, _, .made hmade, rfl, rfl, rfl, rfl, fun h => ?_⟩
  have hmoved : (3 : Int) = 2 := congrArg (fun l : Localization Float => l.pairs.head!.1) h
  exact absurd hmoved (by decide)

end Localization

end VariantRepair
