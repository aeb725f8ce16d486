import Mathlib.Tactic.Common
import VariantRepair.Localization.Checked
import VariantRepair.Variant.Snapshot
import VariantRepair.Proofs.Localization.Renumbering
import VariantRepair.Proofs.Value.Field
import VariantRepair.Proofs.Variant.History

/-!
# Edits that are refused

An edit checks its atoms before it changes anything. So it fails if and only if one of them is no
atom of the program, and then the variant is as it was. Once the atoms are checked, nothing is left
that could fail: a weight that an edit gives to an atom is one that was checked when it came.
-/

namespace VariantRepair

open Number

/-! ### Weights between zero and one -/

namespace Localization

variable {W : Type} [Weight W] {l : Localization W}

/-- Every weight lies between zero and one. -/
def InUnit (l : Localization W) : Prop :=
  ∀ p ∈ l.pairs, Weight.inUnit p.2 = true

lemma inUnit_empty : (∅ : Localization W).InUnit := nofun

lemma InUnit.getD (h : l.InUnit) {untouched : W} (hu : Weight.inUnit untouched = true)
    (atom : Int) : Weight.inUnit (l.getD atom untouched) = true := by
  rw [Localization.getD, get?]
  cases hfind : l.pairs.find? fun p => p.1 == atom with
  | none => exact hu
  | some p => exact h p (List.mem_of_find?_eq_some hfind)

lemma InUnit.set (h : l.InUnit) (atom : Int) {w : W} (hw : Weight.inUnit w = true) :
    (l.set atom w).InUnit := by
  intro p hp
  rcases mem_place hp with rfl | hp
  · exact hw
  · exact h p hp

lemma InUnit.remove (h : l.InUnit) (atom : Int) : (l.remove atom).InUnit := by
  intro p hp
  obtain ⟨q, hq, heq⟩ := List.mem_filterMap.mp hp
  split_ifs at heq
  · cases heq
    exact h p hq
  · cases heq
    exact h q hq

lemma InUnit.shiftUp (h : l.InUnit) (atom : Int) : (l.shiftUp atom).InUnit := by
  intro p hp
  obtain ⟨q, hq, rfl⟩ := List.mem_map.mp hp
  split_ifs
  · exact h q hq
  · exact h q hq

lemma InUnit.insertAfter (h : l.InUnit) (atom : Int) {w : W} (hw : Weight.inUnit w = true) :
    (l.insertAfter atom w).InUnit :=
  (h.shiftUp atom).set _ hw

lemma InUnit.edited (h : l.InUnit) {untouched : W} (hu : Weight.inUnit untouched = true)
    (r : Renumbering) (e : Edit) : (l.edited r untouched e).InUnit := by
  cases e with
  | delete a =>
    cases r with
    | compact => exact h.remove a
    | tombstone => exact h
  | append d s =>
    cases r with
    | compact => exact h.insertAfter d (h.getD hu s)
    | tombstone => exact h
  | swap a b => exact h

end Localization

/-! ### Weights that are checked -/

namespace Localization

variable {l l' : Localization Float}

/-- A weight that passes the check lies between zero and one. -/
lemma inUnit_of_checkWeight {weight : Value} {w : Float} (h : checkWeight weight = .ok w) :
    Weight.inUnit w = true := by
  rw [checkWeight] at h
  cases hx : weight.toFloat with
  | error f => rw [hx] at h; cases h
  | ok x =>
    simp only [hx] at h
    split_ifs at h with hunit
    cases h
    exact hunit

/-- What gives a weight to an atom has checked the weight. -/
lemma of_setValue_eq_ok {atom weight : Value} (h : l.setValue atom weight = .ok l') :
    ∃ a w, checkWeight weight = .ok w ∧ l' = l.set a w := by
  rw [setValue] at h
  cases hw : checkWeight weight with
  | error f =>
    rw [hw] at h
    cases h
  | ok w =>
    cases ha : toId atom with
    | error f =>
      rw [hw, ha] at h
      cases h
    | ok a =>
      rw [hw, ha] at h
      exact ⟨a, w, rfl, (Except.ok.inj h).symm⟩

/-- What goes on holding when an atom gets a checked weight holds when atoms get weights in turn. -/
lemma of_ofValues {P : Localization Float → Prop} (hempty : P ∅)
    (hset : ∀ l a w weight, P l → checkWeight weight = .ok w → P (l.set a w))
    {pairs : List (Value × Value)} (h : ofValues pairs = .ok l) : P l := by
  have hfold : ∀ (pairs : List (Value × Value)) (l₀ : Localization Float), P l₀ →
      pairs.foldlM (fun l p => l.setValue p.1 p.2) l₀ = .ok l → P l := by
    intro pairs
    induction pairs with
    | nil =>
      rintro l₀ h₀ hl
      cases hl
      exact h₀
    | cons p pairs ih =>
      intro l₀ h₀ hl
      rw [List.foldlM_cons] at hl
      cases hvalue : l₀.setValue p.1 p.2 with
      | error f =>
        rw [hvalue] at hl
        cases hl
      | ok l₁ =>
        rw [hvalue] at hl
        obtain ⟨a, w, hw, rfl⟩ := of_setValue_eq_ok hvalue
        exact ih _ (hset l₀ a w _ h₀ hw) hl
  exact hfold pairs ∅ hempty h

/-- Weights that are given to atoms in turn are checked. -/
lemma inUnit_of_ofValues {pairs : List (Value × Value)} (h : ofValues pairs = .ok l) :
    l.InUnit :=
  of_ofValues inUnit_empty (fun _ a _ _ hl hw => hl.set a (inUnit_of_checkWeight hw)) h

lemma mapM_eq_ok {α β : Type} {f : α → Except Failure β} {g : α → β} (h : ∀ x, f x = .ok (g x))
    (xs : List α) : xs.mapM f = .ok (xs.map g) := by
  rw [funext h]
  exact List.mapM_pure

lemma shiftUpValue_int (l : Localization Float) (atom : Int) :
    l.shiftUpValue (.int atom) = .ok (l.shiftUp atom) := by
  rw [shiftUpValue, mapM_eq_ok (g := fun p => if atom < p.1 then (p.1 + 1, p.2) else p)]
  · rfl
  · intro p
    have hposition : (Value.int atom).position ">" p.1 = .ok (some (compare p.1 atom)) := rfl
    rw [hposition]
    split_ifs with h
    · rw [Int.compare_eq_gt.mpr h]
      rfl
    · cases hcompare : compare p.1 atom with
      | gt => exact absurd (Int.compare_eq_gt.mp hcompare) h
      | lt => rfl
      | eq => rfl

/-- A weight between zero and one is taken by the insertion that checks it. -/
lemma insertAfterValue_int (l : Localization Float) (atom : Int) {w : Float}
    (hw : Weight.inUnit w = true) :
    l.insertAfterValue (.int atom) (.float w) = (l.insertAfter atom w, none) := by
  have hcheck : checkWeight (.float w) = .ok w := by
    rw [checkWeight, Value.toFloat]
    simp [hw]
  have hid : toId (.int (atom + 1)) = .ok (atom + 1) := rfl
  rw [insertAfterValue, shiftUpValue_int]
  simp only [successor, Value.whole?, setValue, hcheck, hid, bind, Except.bind, pure, Except.pure]
  rfl

end Localization

/-! ### Values that are atoms -/

/-- The value is an atom of a program with `n` atoms: an integer from one to `n`. Truth values,
floats and texts are no integers. -/
def Value.IsAtomOf (n : Nat) (x : Value) : Prop :=
  ∃ a : Int, x = .int a ∧ 1 ≤ a ∧ a ≤ n

/-- The value has a form in messages, which it has unless there is an integer in it that is too long
to be written. -/
def Value.IsWritable (x : Value) : Prop :=
  x.isOverlong = false

namespace Attempt

/-- The values that an attempt is given for atoms. -/
def ids : Attempt → List Value
  | .delete x => [x]
  | .append x y => [x, y]
  | .swap x y => [x, y]

/-- The attempt to make an edit. -/
def ofEdit : Edit → Attempt
  | .delete a => .delete (.int a)
  | .append d s => .append (.int d) (.int s)
  | .swap a b => .swap (.int a) (.int b)

end Attempt

lemma checkAtom_of_isAtomOf {x : Value} {n : Nat} (h : x.IsAtomOf n) :
    ∃ a : Int, x = .int a ∧ (1 ≤ a ∧ a ≤ n) ∧ checkAtom x n = .ok a := by
  obtain ⟨a, rfl, ha⟩ := h
  exact ⟨a, rfl, ha, checkAtom_eq_ok_iff.mpr ⟨rfl, ha⟩⟩

lemma checkAtom_of_not_isAtomOf {x : Value} {n : Nat} (h : ¬ x.IsAtomOf n) :
    checkAtom x n = .error (invalidAtom x n) := by
  cases x with
  | int a =>
    have ha : ¬ (1 ≤ a ∧ a ≤ n) := fun ha => h ⟨a, rfl, ha⟩
    rw [checkAtom, if_neg ha]
  | _ => rfl

/-- The failure names the value and the number of atoms, if both can be written. -/
lemma invalidAtom_eq {x : Value} {n : Nat} (hx : x.IsWritable) (hn : n < tenTo digitLimit) :
    invalidAtom x n = .repair (.invalidAtom x.display (toString n)) := by
  have hshown : x.shown = .ok x.display := by
    rw [Value.shown, hx]
    rfl
  have hsize : (Value.int n).shown = .ok (toString n) := by
    have hn : isOverlong (n : Int) = false := by
      rw [isOverlong, decide_eq_false_iff_not, Nat.not_le]
      exact hn
    rw [Value.shown, Value.isOverlong, hn]
    rfl
  rw [invalidAtom, Failure.naming, hshown]
  simp only [Failure.naming, hsize]

namespace Variant

variable {W : Type} {v : Variant W} {t : Attempt}

/-- An attempt whose values are atoms is the edit of these atoms. -/
lemma attempt_of_atoms (untouched : W) (h : ∀ x ∈ t.ids, x.IsAtomOf v.size) :
    ∃ e, t = .ofEdit e ∧ e.Fits v.size ∧ v.attempt untouched t = .ok (v.edited untouched e) := by
  cases t with
  | delete x =>
    obtain ⟨a, rfl, ha⟩ := h x (by simp [Attempt.ids])
    have hfits : (Edit.delete a).Fits v.size := Edit.fits_delete.mpr ha
    exact ⟨.delete a, rfl, hfits, apply_of_fits hfits⟩
  | append x y =>
    obtain ⟨d, rfl, hd⟩ := h x (by simp [Attempt.ids])
    obtain ⟨s, rfl, hs⟩ := h y (by simp [Attempt.ids])
    have hfits : (Edit.append d s).Fits v.size := Edit.fits_append.mpr ⟨hd, hs⟩
    exact ⟨.append d s, rfl, hfits, apply_of_fits hfits⟩
  | swap x y =>
    obtain ⟨a, rfl, ha⟩ := h x (by simp [Attempt.ids])
    obtain ⟨b, rfl, hb⟩ := h y (by simp [Attempt.ids])
    have hfits : (Edit.swap a b).Fits v.size := Edit.fits_swap.mpr ⟨ha, hb⟩
    exact ⟨.swap a b, rfl, hfits, apply_of_fits hfits⟩

/-- Of two values one of which is no atom, the first that is none is refused. -/
lemma checkAtoms_of_not_atom {α : Type} {x y : Value} (f : Int → Int → Except Failure α)
    (h : ∃ z ∈ [x, y], ¬ z.IsAtomOf v.size) :
    ∃ z ∈ [x, y], ¬ z.IsAtomOf v.size ∧
      (do f (← v.checkAtom x) (← v.checkAtom y)) = .error (invalidAtom z v.size) := by
  by_cases hx : x.IsAtomOf v.size
  · obtain ⟨a, -, -, hcheck⟩ := checkAtom_of_isAtomOf hx
    have hy : ¬ y.IsAtomOf v.size := by
      obtain ⟨z, hz, hnot⟩ := h
      simp only [List.mem_cons, List.not_mem_nil, or_false] at hz
      rcases hz with rfl | rfl
      · exact absurd hx hnot
      · exact hnot
    refine ⟨y, by simp, hy, ?_⟩
    rw [checkAtom, checkAtom, hcheck, checkAtom_of_not_isAtomOf hy]
    rfl
  · refine ⟨x, by simp, hx, ?_⟩
    rw [checkAtom, checkAtom_of_not_isAtomOf hx]
    rfl

/-- An attempt one of whose values is no atom fails for such a value. -/
lemma attempt_of_not_atom (untouched : W) (h : ∃ x ∈ t.ids, ¬ x.IsAtomOf v.size) :
    ∃ x ∈ t.ids, ¬ x.IsAtomOf v.size ∧
      v.attempt untouched t = .error (invalidAtom x v.size) := by
  cases t with
  | delete x =>
    obtain ⟨z, hz, hnot⟩ := h
    obtain rfl := List.mem_singleton.mp hz
    refine ⟨z, hz, hnot, ?_⟩
    rw [attempt, delete, checkAtom, checkAtom_of_not_isAtomOf hnot]
    rfl
  | append x y => exact checkAtoms_of_not_atom _ h
  | swap x y => exact checkAtoms_of_not_atom _ h

end Variant

/-! ### How a variant comes about -/

/-- Weights are checked before they are given to a variant. -/
def Making.IsChecked : Making → Prop
  | .weighed l => l.InUnit
  | _ => True

/-- What a variant can come to be: it starts without atoms, things are done to it, of which some may
fail, and it may take the snapshot of another one that came about like this. -/
inductive Altered.Arises : Altered → Prop
  | fresh (b : Backend) : Arises (.ofVariant (.empty b))
  | made {a : Altered} {untouched : Float} (h : Arises a) (hu : Weight.inUnit untouched = true)
      (x : Making) (hx : x.IsChecked) : Arises ((x.make untouched).run a).2
  | loaded {a stored : Altered} {path : String} {held : Record.Held} (h : Arises a)
      (hs : Arises stored) (hheld : stored.record.held path = .ok held) :
      Arises ((Altered.load path held).run a).2

variable {untouched : Float}

/-- What is done to a variant leaves its weights between zero and one. -/
lemma Making.inUnit_make {x : Making} {v : Variant Float} (h : v.localization.InUnit)
    (hu : Weight.inUnit untouched = true) (hx : x.IsChecked) :
    ∃ v', ((x.make untouched).run (.ofVariant v)).2 = .ofVariant v' ∧
      v'.localization.InUnit := by
  obtain ⟨v', hmade, hmakes⟩ := x.exists_makes untouched v
  refine ⟨v', hmade, ?_⟩
  cases hmakes with
  | read hread => exact Localization.inUnit_empty
  | weighed l => exact hx
  | edited t e hfits => exact h.edited hu _ e
  | failed | named | compiled => exact h

lemma Altered.absorbVariant_ofVariant (v w : Variant Float) :
    (ofVariant v).absorbVariant (ofVariant w)
      = ofVariant { w with ownSuffix := w.ownSuffix <|> v.ownSuffix } := by
  obtain ⟨program, localization, history, ownSuffix, compiled⟩ := w
  cases ownSuffix <;> rfl

/-- A variant takes what another one holds, but keeps a suffix of its own where the other has none, if
their backends agree, and is refused it otherwise. -/
lemma Altered.run_load_ofVariant (path : String) (v w : Variant Float) :
    (load path (.variant (ofVariant w))).run (ofVariant v)
      = settled v (if w.backend = v.backend
          then .ok { w with ownSuffix := w.ownSuffix <|> v.ownSuffix, compiled := none }
          else .error (.refused (.snapshotBackend path w.backend.key v.backend.key))) := by
  have hget : (get : Alteration Altered).run (ofVariant v) = (.ok (ofVariant v), ofVariant v) := rfl
  have hkey : ((Record.Held.variant (ofVariant w)).backend .null != (ofVariant v).key)
      = !decide (w.backend = v.backend) := by
    change (!(Value.str w.backend.key == Value.str v.backend.key)) = _
    rw [Value.str_beq]
    cases w.backend <;> cases v.backend <;> rfl
  rw [load, run_bind_of_ok hget]
  dsimp only
  rw [hkey]
  by_cases hbackend : w.backend = v.backend
  · have habsorb : (modify (·.absorbVariant (ofVariant w)) : Alteration Unit).run (ofVariant v)
        = (.ok (), ofVariant { w with ownSuffix := w.ownSuffix <|> v.ownSuffix }) :=
      congrArg (fun a => ((.ok () : Except Failure Unit), a)) (absorbVariant_ofVariant v w)
    rw [if_pos hbackend, decide_eq_true hbackend, Bool.not_true, if_neg Bool.false_ne_true,
      run_bind_of_ok habsorb]
    rfl
  · rw [if_neg hbackend, decide_eq_false hbackend, Bool.not_false, if_pos rfl]
    rfl

/-- A variant that is offered what another one holds becomes that one or stays as it is. -/
lemma Altered.load_ofVariant (path : String) (v w : Variant Float) :
    ∃ v', ((load path (.variant (ofVariant w))).run (ofVariant v)).2 = ofVariant v' ∧
      (v' = v ∨ v' = { w with ownSuffix := w.ownSuffix <|> v.ownSuffix, compiled := none }) := by
  rw [run_load_ofVariant, settled_snd]
  refine ⟨_, rfl, ?_⟩
  split_ifs
  · exact .inr rfl
  · exact .inl rfl

/-- A variant that came about like this has all its parts, and all its weights lie between zero and
one. -/
lemma Altered.Arises.exists_variant {a : Altered} (h : a.Arises) :
    ∃ v, a = .ofVariant v ∧ v.localization.InUnit := by
  induction h with
  | fresh b => exact ⟨_, rfl, Localization.inUnit_empty⟩
  | made h hu x hx ih =>
    obtain ⟨v, rfl, hv⟩ := ih
    exact x.inUnit_make hv hu hx
  | @loaded a stored path held h hs hheld ih ihs =>
    obtain ⟨v, rfl, hv⟩ := ih
    obtain ⟨w, rfl, hw⟩ := ihs
    obtain rfl : held = .variant (.ofVariant w.forget) := (Except.ok.inj hheld).symm
    obtain ⟨v', hload, rfl | rfl⟩ := Altered.load_ofVariant path v w.forget
    · exact ⟨v', hload, hv⟩
    · exact ⟨_, hload, hw⟩

/-! ### Refused or made -/

/-- Whatever an edit is given for atoms, on any variant that programs can come to hold: it fails if
and only if one of the values is no atom at the time, and then the variant is as it was, and the
failure says which value it is and how many atoms there are, unless there is an integer among them
that is too long to be written. If it does not fail, it is noted in the history as the edit with
these atoms, and changes nothing at all if it exchanges an atom with itself; the weight that an
appended atom gets passes the check of weights, so that nothing can fail after the atoms are
checked. -/
theorem edits_fail_before_they_change {a : Altered} (ha : a.Arises)
    (hu : Weight.inUnit untouched = true) (t : Attempt) :
    ∃ v, a = .ofVariant v ∧
      ((∃ f a', (t.make untouched).run a = (.error f, a')) ↔
        ∃ x ∈ t.ids, ¬ x.IsAtomOf v.size) ∧
      (∀ f a', (t.make untouched).run a = (.error f, a') → a' = a ∧
        ((∀ x ∈ t.ids, x.IsWritable) → v.size < tenTo digitLimit →
          ∃ x ∈ t.ids, ¬ x.IsAtomOf v.size ∧
            f = .repair (.invalidAtom x.display (toString v.size)))) ∧
      (∀ a', (t.make untouched).run a = (.ok (), a') →
        ∃ e v', t = .ofEdit e ∧ e.Fits v.size ∧ a' = .ofVariant v' ∧
          v'.history = v.history ++ e.noted ∧ (e.noted = [] → a' = a) ∧
          ∀ d s, e = .append d s → v.backend.renumbering = .compact →
            v.localization.insertAfterValue (.int d) (.float (v.localization.getD s untouched))
              = (v'.localization, none)) := by
  obtain ⟨v, rfl, hv⟩ := ha.exists_variant
  have hrun := run_make untouched t v
  refine ⟨v, rfl, ?_⟩
  by_cases hatoms : ∃ x ∈ t.ids, ¬ x.IsAtomOf v.size
  · obtain ⟨x, hx, hnot, hattempt⟩ := v.attempt_of_not_atom untouched hatoms
    rw [hattempt, Altered.settled] at hrun
    rw [hrun]
    refine ⟨iff_of_true ⟨_, _, rfl⟩ hatoms, ?_, ?_⟩
    · intro f a' hf
      cases hf
      refine ⟨rfl, fun hwritable hsize => ⟨x, hx, hnot, ?_⟩⟩
      exact invalidAtom_eq (hwritable x hx) hsize
    · intro a' ha'
      cases ha'
  · have hall : ∀ x ∈ t.ids, x.IsAtomOf v.size := fun x hx => by
      by_contra hnot
      exact hatoms ⟨x, hx, hnot⟩
    obtain ⟨e, rfl, hfits, hattempt⟩ := v.attempt_of_atoms untouched hall
    rw [hattempt, Altered.settled] at hrun
    rw [hrun]
    refine ⟨iff_of_false ?_ hatoms, ?_, ?_⟩
    · rintro ⟨f, a', h⟩
      cases h
    · intro f a' h
      cases h
    · intro a' ha'
      cases ha'
      refine ⟨e, v.edited untouched e, rfl, hfits, rfl, rfl, fun hnoted => ?_, ?_⟩
      · rw [Variant.edited_eq_self hnoted]
      · rintro d s rfl hcompact
        rw [Localization.insertAfterValue_int _ _ (hv.getD hu s)]
        simp only [Variant.edited, Localization.edited, hcompact]

/-- Two lines, of which the second has a weight: a truth value is no atom of them, and a copy of the
second line behind the first gets its weight. -/
theorem edits_fail_before_they_change_lines :
    ∃ a : Altered, a.Arises ∧
      (Altered.delete (.bool true)).run a = (.error (.repair (.invalidAtom "True" "2")), a) ∧
      ∃ v, (Altered.append 0.25 (.int 1) (.int 2)).run a = (.ok (), .ofVariant v) ∧
        v.history = [.append 1 2] ∧
        (⟨[(2, 0.5)]⟩ : Localization Float).insertAfterValue (.int 1) (.float 0.5)
          = (v.localization, none) := by
  let r : Variant Float :=
    { program := .lines ["a", "b"], localization := ⟨[(2, 0.5)]⟩, history := []
      ownSuffix := none, compiled := none }
  have hu : Weight.inUnit (0.25 : Float) = true := by decide +kernel
  have hweights : (⟨[(2, 0.5)]⟩ : Localization Float).InUnit := by
    intro p hp
    obtain rfl := List.mem_singleton.mp hp
    decide +kernel
  have hr : Altered.Arises (.ofVariant r) :=
    ((Altered.Arises.fresh .lines).made hu (.read "a\nb\n") trivial).made hu
      (.weighed ⟨[(2, 0.5)]⟩) hweights
  have hsize : 2 < tenTo digitLimit := by decide +kernel
  obtain ⟨v, hv, hfails, hunchanged, -⟩ := edits_fail_before_they_change hr hu
    (.delete (.bool true))
  obtain ⟨w, hw, -, -, hmade⟩ := edits_fail_before_they_change hr hu (.append (.int 1) (.int 2))
  obtain rfl : r = v := congrArg Altered.variant hv
  obtain rfl : r = w := congrArg Altered.variant hw
  refine ⟨.ofVariant r, hr, ?_, ?_⟩
  · have hnot : ¬ (Value.bool true).IsAtomOf r.size := by
      rintro ⟨a, ha, -⟩
      cases ha
    obtain ⟨f, a', hrun⟩ := hfails.mpr ⟨_, List.mem_singleton_self _, hnot⟩
    have hwritable : ∀ x ∈ [Value.bool true], x.IsWritable := by
      intro x hx
      obtain rfl := List.mem_singleton.mp hx
      rfl
    obtain ⟨rfl, hf⟩ := hunchanged f a' hrun
    obtain ⟨x, hx, -, rfl⟩ := hf hwritable hsize
    obtain rfl := List.mem_singleton.mp hx
    have htwo : toString r.size = "2" := by decide +kernel
    rw [htwo] at hrun
    exact hrun
  · obtain ⟨e, v, he, -, hv, hhistory, -, hweight⟩ := hmade _ rfl
    obtain rfl : e = .append 1 2 := by
      cases e with
      | append d s =>
        cases he
        rfl
      | _ => cases he
    exact ⟨v, hv ▸ rfl, hhistory, hweight 1 2 rfl rfl⟩

/-- A stored state that has null in place of the history. -/
def withoutHistory : List (Value × Value) :=
  [(.str "format", .str snapshotFormat), (.str "version", .int snapshotVersion),
    (.str "backend", .str "lines"), (.str "state", .map [(.str "_history", .null)])]

/-- An integer that is too long to be written is refused for that, and not as what is no atom. And
a variant that takes a stored state with null in place of its history loses the atom that is
deleted, before the edit fails to be noted. -/
theorem edits_fail_otherwise :
    (∃ a : Altered, a.Arises ∧ ¬ (Value.int (tenTo digitLimit)).IsAtomOf a.variant.size ∧
      (Altered.delete (.int (tenTo digitLimit))).run a
        = (.error (.refused (.number .overlong)), a)) ∧
    ∃ a loaded deleted : Altered, a.Arises ∧
      (Record.value (.map withoutHistory)).held "s" = .ok (.pairs withoutHistory) ∧
      (Altered.load "s" (.pairs withoutHistory)).run a = (.ok (), loaded) ∧
      (Value.int 1).IsAtomOf loaded.variant.size ∧
      (Altered.delete (.int 1)).run loaded = (.error (.noAttribute "NoneType" "append"), deleted) ∧
      loaded.text = .ok "a\n" ∧ deleted.text = .ok "" := by
  let r : Variant Float :=
    { program := .lines ["a"], localization := ∅, history := [], ownSuffix := none
      compiled := none }
  have hu : Weight.inUnit (0.25 : Float) = true := by decide +kernel
  have hr : Altered.Arises (.ofVariant r) :=
    (Altered.Arises.fresh .lines).made hu (.read "a\n") trivial
  refine ⟨⟨.ofVariant r, hr, ?_⟩, .ofVariant r, { variant := r, parts := [("_history", .null)] },
    { variant := { r with program := .lines [] }, parts := [("_history", .null)] }, hr, rfl, rfl,
    ⟨1, rfl, by decide⟩, rfl, rfl, rfl⟩
  have hnot : ¬ (Value.int (tenTo digitLimit)).IsAtomOf r.size := by
    rintro ⟨a, ha, -, hle⟩
    cases ha
    revert hle
    decide +kernel
  have hlong : isOverlong (tenTo digitLimit) = true := by decide +kernel
  refine ⟨hnot, ?_⟩
  rw [Altered.run_delete, Variant.delete, Variant.checkAtom, checkAtom_of_not_isAtomOf hnot,
    invalidAtom, Failure.naming, Value.shown, Value.isOverlong, hlong]
  rfl

end VariantRepair
