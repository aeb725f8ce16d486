import Mathlib.Tactic.Common
import VariantRepair.Variant.Altered
import VariantRepair.Variant.Random
import VariantRepair.Proofs.Failing

/-!
# What an edit does to a variant

An edit whose atoms exist changes the program, the weights and the history, each by itself; any
other edit fails and changes nothing. The operations on variants that have all their parts are
described by this alone, and so are runs of them.
-/

namespace VariantRepair

variable {W : Type}

/-! ### Atoms that exist -/

lemma checkAtom_eq_ok_iff {x : Value} {n : Nat} {a : Int} :
    checkAtom x n = .ok a ↔ x = .int a ∧ 1 ≤ a ∧ a ≤ n := by
  cases x with
  | int m =>
    by_cases h : 1 ≤ m ∧ m ≤ n
    · simp only [checkAtom, h, and_self, if_true, Except.ok.injEq, Value.int.injEq]
      constructor
      · rintro rfl; exact ⟨rfl, h⟩
      · exact fun h => h.1
    · simp only [checkAtom, h, if_false, reduceCtorEq, Value.int.injEq, false_iff, not_and]
      rintro rfl
      exact fun h₁ hn => h ⟨h₁, hn⟩
  | _ => simp [checkAtom]

/-- The position of an atom, counted from zero. -/
lemma exists_position {a : Int} {n : Nat} (h : 1 ≤ a ∧ a ≤ n) : ∃ k : Nat, a = k + 1 ∧ k < n :=
  ⟨(a - 1).toNat, by omega, by omega⟩

/-- All atoms of an edit are among the first `n`. -/
def Edit.Fits (n : Nat) (e : Edit) : Prop :=
  ∀ a ∈ e.atoms, 1 ≤ a ∧ a ≤ n

instance (n : Nat) (e : Edit) : Decidable (e.Fits n) :=
  inferInstanceAs (Decidable (∀ a ∈ e.atoms, 1 ≤ a ∧ a ≤ n))

@[simp] lemma Edit.fits_delete {n : Nat} {a : Int} :
    (Edit.delete a).Fits n ↔ 1 ≤ a ∧ a ≤ n := by simp [Fits, atoms]

@[simp] lemma Edit.fits_append {n : Nat} {d s : Int} :
    (Edit.append d s).Fits n ↔ (1 ≤ d ∧ d ≤ n) ∧ 1 ≤ s ∧ s ≤ n := by simp [Fits, atoms]

@[simp] lemma Edit.fits_swap {n : Nat} {a b : Int} :
    (Edit.swap a b).Fits n ↔ (1 ≤ a ∧ a ≤ n) ∧ 1 ≤ b ∧ b ≤ n := by simp [Fits, atoms]

/-! ### The parts of an edit -/

/-- What an edit leaves of a program. -/
def Program.edited (p : Program) : Edit → Program
  | .delete a => p.delete a.toNat
  | .append d s => p.append d.toNat s.toNat
  | .swap a b => if a = b then p else p.swap a.toNat b.toNat

/-- What an edit leaves of the weights. -/
def Localization.edited (l : Localization W) (r : Renumbering) (untouched : W) :
    Edit → Localization W
  | .delete a => match r with
    | .compact => l.remove a
    | .tombstone => l
  | .append d s => match r with
    | .compact => l.insertAfter d (l.getD s untouched)
    | .tombstone => l
  | .swap _ _ => l

/-- What is noted of an edit. -/
def Edit.noted : Edit → List Edit
  | .swap a b => if a = b then [] else [.swap a b]
  | e => [e]

/-- What an edit leaves of a variant. -/
def Variant.edited (v : Variant W) (untouched : W) (e : Edit) : Variant W :=
  { v with
    program := v.program.edited e
    localization := v.localization.edited v.backend.renumbering untouched e
    history := v.history ++ e.noted }

/-! ### Single edits -/

/-- An edit takes effect when all its atoms exist. -/
lemma Variant.apply_of_fits {v : Variant W} {untouched : W} {e : Edit} (h : e.Fits v.size) :
    v.apply untouched e = .ok (v.edited untouched e) := by
  cases e with
  | delete a =>
    have ha : v.checkAtom (.int a) = .ok a := checkAtom_eq_ok_iff.mpr ⟨rfl, Edit.fits_delete.mp h⟩
    simp only [apply, delete, ha, bind, Except.bind, pure, Except.pure]
    rfl
  | append d s =>
    obtain ⟨hd, hs⟩ := Edit.fits_append.mp h
    have hd : v.checkAtom (.int d) = .ok d := checkAtom_eq_ok_iff.mpr ⟨rfl, hd⟩
    have hs : v.checkAtom (.int s) = .ok s := checkAtom_eq_ok_iff.mpr ⟨rfl, hs⟩
    simp only [apply, append, hd, hs, bind, Except.bind, pure, Except.pure]
    rfl
  | swap a b =>
    obtain ⟨ha, hb⟩ := Edit.fits_swap.mp h
    have ha : v.checkAtom (.int a) = .ok a := checkAtom_eq_ok_iff.mpr ⟨rfl, ha⟩
    have hb : v.checkAtom (.int b) = .ok b := checkAtom_eq_ok_iff.mpr ⟨rfl, hb⟩
    simp only [apply, swap, ha, hb, bind, Except.bind, pure, Except.pure]
    by_cases hab : a = b
    · simp [hab, edited, Program.edited, Localization.edited, Edit.noted]
    · simp [hab, edited, Program.edited, Localization.edited, Edit.noted]

@[simp] lemma Program.backend_edited (p : Program) (e : Edit) :
    (p.edited e).backend = p.backend := by
  cases p <;> cases e <;> simp only [edited, delete, append, swap, backend] <;> split_ifs <;> rfl

@[simp] lemma Variant.backend_edited (v : Variant W) (untouched : W) (e : Edit) :
    (v.edited untouched e).backend = v.backend :=
  v.program.backend_edited e

/-! ### Variants with all their parts -/

namespace Altered

lemma size_ofVariant (v : Variant Float) : (ofVariant v).size = .ok v.size := rfl

lemma text_ofVariant (v : Variant Float) : (ofVariant v).text = v.program.text := by
  obtain ⟨program, localization, history, ownSuffix, compiled⟩ := v
  cases program <;> rfl

/-- The answer and the variant after a change: a change that fails leaves the variant as it was. -/
def settled (v : Variant Float) : Except Failure (Variant Float) → Except Failure Unit × Altered
  | .ok v' => (.ok (), ofVariant v')
  | .error f => (.error f, ofVariant v)

lemma run_changePlain (f : Variant Float → Except Failure (Variant Float)) (v : Variant Float) :
    (changePlain f).run (ofVariant v) = settled v (f v) := by
  change (ofExcept (f v) >>= fun w => change fun _ => w : Alteration Unit).run (ofVariant v) = _
  cases f v <;> rfl

lemma run_delete (v : Variant Float) (x : Value) :
    (delete x).run (ofVariant v) = settled v (v.delete x) :=
  run_changePlain (·.delete x) v

lemma run_append (untouched : Float) (v : Variant Float) (x y : Value) :
    (append untouched x y).run (ofVariant v) = settled v (v.append untouched x y) :=
  run_changePlain (·.append untouched x y) v

lemma run_swap (v : Variant Float) (x y : Value) :
    (swap x y).run (ofVariant v) = settled v (v.swap x y) :=
  run_changePlain (·.swap x y) v

lemma run_apply (untouched : Float) (v : Variant Float) (e : Edit) :
    (apply untouched e).run (ofVariant v) = settled v (v.apply untouched e) := by
  cases e with
  | delete a => exact run_delete v (.int a)
  | append d s => exact run_append untouched v (.int d) (.int s)
  | swap a b => exact run_swap v (.int a) (.int b)

lemma run_readText (text : String) (v : Variant Float) :
    (readText text).run (ofVariant v) = settled v (v.readText text) := by
  have hrun := run_changePlain (·.readText text) v
  have hcalls : (readText text).run (ofVariant v)
      = (changePlain (·.readText text) >>= fun _ =>
          modify (·.restore programParts) : Alteration Unit).run (ofVariant v) := rfl
  rw [hcalls]
  cases h : v.readText text with
  | ok v' =>
    rw [h] at hrun
    rw [run_bind_of_ok hrun]
    rfl
  | error f =>
    rw [h] at hrun
    rw [run_bind_of_error hrun]
    rfl

@[simp] lemma run_applyAll_nil (untouched : Float) (a : Altered) :
    (applyAll untouched []).run a = (.ok (), a) := rfl

/-- A run goes on from what its first edit leaves. -/
lemma run_applyAll_cons {untouched : Float} {v : Variant Float} {e : Edit} (h : e.Fits v.size)
    (es : List Edit) :
    (applyAll untouched (e :: es)).run (ofVariant v)
      = (applyAll untouched es).run (ofVariant (v.edited untouched e)) := by
  have hrun := run_apply untouched v e
  rw [Variant.apply_of_fits h, settled] at hrun
  exact run_bind_of_ok hrun fun _ => applyAll untouched es

end Altered

end VariantRepair

/-!
## Random edits are edits

Random edits are drawn one by one, each for what those before it left. Made anew in the same order,
they give the same variant, also where a variant has altered parts.
-/

namespace VariantRepair

variable {G : Type} {dice : Chance.Dice G Float} {untouched : Float} {count : Nat}
  {edits : List Edit} {g g' : G}

/-- As many edits as were asked for were drawn, and they give the variant that came out. -/
lemma Variant.run_applyAll_of_drawEdits {weights : Float × Float × Float} {v v' : Variant Float}
    (h : drawEdits dice untouched weights count v g = (edits, none, v', g')) :
    edits.length = count ∧
      (Altered.applyAll untouched edits).run (.ofVariant v) = (.ok (), .ofVariant v') := by
  induction count generalizing v g edits with
  | zero =>
    cases h
    exact ⟨rfl, rfl⟩
  | succ count ih =>
    rw [drawEdits] at h
    split at h
    · cases h
    · next edit g₁ _ =>
      split at h
      · cases h
      · next v₁ happly =>
        cases hrest : drawEdits dice untouched weights count v₁ g₁ with
        | mk es rest =>
          obtain ⟨failure, v₂, g₂⟩ := rest
          rw [hrest] at h
          cases h
          obtain ⟨hlength, hrun⟩ := ih hrest
          have hfirst := Altered.run_apply untouched v edit
          rw [happly, Altered.settled] at hfirst
          refine ⟨by rw [List.length_cons, hlength], ?_⟩
          rw [Altered.applyAll, run_bind_of_ok hfirst, hrun]

namespace Altered

lemma run_applyAll_of_drawAltered {weights : List Float} {a a' : Altered}
    (h : drawAltered dice untouched weights count a g = (edits, none, a', g')) :
    edits.length = count ∧ (applyAll untouched edits).run a = (.ok (), a') := by
  induction count generalizing a g edits with
  | zero =>
    cases h
    exact ⟨rfl, rfl⟩
  | succ count ih =>
    rw [drawAltered] at h
    split at h
    · cases h
    · split at h
      · cases h
      · next edit g₁ _ =>
        split at h
        · cases h
        · next a₁ hfirst =>
          cases hrest : drawAltered dice untouched weights count a₁ g₁ with
          | mk es rest =>
            obtain ⟨failure, a₂, g₂⟩ := rest
            rw [hrest] at h
            cases h
            obtain ⟨hlength, hrun⟩ := ih hrest
            refine ⟨by rw [List.length_cons, hlength], ?_⟩
            rw [applyAll, run_bind_of_ok hfirst, hrun]

/-- As many edits as were asked for were drawn, and they give the variant that came out. -/
lemma run_applyAll_of_drawEdits {weights : Float × Float × Float} {a a' : Altered}
    (h : drawEdits dice untouched weights count a g = (edits, none, a', g')) :
    edits.length = count ∧ (applyAll untouched edits).run a = (.ok (), a') := by
  rw [drawEdits] at h
  split_ifs at h with hparts
  · obtain ⟨v, parts⟩ := a
    obtain rfl := List.isEmpty_iff.mp hparts
    cases hplain : Variant.drawEdits dice untouched weights count v g with
    | mk es rest =>
      obtain ⟨failure, v', g₁⟩ := rest
      rw [show Altered.variant ⟨v, []⟩ = v from rfl, hplain] at h
      cases h
      exact Variant.run_applyAll_of_drawEdits hplain
  · exact run_applyAll_of_drawAltered h

end Altered

end VariantRepair
