import Mathlib.Tactic.Common
import VariantRepair.Variant.Random
import VariantRepair.Proofs.Variant.History

/-!
# The suffix of rendered sources

A variant gets the suffix of its sources when its program is loaded. Edits, random edits, weights
and compilations leave it as it is, also when a variant has altered parts and when they fail on the
way.
-/

namespace VariantRepair

variable {α G W : Type} {own : Value}

/-! ### Edits of plain variants -/

lemma Variant.suffix_edited (v : Variant W) (untouched : W) (e : Edit) :
    (v.edited untouched e).suffix = v.suffix := by
  rw [suffix, suffix, backend_edited]
  rfl

lemma Variant.suffix_of_attempt {v v' : Variant W} {untouched : W} {t : Attempt}
    (h : v.attempt untouched t = .ok v') : v'.suffix = v.suffix := by
  rcases v.attempt_cases untouched t with ⟨f, hattempt⟩ | ⟨e, -, hattempt⟩
  · rw [hattempt] at h
    cases h
  · rw [hattempt] at h
    obtain rfl := Except.ok.inj h
    exact v.suffix_edited untouched e

namespace Altered

/-! ### Changes of parts -/

lemma lookup_filter_of {key : String} {p : String × Value → Bool} (parts : List (String × Value))
    (h : ∀ v, p (key, v) = true) : (parts.filter p).lookup key = parts.lookup key := by
  induction parts with
  | nil => rfl
  | cons e parts ih =>
    obtain ⟨name, v⟩ := e
    by_cases hname : key = name
    · subst hname
      rw [List.filter_cons_of_pos (h v)]
      simp
    · cases hp : p (name, v) with
      | true =>
        rw [List.filter_cons_of_pos hp]
        simp [List.lookup_cons, beq_eq_false_iff_ne.mpr hname, ih]
      | false =>
        rw [List.filter_cons_of_neg (by simp [hp])]
        simp [List.lookup_cons, beq_eq_false_iff_ne.mpr hname, ih]

lemma suffix_replace (a : Altered) {name : String} (h : name ≠ "source_suffix") (v : Value) :
    (a.replace name v).suffix = a.suffix := by
  have hpart : (a.replace name v).part? "source_suffix" = a.part? "source_suffix" := by
    rw [part?, replace, List.lookup_cons, beq_eq_false_iff_ne.mpr h.symm]
    exact lookup_filter_of a.parts fun w => by simp [h.symm]
  rw [suffix, suffix, hpart]
  rfl

lemma suffix_restore (a : Altered) {names : List String} (h : "source_suffix" ∉ names) :
    (a.restore names).suffix = a.suffix := by
  have hpart : (a.restore names).part? "source_suffix" = a.part? "source_suffix" :=
    lookup_filter_of a.parts fun w => by simp [h]
  rw [suffix, suffix, hpart]
  rfl

lemma suffix_withVariant (a : Altered) {v : Variant Float} (h : v.suffix = a.variant.suffix) :
    suffix { a with variant := v } = a.suffix := by
  rw [suffix, suffix, h]
  rfl

lemma suffix_setSuffix (a : Altered) (s : String) :
    ((setSuffix s).run a).2.suffix = .str s := by
  have hpart : ((setSuffix s).run a).2.part? "source_suffix" = none := by
    refine List.lookup_eq_none_iff.mpr fun p hp => ?_
    have hname : p.1 ≠ "source_suffix" := by simpa using (List.mem_filter.mp hp).2
    simpa using hname.symm
  rw [suffix, hpart]
  rfl

/-! ### Alterations -/

lemma preserves_reading {I : Altered → Prop} (f : Altered → Except Failure α) :
    Preserves I (reading f) :=
  .bind_get fun _ _ => .ofExcept _

lemma keepsSuffix_change {f : Variant Float → Variant Float}
    (h : ∀ v, (f v).suffix = v.suffix) : Preserves (·.suffix = own) (change f) :=
  .modify fun a ha => (a.suffix_withVariant (h a.variant)).trans ha

lemma keepsSuffix_replace {name : String} (h : name ≠ "source_suffix") (v : Value) :
    Preserves (·.suffix = own) (modify (·.replace name v) : Alteration Unit) :=
  .modify fun a ha => (a.suffix_replace h v).trans ha

lemma keepsSuffix_changePlain {f : Variant Float → Except Failure (Variant Float)}
    (h : ∀ v v', f v = .ok v' → v'.suffix = v.suffix) :
    Preserves (·.suffix = own) (changePlain f) := by
  rintro a ha
  change ((ofExcept (f a.variant) >>= fun w => change fun _ => w : Alteration Unit).run a).2.suffix
    = own
  cases hf : f a.variant with
  | error e => exact ha
  | ok v => exact (a.suffix_withVariant (h a.variant v hf)).trans ha

lemma keepsSuffix_note (e : Edit) : Preserves (·.suffix = own) (note e) := by
  refine .bind_get fun a _ => ?_
  split
  · exact keepsSuffix_change fun v => rfl
  · exact keepsSuffix_replace (by decide) _
  · exact .throw _

lemma atomsPart_ne (b : Backend) : atomsPart b ≠ "source_suffix" := by
  cases b <;> decide

lemma keepsSuffix_changeProgram {f : Program → Program}
    (h : ∀ p, (f p).backend = p.backend) :
    Preserves (·.suffix = own) (change fun v => { v with program := f v.program }) :=
  keepsSuffix_change fun v => by rw [Variant.suffix, Variant.backend, h]; rfl

lemma keepsSuffix_deleteAtom (atom : Int) : Preserves (·.suffix = own) (deleteAtom atom) := by
  refine .bind (preserves_reading _) fun _ => .bind_get fun a _ => .bind_get fun a₁ _ =>
    .bind_get fun a₂ _ => ?_
  split
  · exact keepsSuffix_changeProgram (f := fun p => p.delete atom.toNat)
      fun p => by cases p <;> rfl
  · exact keepsSuffix_replace (atomsPart_ne _) _
  · exact .bind (.ofExcept _) fun _ => .pure _
  · exact .throw _
  · split
    · split_ifs
      · exact .bind (.throw _) fun _ => keepsSuffix_replace (atomsPart_ne _) _
      · exact keepsSuffix_replace (atomsPart_ne _) _
    · exact keepsSuffix_replace (atomsPart_ne _) _
    · exact .throw _

lemma keepsSuffix_appendAtom (target source : Int) :
    Preserves (·.suffix = own) (appendAtom target source) := by
  refine .bind (preserves_reading _) fun _ => .bind_get fun a _ => .bind_get fun a₁ _ =>
    .bind_get fun a₂ _ => ?_
  split
  · exact keepsSuffix_changeProgram (f := fun p => p.append target.toNat source.toNat)
      fun p => by cases p <;> rfl
  · exact .bind (.ofExcept _) fun _ => keepsSuffix_replace (atomsPart_ne _) _
  · exact .throw _
  · refine .bind (.ofExcept _) fun slot => ?_
    split
    · exact .bind (.ofExcept _) fun _ => keepsSuffix_replace (atomsPart_ne _) _
    · exact .throw _

lemma keepsSuffix_swapAtoms (first second : Int) :
    Preserves (·.suffix = own) (swapAtoms first second) := by
  refine .bind (preserves_reading _) fun _ => .bind_get fun a _ => .bind_get fun a₁ _ => ?_
  split
  · exact keepsSuffix_changeProgram (f := fun p => p.swap first.toNat second.toNat)
      fun p => by cases p <;> rfl
  · refine .bind (.ofExcept _) fun _ => .bind (.ofExcept _) fun _ => ?_
    split
    · exact keepsSuffix_replace (atomsPart_ne _) _
    · exact keepsSuffix_replace (atomsPart_ne _) _
    · exact .throw _

/-- An attempt keeps the suffix, wherever it fails. -/
lemma keepsSuffix_make (untouched : Float) (t : Attempt) :
    Preserves (·.suffix = own) (t.make untouched) := by
  have hplain (t : Attempt) :
      Preserves (·.suffix = own) (changePlain fun v => v.attempt untouched t) :=
    keepsSuffix_changePlain fun v v' h => Variant.suffix_of_attempt h
  cases t with
  | delete x =>
    refine .bind_get fun a _ => ?_
    split_ifs
    · exact hplain (.delete x)
    · refine .bind (preserves_reading _) fun _ => .bind (preserves_reading _) fun n =>
        .bind (.ofExcept _) fun id => .bind (keepsSuffix_deleteAtom id) fun _ =>
        .bind_get fun a₁ _ => ?_
      split_ifs
      · exact .bind (preserves_reading _) fun _ =>
          .bind (keepsSuffix_change fun v => rfl) fun _ => keepsSuffix_note _
      · exact keepsSuffix_note _
  | append x y =>
    refine .bind_get fun a _ => ?_
    split_ifs
    · exact hplain (.append x y)
    · refine .bind (preserves_reading _) fun _ => .bind (preserves_reading _) fun n =>
        .bind (.ofExcept _) fun d => .bind (.ofExcept _) fun s =>
        .bind (preserves_reading _) fun _ => .bind (preserves_reading _) fun _ =>
        .bind_get fun a₁ _ => .bind (keepsSuffix_appendAtom d s) fun _ => .bind_get fun a₂ _ => ?_
      split_ifs
      · exact .bind (keepsSuffix_change fun v => rfl) fun _ => keepsSuffix_note _
      · exact keepsSuffix_note _
  | swap x y =>
    refine .bind_get fun a _ => ?_
    split_ifs
    · exact hplain (.swap x y)
    · refine .bind (preserves_reading _) fun _ => .bind (preserves_reading _) fun n =>
        .bind (.ofExcept _) fun i => .bind (.ofExcept _) fun j => ?_
      split_ifs
      · exact .bind (keepsSuffix_swapAtoms i j) fun _ => keepsSuffix_note _
      · exact .pure _

lemma keepsSuffix_apply (untouched : Float) (e : Edit) :
    Preserves (·.suffix = own) (apply untouched e) := by
  cases e with
  | delete a => exact keepsSuffix_make untouched (.delete (.int a))
  | append d s => exact keepsSuffix_make untouched (.append (.int d) (.int s))
  | swap a b => exact keepsSuffix_make untouched (.swap (.int a) (.int b))

lemma keepsSuffix_applyAll (untouched : Float) (es : List Edit) :
    Preserves (·.suffix = own) (applyAll untouched es) := by
  induction es with
  | nil => exact .pure _
  | cons e es ih => exact .bind (keepsSuffix_apply untouched e) fun _ => ih

lemma keepsSuffix_setLocalization (l : Localization Float) :
    Preserves (·.suffix = own) (setLocalization l) :=
  .bind (keepsSuffix_change fun v => rfl) fun _ =>
    .modify fun a ha => (a.suffix_restore (by decide)).trans ha

end Altered

/-! ### Random edits -/

lemma Variant.suffix_apply {v v' : Variant W} {untouched : W} {e : Edit}
    (h : v.apply untouched e = .ok v') : v'.suffix = v.suffix := by
  cases e with
  | delete a => exact suffix_of_attempt (show v.attempt untouched (.delete (.int a)) = _ from h)
  | append d s =>
    exact suffix_of_attempt (show v.attempt untouched (.append (.int d) (.int s)) = _ from h)
  | swap a b =>
    exact suffix_of_attempt (show v.attempt untouched (.swap (.int a) (.int b)) = _ from h)

variable [Weight W]

lemma Variant.suffix_drawEdits (dice : Chance.Dice G W) (untouched : W) (weights : W × W × W)
    (count : Nat) (v : Variant W) (g : G) :
    (drawEdits dice untouched weights count v g).2.2.1.suffix = v.suffix := by
  induction count generalizing v g with
  | zero => rfl
  | succ count ih =>
    rw [drawEdits]
    split
    · rfl
    · split
      · rfl
      · next v' happly => exact (ih _ _).trans (suffix_apply happly)

namespace Altered

lemma suffix_drawAltered (dice : Chance.Dice G Float) (untouched : Float) (weights : List Float)
    (count : Nat) (a : Altered) (g : G) :
    (drawAltered dice untouched weights count a g).2.2.1.suffix = a.suffix := by
  induction count generalizing a g with
  | zero => rfl
  | succ count ih =>
    rw [drawAltered]
    split
    · rfl
    · split
      · rfl
      · next edit g' _ =>
        have hkept : ((apply untouched edit).run a).2.suffix = a.suffix :=
          keepsSuffix_apply untouched edit a rfl
        split
        · next e a' hrun => rwa [hrun] at hkept
        · next a' hrun =>
          rw [hrun] at hkept
          exact (ih _ _).trans hkept

lemma suffix_drawEdits (dice : Chance.Dice G Float) (untouched : Float)
    (weights : Float × Float × Float) (count : Nat) (a : Altered) (g : G) :
    (drawEdits dice untouched weights count a g).2.2.1.suffix = a.suffix := by
  rw [drawEdits]
  split_ifs with hparts
  · have hnone : a.part? "source_suffix" = none := by
      rw [part?, List.isEmpty_iff.mp hparts]
      rfl
    rw [suffix, suffix, hnone]
    exact congrArg Value.str (Variant.suffix_drawEdits dice untouched weights count a.variant g)
  · exact suffix_drawAltered dice untouched _ count a g

end Altered

end VariantRepair
