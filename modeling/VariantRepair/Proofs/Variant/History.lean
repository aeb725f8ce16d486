import Mathlib.Tactic.Common
import VariantRepair.Proofs.Edit.Text
import VariantRepair.Proofs.Variant.Edit

/-!
# The history of a variant rebuilds it

Every change of a variant is noted as the edit that makes it, and nothing else is noted: attempts
that fail and exchanges of an atom with itself leave the variant as it was. So the history, made
anew on the variant that there was at first, ends with the same variant; and the history can be read
off its text.
-/

namespace VariantRepair

open Number

variable {W : Type}

/-! ### Attempts -/

/-- A call of an operation, with whatever values it is given for atoms. -/
inductive Attempt where
  | delete (atom : Value)
  | append (target source : Value)
  | swap (first second : Value)

/-- Make an attempt. -/
def Attempt.make (untouched : Float) : Attempt → Altered.Alteration Unit
  | .delete x => Altered.delete x
  | .append x y => Altered.append untouched x y
  | .swap x y => Altered.swap x y

/-- Make attempts in turn, and go on where one of them fails. -/
def attemptAll (untouched : Float) : List Attempt → Altered.Alteration Unit
  | [] => return
  | t :: ts => do
    try t.make untouched catch _ => pure ()
    attemptAll untouched ts

/-- What an attempt comes to on a variant that has all its parts. -/
def Variant.attempt (v : Variant W) (untouched : W) : Attempt → Except Failure (Variant W)
  | .delete x => v.delete x
  | .append x y => v.append untouched x y
  | .swap x y => v.swap x y

/-- An attempt fails, or it is an edit whose atoms exist. -/
lemma Variant.attempt_cases (v : Variant W) (untouched : W) (t : Attempt) :
    (∃ f, v.attempt untouched t = .error f) ∨
      ∃ e, e.Fits v.size ∧ v.attempt untouched t = .ok (v.edited untouched e) := by
  cases t with
  | delete x =>
    cases hx : v.checkAtom x with
    | error f => exact .inl ⟨f, by rw [attempt, delete, hx]; rfl⟩
    | ok a =>
      obtain ⟨rfl, ha⟩ := checkAtom_eq_ok_iff.mp hx
      have hfits : (Edit.delete a).Fits v.size := Edit.fits_delete.mpr ha
      exact .inr ⟨.delete a, hfits, apply_of_fits hfits⟩
  | append x y =>
    cases hx : v.checkAtom x with
    | error f => exact .inl ⟨f, by rw [attempt, append, hx]; rfl⟩
    | ok d =>
      cases hy : v.checkAtom y with
      | error f => exact .inl ⟨f, by rw [attempt, append, hx, hy]; rfl⟩
      | ok s =>
        obtain ⟨rfl, hd⟩ := checkAtom_eq_ok_iff.mp hx
        obtain ⟨rfl, hs⟩ := checkAtom_eq_ok_iff.mp hy
        have hfits : (Edit.append d s).Fits v.size := Edit.fits_append.mpr ⟨hd, hs⟩
        exact .inr ⟨.append d s, hfits, apply_of_fits hfits⟩
  | swap x y =>
    cases hx : v.checkAtom x with
    | error f => exact .inl ⟨f, by rw [attempt, swap, hx]; rfl⟩
    | ok a =>
      cases hy : v.checkAtom y with
      | error f => exact .inl ⟨f, by rw [attempt, swap, hx, hy]; rfl⟩
      | ok b =>
        obtain ⟨rfl, ha⟩ := checkAtom_eq_ok_iff.mp hx
        obtain ⟨rfl, hb⟩ := checkAtom_eq_ok_iff.mp hy
        have hfits : (Edit.swap a b).Fits v.size := Edit.fits_swap.mpr ⟨ha, hb⟩
        exact .inr ⟨.swap a b, hfits, apply_of_fits hfits⟩

lemma run_make (untouched : Float) (t : Attempt) (v : Variant Float) :
    (t.make untouched).run (.ofVariant v) = Altered.settled v (v.attempt untouched t) := by
  cases t with
  | delete x => exact Altered.run_delete v x
  | append x y => exact Altered.run_append untouched v x y
  | swap x y => exact Altered.run_swap v x y

/-- Attempts go on from what the first one leaves, which is what there was if it fails. -/
lemma run_attemptAll_cons (untouched : Float) (t : Attempt) (ts : List Attempt)
    (v : Variant Float) :
    (attemptAll untouched (t :: ts)).run (.ofVariant v)
      = (attemptAll untouched ts).run (.ofVariant ((v.attempt untouched t).toOption.getD v)) := by
  have htry : (tryCatch (t.make untouched) fun _ => pure () : Altered.Alteration Unit).run
      (.ofVariant v) = (.ok (), .ofVariant ((v.attempt untouched t).toOption.getD v)) := by
    have hrun := run_make untouched t v
    cases h : v.attempt untouched t with
    | ok v' =>
      rw [h] at hrun
      exact run_tryCatch_of_ok hrun _
    | error f =>
      rw [h] at hrun
      exact run_tryCatch_of_error hrun _
  exact run_bind_of_ok htry fun _ => attemptAll untouched ts

/-- What goes on holding after a failed attempt and after an edit with existing atoms holds after
any number of attempts. -/
lemma exists_run_attemptAll (untouched : Float) {P : Nat → Variant Float → Prop}
    (hfailed : ∀ n v, P n v → P (n + 1) v)
    (hedited : ∀ n v (e : Edit), P n v → e.Fits v.size → P (n + 1) (v.edited untouched e))
    (ts : List Attempt) {n : Nat} {v : Variant Float} (h : P n v) :
    ∃ v', (attemptAll untouched ts).run (.ofVariant v) = (.ok (), .ofVariant v') ∧
      P (n + ts.length) v' := by
  induction ts generalizing n v with
  | nil => exact ⟨v, rfl, h⟩
  | cons t ts ih =>
    rw [run_attemptAll_cons, List.length_cons, Nat.add_comm ts.length, ← Nat.add_assoc]
    obtain ⟨f, hf⟩ | ⟨e, he, hv'⟩ := v.attempt_cases untouched t
    · rw [hf]
      exact ih (hfailed n v h)
    · rw [hv']
      exact ih (hedited n v e h he)

/-! ### What is noted -/

lemma Program.size_edited_le (p : Program) (e : Edit) : (p.edited e).size ≤ p.size + 1 := by
  cases p with
  | lines ls =>
    cases e with
    | delete a => exact Nat.le_succ_of_le (List.length_eraseIdx_le ..)
    | append d s => exact List.length_insertIdx_le_succ
    | swap a b =>
      rw [edited]
      split_ifs
      · exact Nat.le_succ _
      · simp [swap, size, Lines.swap]
  | module m =>
    cases e with
    | delete a => simp [edited, delete, size, SlotModule.size, SlotModule.delete]
    | append d s => simp [edited, append, size, SlotModule.size, SlotModule.append]
    | swap a b =>
      rw [edited]
      split_ifs
      · exact Nat.le_succ _
      · simp [swap, size, SlotModule.size, SlotModule.swap]

/-- An edit is noted as it is, or not at all. -/
lemma Edit.noted_cases (e : Edit) : e.noted = [] ∨ e.noted = [e] := by
  cases e with
  | swap a b =>
    rw [noted]
    split_ifs
    · exact .inl rfl
    · exact .inr rfl
  | _ => exact .inr rfl

/-- Where nothing is noted, nothing is changed. -/
lemma Variant.edited_eq_self {v : Variant W} {untouched : W} {e : Edit} (h : e.noted = []) :
    v.edited untouched e = v := by
  cases e with
  | swap a b =>
    have hab : a = b := by
      by_contra hne
      rw [Edit.noted, if_neg hne] at h
      exact List.cons_ne_nil _ _ h
    simp [edited, Program.edited, Localization.edited, Edit.noted, hab]
  | _ => exact absurd h (List.cons_ne_nil _ _)

namespace Altered

/-- Two runs of edits make one. -/
lemma run_applyAll_append {untouched : Float} {es fs : List Edit} {a a' : Altered}
    (h : (applyAll untouched es).run a = (.ok (), a')) :
    (applyAll untouched (es ++ fs)).run a = (applyAll untouched fs).run a' := by
  have hbind : ∀ es, applyAll untouched (es ++ fs)
      = applyAll untouched es >>= fun _ => applyAll untouched fs := by
    intro es
    induction es with
    | nil => rfl
    | cons e es ih => rw [List.cons_append, applyAll, applyAll, ih, bind_assoc]
  rw [hbind, run_bind_of_ok h]

end Altered

/-- What is known of a variant after `n` attempts: the edits `es` lead to it, they are what was
noted, and there cannot be more atoms than those attempts may have added. -/
structure Rebuilds (untouched : Float) (r : Variant Float) (n : Nat) (es : List Edit)
    (v : Variant Float) : Prop where
  run : (Altered.applyAll untouched es).run (.ofVariant r) = (.ok (), .ofVariant v)
  history : v.history = r.history ++ es
  size_le : v.size ≤ r.size + n
  atoms_le : ∀ e ∈ es, ∀ a ∈ e.atoms, 0 ≤ a ∧ a ≤ (r.size + n : Nat)

namespace Rebuilds

variable {untouched : Float} {r v : Variant Float} {n : Nat} {es : List Edit}

lemma start (untouched : Float) (r : Variant Float) : Rebuilds untouched r 0 [] r where
  run := rfl
  history := (List.append_nil _).symm
  size_le := Nat.le_refl _
  atoms_le _ he := absurd he List.not_mem_nil

/-- A failed attempt changes nothing. -/
lemma failed (h : Rebuilds untouched r n es v) : Rebuilds untouched r (n + 1) es v where
  run := h.run
  history := h.history
  size_le := Nat.le_succ_of_le h.size_le
  atoms_le e he a ha := by
    obtain ⟨h₀, hle⟩ := h.atoms_le e he a ha
    exact ⟨h₀, by omega⟩

/-- An edit is noted if it changes anything. -/
lemma edited {e : Edit} (h : Rebuilds untouched r n es v) (he : e.Fits v.size) :
    Rebuilds untouched r (n + 1) (es ++ e.noted) (v.edited untouched e) where
  run := by
    rw [Altered.run_applyAll_append h.run]
    rcases e.noted_cases with hnoted | hnoted
    · rw [hnoted, Variant.edited_eq_self hnoted, Altered.run_applyAll_nil]
    · rw [hnoted, Altered.run_applyAll_cons he, Altered.run_applyAll_nil]
  history := by
    rw [Variant.edited, h.history, List.append_assoc]
  size_le := by
    have hsize := v.program.size_edited_le e
    have hv : (v.edited untouched e).size ≤ v.size + 1 := hsize
    have hle := h.size_le
    omega
  atoms_le e' he' a ha := by
    have hle := h.size_le
    rcases List.mem_append.mp he' with hold | hnew
    · obtain ⟨h₀, hle⟩ := h.atoms_le e' hold a ha
      exact ⟨h₀, by omega⟩
    · obtain rfl : e' = e := by
        rcases e.noted_cases with hnoted | hnoted
        · rw [hnoted] at hnew
          exact absurd hnew List.not_mem_nil
        · rw [hnoted] at hnew
          exact List.mem_singleton.mp hnew
      obtain ⟨h₁, hsize⟩ := he a ha
      exact ⟨by omega, by omega⟩

/-- After any attempts there are edits that lead to the same variant. -/
lemma attempts (h : Rebuilds untouched r n es v) (ts : List Attempt) :
    ∃ es' v', (attemptAll untouched ts).run (.ofVariant v) = (.ok (), .ofVariant v') ∧
      Rebuilds untouched r (n + ts.length) es' v' := by
  have hfailed (n : Nat) (v : Variant Float) (h : ∃ es, Rebuilds untouched r n es v) :
      ∃ es, Rebuilds untouched r (n + 1) es v := h.imp fun _ h => h.failed
  have hedited (n : Nat) (v : Variant Float) (e : Edit) (h : ∃ es, Rebuilds untouched r n es v)
      (he : e.Fits v.size) : ∃ es, Rebuilds untouched r (n + 1) es (v.edited untouched e) := by
    obtain ⟨es, h⟩ := h
    exact ⟨_, h.edited he⟩
  obtain ⟨v', hrun, es', h'⟩ := exists_run_attemptAll untouched hfailed hedited ts ⟨es, h⟩
  exact ⟨es', v', hrun, h'⟩

/-- The atoms of the edits can be read as long as there are not too many. -/
lemma isReadable (h : Rebuilds untouched r n es v) (hn : r.size + n < tenTo digitLimit) :
    ∀ e ∈ es, e.IsReadable := by
  intro e he a ha
  obtain ⟨h₀, hle⟩ := h.atoms_le e he a ha
  exact ⟨h₀, Int.lt_of_le_of_lt hle (Int.ofNat_lt.mpr hn)⟩

end Rebuilds

/-- Whatever is attempted on a variant without a history, the edits that it has noted in the end
lead from the variant that there was to the very variant that there is. They are read back from
their text, which is its name if there are any; the digits of their atoms are few enough, since no
machine holds as many atoms or attempts as would take more. -/
theorem history_rebuilds (untouched : Float) (r : Variant Float) (ts : List Attempt)
    (hr : r.history = []) :
    ∃ v, (attemptAll untouched ts).run (.ofVariant r) = (.ok (), .ofVariant v) ∧
      (r.size + ts.length < tenTo digitLimit →
        Edit.parseList (Edit.listText v.history) = .ok v.history) ∧
      (Altered.applyAll untouched v.history).run (.ofVariant r) = (.ok (), .ofVariant v) ∧
      (v.history ≠ [] → (Altered.ofVariant v).name = .ok (Edit.listText v.history)) := by
  obtain ⟨es, v, hrun, hes⟩ := (Rebuilds.start untouched r).attempts ts
  rw [Nat.zero_add] at hes
  have hhistory : v.history = es := by rw [hes.history, hr, List.nil_append]
  refine ⟨v, hrun, ?_, ?_, ?_⟩
  · intro hlimit
    rw [hhistory]
    exact Edit.parseList_listText (hes.isReadable hlimit)
  · rw [hhistory]
    exact hes.run
  · intro hne
    change Except.ok v.name = _
    rw [Variant.name, List.isEmpty_eq_false_iff.mpr hne, if_neg Bool.false_ne_true]

/-- Three lines, of which the second has a weight: an exchange of a line with itself and two
attempts on what is no line leave no trace. -/
theorem history_rebuilds_three :
    ∃ r v : Variant Float, r.program = .lines ["a", "b", "c"] ∧ r.localization = ⟨[(2, 0.5)]⟩ ∧
      (attemptAll 0.25 [.swap (.int 1) (.int 1), .append (.int 3) (.int 2), .delete (.int 5),
        .delete (.str "a"), .swap (.int 4) (.int 1)]).run (.ofVariant r) = (.ok (), .ofVariant v) ∧
      v.program = .lines ["b", "b", "c", "a"] ∧
      Edit.parseList "a3,2 s4,1" = .ok v.history ∧
      (Altered.applyAll 0.25 v.history).run (.ofVariant r) = (.ok (), .ofVariant v) ∧
      (Altered.ofVariant v).name = .ok "a3,2 s4,1" := by
  let r : Variant Float :=
    { program := .lines ["a", "b", "c"], localization := ⟨[(2, 0.5)]⟩, history := []
      ownSuffix := none, compiled := none }
  obtain ⟨v, hrun, hparse, hagain, hname⟩ := history_rebuilds 0.25 r
    [.swap (.int 1) (.int 1), .append (.int 3) (.int 2), .delete (.int 5), .delete (.str "a"),
      .swap (.int 4) (.int 1)] rfl
  have hhistory : v.history = [.append 3 2, .swap 4 1] := congrArg (·.2.variant.history) hrun.symm
  have htext : Edit.listText v.history = "a3,2 s4,1" := by rw [hhistory]; decide +kernel
  rw [htext] at hparse hname
  have hlimit : 3 + 5 < tenTo digitLimit := by decide +kernel
  exact ⟨r, v, rfl, rfl, hrun, congrArg (·.2.variant.program) hrun.symm, hparse hlimit, hagain,
    hname (by simp [hhistory])⟩

end VariantRepair

/-!
## Calls of a variant

What is done to a variant from its making on never puts anything in place of its parts. Edits,
texts, weights and names do not look at what was compiled last: a variant that has forgotten it
answers every sequence of calls as one that has not.
-/

namespace VariantRepair

variable {W : Type} {untouched : Float}

/-! ### How a variant comes about -/

/-- Something that is done to a variant from its making on. -/
inductive Making where
  /-- A program is read from a text. -/
  | read (text : String)
  /-- The file of the program has a suffix. -/
  | named (suffix : String)
  /-- The atoms get weights. -/
  | weighed (l : Localization Float)
  | attempt (t : Attempt)
  | compiled (k : Compiled)

/-- Do something to a variant. -/
def Making.make (untouched : Float) : Making → Altered.Alteration Unit
  | .read text => Altered.readText text
  | .named suffix => Altered.setSuffix suffix
  | .weighed l => Altered.setLocalization l
  | .attempt t => t.make untouched
  | .compiled k => Altered.change fun v => { v with compiled := some k }

/-- What comes of a variant without atoms in any number of steps, of which some may fail. -/
inductive Altered.Reached (untouched : Float) : Altered → Prop
  | fresh (b : Backend) : Reached untouched (.ofVariant (.empty b))
  | step {a : Altered} (h : Reached untouched a) (x : Making) :
      Reached untouched ((x.make untouched).run a).2

lemma Altered.settled_snd (v : Variant Float) (r : Except Failure (Variant Float)) :
    (settled v r).2 = ofVariant (r.toOption.getD v) := by
  cases r <;> rfl

/-- What a step makes of a variant. -/
inductive Making.Makes (untouched : Float) (v : Variant Float) : Making → Variant Float → Prop
  /-- The step failed. -/
  | failed (x : Making) : Makes untouched v x v
  | read {text : String} {p : Program} (hread : Program.read v.backend text = .ok p) :
      Makes untouched v (.read text) (v.restart p)
  | named (suffix : String) : Makes untouched v (.named suffix) { v with ownSuffix := some suffix }
  | weighed (l : Localization Float) : Makes untouched v (.weighed l) { v with localization := l }
  | edited (t : Attempt) (e : Edit) (hfits : e.Fits v.size) :
      Makes untouched v (.attempt t) (v.edited untouched e)
  | compiled (k : Compiled) : Makes untouched v (.compiled k) { v with compiled := some k }

/-- A variant with all its parts has all of them after a step, whether it fails or not. -/
lemma Making.exists_makes (untouched : Float) (x : Making) (v : Variant Float) :
    ∃ v', ((x.make untouched).run (.ofVariant v)).2 = .ofVariant v' ∧ x.Makes untouched v v' := by
  cases x with
  | read text =>
    rw [make, Altered.run_readText, Altered.settled_snd]
    refine ⟨_, rfl, ?_⟩
    rw [Variant.readText]
    cases hread : Program.read v.backend text with
    | error f => exact .failed _
    | ok p => exact .read hread
  | named suffix => exact ⟨_, rfl, .named suffix⟩
  | weighed l => exact ⟨_, rfl, .weighed l⟩
  | attempt t =>
    rw [make, run_make, Altered.settled_snd]
    refine ⟨_, rfl, ?_⟩
    obtain ⟨f, hf⟩ | ⟨e, hfits, he⟩ := v.attempt_cases untouched t
    · rw [hf]
      exact .failed _
    · rw [he]
      exact .edited t e hfits
  | compiled k => exact ⟨_, rfl, .compiled k⟩

/-- A variant that came about this way has all its parts. -/
lemma Altered.Reached.exists_variant {a : Altered} (h : a.Reached untouched) :
    ∃ v, a = .ofVariant v := by
  induction h with
  | fresh b => exact ⟨_, rfl⟩
  | step h x ih =>
    obtain ⟨v, rfl⟩ := ih
    obtain ⟨v', hmade, -⟩ := x.exists_makes untouched v
    exact ⟨v', hmade⟩

/-! ### Calls -/

/-- A variant that has forgotten what was compiled last. -/
def Variant.forget (v : Variant W) : Variant W :=
  { v with compiled := none }

/-- A call of an operation of a variant. -/
inductive Request where
  | attempt (t : Attempt)
  | text
  | probedText
  | atomsAtLine (line : Value)
  | weighted
  | allWeighted
  | name

/-- What a call gives back. -/
inductive Returned where
  | nothing
  | text (s : String)
  | atoms (vs : List Value)
  | weights (ws : List (Int × Float))

/-- Make a call. -/
def Request.make (untouched : Float) : Request → Altered.Alteration Returned
  | .attempt t => do
    t.make untouched
    return .nothing
  | .text => Altered.reading fun a => a.text.map .text
  | .probedText => Altered.reading fun a => a.probedText.map .text
  | .atomsAtLine line => Altered.reading fun a => (a.atomsAtLine line).map .atoms
  | .weighted => Altered.reading fun a => a.weighted.map .weights
  | .allWeighted => Altered.reading fun a => (a.allWeighted untouched).map .weights
  | .name => Altered.reading fun a => a.name.map .text

/-- What calls give back, one after another; a call that fails does not stop them. -/
def Altered.answers (untouched : Float) : Altered → List Request → List (Except Failure Returned)
  | _, [] => []
  | a, x :: xs =>
    let (r, a) := (x.make untouched).run a
    r :: answers untouched a xs

/-! ### What was compiled does not matter -/

@[simp] lemma Variant.checkAtom_forget (v : Variant W) (x : Value) :
    v.forget.checkAtom x = v.checkAtom x := rfl

/-- An attempt fails alike on a variant that has forgotten what was compiled, and changes it
alike. -/
lemma Variant.attempt_forget (v : Variant W) (untouched : W) (t : Attempt) :
    v.forget.attempt untouched t = (v.attempt untouched t).map forget := by
  cases t with
  | delete x =>
    rw [attempt, attempt, delete, delete, checkAtom_forget]
    cases v.checkAtom x <;> rfl
  | append x y =>
    rw [attempt, attempt, append, append, checkAtom_forget, checkAtom_forget]
    cases v.checkAtom x with
    | error f => rfl
    | ok d => cases v.checkAtom y <;> rfl
  | swap x y =>
    rw [attempt, attempt, swap, swap, checkAtom_forget, checkAtom_forget]
    cases v.checkAtom x with
    | error f => rfl
    | ok a =>
      cases v.checkAtom y with
      | error f => rfl
      | ok b =>
        simp only [bind, Except.bind, pure, Except.pure]
        split_ifs <;> rfl

lemma Altered.run_reading {α : Type} (f : Altered → Except Failure α) (a : Altered) :
    (reading f).run a = (f a, a) := by
  change (ofExcept (f a) : Alteration α).run a = _
  cases f a <;> rfl

/-- A call gives the same on a variant and on one that has forgotten what was compiled, and
afterwards they still differ in nothing else. -/
lemma Request.make_forget (x : Request) (v : Variant Float) :
    ∃ r v', (x.make untouched).run (.ofVariant v) = (r, .ofVariant v') ∧
      (x.make untouched).run (.ofVariant v.forget) = (r, .ofVariant v'.forget) := by
  cases x with
  | attempt t =>
    have hrun := run_make untouched t v
    have hforget := run_make untouched t v.forget
    rw [Variant.attempt_forget] at hforget
    cases hattempt : v.attempt untouched t with
    | ok v' =>
      rw [hattempt] at hrun hforget
      exact ⟨.ok .nothing, v', run_bind_of_ok hrun _, run_bind_of_ok hforget _⟩
    | error f =>
      rw [hattempt] at hrun hforget
      exact ⟨.error f, v, run_bind_of_error hrun _, run_bind_of_error hforget _⟩
  | text => exact ⟨_, v, Altered.run_reading _ _, Altered.run_reading _ _⟩
  | probedText => exact ⟨_, v, Altered.run_reading _ _, Altered.run_reading _ _⟩
  | atomsAtLine line => exact ⟨_, v, Altered.run_reading _ _, Altered.run_reading _ _⟩
  | weighted => exact ⟨_, v, Altered.run_reading _ _, Altered.run_reading _ _⟩
  | allWeighted => exact ⟨_, v, Altered.run_reading _ _, Altered.run_reading _ _⟩
  | name => exact ⟨_, v, Altered.run_reading _ _, Altered.run_reading _ _⟩

lemma Altered.answers_forget (v : Variant Float) (xs : List Request) :
    answers untouched (.ofVariant v.forget) xs = answers untouched (.ofVariant v) xs := by
  induction xs generalizing v with
  | nil => rfl
  | cons x xs ih =>
    obtain ⟨r, v', hrun, hforget⟩ := x.make_forget v
    rw [answers, answers, hrun, hforget]
    dsimp only
    rw [ih v']

end VariantRepair
