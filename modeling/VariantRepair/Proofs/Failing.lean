import Mathlib.Tactic.Common
import VariantRepair.Failure

/-!
# Steps that may fail

Steps that change a state and may fail on the way: what was changed before a failure stays changed.
A sequence of two steps goes on from what the first one leaves, unless the first one fails. So what
every single step preserves is preserved by any sequence of them, wherever it fails.
-/

namespace VariantRepair

variable {σ α β : Type} {s s' : σ}

/-! ### Results -/

section Results

variable {ε : Type} {r : Except ε α} {b : β}

lemma exists_of_map_eq_ok {f : α → β} (h : r.map f = .ok b) : ∃ a, r = .ok a ∧ f a = b := by
  cases r with
  | error e => cases h
  | ok a => exact ⟨a, rfl, Except.ok.inj h⟩

lemma exists_of_bind_eq_ok {f : α → Except ε β} (h : r >>= f = .ok b) :
    ∃ a, r = .ok a ∧ f a = .ok b := by
  cases r with
  | error e => cases h
  | ok a => exact ⟨a, rfl, h⟩

end Results

/-! ### Runs -/

lemma run_bind_of_ok {x : ExceptT Failure (StateM σ) α} {a : α} (h : x.run s = (.ok a, s'))
    (f : α → ExceptT Failure (StateM σ) β) : (x >>= f).run s = (f a).run s' := by
  rw [ExceptT.run_bind]
  change StateT.bind x.run _ s = _
  simp only [StateT.bind, h]
  rfl

lemma run_bind_of_error {x : ExceptT Failure (StateM σ) α} {e : Failure}
    (h : x.run s = (.error e, s')) (f : α → ExceptT Failure (StateM σ) β) :
    (x >>= f).run s = (.error e, s') := by
  rw [ExceptT.run_bind]
  change StateT.bind x.run _ s = _
  simp only [StateT.bind, h]
  rfl

/-- A sequence goes by what its first part does with the state at hand. -/
lemma run_bind_congr {x y : ExceptT Failure (StateM σ) α}
    (h : x.run s = y.run s) (f : α → ExceptT Failure (StateM σ) β) :
    (x >>= f).run s = (y >>= f).run s := by
  cases hx : x.run s with
  | mk r s' =>
    cases r with
    | ok a => rw [run_bind_of_ok hx, run_bind_of_ok (h ▸ hx)]
    | error e => rw [run_bind_of_error hx, run_bind_of_error (h ▸ hx)]

lemma run_tryCatch_of_ok {x : ExceptT Failure (StateM σ) α} {a : α} (h : x.run s = (.ok a, s'))
    (f : Failure → ExceptT Failure (StateM σ) α) : (tryCatch x f).run s = (.ok a, s') := by
  rw [show tryCatch x f = ExceptT.tryCatch x f from rfl, ExceptT.tryCatch, ExceptT.run_mk]
  change StateT.bind x.run _ s = _
  simp only [StateT.bind, h]
  rfl

lemma run_tryCatch_of_error {x : ExceptT Failure (StateM σ) α} {e : Failure}
    (h : x.run s = (.error e, s')) (f : Failure → ExceptT Failure (StateM σ) α) :
    (tryCatch x f).run s = (f e).run s' := by
  rw [show tryCatch x f = ExceptT.tryCatch x f from rfl, ExceptT.tryCatch, ExceptT.run_mk]
  change StateT.bind x.run _ s = _
  simp only [StateT.bind, h]
  rfl

/-- A sequence that succeeds went through a state that its first part left. -/
lemma exists_run_of_run_bind {x : ExceptT Failure (StateM σ) α}
    {f : α → ExceptT Failure (StateM σ) β} {b : β} {s'' : σ}
    (h : (x >>= f).run s = (.ok b, s'')) :
    ∃ a s', x.run s = (.ok a, s') ∧ (f a).run s' = (.ok b, s'') := by
  cases hx : x.run s with
  | mk r s' =>
    cases r with
    | ok a => exact ⟨a, s', rfl, (run_bind_of_ok hx f).symm.trans h⟩
    | error e =>
      rw [run_bind_of_error hx] at h
      cases h

/-- Steps that succeed from a state have one answer and leave one state. -/
lemma eq_of_run_eq_ok {x : ExceptT Failure (StateM σ) α} {a a' : α} {s₁ s₂ : σ}
    (h : x.run s = (.ok a, s₁)) (h' : x.run s = (.ok a', s₂)) : a = a' ∧ s₁ = s₂ := by
  obtain ⟨hanswer, hstate⟩ := Prod.mk.inj (h.symm.trans h')
  exact ⟨Except.ok.inj hanswer, hstate⟩

/-! ### Invariants -/

/-- What holds before the steps holds after them, however they end. -/
def Preserves (I : σ → Prop) (x : ExceptT Failure (StateM σ) α) : Prop :=
  ∀ s, I s → I (x.run s).2

namespace Preserves

variable {I : σ → Prop} {x : ExceptT Failure (StateM σ) α} {f : α → ExceptT Failure (StateM σ) β}

lemma of_run {r : Except Failure α} (h : Preserves I x) (hs : I s) (hrun : x.run s = (r, s')) :
    I s' := by
  simpa [hrun] using h s hs

lemma pure (a : α) : Preserves I (pure a : ExceptT Failure (StateM σ) α) := fun _ h => h

lemma throw (e : Failure) : Preserves I (throw e : ExceptT Failure (StateM σ) α) := fun _ h => h

lemma ofExcept (r : Except Failure α) :
    Preserves I (MonadExcept.ofExcept r : ExceptT Failure (StateM σ) α) := by
  cases r with
  | ok a => exact pure a
  | error e => exact throw e

/-- Steps in a sequence from one state, which end as they should where the first fails and where the
second ends. -/
lemma run_bind_cases (herror : ∀ e s', x.run s = (.error e, s') → I s')
    (hok : ∀ a s', x.run s = (.ok a, s') → I ((f a).run s').2) : I ((x >>= f).run s).2 := by
  cases hrun : x.run s with
  | mk r s' =>
    cases r with
    | ok a =>
      rw [run_bind_of_ok hrun]
      exact hok a s' hrun
    | error e =>
      rw [run_bind_of_error hrun]
      exact herror e s' hrun

/-- Steps in a sequence from one state, the first of which leaves what the second preserves. -/
lemma run_bind (hx : I (x.run s).2) (hf : ∀ a, Preserves I (f a)) : I ((x >>= f).run s).2 := by
  refine run_bind_cases (fun e s' hrun => ?_) fun a s' hrun => hf a s' ?_
  · rwa [hrun] at hx
  · rwa [hrun] at hx

/-- Steps in a sequence, the second of which starts from what is known of the answer to the first
and of the state that it leaves. -/
lemma bind_spec {Q : α → σ → Prop} (hx : Preserves I x)
    (hQ : ∀ s a s', I s → x.run s = (.ok a, s') → Q a s')
    (hf : ∀ a s, Q a s → I ((f a).run s).2) : Preserves I (x >>= f) := by
  intro s hs
  exact run_bind_cases (fun e s' hrun => hx.of_run hs hrun) fun a s' hrun =>
    hf a s' (hQ s a s' hs hrun)

/-- Steps in a sequence from one state, the first of which preserves what holds there. -/
lemma run_bind_of {J : σ → Prop} (hs : J s) (hx : Preserves J x) (hI : ∀ s, J s → I s)
    (hf : ∀ a s', J s' → x.run s = (.ok a, s') → I ((f a).run s').2) : I ((x >>= f).run s).2 :=
  run_bind_cases (fun _ s' hrun => hI s' (hx.of_run hs hrun)) fun a s' hrun =>
    hf a s' (hx.of_run hs hrun) hrun

/-- Steps in a sequence, the second of which may rely on what is known of the answer to the
first. -/
lemma bind_of {Q : α → Prop} (hx : Preserves I x)
    (hQ : ∀ s a s', I s → x.run s = (.ok a, s') → Q a) (hf : ∀ a, Q a → Preserves I (f a)) :
    Preserves I (x >>= f) := by
  refine hx.bind_spec (Q := fun a s => I s ∧ Q a) ?_ fun a s h => hf a h.2 s h.1
  intro s a s' hs hrun
  refine ⟨?_, hQ s a s' hs hrun⟩
  simpa [hrun] using hx s hs

lemma bind (hx : Preserves I x) (hf : ∀ a, Preserves I (f a)) : Preserves I (x >>= f) :=
  fun s hs => run_bind (hx s hs) hf

/-- Steps that are left out in some cases, and what follows them in all. -/
lemma ite_bind {c : Prop} [Decidable c] {x : ExceptT Failure (StateM σ) PUnit}
    {f : PUnit → ExceptT Failure (StateM σ) β} (hx : Preserves I x) (hf : ∀ u, Preserves I (f u)) :
    Preserves I (if c then x >>= f else f ⟨⟩) := by
  split_ifs
  · exact bind hx hf
  · exact hf ⟨⟩

/-- What was done before a failure is caught leaves what the steps after it preserve. -/
lemma run_tryCatch {g : Failure → ExceptT Failure (StateM σ) α} (hx : I (x.run s).2)
    (hg : ∀ e, Preserves I (g e)) : I ((MonadExcept.tryCatch x g).run s).2 := by
  cases hrun : x.run s with
  | mk r s' =>
    rw [hrun] at hx
    cases r with
    | ok a =>
      rw [run_tryCatch_of_ok hrun]
      exact hx
    | error e =>
      rw [run_tryCatch_of_error hrun]
      exact hg e s' hx

lemma tryCatch {g : Failure → ExceptT Failure (StateM σ) α} (hx : Preserves I x)
    (hg : ∀ e, Preserves I (g e)) : Preserves I (tryCatch x g) :=
  fun s hs => run_tryCatch (hx s hs) hg

lemma forM {xs : List β} {f : β → ExceptT Failure (StateM σ) PUnit} (hf : ∀ b, Preserves I (f b)) :
    Preserves I (xs.forM f) := by
  induction xs with
  | nil => exact pure _
  | cons b xs ih => exact bind (hf b) fun _ => ih

lemma modify {g : σ → σ} (h : ∀ s, I s → I (g s)) :
    Preserves I (modify g : ExceptT Failure (StateM σ) PUnit) := h

/-- What is done with the state at hand may rely on the invariant of it. -/
lemma bind_get {f : σ → ExceptT Failure (StateM σ) β} (hf : ∀ s, I s → Preserves I (f s)) :
    Preserves I (get >>= f) := by
  have hget : Preserves I (get : ExceptT Failure (StateM σ) σ) := fun _ h => h
  refine hget.bind_of (Q := I) ?_ hf
  rintro s a s' hs hrun
  cases hrun
  exact hs

end Preserves

end VariantRepair

/-!
## Failures that are reported

The main program reports the failures of some kinds; the others escape it. Here steps are looked at
by how they fail: with a failure that is reported, or with one of some exceptions. A sequence of
steps fails with the failures of its parts, and what catches a failure may give another one in its
place.
-/

namespace VariantRepair

variable {σ α β : Type} {E E' : Failure → Prop}

/-- An answer, or a failure that is reported or among the exceptions. -/
def Reported (E : Failure → Prop) (r : Except Failure α) : Prop :=
  ∀ f, r = .error f → f.isReported = true ∨ E f

namespace Reported

lemma ok (a : α) : Reported E (.ok a) := nofun

lemma error {f : Failure} (h : f.isReported = true ∨ E f) :
    Reported E (.error f : Except Failure α) := by
  rintro _ ⟨⟩
  exact h

lemma of_eq_ok {r : Except Failure α} {a : α} (h : r = .ok a) : Reported E r := h ▸ ok a

lemma mono {r : Except Failure α} (h : Reported E r) (hE : ∀ f, E f → E' f) : Reported E' r :=
  fun f hf => (h f hf).imp_right (hE f)

lemma bind {r : Except Failure α} {g : α → Except Failure β} (hr : Reported E r)
    (hg : ∀ a, r = .ok a → Reported E (g a)) : Reported E (r >>= g) := by
  cases r with
  | ok a => exact hg a rfl
  | error f => exact error (hr f rfl)

lemma map {r : Except Failure α} (hr : Reported E r) (g : α → β) : Reported E (r.map g) := by
  cases r with
  | ok a => exact ok (g a)
  | error f => exact error (hr f rfl)

lemma foldlM {f : β → α → Except Failure β} (hf : ∀ b a, Reported E (f b a)) (xs : List α) (b : β) :
    Reported E (xs.foldlM f b) := by
  induction xs generalizing b with
  | nil => exact ok b
  | cons a xs ih =>
    rw [List.foldlM_cons]
    exact bind (hf b a) fun b' _ => ih b'

lemma mapError {ε : Type} {g : ε → Failure} (hg : ∀ e, (g e).isReported = true ∨ E (g e))
    (r : Except ε α) : Reported E (r.mapError g) := by
  cases r with
  | ok a => exact ok a
  | error e => exact error (hg e)

end Reported

/-- Steps that keep an invariant, and report their failures as long as it holds. -/
structure Reports (I : σ → Prop) (E : Failure → Prop) (x : ExceptT Failure (StateM σ) α) :
    Prop where
  preserves : Preserves I x
  reported : ∀ s, I s → Reported E (x.run s).1

/-- A sequence of steps from a state: the first one, and the second one from what the first one
leaves if it succeeds. -/
lemma Reported.run_bind {x : ExceptT Failure (StateM σ) α} {f : α → ExceptT Failure (StateM σ) β}
    {s : σ} (hx : Reported E (x.run s).1)
    (hf : ∀ a s', x.run s = (.ok a, s') → Reported E ((f a).run s').1) :
    Reported E ((x >>= f).run s).1 := by
  cases hrun : x.run s with
  | mk r s' =>
    rw [hrun] at hx
    cases r with
    | ok a =>
      rw [run_bind_of_ok hrun]
      exact hf a s' hrun
    | error e =>
      rw [run_bind_of_error hrun]
      exact error (hx e rfl)

namespace Reports

variable {I : σ → Prop} {x : ExceptT Failure (StateM σ) α} {f : α → ExceptT Failure (StateM σ) β}

lemma pure (a : α) : Reports I E (pure a : ExceptT Failure (StateM σ) α) :=
  ⟨.pure a, fun _ _ => .ok a⟩

lemma throw {e : Failure} (h : e.isReported = true ∨ E e) :
    Reports I E (throw e : ExceptT Failure (StateM σ) α) :=
  ⟨.throw e, fun _ _ => .error h⟩

lemma ofExcept {r : Except Failure α} (h : Reported E r) :
    Reports I E (MonadExcept.ofExcept r : ExceptT Failure (StateM σ) α) := by
  cases r with
  | ok a => exact pure a
  | error e => exact throw (h e rfl)

lemma modify {g : σ → σ} (h : ∀ s, I s → I (g s)) :
    Reports I E (modify g : ExceptT Failure (StateM σ) PUnit) :=
  ⟨.modify h, fun _ _ => .ok _⟩

lemma mono (h : Reports I E x) (hE : ∀ f, E f → E' f) : Reports I E' x :=
  ⟨h.preserves, fun s hs => (h.reported s hs).mono hE⟩

/-- Steps in a sequence, the second of which starts from what is known of the answer to the first
and of the state that it leaves. -/
lemma bind_spec {Q : α → σ → Prop} (hx : Reports I E x)
    (hQ : ∀ s a s', I s → x.run s = (.ok a, s') → Q a s')
    (hpreserves : ∀ a s, Q a s → I ((f a).run s).2)
    (hreported : ∀ a s, Q a s → Reported E ((f a).run s).1) : Reports I E (x >>= f) :=
  ⟨hx.preserves.bind_spec hQ hpreserves, fun s hs =>
    .run_bind (hx.reported s hs) fun a s' hrun => hreported a s' (hQ s a s' hs hrun)⟩

/-- Steps in a sequence, the second of which may rely on what is known of the answer to the
first. -/
lemma bind_of {Q : α → Prop} (hx : Reports I E x)
    (hQ : ∀ s a s', I s → x.run s = (.ok a, s') → Q a) (hf : ∀ a, Q a → Reports I E (f a)) :
    Reports I E (x >>= f) := by
  have hleft {s : σ} {a : α} {s' : σ} (hs : I s) (hrun : x.run s = (.ok a, s')) : I s' := by
    simpa [hrun] using hx.preserves s hs
  exact hx.bind_spec (Q := fun a s => I s ∧ Q a)
    (fun s a s' hs hrun => ⟨hleft hs hrun, hQ s a s' hs hrun⟩)
    (fun a s h => (hf a h.2).preserves s h.1) fun a s h => (hf a h.2).reported s h.1

lemma bind (hx : Reports I E x) (hf : ∀ a, Reports I E (f a)) : Reports I E (x >>= f) :=
  hx.bind_of (Q := fun _ => True) (fun _ _ _ _ _ => trivial) fun a _ => hf a

/-- Steps that are left out in some cases, and what follows them in all. -/
lemma ite_bind {c : Prop} [Decidable c] {x : ExceptT Failure (StateM σ) PUnit}
    {f : PUnit → ExceptT Failure (StateM σ) β} (hx : Reports I E x) (hf : ∀ u, Reports I E (f u)) :
    Reports I E (if c then x >>= f else f ⟨⟩) := by
  split_ifs
  · exact bind hx hf
  · exact hf ⟨⟩

/-- Steps in a sequence, the first of which makes a stronger invariant hold. -/
lemma bind_to {J : σ → Prop} (hx : Reports I E x)
    (hleft : ∀ s a s', I s → x.run s = (.ok a, s') → J s') (hJ : ∀ s, J s → I s)
    (hf : ∀ a, Reports J E (f a)) : Reports I E (x >>= f) :=
  hx.bind_spec (Q := fun _ => J) hleft (fun a s h => hJ _ ((hf a).preserves s h))
    fun a s h => (hf a).reported s h

lemma of_preserves (h : Preserves I x) : Reports I (fun _ => True) x :=
  ⟨h, fun _ _ _ _ => .inr trivial⟩

/-- What catches a failure may rely on its being one of those that it can be. -/
lemma tryCatch_of {g : Failure → ExceptT Failure (StateM σ) α} (hx : Reports I E' x)
    (hg : ∀ e, e.isReported = true ∨ E' e → Reports I E (g e)) :
    Reports I E (MonadExcept.tryCatch x g) := by
  have hcaught (s : σ) (hs : I s) : I ((MonadExcept.tryCatch x g).run s).2 ∧
      Reported E ((MonadExcept.tryCatch x g).run s).1 := by
    cases hrun : x.run s with
    | mk r s' =>
      have hs' : I s' := by simpa [hrun] using hx.preserves s hs
      cases r with
      | ok a =>
        rw [run_tryCatch_of_ok hrun]
        exact ⟨hs', .ok a⟩
      | error e =>
        have he := hx.reported s hs e (by rw [hrun])
        rw [run_tryCatch_of_error hrun]
        exact ⟨(hg e he).preserves s' hs', (hg e he).reported s' hs'⟩
  exact ⟨fun s hs => (hcaught s hs).1, fun s hs => (hcaught s hs).2⟩

lemma tryCatch {g : Failure → ExceptT Failure (StateM σ) α} (hx : Reports I E x)
    (hg : ∀ e, e.isReported = true ∨ E e → Reports I E (g e)) :
    Reports I E (MonadExcept.tryCatch x g) := hx.tryCatch_of hg

lemma forM {xs : List β} {f : β → ExceptT Failure (StateM σ) PUnit}
    (hf : ∀ b, Reports I E (f b)) : Reports I E (xs.forM f) := by
  induction xs with
  | nil => exact pure _
  | cons b xs ih => exact bind (hf b) fun _ => ih

/-- What is done with the state at hand may rely on the invariant of it. -/
lemma bind_get {f : σ → ExceptT Failure (StateM σ) β} (hf : ∀ s, I s → Reports I E (f s)) :
    Reports I E (get >>= f) := by
  have hget : Reports I E (get : ExceptT Failure (StateM σ) σ) :=
    ⟨fun _ h => h, fun s _ => .ok s⟩
  refine hget.bind_of (Q := I) ?_ hf
  rintro s a s' hs hrun
  cases hrun
  exact hs

end Reports

end VariantRepair
