import Mathlib.Tactic.Common
import VariantRepair.Proofs.Bench.Localized
import VariantRepair.Proofs.Variant.Refused

/-!
# What a call that fails leaves of the variant

Reading a program, from a text or from a file, taking a snapshot, and computing weights: each
checks everything that can be wrong before it changes the first part of the variant at hand. So a
call that fails leaves the variant as it was, with two exceptions: a stored state may be a list of
items of which one gives no part, and what is said of new weights may fail for parts that a stored
state has altered.
-/

namespace VariantRepair

open Host

variable {σ τ α β : Type}

/-! ### All or nothing -/

/-- If the steps fail from a state, they leave a part of it as it was. -/
def FailsKeeping (part : σ → τ) (s : σ) (x : ExceptT Failure (StateM σ) α) : Prop :=
  ∀ f s', x.run s = (.error f, s') → part s' = part s

/-- Steps that never fail. -/
def NeverFails (x : ExceptT Failure (StateM σ) α) : Prop :=
  ∀ s, ∃ a s', x.run s = (.ok a, s')

namespace FailsKeeping

variable {part : σ → τ} {s : σ} {x : ExceptT Failure (StateM σ) α}
  {f : α → ExceptT Failure (StateM σ) β}

/-- Steps that change nothing of the part, however they end. -/
lemma of_preserves (h : ∀ t, Preserves (fun s => part s = t) x) : FailsKeeping part s x :=
  fun _ _ hrun => (h (part s)).of_run rfl hrun

/-- What changes nothing of the part may come first. -/
lemma bind (hx : ∀ t, Preserves (fun s => part s = t) x)
    (hf : ∀ a s', x.run s = (.ok a, s') → part s' = part s → FailsKeeping part s' (f a)) :
    FailsKeeping part s (x >>= f) := by
  intro e s'' hrun
  cases hfirst : x.run s with
  | mk r s' =>
    have hkept : part s' = part s := (hx (part s)).of_run rfl hfirst
    cases r with
    | ok a =>
      rw [run_bind_of_ok hfirst] at hrun
      exact (hf a s' hfirst hkept e s'' hrun).trans hkept
    | error e' =>
      rw [run_bind_of_error hfirst] at hrun
      obtain ⟨-, rfl⟩ := Prod.mk.inj hrun
      exact hkept

/-- The state at hand may be looked at. -/
lemma bind_get {f : σ → ExceptT Failure (StateM σ) β} (hf : FailsKeeping part s (f s)) :
    FailsKeeping part s (get >>= f) := hf

/-- What never fails may come last, and change anything. -/
lemma bind_neverFails (hx : FailsKeeping part s x) (hf : ∀ a, NeverFails (f a)) :
    FailsKeeping part s (x >>= f) := by
  intro e s'' hrun
  cases hfirst : x.run s with
  | mk r s' =>
    cases r with
    | ok a =>
      obtain ⟨b, s₁, hlast⟩ := hf a s'
      rw [run_bind_of_ok hfirst, hlast] at hrun
      cases hrun
    | error e' =>
      rw [run_bind_of_error hfirst] at hrun
      obtain ⟨-, rfl⟩ := Prod.mk.inj hrun
      exact hx e' s' hfirst

lemma of_neverFails (h : NeverFails x) : FailsKeeping part s x := by
  intro e s' hrun
  obtain ⟨a, s₁, hok⟩ := h s
  cases hok.symm.trans hrun

end FailsKeeping

/-! ### The variant -/

namespace Altered

variable {a : Altered} {ps : List (Value × Value)} {path : String}

lemma neverFails_change (f : Variant Float → Variant Float) : NeverFails (change f) :=
  fun _ => ⟨_, _, rfl⟩

lemma neverFails_modify (f : Altered → Altered) : NeverFails (modify f : Alteration Unit) :=
  fun _ => ⟨_, _, rfl⟩

lemma neverFails_setSuffix (suffix : String) : NeverFails (setSuffix suffix) :=
  fun _ => ⟨_, _, rfl⟩

lemma neverFails_setLocalization (l : Localization Float) : NeverFails (setLocalization l) :=
  fun _ => ⟨_, _, rfl⟩

/-- A text that is no program of the backend leaves everything as it was. -/
lemma failsKeeping_readText (text : String) : FailsKeeping id a (readText text) := by
  have hplain (f : Variant Float → Except Failure (Variant Float)) (a : Altered) :
      FailsKeeping id a (changePlain f) :=
    .bind_get (.bind_neverFails (.of_preserves fun _ => .ofExcept _) fun _ => neverFails_change _)
  exact .bind (fun _ => preserves_reading _) fun _ a' _ _ =>
    .bind_neverFails (hplain _ a') fun _ => neverFails_modify _

/-- What a snapshot holds is refused before anything of it is taken, unless it gives the parts one
by one as items of a list. -/
lemma failsKeeping_load {held : Record.Held}
    (h : ∀ ps state, held = .pairs ps → (held.backend .null != a.key) = false →
      Value.field "state" ps = some state → ∃ pairs, state = .map pairs) :
    FailsKeeping id a (load path held) := by
  refine .bind_get ?_
  dsimp only
  split_ifs with hbackend
  · exact .bind (fun _ => .ofExcept _) fun _ _ _ _ => .bind (fun _ => .ofExcept _) fun _ _ _ _ =>
      .bind (fun _ => .throw _) fun _ _ hthrow => by cases hthrow
  · cases held with
    | variant stored =>
      exact .bind_neverFails (.of_neverFails (neverFails_modify _)) fun _ => neverFails_change _
    | pairs ps =>
      dsimp only
      cases hstate : Value.field "state" ps with
      | none => exact .bind (fun _ => .throw _) fun _ _ hthrow => by cases hthrow
      | some state =>
        obtain ⟨pairs, rfl⟩ := h ps state rfl (by simpa using hbackend) hstate
        exact .bind_neverFails (.of_neverFails (neverFails_modify _)) fun _ => neverFails_change _

variable {a' : Altered} {l : Localization Float} {u : Unit}

/-- New weights can be told as soon as they are in their place. -/
lemma weighted_of_run_setLocalization (h : a.callable "get_localization" = .ok ())
    (hrun : (setLocalization l).run a = (.ok u, a')) : a'.weighted = .ok a'.variant.weighted := by
  have hsame := (sameProgram_setLocalization l).of_run (.refl a) hrun
  have hcallable : a'.callable "get_localization" = .ok () := by
    rw [← h, callable, callable, hsame.part?_eq "get_localization" (by decide)]
  have hpart : a'.part? "_localization" = none := by
    obtain ⟨-, rfl⟩ := Prod.mk.inj hrun
    refine List.lookup_eq_none_iff.mpr fun p hp => bne_iff_ne.mpr ?_
    rintro hname
    have hother := (List.mem_filter.mp hp).2
    simp [← hname] at hother
  rw [weighted, hcallable, provides, hpart]
  rfl

/-- New weights do not change the number of atoms. -/
lemma size_of_run_setLocalization {n : Nat} (h : a.size = .ok n)
    (hrun : (setLocalization l).run a = (.ok u, a')) : a'.size = .ok n := by
  have hsame := (sameProgram_setLocalization l).of_run (.refl a) hrun
  have hsize : a'.variant.size = a.variant.size := congrArg Program.size hsame.program_eq
  have hbackend : a'.variant.backend = a.variant.backend :=
    congrArg Program.backend hsame.program_eq
  rw [← h, size, size, callable, callable, hsame.part?_eq "max_atom" (by decide), hbackend, hsize,
    hsame.part?_eq _ (by cases a.variant.backend <;> decide)]

end Altered

/-- What a file holds can be the parts of a variant in pairs only if it is a mapping. -/
lemma Record.eq_of_held {r : Record} {path : String} {ps : List (Value × Value)}
    (h : r.held path = .ok (.pairs ps)) : r = .value (.map ps) := by
  cases r with
  | damaged | snapshot a => cases h
  | value v =>
    cases v with
    | map pairs =>
      rw [Record.held] at h
      dsimp only at h
      split_ifs at h
      cases h
      rfl
    | _ => cases h

/-- At a path there is a snapshot of the right version and of a backend, and its state is no mapping
of parts to values: the parts are taken one by one from its items. -/
def Host.Machine.GivesItems (m : Machine) (path : String) (backend : Value) : Prop :=
  ∃ ps state, (readRecord path).run m = (.ok (.value (.map ps)), m) ∧
    (Record.value (.map ps)).held path = .ok (.pairs ps) ∧
    ((Record.Held.pairs ps).backend .null != backend) = false ∧
    Value.field "state" ps = some state ∧ ∀ pairs, state ≠ .map pairs

namespace Work

variable {b b' : Bench} {c : Config} {f : Failure} {path : String}

lemma failsKeeping_alter {w : Altered.Alteration α} (h : FailsKeeping id b.altered w) :
    FailsKeeping Bench.altered b (alter w) := by
  intro f b' hrun
  rw [run_alter] at hrun
  obtain ⟨hanswer, rfl⟩ := Prod.mk.inj hrun
  exact h f _ (Prod.ext hanswer rfl)

lemma neverFails_alter {w : Altered.Alteration α} (h : NeverFails w) : NeverFails (alter w) := by
  intro b
  obtain ⟨x, a, hrun⟩ := h b.altered
  rw [run_alter, hrun]
  exact ⟨_, _, rfl⟩

/-- A file that cannot be read, or whose text is no program, leaves the variant as it was. -/
lemma failsKeeping_loadSource : FailsKeeping Bench.altered b (loadSource path) := by
  refine .bind (fun _ => preserves_reading _) fun _ b₁ _ _ =>
    .bind (fun t => altered_onMachine (A := (· = t)) _) fun text b₂ _ _ => ?_
  refine .bind_neverFails (failsKeeping_alter (Altered.failsKeeping_readText text)) fun _ => ?_
  split_ifs
  · exact neverFails_alter (Altered.neverFails_setSuffix _)
  · exact fun _ => ⟨_, _, rfl⟩

/-- A file that is no snapshot, or one of another version or backend, or one without a state, leaves
the variant as it was. -/
lemma failsKeeping_loadSnapshot (h : ¬ b.machine.GivesItems path b.altered.key) :
    FailsKeeping Bench.altered b (loadSnapshot path) := by
  refine .bind (fun _ => preserves_reading _) fun _ b₁ hcallable _ =>
    .bind (fun t => altered_onMachine (A := (· = t)) _) fun r b₂ hread _ =>
    .bind (fun _ => .ofExcept _) fun held b₃ hcheck _ => failsKeeping_alter ?_
  obtain rfl : b = b₁ := (Prod.mk.inj ((run_reading _ b).symm.trans hcallable)).2
  obtain ⟨m, hrecord, rfl⟩ := exists_run_of_run_onMachine hread
  obtain ⟨hheld, rfl⟩ := Prod.mk.inj ((run_ofExcept _ _).symm.trans hcheck)
  obtain rfl := run_eq_of_preserves (fun _ => preserves_readRecord path) hrecord
  refine Altered.failsKeeping_load fun ps state hpairs hbackend hstate => ?_
  subst hpairs
  by_contra hmap
  obtain rfl := Record.eq_of_held hheld
  exact h ⟨ps, state, hrecord, hheld, hbackend, hstate, fun pairs hstate => hmap ⟨pairs, hstate⟩⟩

/-- Weights that cannot be computed leave the variant as it was. Where they can, nothing fails that
comes after them, if the variant can tell its weights and the number of its atoms. -/
lemma failsKeeping_localize {n : Nat}
    (hcallable : b.altered.callable "get_localization" = .ok ()) (hsize : b.altered.size = .ok n) :
    FailsKeeping Bench.altered b (localize c) := by
  refine .bind (fun _ => preserves_reading _) fun _ b₁ _ hkept₁ =>
    .bind (fun _ => preserves_reading _) fun _ b₂ _ hkept₂ =>
    .bind (fun t => altered_localization (A := (· = t))) fun l b₃ _ hkept₃ => ?_
  have hkept : b₃.altered = b.altered := hkept₃.trans (hkept₂.trans hkept₁)
  rw [← hkept] at hcallable hsize
  intro f b' hrun
  have hset := run_alter (Altered.setLocalization l) b₃
  obtain ⟨u, a, ha⟩ := Altered.neverFails_setLocalization l b₃.altered
  rw [ha] at hset
  have hweighted := Altered.weighted_of_run_setLocalization hcallable ha
  have hnumber := Altered.size_of_run_setLocalization hsize ha
  rw [run_bind_of_ok hset,
    run_bind_of_ok ((run_reading _ _).trans (congrArg (·, _) hweighted)),
    run_bind_of_ok ((run_reading _ _).trans (congrArg (·, _) hnumber))] at hrun
  cases hrun

end Work

/-- A stored state that has null in place of the lines. -/
def withoutLines : List (Value × Value) :=
  [(.str "format", .str snapshotFormat), (.str "version", .int snapshotVersion),
    (.str "backend", .str "lines"), (.str "state", .map [(.str "_lines", .null)])]

end VariantRepair
