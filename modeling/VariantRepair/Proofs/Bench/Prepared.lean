import Mathlib.Tactic.Common
import VariantRepair.Bench.Localize
import VariantRepair.Bench.Evaluate
import VariantRepair.Proofs.Bench.Evaluated
import VariantRepair.Proofs.Bench.WorkFiles

/-!
# Checking and localizing a program

The sanity check compiles the variant and tests it, and the localization gives it weights. Both
leave its program alone, and so they leave its text as it is.
-/

namespace VariantRepair

open Host

variable {α : Type} {a a' a'' : Altered} {c : Config}

/-- A variant with the same program and the same history: at most the weights and the record of the
last compilation are others. -/
structure Altered.SameProgram (a a' : Altered) : Prop where
  program_eq : a'.variant.program = a.variant.program
  history_eq : a'.variant.history = a.variant.history
  ownSuffix_eq : a'.variant.ownSuffix = a.variant.ownSuffix
  part?_eq : ∀ name, name ≠ "_localization" → a'.part? name = a.part? name

namespace Altered.SameProgram

lemma refl (a : Altered) : a.SameProgram a := ⟨rfl, rfl, rfl, fun _ _ => rfl⟩

lemma remember (h : a.SameProgram a') (k : Compiled) : a.SameProgram (a'.remember k) :=
  ⟨h.program_eq, h.history_eq, h.ownSuffix_eq, h.part?_eq⟩

lemma text_eq (h : a.SameProgram a') : a'.text = a.text := by
  simp only [Altered.text, Altered.module, callable, provides, h.program_eq,
    h.part?_eq "output_source" (by decide), h.part?_eq "_lines" (by decide),
    h.part?_eq "_render" (by decide), h.part?_eq "_template" (by decide),
    h.part?_eq "_slots" (by decide), h.part?_eq "_header" (by decide)]

end Altered.SameProgram

lemma Altered.sameProgram_setLocalization (l : Localization Float) :
    Preserves a.SameProgram (setLocalization l) := by
  refine .bind (.modify fun a' h => ⟨h.program_eq, h.history_eq, h.ownSuffix_eq, h.part?_eq⟩)
    fun _ => .modify fun a' h =>
      ⟨h.program_eq, h.history_eq, h.ownSuffix_eq, fun name hname => ?_⟩
  have hkept : (a'.restore ["_localization"]).part? name = a'.part? name :=
    lookup_filter_of a'.parts fun v => by simp [hname]
  rw [hkept, h.part?_eq name hname]

namespace Work

variable {A : Altered → Prop}

/-! ### What is known of the variant -/

lemma altered_onMachine (x : Action α) : Preserves (fun b => A b.altered) (onMachine x) := by
  intro b hb
  rw [run_onMachine]
  exact hb

/-- What is known of the variant at hand is preserved by work that preserves it wherever no file
matters. -/
lemma altered_of_within {w : Work α}
    (h : ∀ m₀ : Machine, Preserves
      (Bench.Within (m₀.Keeps (fun _ => False) fun _ => True) (fun _ => True) A) w) :
    Preserves (fun b => A b.altered) w :=
  fun b hb => (h b.machine b ⟨.refl nofun, fun _ _ => trivial, hb⟩).altered

lemma altered_runTest (executable source : String) (test : Test) (extra : List (String × String)) :
    Preserves (fun b => A b.altered) (runTest c executable source test extra) :=
  altered_of_within fun _ => within_runTest (fun _ _ => not_false) executable source test

lemma altered_compile (hA : ∀ a k, A a → A (a.remember k)) (sourcePath exePath : Path)
    (keepSource : Bool) :
    Preserves (fun b => A b.altered) (compile c sourcePath exePath keepSource) :=
  altered_of_within fun _ => within_compile nofun hA

lemma altered_evaluateTests (tests : List Test) :
    Preserves (fun b => A b.altered) (evaluateTests c tests) :=
  altered_of_within fun _ => within_evaluateTests (fun _ _ => not_false)
    Cache.takesNew_true tests

/-! ### Checking and localizing -/

lemma altered_sanityCheck (hA : ∀ a k, A a → A (a.remember k)) :
    Preserves (fun b => A b.altered) (sanityCheck c) := by
  exact .bind (preserves_reading _) fun _ => .bind (preserves_reading _) fun _ =>
    .bind (preserves_reading _) fun name => .bind (altered_compile hA _ _ _) fun compiled =>
    .ite_bind (.throw _) fun _ => .bind (altered_evaluateTests _) fun outcomes =>
    .ite_bind (.throw _) fun _ => altered_onMachine _

lemma altered_visits (executable source coverage : String) (tests : List Test) :
    Preserves (fun b => A b.altered) (visits c executable source coverage tests) := by
  induction tests with
  | nil => exact .pure _
  | cons test tests ih =>
    exact .bind (altered_onMachine _) fun _ => .bind (preserves_reading _) fun _ =>
      .bind (altered_runTest _ _ _ _) fun _ => .bind (altered_onMachine _) fun _ =>
      .bind ih fun _ => .pure _

lemma altered_localization : Preserves (fun b => A b.altered) (localization c) := by
  rw [localization]
  split_ifs
  · exact .bind (preserves_reading _) fun _ => .pure _
  · exact altered_of_within fun _ => within_lineLocalization
  · refine .bind (altered_onMachine _) fun _ => .bind (altered_onMachine _) fun _ =>
      .bind (preserves_reading _) fun _ => .bind (preserves_reading _) fun _ =>
      .bind (altered_onMachine _) fun _ => .bind (preserves_reading _) fun _ =>
      .bind (altered_onMachine _) fun _ => ?_
    split
    · exact .bind (altered_visits _ _ _ _) fun _ => .pure _
    · exact .throw _
  · exact .throw _

lemma altered_localize (hA : ∀ l, Preserves A (Altered.setLocalization l)) :
    Preserves (fun b => A b.altered) (localize c) := by
  have halter (l : Localization Float) :
      Preserves (fun b => A b.altered) (alter (Altered.setLocalization l)) := by
    intro b hb
    rw [run_alter]
    exact hA l _ hb
  exact .bind (preserves_reading _) fun _ => .bind (preserves_reading _) fun _ =>
    .bind altered_localization fun l => .bind (halter l) fun _ => .bind (preserves_reading _)
    fun _ => .bind (preserves_reading _) fun _ => altered_onMachine _

end Work

end VariantRepair
