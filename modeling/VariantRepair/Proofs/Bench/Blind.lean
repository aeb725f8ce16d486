import Mathlib.Tactic.Common
import VariantRepair.Bench.Compile
import VariantRepair.Proofs.Failing

/-!
# Work that does not look at the cache

Compiling a variant neither asks the cache nor changes it, and it does not depend on the counters or
on the port of the next test. So it comes to the same on two benches that differ in these alone.
-/

namespace VariantRepair

variable {α β : Type}

/-- Benches that have the same machine and the same variant, each with a cache of its own. -/
structure Alike (cache₁ cache₂ : Option Cache) (b₁ b₂ : Bench) : Prop where
  machine_eq : b₁.machine = b₂.machine
  altered_eq : b₁.altered = b₂.altered
  cache_left : b₁.cache = cache₁
  cache_right : b₂.cache = cache₂

namespace Work

/-! ### Single steps -/

lemma run_ofExcept (r : Except Failure α) (b : Bench) :
    (MonadExcept.ofExcept r : Work α).run b = (r, b) := by
  cases r <;> rfl

lemma run_reading (f : Altered → Except Failure α) (b : Bench) :
    (reading f).run b = (f b.altered, b) :=
  run_ofExcept (f b.altered) b

lemma run_onMachine (a : Host.Action α) (b : Bench) :
    (onMachine a).run b = ((a.run b.machine).1, { b with machine := (a.run b.machine).2 }) :=
  run_ofExcept (a.run b.machine).1 { b with machine := (a.run b.machine).2 }

lemma run_alter (a : Altered.Alteration α) (b : Bench) :
    (alter a).run b = ((a.run b.altered).1, { b with altered := (a.run b.altered).2 }) :=
  run_ofExcept (a.run b.altered).1 { b with altered := (a.run b.altered).2 }

lemma run_onMachine_of_ok {a : Host.Action α} {x : α} {b : Bench} {m : Host.Machine}
    (h : a.run b.machine = (.ok x, m)) :
    (onMachine a).run b = (.ok x, { b with machine := m }) := by
  rw [run_onMachine, h]

lemma run_onMachine_of_error {a : Host.Action α} {f : Failure} {b : Bench} {m : Host.Machine}
    (h : a.run b.machine = (.error f, m)) :
    (onMachine a).run b = (.error f, { b with machine := m }) := by
  rw [run_onMachine, h]

lemma exists_run_of_run_onMachine {a : Host.Action α} {x : α} {b b' : Bench}
    (h : (onMachine a).run b = (.ok x, b')) :
    ∃ m, a.run b.machine = (.ok x, m) ∧ b' = { b with machine := m } := by
  rw [run_onMachine] at h
  obtain ⟨hanswer, rfl⟩ := Prod.mk.inj h
  exact ⟨_, Prod.ext hanswer rfl, rfl⟩

/-! ### Blind work -/

/-- Work that comes to the same whatever cache there is, and leaves the cache as it is. -/
def IsBlind (w : Work α) : Prop :=
  ∀ cache₁ cache₂ b₁ b₂, Alike cache₁ cache₂ b₁ b₂ →
    (w.run b₁).1 = (w.run b₂).1 ∧ Alike cache₁ cache₂ (w.run b₁).2 (w.run b₂).2

namespace IsBlind

lemma pure (a : α) : IsBlind (pure a) := fun _ _ _ _ h => ⟨rfl, h⟩

lemma bind {w : Work α} {f : α → Work β} (hw : w.IsBlind) (hf : ∀ a, (f a).IsBlind) :
    IsBlind (w >>= f) := by
  intro cache₁ cache₂ b₁ b₂ h
  obtain ⟨hanswer, hafter⟩ := hw cache₁ cache₂ b₁ b₂ h
  cases hrun₁ : w.run b₁ with
  | mk r₁ b₁' =>
    cases hrun₂ : w.run b₂ with
    | mk r₂ b₂' =>
      rw [hrun₁, hrun₂] at hanswer hafter
      obtain rfl : r₁ = r₂ := hanswer
      cases r₁ with
      | ok a =>
        rw [run_bind_of_ok hrun₁, run_bind_of_ok hrun₂]
        exact hf a cache₁ cache₂ b₁' b₂' hafter
      | error e =>
        rw [run_bind_of_error hrun₁, run_bind_of_error hrun₂]
        exact ⟨rfl, hafter⟩

lemma reading (f : Altered → Except Failure α) : IsBlind (reading f) := by
  intro cache₁ cache₂ b₁ b₂ h
  rw [run_reading, run_reading, h.altered_eq]
  exact ⟨rfl, h⟩

lemma onMachine (a : Host.Action α) : IsBlind (onMachine a) := by
  intro cache₁ cache₂ b₁ b₂ h
  rw [run_onMachine, run_onMachine, h.machine_eq]
  exact ⟨rfl, rfl, h.altered_eq, h.cache_left, h.cache_right⟩

lemma alter (a : Altered.Alteration α) : IsBlind (alter a) := by
  intro cache₁ cache₂ b₁ b₂ h
  rw [run_alter, run_alter, h.altered_eq]
  exact ⟨rfl, h.machine_eq, rfl, h.cache_left, h.cache_right⟩

lemma count (f : Stats → Stats) : IsBlind (count f) :=
  fun _ _ _ _ h => ⟨rfl, h.machine_eq, h.altered_eq, h.cache_left, h.cache_right⟩

end IsBlind

/-- Compiling does not look at the cache. -/
lemma compile_isBlind (c : Config) (sourcePath exePath : Path) (keepSource : Bool) :
    (compile c sourcePath exePath keepSource).IsBlind := by
  rw [compile]
  refine .bind (.reading _) fun _ => .bind (.reading _) fun text =>
    .bind (.onMachine _) fun source => .bind (.onMachine _) fun _ => .bind (.reading _) fun _ =>
    .bind (.onMachine _) fun exe => .bind (.onMachine _) fun result =>
    .bind (.reading _) fun _ => .bind (.count _) fun _ => .bind (.alter _) fun _ => ?_
  have hend : IsBlind (do
      if !keepSource && result.executable.any (· ≠ source) then
        Work.onMachine (Host.deleteFile source.text)
      return result.success) := by
    dsimp only
    split_ifs
    · exact .bind (.onMachine _) fun _ => .pure _
    · exact .pure _
  by_cases hfailed : !result.success
  · rw [if_pos hfailed]
    exact .bind (.reading _) fun name => .bind (.onMachine _) fun _ => hend
  · rw [if_neg hfailed]
    exact hend

end Work

end VariantRepair
