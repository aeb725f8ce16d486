import Mathlib.Tactic.Common
import VariantRepair.Proofs.Host.Foreign

/-!
# What the system refuses is reported

Whatever is done with files and processes, a failure of the machine is reported. So is a failure
that names a value, where the value can be written and where it cannot.
-/

namespace VariantRepair

variable {α : Type} {E : Failure → Prop}

/-- A failure that names a value is reported if it is where the value can be written. -/
lemma Failure.isReported_naming {v : Value} {f : String → Failure}
    (h : ∀ s, (f s).isReported = true) : (naming v f).isReported = true := by
  rw [naming, Value.shown]
  split_ifs
  · rfl
  · exact h _

lemma Value.reported_written (v : Value) :
    Reported E (v.written.mapError Failure.ofConversion) := by
  rw [written]
  split_ifs
  · exact .error (.inl rfl)
  · exact .ok _

namespace Host

/-- An action that reports its failures, on every machine. -/
abbrev Tells (E : Failure → Prop) (a : Action α) : Prop :=
  Reports (fun _ : Machine => True) E a

/-- What fails with the machine's own failures reports them. -/
lemma Faults.tells {a : Action α} (h : Faults a) : Tells E a :=
  ⟨fun _ _ => trivial, fun m _ f hf => .inl (h m f _ (Prod.ext hf rfl)).isReported⟩

end Host

end VariantRepair
