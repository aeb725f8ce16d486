import Mathlib.Tactic.Common
import VariantRepair.Proofs.Bench.Compile
import VariantRepair.Proofs.Host.Foreign

/-!
# Compiling and testing fail in foreign ways

Compiling a variant and testing it give answers. Where they fail, something is missing or does not
fit: a part of the variant, a file, a process, the words of a command. None of this is an error of
the program about the variant, whatever is in place of the parts of the variant.
-/

namespace VariantRepair

open Host

variable {α : Type}

/-- An answer, or a failure that is none of the program's own errors. -/
abbrev Foreign (r : Except Failure α) : Prop := Fails Failure.IsForeign r

lemma Failure.isForeign_ofConversion (e : ConversionError) : (ofConversion e).IsForeign := by
  unfold ofConversion
  split <;> trivial

/-! ### Values -/

namespace Value

lemma foreign_needText (v : Value) : Foreign v.needText :=
  .mapError Failure.isForeign_ofConversion _

lemma foreign_needItems (v : Value) : Foreign v.needItems := by
  rw [needItems]
  split
  · exact .ok _
  · exact .error trivial

lemma foreign_textsFrom (index : Nat) (vs : List Value) : Foreign (textsFrom index vs) := by
  induction vs generalizing index with
  | nil => exact .ok _
  | cons v vs ih =>
    rw [textsFrom.eq_def]
    split
    · exact .ok _
    · next heq =>
      cases heq
      exact (ih _).map _
    · exact .error trivial

lemma foreign_join (separator : String) (v : Value) : Foreign (v.join separator) := by
  rw [join]
  split
  · exact (foreign_textsFrom 0 _).map _
  · exact .error trivial

end Value

/-! ### What is read off a variant -/

namespace Altered

variable (a : Altered)

lemma foreign_callable (operation : String) : Foreign (a.callable operation) := by
  rw [callable]
  split
  · exact .error trivial
  · exact .ok _

lemma foreign_provides (part asked : String) : Foreign (a.provides part asked) := by
  rw [provides]
  split
  · exact .error trivial
  · exact .ok _

lemma foreign_sourceName (start : String) : Foreign (a.sourceName start) :=
  (Value.foreign_needText _).map _

lemma foreign_name : Foreign a.name := by
  refine .bind (a.foreign_callable _) fun _ => ?_
  split
  · exact .ok _
  · split_ifs
    · exact .bind (Value.foreign_needItems _) fun items =>
        .bind (.mapM Value.foreign_needText items) fun _ => .ok _
    · exact .ok _

lemma foreign_module (m : Program.SlotModule) : Foreign (a.module m) := by
  refine .bind (a.foreign_callable _) fun _ => .bind (a.foreign_provides _ _) fun _ => ?_
  dsimp only
  -- what is in place of the slots and of the header is taken or refused, in all combinations
  repeat' split
  all_goals first | exact .ok _ | exact .error trivial

lemma foreign_text : Foreign a.text := by
  refine .bind (a.foreign_callable _) fun _ => ?_
  split
  · split_ifs
    · exact .bind (Value.foreign_join _ _) fun _ => .ok _
    · exact .ok _
  · exact .ok _
  · exact .bind (a.foreign_module _) fun _ => .mapError (fun _ => trivial) _

end Altered

namespace Work

variable {c : Config}

/-- Work that fails with none of the program's own errors. -/
abbrev IsForeign (w : Work α) : Prop := FailsWith Failure.IsForeign w

/-! ### Single steps -/

lemma isForeign_onMachine {a : Action α} (h : Host.IsForeign a) : IsForeign (onMachine a) := by
  intro b f b' hrun
  rw [run_onMachine] at hrun
  obtain ⟨hfailed, -⟩ := Prod.mk.inj hrun
  exact h b.machine f _ (Prod.ext hfailed rfl)

lemma isForeign_reading {f : Altered → Except Failure α} (h : ∀ a, Foreign (f a)) :
    IsForeign (reading f) :=
  .bind_get fun b => .ofExcept (h b.altered)

lemma isForeign_callable (operation : String) : IsForeign (reading (·.callable operation)) :=
  isForeign_reading fun a => a.foreign_callable operation

lemma isForeign_provides (part asked : String) : IsForeign (reading (·.provides part asked)) :=
  isForeign_reading fun a => a.foreign_provides part asked

lemma isForeign_remember (k : Compiled) :
    IsForeign (alter (Altered.change fun v => { v with compiled := some k })) := by
  intro b f b' hrun
  rw [run_alter] at hrun
  cases hrun

/-! ### Compiling -/

lemma isForeign_compileEnded (keepSource : Bool) (source : Path) (result : Compilation) :
    IsForeign (compileEnded keepSource source result) := by
  have hend : IsForeign (do
      if !keepSource && result.executable.any (· ≠ source) then
        onMachine (Host.deleteFile source.text)
      return result.success) :=
    .ite_bind (isForeign_onMachine (faults_deleteFile _).isForeign) fun _ => .pure _
  rw [compileEnded]
  by_cases hfailed : !result.success
  · rw [if_pos hfailed]
    exact .bind (isForeign_reading fun a => a.foreign_name) fun _ =>
      .bind (isForeign_onMachine (faults_warn _).isForeign) fun _ => hend
  · rw [if_neg hfailed]
    exact hend

lemma isForeign_compile (sourcePath exePath : Path) (keepSource : Bool) :
    IsForeign (compile c sourcePath exePath keepSource) := by
  have hwrite : IsForeign (writeSource sourcePath) :=
    .bind (isForeign_callable _) fun _ => .bind (isForeign_reading fun a => a.foreign_text)
      fun _ => .bind (isForeign_onMachine (faults_resolve _).isForeign) fun _ =>
      .bind (isForeign_onMachine (.bind (faults_needDirectories _).isForeign fun _ =>
        (faults_writeText _ _).isForeign)) fun _ => .pure _
  rw [compile_eq]
  exact .bind hwrite fun written => .bind (isForeign_provides _ _) fun _ =>
    .bind (isForeign_onMachine (faults_resolve _).isForeign) fun exe =>
    .bind (isForeign_onMachine (faults_compilation _ _ _).isForeign) fun result =>
    .bind (isForeign_provides _ _) fun _ => .bind (.modify _) fun _ =>
    .bind (isForeign_remember _) fun _ => isForeign_compileEnded _ _ _

/-! ### Testing -/

lemma faults_outcomeOf (test : Test) (e : Ending) : Faults (outcomeOf test e) := by
  cases e with
  | finished status out err => exact .pure _
  | timedOut => exact .pure _
  | _ => exact .bind (faults_warn _) fun _ => .pure _

/-- A test without words has a name that cannot be written, or a command that cannot be split. -/
lemma fails_testWords (executable source : String) (test : Test) (port : Int) :
    Fails Failure.IsOfHost (testWords c executable source test port) := by
  refine .bind ?_ fun _ => .mapError (fun _ => Failure.isOfHost_refused _) _
  rw [Test.written]
  split_ifs
  · exact .error (Failure.isOfHost_refused _)
  · exact .ok _

lemma isForeign_runTest (executable source : String) (test : Test)
    (extra : List (String × String)) : IsForeign (runTest c executable source test extra) := by
  have hwords (port : Int) : Foreign (testWords c executable source test port) :=
    fun f hf => (fails_testWords executable source test port f hf).isForeign
  exact .bind_get fun b => .bind (.ofExcept (hwords _)) fun _ => .bind (.modify _) fun _ =>
    isForeign_onMachine (.bind (faults_start _ _ _).isForeign fun e =>
      (faults_outcomeOf test e).isForeign)

lemma isForeign_evaluateTest (test : Test) : IsForeign (evaluateTest c test) := by
  have hown (asked : String) : IsForeign (ownCache asked) := by
    refine .bind_get fun b => ?_
    split
    · exact .pure _
    · exact .pure _
    · exact .throw trivial
  have hfresh (digest : String) (executable source : Path) (useCache : Bool) :
      IsForeign (freshOutcome c digest executable source test useCache) := by
    refine .bind (isForeign_provides _ _) fun _ => .bind (isForeign_runTest _ _ _ _)
      fun outcome => .bind (isForeign_provides _ _) fun _ => .bind (.modify _) fun _ => ?_
    dsimp only
    split_ifs
    · exact .bind (.modify _) fun _ => .bind (.modify _) fun _ => .pure _
    · exact .bind (.modify _) fun _ => .pure _
    · exact .pure _
  refine .bind (isForeign_callable _) fun _ => .bind (.bind_get fun _ => .pure _) fun v => ?_
  split
  · exact .bind (isForeign_reading fun a => a.foreign_name) fun _ => .throw trivial
  · split
    · refine .bind (hown _) fun cache => ?_
      split
      · exact .bind (isForeign_provides _ _) fun _ => .bind (.modify _) fun _ => .pure _
      · exact hfresh _ _ _ _
    · exact .pure _

lemma isForeign_evaluateTests (tests : List Test) : IsForeign (evaluateTests c tests) := by
  induction tests with
  | nil => exact .pure _
  | cons test tests ih =>
    exact .bind (isForeign_evaluateTest test) fun _ => .bind ih fun _ => .pure _

end Work

end VariantRepair
