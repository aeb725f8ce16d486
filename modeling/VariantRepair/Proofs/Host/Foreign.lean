import Mathlib.Tactic.Common
import VariantRepair.Toolchain.Compiler
import VariantRepair.Proofs.Failing

/-!
# Failures that are not the program's own

The program has errors of its own, which say that something is wrong with a variant, its tests or
its settings. What is done with files, processes and texts fails in other ways: something is
refused, or the system is at fault. So it is never mistaken for an answer of the program about a
variant.
-/

namespace VariantRepair

variable {σ α β : Type} {P : Failure → Prop}

/-! ### Steps that fail in some ways only -/

/-- An answer, or a failure of some kind. -/
def Fails (P : Failure → Prop) (r : Except Failure α) : Prop := ∀ f, r = .error f → P f

namespace Fails

lemma ok (a : α) : Fails P (.ok a) := nofun

lemma error {f : Failure} (h : P f) : Fails P (.error f : Except Failure α) := by
  rintro _ ⟨⟩
  exact h

lemma bind {r : Except Failure α} {g : α → Except Failure β} (hr : Fails P r)
    (hg : ∀ a, Fails P (g a)) : Fails P (r >>= g) := by
  cases r with
  | ok a => exact hg a
  | error f => exact error (hr f rfl)

lemma map {r : Except Failure α} (hr : Fails P r) (g : α → β) : Fails P (r.map g) := by
  cases r with
  | ok a => exact ok (g a)
  | error f => exact error (hr f rfl)

lemma mapError {ε : Type} {g : ε → Failure} (hg : ∀ e, P (g e)) (r : Except ε α) :
    Fails P (r.mapError g) := by
  cases r with
  | ok a => exact ok a
  | error e => exact error (hg e)

lemma mapM {f : α → Except Failure β} (hf : ∀ a, Fails P (f a)) (xs : List α) :
    Fails P (xs.mapM f) := by
  induction xs with
  | nil => exact ok _
  | cons x xs ih =>
    rw [List.mapM_cons]
    exact (hf x).bind fun _ => ih.bind fun _ => ok _

end Fails

/-- All failures of the steps are of some kind. -/
def FailsWith (P : Failure → Prop) (x : ExceptT Failure (StateM σ) α) : Prop :=
  ∀ s f s', x.run s = (.error f, s') → P f

namespace FailsWith

variable {x : ExceptT Failure (StateM σ) α} {f : α → ExceptT Failure (StateM σ) β}

lemma pure (a : α) : FailsWith P (pure a : ExceptT Failure (StateM σ) α) := nofun

lemma throw {e : Failure} (h : P e) : FailsWith P (throw e : ExceptT Failure (StateM σ) α) := by
  rintro s _ _ ⟨⟩
  exact h

lemma ofExcept {r : Except Failure α} (h : Fails P r) :
    FailsWith P (MonadExcept.ofExcept r : ExceptT Failure (StateM σ) α) := by
  cases r with
  | ok a => exact pure a
  | error e => exact throw (h e rfl)

lemma modify (g : σ → σ) : FailsWith P (modify g : ExceptT Failure (StateM σ) PUnit) := nofun

lemma bind (hx : FailsWith P x) (hf : ∀ a, FailsWith P (f a)) : FailsWith P (x >>= f) := by
  intro s e s' hrun
  cases hfirst : x.run s with
  | mk r s₁ =>
    cases r with
    | ok a =>
      rw [run_bind_of_ok hfirst] at hrun
      exact hf a s₁ e s' hrun
    | error e₁ =>
      rw [run_bind_of_error hfirst] at hrun
      cases hrun
      exact hx s _ _ hfirst

/-- A failure of another kind comes from the second part of a sequence. -/
lemma exists_run_of_run_bind (hx : FailsWith P x) {e : Failure} (he : ¬ P e) {s s'' : σ}
    (h : (x >>= f).run s = (.error e, s'')) :
    ∃ a s', x.run s = (.ok a, s') ∧ (f a).run s' = (.error e, s'') := by
  cases hfirst : x.run s with
  | mk r s' =>
    cases r with
    | ok a => exact ⟨a, s', rfl, (run_bind_of_ok hfirst f).symm.trans h⟩
    | error e' =>
      rw [run_bind_of_error hfirst] at h
      cases h
      exact absurd (hx s _ _ hfirst) he

lemma bind_get {f : σ → ExceptT Failure (StateM σ) β} (hf : ∀ s, FailsWith P (f s)) :
    FailsWith P (get >>= f) :=
  bind (x := (get : ExceptT Failure (StateM σ) σ)) nofun hf

/-- Steps that are left out in some cases, and what follows them in all. -/
lemma ite_bind {c : Prop} [Decidable c] {x : ExceptT Failure (StateM σ) PUnit}
    {f : PUnit → ExceptT Failure (StateM σ) β} (hx : FailsWith P x) (hf : ∀ u, FailsWith P (f u)) :
    FailsWith P (if c then x >>= f else f ⟨⟩) := by
  split_ifs
  · exact bind hx hf
  · exact hf ⟨⟩

/-- What catches a failure may pass it on. -/
lemma tryCatch {g : Failure → ExceptT Failure (StateM σ) α} (hx : FailsWith P x)
    (hg : ∀ e, P e → FailsWith P (g e)) : FailsWith P (tryCatch x g) := by
  intro s e s' hrun
  cases hfirst : x.run s with
  | mk r s₁ =>
    cases r with
    | ok a =>
      rw [run_tryCatch_of_ok hfirst] at hrun
      cases hrun
    | error e₁ =>
      rw [run_tryCatch_of_error hfirst] at hrun
      exact hg e₁ (hx s _ _ hfirst) s₁ e s' hrun

end FailsWith

/-! ### What is done on the machine -/

/-- A failure that is none of the program's own errors. -/
def Failure.IsForeign : Failure → Prop
  | .repair _ => False
  | _ => True

/-- A failure of the machine: something is refused, or the system is at fault. -/
def Failure.IsOfHost (f : Failure) : Prop := (f.isRefusal || f.isSystem) = true

lemma Failure.isOfHost_refused (r : Refusal) : (refused r).IsOfHost := rfl

lemma Failure.IsOfHost.isForeign {f : Failure} (h : f.IsOfHost) : f.IsForeign := by
  cases f with
  | repair e => cases h
  | _ => trivial

lemma Failure.IsOfHost.isReported {f : Failure} (h : f.IsOfHost) : f.isReported = true := by
  cases f with
  | repair e => rfl
  | program => rfl
  | _ => exact h

namespace Host

/-- What is done on the machine fails with none of the program's own errors. -/
abbrev IsForeign (a : Action α) : Prop := FailsWith Failure.IsForeign a

/-- What is done on the machine fails with the machine's own failures. -/
abbrev Faults (a : Action α) : Prop := FailsWith Failure.IsOfHost a

lemma Faults.isForeign {a : Action α} (h : Faults a) : IsForeign a :=
  fun s f s' hrun => (h s f s' hrun).isForeign

lemma faults_refusal (r : Refusal) : Faults (throw (.refused r) : Action α) :=
  .throw (Failure.isOfHost_refused r)

lemma faults_fault (fault : FileFault) (path : String) (target : Option String) :
    Faults (throw (.file fault path target) : Action α) := .throw rfl

lemma faults_say (line : String) : Faults (say line) := .modify _

lemma faults_warn (line : String) : Faults (warn line) := .modify _

lemma faults_changeFiles (f : FileTree → FileTree) : Faults (changeFiles f) := .modify _

lemma faults_checkText (s : String) : Faults (checkText s) := by
  rw [checkText]
  split_ifs
  · exact faults_refusal _
  · exact .pure _

lemma faults_orFault (path : String) (target : Option String) (r : Except FileFault α) :
    Faults (orFault path target r) := by
  cases r with
  | ok a => exact .pure a
  | error fault => exact faults_fault fault path target

lemma faults_setVariable (name value : String) : Faults (setVariable name value) :=
  .bind (faults_checkText _) fun _ => .bind (faults_checkText _) fun _ => .modify _

lemma faults_resolve (path : Path) : Faults (resolve path) :=
  .bind (faults_checkText _) fun _ => .bind_get fun _ => .pure _

/-! ### Looking and reading -/

lemma faults_look (path : String) : Faults (look path) := by
  rw [look]
  split_ifs
  · exact .pure _
  · refine .bind_get fun m => ?_
    split
    · exact .pure _
    · exact .pure _
    · exact .pure _
    · exact faults_fault _ _ _

lemma faults_fileExists (path : String) : Faults (fileExists path) :=
  .bind (faults_look path) fun _ => .pure _

lemma faults_isFile (path : String) : Faults (isFile path) := by
  refine .bind (faults_look path) fun e => ?_
  split <;> exact .pure _

lemma faults_isDirectory (path : String) : Faults (isDirectory path) := by
  refine .bind (faults_look path) fun e => ?_
  split <;> exact .pure _

lemma faults_readContent (path : String) : Faults (readContent path) := by
  refine .bind (faults_checkText path) fun _ => .bind_get fun m =>
    .bind (faults_orFault _ _ _) fun found => ?_
  split
  · exact .pure _
  · exact faults_fault _ _ _

lemma faults_readText (path : String) : Faults (readText path) := by
  refine .bind (faults_readContent path) fun c => ?_
  split
  · split
    · exact .pure _
    · exact .throw rfl
  · exact .throw rfl

lemma faults_listNames (path : String) : Faults (listNames path) := by
  refine .bind (faults_look path) fun e => ?_
  split
  · refine .bind_get fun m => ?_
    split <;> exact .pure _
  · exact .pure _

/-! ### Writing -/

lemma faults_openPlace (path : String) : Faults (openPlace path) := by
  refine .bind (faults_checkText path) fun _ => .bind_get fun m =>
    .bind (faults_orFault _ _ _) fun place => ?_
  split
  · exact faults_fault _ _ _
  · exact .pure _
  · split
    · exact .pure _
    · exact faults_fault _ _ _
    · exact faults_fault _ _ _

lemma faults_writeContent (path : String) (c : Content) : Faults (writeContent path c) :=
  .bind (faults_openPlace path) fun _ => faults_changeFiles _

lemma faults_writeText (path s : String) : Faults (writeText path s) := faults_writeContent _ _

lemma faults_appendText (path s : String) : Faults (appendText path s) :=
  .bind (faults_openPlace path) fun _ => faults_changeFiles _

lemma faults_deleteFile (path : String) : Faults (deleteFile path) := by
  refine .bind (faults_checkText path) fun _ => .bind_get fun m => ?_
  split
  · exact .pure _
  · exact faults_fault _ _ _
  · exact faults_fault _ _ _
  · exact faults_changeFiles _

lemma faults_moveFile (path target : String) : Faults (moveFile path target) := by
  refine .bind (faults_checkText path) fun _ => .bind (faults_checkText target) fun _ =>
    .bind_get fun m => .bind (faults_orFault _ _ _) fun found =>
    .bind (faults_orFault _ _ _) fun goal => .ite_bind (faults_fault _ _ _) fun _ => ?_
  split
  · exact faults_fault _ _ _
  · split
    · exact faults_changeFiles _
    · exact faults_fault _ _ _
    · exact faults_fault _ _ _

/-! ### Making directories -/

lemma faults_makeDirectory (path : String) : Faults (makeDirectory path) := by
  refine .bind (faults_checkText path) fun _ => .bind_get fun m =>
    .bind (faults_orFault _ _ _) fun place => ?_
  split
  · exact faults_fault _ _ _
  · split
    · exact faults_changeFiles _
    · exact faults_fault _ _ _
    · exact faults_fault _ _ _

lemma faults_unless_isDirectory (path : String) {f : Failure} (h : f.IsOfHost) :
    Faults (do
      if f.isSystem && (← isDirectory path) then pure () else throw f : Action Unit) := by
  refine .bind (faults_isDirectory path) fun isDirectory => ?_
  split_ifs
  · exact .pure _
  · exact .throw h

lemma faults_needDirectory (path : String) : Faults (needDirectory path) :=
  .tryCatch (faults_makeDirectory path) fun _ h => faults_unless_isDirectory path h

lemma faults_needDirectories (path : Path) : Faults (needDirectories path) := by
  have hclimb (n : Nat) (path : Path) : Faults (needDirectories.climb n path) := by
    induction n generalizing path with
    | zero => exact faults_needDirectory _
    | succ n ih =>
      refine .tryCatch (faults_makeDirectory _) fun f h => ?_
      split
      · exact .bind (ih path.parent) fun _ => faults_needDirectory _
      · exact faults_unless_isDirectory _ h
  exact hclimb _ path

lemma faults_isAbsent (path : String) : Faults (needSpelledDirectories.isAbsent path) := by
  rw [needSpelledDirectories.isAbsent]
  have hlook : Faults (fileExists path >>= fun found =>
      (EarlyReturnT.return !found : EarlyReturnT Bool Action Bool)) :=
    .bind (faults_fileExists path) fun _ => .pure _
  refine .bind (.tryCatch hlook fun _ _ => .pure _) fun early => ?_
  cases early with
  | error found => exact .pure _
  | ok u => exact .pure _

lemma faults_needSpelledDirectories (fuel : Nat) (name : String) :
    Faults (needSpelledDirectories fuel name) := by
  induction fuel generalizing name with
  | zero => exact faults_needDirectory _
  | succ fuel ih =>
    rw [needSpelledDirectories]
    split
    split
    next head tail hsplit =>
    have habove : Faults (do
        try needSpelledDirectories fuel head
        catch f => if f.label == FileFault.label .taken then pure () else throw f) := by
      refine .tryCatch (ih head) fun f h => ?_
      split_ifs
      · exact .pure _
      · exact .throw h
    have hrest (missing : Bool) : Faults (do
        if missing then
          try needSpelledDirectories fuel head
          catch f => if f.label == FileFault.label .taken then pure () else throw f
          if tail == "." then return
        needDirectory name) := by
      dsimp only
      split_ifs
      · exact .bind habove fun _ => .pure _
      · exact .bind habove fun _ => faults_needDirectory _
      · exact faults_needDirectory _
    by_cases hname : (head.isEmpty || tail.isEmpty) = true
    · rw [if_pos hname]
      exact .bind (.pure _) hrest
    · rw [if_neg hname]
      exact .bind (faults_isAbsent _) hrest

/-! ### Processes -/

lemma faults_start (words : List String) (seconds : Float)
    (environment : Option Config.Environment) : Faults (start words seconds environment) := by
  have hleave (coverage : Option String) : Faults (leaveCoverage environment coverage) := by
    unfold leaveCoverage
    split
    · exact .tryCatch (faults_writeText _ _) fun _ _ => .pure _
    · exact .pure _
  refine .bind_get fun m => .bind (.modify _) fun _ => .bind (hleave _) fun _ => ?_
  split
  · exact .throw rfl
  · exact .pure _

lemma faults_compilation (c : Config) (source exe : Path) :
    Faults (Compilation.run c source exe) := by
  unfold Compilation.run
  dsimp only
  split
  · exact faults_refusal _
  · exact .bind (faults_start _ _ _) fun _ => .pure _

end Host

end VariantRepair
