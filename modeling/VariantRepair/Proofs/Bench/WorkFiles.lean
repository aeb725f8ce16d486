import Mathlib.Tactic.Common
import VariantRepair.Bench.Evaluate
import VariantRepair.Bench.Localize
import VariantRepair.Proofs.Bench.Kept
import VariantRepair.Proofs.Config.Assignments
import VariantRepair.Proofs.Test.Name
import VariantRepair.Proofs.Variant.Suffix

/-!
# The files of the work directory

The sanity check, the localization and the evaluation of a variant write a few files in the work
directory, whose names end in the suffix of the variant. The work keeps everything else.
-/

namespace VariantRepair

open Host

namespace Work

/-- A variable that is added last has its value. -/
lemma lookup_withVariables (env : Config.Environment) (name value : String) :
    (withVariables env [(name, value)]).lookup name = some value := by
  rw [withVariables, List.foldl_cons, List.foldl_nil, Config.Environment.lookup_set, if_pos rfl]

/-- The files in the work directory that are written for a variant with a suffix. -/
inductive IsWorkFile (directory : Place) (workDir : String) (own : Value) : String → Prop
  | rendered {start suffix : String} (hstart : start = "sanity" ∨ start = "variant")
      (hsuffix : own.needText = .ok suffix) :
      IsWorkFile directory workDir own
        (((Path.ofText workDir).child (start ++ suffix)).resolve directory).text
  | probed {suffix : String} (hsuffix : own.needText = .ok suffix) :
      IsWorkFile directory workDir own
        ((((Path.ofText workDir).resolve directory).child "coverage").child
          ("coverage" ++ suffix)).text
  | coverage :
      IsWorkFile directory workDir own
        ((((Path.ofText workDir).resolve directory).child "coverage").child "coverage.path").text

variable {m₀ : Machine} {S : Place → Prop} {C : Content → Prop} {K : Cache → Prop} {own : Value}
  {c : Config}

lemma suffix_of_sourceName {a : Altered} {start name : String} (ha : a.suffix = own)
    (h : a.sourceName start = .ok name) :
    ∃ suffix, own.needText = .ok suffix ∧ name = start ++ suffix := by
  rw [Altered.sourceName, ha] at h
  cases hsuffix : own.needText with
  | error f =>
    rw [hsuffix] at h
    cases h
  | ok suffix =>
    rw [hsuffix] at h
    exact ⟨suffix, rfl, (Except.ok.inj h).symm⟩

/-- What is read off a variant is read off one that has the suffix. -/
lemma bind_sourceName {β : Type} {J : Machine → Prop} {start : String} {f : String → Work β}
    (hf : ∀ suffix, own.needText = .ok suffix →
      Preserves (Bench.Within J K (·.suffix = own)) (f (start ++ suffix))) :
    Preserves (Bench.Within J K (·.suffix = own)) (reading (·.sourceName start) >>= f) := by
  refine .bind_of (Q := fun name => ∃ suffix, own.needText = .ok suffix ∧ name = start ++ suffix)
    (preserves_reading _) ?_ ?_
  · intro b name b' hb hrun
    rw [run_reading] at hrun
    exact suffix_of_sourceName hb.altered (Prod.mk.inj hrun).1
  · rintro _ ⟨suffix, hsuffix, rfl⟩
    exact hf suffix hsuffix

lemma preserves_readFaultFile {I : Machine → Prop} (path : String) :
    Preserves I (readFaultFile path) := by
  refine .bind (.tryCatch (preserves_readText _) fun f => ?_) fun _ => .ofExcept _
  split_ifs
  · exact .throw _
  · exact .throw _

lemma within_lineLocalization {J : Machine → Prop} {A : Altered → Prop} :
    Preserves (Bench.Within J K A) (lineLocalization c) := by
  rw [lineLocalization]
  exact .ite_bind (.throw _) fun _ => .bind (within_onMachine (preserves_readFaultFile _))
    fun rows => preserves_reading _

lemma keeps_noteEvaluation {path : String} (hpath : ¬ S (FileTree.placeOf m₀.directory path))
    (e : Evaluation) : Preserves (m₀.Keeps S C) (noteEvaluation path e) :=
  .bind (keeps_needSpelledDirectories _ _) fun _ => keeps_appendText hpath _

section Files

variable
  (hfiles : ∀ path, IsWorkFile m₀.directory c.workDir own path →
    ¬ S (FileTree.placeOf m₀.directory path))

include hfiles

/-! ### Localization -/

lemma within_visits (executable source : String) (tests : List Test) :
    Preserves (Bench.Within (m₀.Keeps S C) K (·.suffix = own)) (visits c executable source
      ((((Path.ofText c.workDir).resolve m₀.directory).child "coverage").child
        "coverage.path").text tests) := by
  have hcoverage := hfiles _ .coverage
  induction tests with
  | nil => exact .pure _
  | cons test tests ih =>
    refine .bind (within_onMachine (keeps_deleteFile hcoverage)) fun _ =>
      .bind (preserves_reading _) fun _ => .bind (within_runTest ?_ _ _ _) fun _ =>
      .bind (within_onMachine (.bind (preserves_isFile _) fun found => ?_)) fun _ =>
      .bind ih fun _ => .pure _
    · intro path hpath
      rw [lookup_withVariables] at hpath
      obtain rfl := Option.some.inj hpath
      exact hcoverage
    · split_ifs
      · exact .bind (preserves_readText _) fun _ => .pure _
      · exact .pure _

lemma within_pathLocalization :
    Preserves (Bench.Within (m₀.Keeps S C) K (·.suffix = own)) (pathLocalization c) := by
  refine .bind_of (Q := (· = (Path.ofText c.workDir).resolve m₀.directory))
    (within_onMachine (preserves_resolve _)) ?_ ?_
  · intro b directory b' hb hrun
    obtain ⟨m, hrun, -⟩ := exists_run_of_run_onMachine hrun
    rw [(eq_resolve_of_run hrun).1, hb.machine.directory]
  · rintro _ rfl
    refine .bind (within_onMachine (keeps_needDirectories _)) fun _ =>
      bind_sourceName fun suffix hsuffix => .bind (preserves_reading _) fun text =>
      .bind (within_onMachine (keeps_writeText (hfiles _ (.probed hsuffix)) _)) fun _ =>
      .bind (preserves_reading _) fun _ =>
      .bind (within_onMachine (keeps_compilation _ _ _)) fun result => ?_
    split
    · exact .bind (within_visits hfiles _ _ _) fun _ => .pure _
    · exact .throw _

/-- The localization of a program. -/
lemma within_localize :
    Preserves (Bench.Within (m₀.Keeps S C) K (·.suffix = own)) (localize c) := by
  have hlocalization :
      Preserves (Bench.Within (m₀.Keeps S C) K (·.suffix = own)) (localization c) := by
    rw [localization]
    split_ifs
    · exact .bind (preserves_reading _) fun _ => .pure _
    · exact within_lineLocalization
    · exact within_pathLocalization hfiles
    · exact .throw _
  exact .bind (preserves_reading _) fun _ => .bind (preserves_reading _) fun _ =>
    .bind hlocalization fun l =>
    .bind (within_alter (Altered.keepsSuffix_setLocalization l)) fun _ =>
    .bind (preserves_reading _) fun _ => .bind (preserves_reading _) fun _ =>
    within_onMachine (keeps_say _)

/-! ### Sanity check and evaluation -/

lemma within_compile_rendered {start suffix : String} (exePath : Path) (keepSource : Bool)
    (hstart : start = "sanity" ∨ start = "variant") (hsuffix : own.needText = .ok suffix) :
    Preserves (Bench.Within (m₀.Keeps S C) K (·.suffix = own))
      (compile c ((Path.ofText c.workDir).child (start ++ suffix)) exePath keepSource) :=
  within_compile (fun hplace => absurd hplace (hfiles _ (.rendered hstart hsuffix)))
    fun a _ ha => (a.suffix_withVariant rfl).trans ha

variable (hcoverage : m₀.CoverageElsewhere S m₀.environment)
  (hnew : Cache.TakesNew K)

include hcoverage hnew

lemma within_sanityCheck :
    Preserves (Bench.Within (m₀.Keeps S C) K (·.suffix = own)) (sanityCheck c) := by
  exact .bind (preserves_reading _) fun _ => .bind (preserves_reading _) fun _ =>
    bind_sourceName fun suffix hsuffix =>
    .bind (within_compile_rendered hfiles _ _ (.inl rfl) hsuffix) fun compiled =>
    .ite_bind (.throw _) fun _ => .bind (within_evaluateTests hcoverage hnew _) fun outcomes =>
    .ite_bind (.throw _) fun _ => within_onMachine (keeps_say _)

lemma within_evaluate {output : Option String}
    (houtput : ∀ path, output = some path → ¬ S (FileTree.placeOf m₀.directory path)) :
    Preserves (Bench.Within (m₀.Keeps S C) K (·.suffix = own)) (evaluate c output) := by
  refine bind_sourceName fun suffix hsuffix =>
    .bind (within_compile_rendered hfiles _ _ (.inr rfl) hsuffix) fun compiled =>
    .bind (preserves_reading _) fun name =>
    .bind (within_evaluateTests hcoverage hnew _) fun outcomes =>
    .bind preserves_variant fun v => ?_
  split
  · next path =>
    exact .ite_bind (within_onMachine (keeps_noteEvaluation (houtput path rfl) _)) fun _ => .pure _
  · exact .pure _

end Files

end Work

end VariantRepair
