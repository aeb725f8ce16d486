import Mathlib.Tactic.Common
import VariantRepair.Proofs.Bench.PathWeights
import VariantRepair.Proofs.Bench.WorkFiles
import VariantRepair.Proofs.Host.Kept
import VariantRepair.Proofs.Bench.Loaded

/-!
# What the compiler is handed

Evaluating a variant, the sanity check and weights by paths each compile once, before they run any
test. Source and executable are in the work directory; the name of the source has the suffix of the
variant, and that of the executable is the same without it.
-/

namespace VariantRepair

open Host

variable {α : Type} {c : Config} {source exe : Path} {P : Call → Prop}

/-- Of the processes, the first is the compiler, which is given a source and an executable, and the
others are of a kind. -/
def Compilation.Leads (c : Config) (source exe : Path) (P : Call → Prop) : List Call → Prop
  | [] => False
  | call :: calls => (∃ words, Compilation.words c source exe = .ok words ∧
      call = ⟨words, c.compileTimeout, none⟩) ∧ ∀ call ∈ calls, P call

/-- No process is started before the compiler. -/
def Compilation.Hands (c : Config) (source exe : Path) (P : Call → Prop) (calls : List Call) :
    Prop :=
  calls = [] ∨ Compilation.Leads c source exe P calls

lemma Compilation.Leads.concat {calls : List Call} {call : Call}
    (h : Compilation.Leads c source exe P calls) (hcall : P call) :
    Compilation.Leads c source exe P (calls ++ [call]) := by
  cases calls with
  | nil => exact h.elim
  | cons first calls =>
    obtain ⟨hfirst, hrest⟩ := h
    refine ⟨hfirst, ?_⟩
    simpa [or_imp, forall_and] using ⟨hrest, hcall⟩

namespace Work

variable {m₀ : Machine} {K : Cache → Prop} {A : Altered → Prop} {Q : List Call → Prop} {b : Bench}

/-! ### Compiling -/

lemma within_of_nil (hb : Bench.Within (m₀.Started (· = [])) K A b) :
    Bench.Within (m₀.Started (Compilation.Hands c source exe P)) K A b :=
  ⟨hb.machine.imp fun _ => .inl, hb.cache, hb.altered⟩

lemma within_of_leads (hb : Bench.Within (m₀.Started (Compilation.Leads c source exe P)) K A b) :
    Bench.Within (m₀.Started (Compilation.Hands c source exe P)) K A b :=
  ⟨hb.machine.imp fun _ => .inr, hb.cache, hb.altered⟩

/-- Where the command has words, the compiler is started. -/
lemma within_compilation_of_words {words : List String}
    (hcommand : Compilation.producesExecutable c = true)
    (hwords : Compilation.words c source exe = .ok words)
    (hb : Bench.Within (m₀.Started (· = [])) K A b) :
    Bench.Within (m₀.Started (Compilation.Leads c source exe P)) K A
      ((onMachine (Compilation.run c source exe)).run b).2 := by
  unfold Compilation.run
  rw [hcommand, if_pos rfl]
  dsimp only
  rw [hwords, run_onMachine]
  refine ⟨Preserves.run_bind (started_run_start hb.machine ?_) fun _ => .pure _, hb.cache,
    hb.altered⟩
  rintro calls rfl
  exact ⟨⟨words, hwords, rfl⟩, by simp⟩

/-- Where nothing was started before, the compiler is the first, if it is started at all. -/
lemma within_compilation_bind {f : Compilation → Work α}
    (hcommand : Compilation.producesExecutable c = true)
    (hb : Bench.Within (m₀.Started (· = [])) K A b)
    (hf : ∀ result,
      Preserves (Bench.Within (m₀.Started (Compilation.Leads c source exe P)) K A) (f result)) :
    Bench.Within (m₀.Started (Compilation.Hands c source exe P)) K A
      ((onMachine (Compilation.run c source exe) >>= f).run b).2 := by
  cases hwords : Compilation.words c source exe with
  | error e =>
    have hrun : (Compilation.run c source exe).run b.machine
        = (.error (.refused (.command e)), b.machine) := by
      unfold Compilation.run
      rw [hcommand, if_pos rfl]
      dsimp only
      rw [hwords]
      rfl
    rw [run_bind_of_error (run_onMachine_of_error hrun)]
    exact within_of_nil hb
  | ok words =>
    exact within_of_leads (Preserves.run_bind (within_compilation_of_words hcommand hwords hb) hf)

lemma started_writeSource (sourcePath : Path) :
    Preserves (Bench.Within (m₀.Started Q) K A) (writeSource sourcePath) :=
  .bind (preserves_reading _) fun _ => .bind (preserves_reading _) fun _ =>
    .bind (within_onMachine (preserves_resolve _)) fun _ =>
    .bind (within_onMachine (.bind (started_needDirectories _) fun _ => started_writeText _ _))
      fun _ => .pure _

lemma started_compileEnded (keepSource : Bool) (source : Path) (result : Compilation) :
    Preserves (Bench.Within (m₀.Started Q) K A) (compileEnded keepSource source result) :=
  preserves_compileEnded (fun _ => within_onMachine (started_warn _)) fun _ =>
    within_onMachine (started_deleteFile _)

/-- The end of a compilation, once the compiler has run. -/
lemma started_compileRun {keepSource : Bool} {text : String} {f : Bool → Work α}
    (hA : ∀ a k, A a → A (a.remember k))
    (hf : ∀ success, Preserves (Bench.Within (m₀.Started Q) K A) (f success))
    (result : Compilation) :
    Preserves (Bench.Within (m₀.Started Q) K A) (do
      reading (·.provides "stats" "record_compile")
      count (·.recordCompile result.success)
      let compiled : Compiled :=
        { digest := textDigest text, success := result.success, source,
          executable := result.executable }
      alter (Altered.change fun v => { v with compiled := some compiled })
      f (← compileEnded keepSource source result)) :=
  .bind (preserves_reading _) fun _ => .bind (within_count _) fun _ =>
    .bind (within_alter (.modify fun a ha => hA a _ ha)) fun _ =>
    .bind (started_compileEnded keepSource source result) fun success => hf success

section Compile

variable {sourcePath exePath : Path} {keepSource : Bool} {f : Bool → Work α}
  (hcommand : Compilation.producesExecutable c = true)
  (hexe : exe = exePath.resolve m₀.directory)
  (hb : Bench.Within (m₀.Started (· = [])) K A b) (hA : ∀ a k, A a → A (a.remember k))
  (hf : ∀ success,
    Preserves (Bench.Within (m₀.Started (Compilation.Leads c source exe P)) K A) (f success))

include hcommand hexe hb hA hf

/-- A compilation resolves both paths and hands them to the compiler. -/
lemma within_compile_bind (hsource : source = sourcePath.resolve m₀.directory) :
    Bench.Within (m₀.Started (Compilation.Hands c source exe P)) K A
      ((compile c sourcePath exePath keepSource >>= f).run b).2 := by
  rw [compile_eq, bind_assoc]
  refine Preserves.run_bind_of hb (started_writeSource sourcePath) (fun _ => within_of_nil) ?_
  rintro ⟨text, source'⟩ b₁ hb₁ h
  obtain ⟨-, rfl, -⟩ := of_run_writeSource h
  rw [hb.machine.directory, ← hsource]
  simp only [compileWritten, bind_assoc]
  refine Preserves.run_bind_of hb₁ (preserves_reading _) (fun _ => within_of_nil) fun _ b₂ hb₂ _ =>
    Preserves.run_bind_of hb₂ (within_onMachine (preserves_resolve _)) (fun _ => within_of_nil) ?_
  intro exe' b₃ hb₃ h
  obtain ⟨m, hresolve, -⟩ := exists_run_of_run_onMachine h
  obtain ⟨rfl, -⟩ := Host.eq_resolve_of_run hresolve
  rw [hb₂.machine.directory, ← hexe]
  exact within_compilation_bind hcommand hb₃ (started_compileRun hA hf)

/-- Once the source is written, the compiler is started if its command has words. -/
lemma within_compile_of_words {b₁ : Bench} {v : Variant Float} {text : String}
    {words : List String} (hv : b.altered = .ofVariant v)
    (hwrite : (writeSource sourcePath).run b = (.ok (text, source), b₁))
    (hnul : '\x00' ∉ exePath.text.toList)
    (hwords : Compilation.words c source exe = .ok words) :
    Bench.Within (m₀.Started (Compilation.Leads c source exe P)) K A
      ((compile c sourcePath exePath keepSource >>= f).run b).2 := by
  have hb₁ := (started_writeSource sourcePath).of_run hb hwrite
  have hv₁ : b₁.altered = .ofVariant v := (of_run_writeSource hwrite).2.2.1.trans hv
  rw [compile_eq, bind_assoc, run_bind_of_ok hwrite]
  simp only [compileWritten, bind_assoc]
  rw [run_bind_of_ok (run_provides hv₁ _ _),
    run_bind_of_ok (run_onMachine_of_ok (run_resolve hnul _)), hb₁.machine.directory, ← hexe]
  exact Preserves.run_bind (within_compilation_of_words hcommand hwords hb₁)
    (started_compileRun hA hf)

end Compile

/-! ### Testing -/

/-- A test has the environment of the machine, with some variables more. -/
lemma started_runTest {extra : List (String × String)}
    (hQ : ∀ calls words, Q calls →
      Q (calls ++ [⟨words, c.testTimeout, some (withVariables m₀.environment extra)⟩]))
    (executable source : String) (test : Test) :
    Preserves (Bench.Within (m₀.Started Q) K A) (runTest c executable source test extra) :=
  within_runTest_of_start (fun _ h => h.environment) started_warn
    (fun words _ hm => started_run_start hm fun calls => hQ calls words) executable source test

/-- Tests come behind the compiler, in the environment of the machine. -/
lemma started_evaluateTests (tests : List Test) :
    Preserves (Bench.Within (m₀.Started (Compilation.Leads c source exe
      (·.environment = some m₀.environment))) (fun _ => True) A) (evaluateTests c tests) := by
  refine within_evaluateTests_of_runTest (fun _ _ _ => started_runTest ?_ _ _ _)
    Cache.takesNew_true tests
  intro calls words h
  exact h.concat rfl

/-- Tests that leave their coverage come behind the compiler. -/
lemma started_visits (executable source' coverage : String) (tests : List Test) :
    Preserves (Bench.Within (m₀.Started (Compilation.Leads c source exe
      (·.environment = some (withVariables m₀.environment [(Program.coverageVariable, coverage)]))))
        K A) (visits c executable source' coverage tests) := by
  induction tests with
  | nil => exact .pure _
  | cons test tests ih =>
    refine .bind (within_onMachine (started_deleteFile _)) fun _ =>
      .bind (preserves_reading _) fun _ =>
      .bind (started_runTest (fun calls words h => h.concat rfl) _ _ _) fun _ =>
      .bind (within_onMachine ?_) fun _ => .bind ih fun _ => .pure _
    refine .bind (preserves_isFile _) fun there => ?_
    split_ifs
    · exact .bind (preserves_readText _) fun _ => .pure _
    · exact .pure _

/-! ### The work -/

/-- The absolute path of a file in the work directory. -/
def renderedPath (c : Config) (directory : Place) (name : String) : Path :=
  ((Path.ofText c.workDir).child name).resolve directory

/-- The absolute path of a file in the directory for coverage. -/
def probedPath (c : Config) (directory : Place) (name : String) : Path :=
  (((Path.ofText c.workDir).resolve directory).child "coverage").child name

/-- A process is told to leave its coverage in the directory for coverage. -/
def LeavesCoverage (c : Config) (m : Machine) (call : Call) : Prop :=
  call.environment = some (withVariables m.environment
    [(Program.coverageVariable, (probedPath c m.directory "coverage.path").text)])

/-- What an evaluation does once its variant was compiled. -/
lemma started_evaluated (output : Option String) (compiled : Bool) :
    Preserves (Bench.Within (m₀.Started (Compilation.Leads c source exe
      (·.environment = some m₀.environment))) (fun _ => True) A) (do
        let name ← reading (·.name)
        let outcomes ← evaluateTests c (Test.all c.posTests c.negTests)
        let e : Evaluation :=
          { name, digest := (← variant).compiled.map (·.digest), compiled, outcomes
            fitness := fitnessOf (outcomes.map fun o => (o.1.name, o.2 == .passed))
              c.negativeTestWeight
            maxFitness :=
              Evaluation.greatestFitness c.posTests c.negTests c.negativeTestWeight }
        match output with
        | some path => if !path.isEmpty then onMachine (noteEvaluation path e)
        | none => pure ()
        return e) := by
  refine .bind (preserves_reading _) fun _ => .bind (started_evaluateTests _) fun outcomes =>
    .bind preserves_variant fun v => ?_
  split
  · exact .ite_bind (within_onMachine (.bind (started_needSpelledDirectories _ _)
      fun _ => started_appendText _ _)) fun _ => .pure _
  · exact .pure _

variable {v : Variant Float}

lemma run_sourceName (hv : b.altered = .ofVariant v) (start : String) :
    (reading (·.sourceName start)).run b = (.ok (start ++ v.suffix), b) := by
  rw [run_reading, hv]
  rfl

section Handed

variable (hcommand : Compilation.producesExecutable c = true) (hv : b.altered = .ofVariant v)

include hcommand hv

lemma started_evaluate (output : Option String) :
    b.machine.Started (Compilation.Hands c
        (renderedPath c b.machine.directory ("variant" ++ v.suffix))
        (renderedPath c b.machine.directory "variant")
        (·.environment = some b.machine.environment))
      ((evaluate c output).run b).2.machine := by
  rw [evaluate, run_bind_of_ok (run_sourceName hv "variant")]
  exact (within_compile_bind (K := fun _ => True) (A := fun _ => True) hcommand rfl
    ⟨.refl rfl, fun _ _ => trivial, trivial⟩ (fun _ _ _ => trivial)
    (started_evaluated output) rfl).machine

/-- An evaluation that comes to its command starts the compiler. -/
lemma leads_evaluate (output : Option String) {b₁ : Bench} {text : String} {words : List String}
    (hexe : exe = renderedPath c b.machine.directory "variant")
    (hwrite : (writeSource ((Path.ofText c.workDir).child ("variant" ++ v.suffix))).run b
      = (.ok (text, source), b₁))
    (hnul : '\x00' ∉ ((Path.ofText c.workDir).child "variant").text.toList)
    (hwords : Compilation.words c source exe = .ok words) :
    b.machine.Started (Compilation.Leads c source exe
        (·.environment = some b.machine.environment))
      ((evaluate c output).run b).2.machine := by
  rw [evaluate, run_bind_of_ok (run_sourceName hv "variant")]
  exact (within_compile_of_words (K := fun _ => True) (A := fun _ => True) hcommand hexe
    ⟨.refl rfl, fun _ _ => trivial, trivial⟩ (fun _ _ _ => trivial)
    (started_evaluated output) hv hwrite hnul hwords).machine

lemma started_sanityCheck :
    b.machine.Started (Compilation.Hands c
        (renderedPath c b.machine.directory ("sanity" ++ v.suffix))
        (renderedPath c b.machine.directory "sanity")
        (·.environment = some b.machine.environment))
      ((sanityCheck c).run b).2.machine := by
  rw [sanityCheck, run_bind_of_ok (run_callable hv _), run_bind_of_ok (run_provides hv _ _)]
  dsimp only
  rw [run_bind_of_ok (run_sourceName hv "sanity")]
  refine (within_compile_bind (K := fun _ => True) (A := fun _ => True) hcommand rfl
    ⟨.refl rfl, fun _ _ => trivial, trivial⟩ (fun _ _ _ => trivial) (fun success => ?_) rfl).machine
  exact .ite_bind (.throw _) fun _ => .bind (started_evaluateTests _) fun outcomes =>
    .ite_bind (.throw _) fun _ => within_onMachine (started_say _)

/-- Where weights are computed by paths, nothing is started for a program of lines. -/
lemma started_pathLocalization :
    b.machine.Started (fun calls => (calls ≠ [] → v.backend = .python) ∧ Compilation.Hands c
        (probedPath c b.machine.directory ("coverage" ++ v.suffix))
        (probedPath c b.machine.directory "coverage") (LeavesCoverage c b.machine) calls)
      ((pathLocalization c).run b).2.machine := by
  let d := b.machine.directory
  let I := Bench.Within (b.machine.Started (· = [])) (fun _ => True) (· = .ofVariant v)
  let J := fun b' : Bench => b.machine.Started (fun calls => (calls ≠ [] → v.backend = .python) ∧
    Compilation.Hands c (probedPath c d ("coverage" ++ v.suffix)) (probedPath c d "coverage")
      (LeavesCoverage c b.machine) calls) b'.machine
  have hIJ (b' : Bench) (hb : I b') : J b' := by
    refine hb.machine.imp ?_
    rintro calls rfl
    exact ⟨fun h => absurd rfl h, .inl rfl⟩
  have hI : I b := ⟨.refl rfl, fun _ _ => trivial, hv⟩
  change J _
  rw [pathLocalization]
  refine Preserves.run_bind_of hI (within_onMachine (preserves_resolve _)) hIJ
    fun workDir b₁ hb₁ hresolve => ?_
  obtain ⟨m, hresolve, -⟩ := exists_run_of_run_onMachine hresolve
  obtain ⟨rfl, -⟩ := Host.eq_resolve_of_run hresolve
  refine Preserves.run_bind_of hb₁ (within_onMachine (started_needDirectories _)) hIJ
    fun _ b₂ hb₂ _ => Preserves.run_bind_of hb₂ (preserves_reading _) hIJ fun name b₃ hb₃ hname =>
    Preserves.run_bind_of hb₃ (preserves_reading _) hIJ fun text b₄ hb₄ htext =>
    Preserves.run_bind_of hb₄ (within_onMachine (started_writeText _ _)) hIJ fun _ b₅ hb₅ _ =>
    Preserves.run_bind_of hb₅ (preserves_reading _) hIJ fun _ b₆ hb₆ _ => ?_
  rw [run_reading, hb₂.altered] at hname
  obtain rfl : "coverage" ++ v.suffix = name := Except.ok.inj (congrArg Prod.fst hname)
  rw [run_reading, hb₃.altered] at htext
  -- only modules have a text with probes
  obtain ⟨p, hp, -⟩ := Program.SlotModule.exists_module_of_probedText (congrArg Prod.fst htext)
  have hpython : v.backend = .python := by
    rw [Variant.backend, hp]
    rfl
  refine Machine.Started.imp (P := Compilation.Hands c _ _ (LeavesCoverage c b.machine))
    (within_compilation_bind hcommand hb₆ fun result => ?_).machine fun _ h => ⟨fun _ => hpython, h⟩
  dsimp only
  split
  · exact .bind (started_visits _ _ _ _) fun _ => .pure _
  · exact .throw _

lemma started_localize (hscheme : c.faultScheme = "path") :
    b.machine.Started (fun calls => (calls ≠ [] → v.backend = .python) ∧ Compilation.Hands c
        (probedPath c b.machine.directory ("coverage" ++ v.suffix))
        (probedPath c b.machine.directory "coverage") (LeavesCoverage c b.machine) calls)
      ((localize c).run b).2.machine := by
  have hrest {m₀ : Machine} {Q : List Call → Prop} (l : Localization Float) :
      Preserves (Bench.Within (m₀.Started Q) (fun _ => True) fun _ => True) (do
        alter (Altered.setLocalization l)
        let weighted ← reading (·.weighted)
        let size ← reading (·.size)
        onMachine (say
          s!"[Localization] scheme={c.faultScheme} weighted_atoms={weighted.length}/{size}")) :=
    .bind (within_alter fun _ _ => trivial) fun _ => .bind (preserves_reading _) fun _ =>
      .bind (preserves_reading _) fun _ => within_onMachine (started_say _)
  rw [localize, run_bind_of_ok (run_callable hv _), run_bind_of_ok (run_provides hv _ _),
    localization_of_path hscheme]
  exact (Preserves.run_bind (I := Bench.Within (b.machine.Started _) (fun _ => True) fun _ => True)
    ⟨started_pathLocalization hcommand hv, fun _ _ => trivial, trivial⟩ hrest).machine

end Handed

/-! ### Source and executable -/

section Names

variable {directory : Place} {start s t : String}

lemma text_renderedPath_inj (hs : '/' ∉ s.toList) (ht : '/' ∉ t.toList) (hslong : 2 < s.length)
    (htlong : 2 < t.length) :
    (renderedPath c directory s).text = (renderedPath c directory t).text ↔ s = t := by
  rw [renderedPath, renderedPath, Path.resolve_child_of_name hs hslong,
    Path.resolve_child_of_name ht htlong, Path.text_concat_inj]

lemma text_probedPath_inj (hs : '/' ∉ s.toList) (ht : '/' ∉ t.toList) (hslong : 2 < s.length)
    (htlong : 2 < t.length) :
    (probedPath c directory s).text = (probedPath c directory t).text ↔ s = t := by
  rw [probedPath, probedPath, Path.child_of_name hs (by omega), Path.child_of_name ht (by omega),
    Path.text_concat_inj]

/-- A name with a suffix behind it is no shorter, and has no slash if the suffix has none. -/
lemma name_append (hstart : '/' ∉ start.toList) (hlong : 2 < start.length) (hs : '/' ∉ s.toList) :
    '/' ∉ (start ++ s).toList ∧ 2 < (start ++ s).length := by
  constructor
  · simp [hstart, hs]
  · rw [String.length_append]
    omega

lemma append_eq_self_iff : start ++ s = start ↔ s = "" := by
  have hright : start ++ s = start ++ "" ↔ s = "" := String.append_right_inj start
  rwa [String.append_empty] at hright

end Names

/-- However a variant was built, and whatever it is compiled for: if the command makes an
executable, the compiler is the first process that is started, and it is given a source in the work
directory whose name ends in the suffix of the variant, and an executable with the same name without
it. So they are the same file if and only if the variant has no suffix, and it has none if and only
if it has lines and no file with a suffix was read. For weights by paths nothing is compiled that
has no suffix, and the coverage is left in a file other than the executable; this file is the source
if and only if the suffix is `.path`. -/
theorem source_is_executable_iff (hbuilt : b.altered.Built)
    (hcommand : Compilation.producesExecutable c = true) :
    ∃ v, b.altered = .ofVariant v ∧ (v.suffix = "" ↔ v.backend = .lines ∧ v.ownSuffix = none) ∧
      (∀ output, b.machine.Started (Compilation.Hands c
          (renderedPath c b.machine.directory ("variant" ++ v.suffix))
          (renderedPath c b.machine.directory "variant")
          (·.environment = some b.machine.environment))
        ((evaluate c output).run b).2.machine) ∧
      ((renderedPath c b.machine.directory ("variant" ++ v.suffix)).text
        = (renderedPath c b.machine.directory "variant").text ↔ v.suffix = "") ∧
      b.machine.Started (Compilation.Hands c
          (renderedPath c b.machine.directory ("sanity" ++ v.suffix))
          (renderedPath c b.machine.directory "sanity")
          (·.environment = some b.machine.environment))
        ((sanityCheck c).run b).2.machine ∧
      ((renderedPath c b.machine.directory ("sanity" ++ v.suffix)).text
        = (renderedPath c b.machine.directory "sanity").text ↔ v.suffix = "") ∧
      (c.faultScheme = "path" →
        b.machine.Started (fun calls => (calls ≠ [] → v.suffix ≠ "") ∧ Compilation.Hands c
            (probedPath c b.machine.directory ("coverage" ++ v.suffix))
            (probedPath c b.machine.directory "coverage") (LeavesCoverage c b.machine) calls)
          ((localize c).run b).2.machine) ∧
      ((probedPath c b.machine.directory ("coverage" ++ v.suffix)).text
        = (probedPath c b.machine.directory "coverage").text ↔ v.suffix = "") ∧
      (probedPath c b.machine.directory "coverage.path").text
        ≠ (probedPath c b.machine.directory "coverage").text ∧
      ((probedPath c b.machine.directory ("coverage" ++ v.suffix)).text
        = (probedPath c b.machine.directory "coverage.path").text ↔ v.suffix = ".path") := by
  obtain ⟨v, hv, hnamed⟩ := hbuilt.exists_variant
  have hsuffix := hnamed.suffix_eq_empty_iff
  have hname (start : String) (hstart : '/' ∉ start.toList) (hlong : 2 < start.length) :=
    name_append hstart hlong hnamed.slash_notMem_suffix
  have hvariant := hname "variant" (by decide) (by decide)
  have hsanity := hname "sanity" (by decide) (by decide)
  have hcoverage := hname "coverage" (by decide) (by decide)
  refine ⟨v, hv, hsuffix, started_evaluate hcommand hv, ?_, started_sanityCheck hcommand hv, ?_,
    fun hscheme => (started_localize hcommand hv hscheme).imp fun calls h => ⟨fun hne => ?_, h.2⟩,
    ?_, ?_, ?_⟩
  · rw [text_renderedPath_inj hvariant.1 (by decide) hvariant.2 (by decide), append_eq_self_iff]
  · rw [text_renderedPath_inj hsanity.1 (by decide) hsanity.2 (by decide), append_eq_self_iff]
  · rw [ne_eq, hsuffix, h.1 hne]
    simp
  · rw [text_probedPath_inj hcoverage.1 (by decide) hcoverage.2 (by decide), append_eq_self_iff]
  · rw [ne_eq, text_probedPath_inj (by decide) (by decide) (by decide) (by decide)]
    decide
  · have hpath : "coverage.path" = "coverage" ++ ".path" := rfl
    rw [text_probedPath_inj hcoverage.1 (by decide) hcoverage.2 (by decide), hpath,
      String.append_right_inj]

/-- A variant of one line, whose sources may have a suffix, at a bench with an empty machine. -/
def oneLine (ownSuffix : Option String) : Bench :=
  { machine := .ofDirectory [] "1", cache := none, stats := .zero, port := 808
    altered := .ofVariant
      { program := .lines ["a"], localization := ∅, history := [], ownSuffix, compiled := none } }

/-- A configuration that compiles in the root directory. -/
def inRoot : Config :=
  (Config.default.set .compileCommand "cc __SOURCE_NAME__ -o __EXE_NAME__").set .workDir "/"

lemma producesExecutable_inRoot : Compilation.producesExecutable inRoot = true := by
  decide

/-- The compiler is started for a variant of one line, with the source and the executable in the
root directory. -/
lemma leads_oneLine {ownSuffix : Option String} {suffix : String} {words : List String}
    (hsuffix : ownSuffix = none ∧ suffix = "" ∨ ownSuffix = some ".s" ∧ suffix = ".s")
    (hwords : Compilation.words inRoot (.ofText ("/variant" ++ suffix)) (.ofText "/variant")
      = .ok words) :
    ∃ calls, ((evaluate inRoot none).run (oneLine ownSuffix)).2.machine.calls
      = ⟨words, inRoot.compileTimeout, none⟩ :: calls := by
  have hroot : (Machine.ofDirectory [] "1").files.find [] "/" = .ok ([], .directory) :=
    FileTree.find_eq_ok_iff.mpr ⟨by decide +kernel, rfl⟩
  have hexe : Path.ofText "/variant" = renderedPath inRoot [] "variant" := by decide
  have hcompiles : Compiles inRoot (oneLine ownSuffix).machine
      ((Path.ofText inRoot.workDir).child ("variant" ++ suffix)) (.ofText "/variant")
      (.ofText ("/variant" ++ suffix)) ["variant" ++ suffix]
      ["cc", "/variant" ++ suffix, "-o", "/variant" ++ suffix] := by
    rcases hsuffix with ⟨rfl, rfl⟩ | ⟨rfl, rfl⟩ <;>
      exact ⟨by decide, by decide, by decide, by decide,
        ⟨[], hroot⟩, ⟨none, by decide, by decide +kernel, rfl, fun _ => rfl⟩,
        by decide, ⟨_, _, rfl⟩⟩
  have hv : (oneLine ownSuffix).altered = .ofVariant (oneLine ownSuffix).altered.variant := rfl
  have htext : (oneLine ownSuffix).altered.variant.program.text = .ok "a\n" := rfl
  have hwrite := run_writeSource_of_compiles hv htext hcompiles
  have hname : ((oneLine ownSuffix).altered.variant.suffix) = suffix := by
    rcases hsuffix with ⟨rfl, rfl⟩ | ⟨rfl, rfl⟩ <;> rfl
  rw [← hname] at hwrite hwords
  have hleads := leads_evaluate producesExecutable_inRoot hv none hexe hwrite (by decide) hwords
  obtain ⟨calls, hcalls, hleads⟩ := hleads.calls
  cases calls with
  | nil => exact hleads.elim
  | cons call calls =>
    obtain ⟨⟨words', hwords', rfl⟩, -⟩ := hleads
    obtain rfl := Except.ok.inj (hwords.symm.trans hwords')
    exact ⟨calls, hcalls⟩

lemma built_oneLine : (oneLine none).altered.Built :=
  @Altered.Built.made _ 0 (.fresh .lines) (.read "a\n") trivial

lemma built_oneLine_suffix : (oneLine (some ".s")).altered.Built :=
  @Altered.Built.made _ 0 built_oneLine (.named ".s") ⟨by decide, "p.s", by decide⟩

/-- A line that was read from a file `p.s` is compiled to an executable other than its source. -/
theorem source_is_executable_iff_suffix :
    ∃ (c : Config) (b : Bench), b.altered.Built ∧ Compilation.producesExecutable c = true ∧
      (∃ calls, ((evaluate c none).run b).2.machine.calls
        = ⟨["cc", "/variant.s", "-o", "/variant"], c.compileTimeout, none⟩ :: calls) ∧
      (renderedPath c b.machine.directory "variant.s").text
        ≠ (renderedPath c b.machine.directory "variant").text := by
  obtain ⟨v, hv, -, -, hvariant, -⟩ :=
    source_is_executable_iff (c := inRoot) built_oneLine_suffix producesExecutable_inRoot
  have hsuffix : v.suffix = ".s" := (congrArg (·.variant.suffix) hv).symm
  rw [hsuffix] at hvariant
  exact ⟨inRoot, oneLine (some ".s"), built_oneLine_suffix, producesExecutable_inRoot,
    leads_oneLine (.inr ⟨rfl, rfl⟩) (by decide), fun h => absurd (hvariant.mp h) (by decide)⟩

/-- A line that was read from a text is compiled to its own source. -/
theorem compiler_overwrites_source :
    ∃ (c : Config) (b : Bench), b.altered.Built ∧ Compilation.producesExecutable c = true ∧
      ∃ calls, ((evaluate c none).run b).2.machine.calls
        = ⟨["cc", "/variant", "-o", "/variant"], c.compileTimeout, none⟩ :: calls :=
  ⟨inRoot, oneLine none, built_oneLine, producesExecutable_inRoot,
    leads_oneLine (.inl ⟨rfl, rfl⟩) (by decide)⟩

end Work

end VariantRepair
