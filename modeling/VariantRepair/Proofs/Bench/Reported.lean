import Mathlib.Tactic.Common
import VariantRepair.Bench.Evaluate
import VariantRepair.Bench.Localize
import VariantRepair.Proofs.Bench.Foreign
import VariantRepair.Proofs.Bench.Prepared
import VariantRepair.Proofs.Localization.FaultRows
import VariantRepair.Proofs.Variant.Reported

/-!
# Work on a variant reports its failures

The work of a run on a variant that has all its parts is made of what is done on the machine and of
what the variant is asked. So its failures are reported, if it tests nothing before it compiles, and
apart from a fault file with a row that has nothing but separators.
-/

namespace VariantRepair

open Host

variable {α : Type} {E : Failure → Prop}

/-! ### The cache -/

namespace Cache

lemma reported_entriesOf (entries : List (CacheKey × Bool)) (vs : List Value) :
    Reported E (entriesOf entries vs) := by
  induction vs generalizing entries with
  | nil => exact .ok _
  | cons v vs ih =>
    rw [entriesOf]
    split
    · exact ih _
    · exact .error (.inl (Failure.isReported_naming fun _ => rfl))

lemma reported_ofValue (v : Value) : Reported E (ofValue v) := by
  cases v with
  | map ps =>
    rw [ofValue]
    dsimp only
    split_ifs
    · exact .error (.inl rfl)
    · exact .error (.inl (Failure.isReported_naming fun _ => rfl))
    · split
      · exact reported_entriesOf _ _
      · exact .error (.inl rfl)
  | _ => exact .error (.inl rfl)

lemma reported_ofRecord (r : Record) : Reported E (ofRecord r) := by
  cases r with
  | value v => exact reported_ofValue v
  | snapshot a => exact .error (.inl rfl)
  | damaged => exact .error (.inl rfl)

lemma tells_readStored (c : Cache) : Tells E c.readStored := by
  refine .bind (faults_isFile _).tells fun found => .ite_bind (.throw (.inl rfl)) fun _ => ?_
  exact .tryCatch_of (.of_preserves (preserves_readRecord _)) fun _ _ => .throw (.inl rfl)

/-- Whatever is wrong with the file of a cache is reported. -/
lemma tells_readEntries (c : Cache) : Tells E c.readEntries := by
  refine .bind (tells_readStored c) fun r => ?_
  cases hr : ofRecord r with
  | ok entries => exact .pure _
  | error f => exact .throw (reported_ofRecord r f hr)

lemma tells_restore (c : Cache) : Tells E c.restore := by
  rw [restore]
  refine .bind (.tryCatch (.bind (tells_readEntries c) fun _ => .bind (faults_say _).tells fun _ =>
    .pure _) fun f hf => ?_) fun early => ?_
  · split
    · exact .bind (faults_fileExists _).tells fun found =>
        .ite_bind (faults_warn _).tells fun _ => .pure _
    · exact .bind (.throw hf) fun _ => .pure _
  · cases early with
    | error r => exact .pure _
    | ok r => exact .pure _

lemma tells_discard (path : String) : Tells E (discard path) := by
  refine .bind (faults_fileExists _).tells fun found => ?_
  split_ifs
  · exact (faults_deleteFile _).tells
  · exact .pure _

lemma tells_temporaryPath (c : Cache) : Tells E c.temporaryPath := by
  refine .bind_get fun m _ => ?_
  split
  · exact .pure _
  · exact (faults_refusal _).tells

lemma tells_persist (c : Cache) : Tells E c.persist := by
  have hnames : Reported E c.checkNames := by
    rw [checkNames]
    split_ifs
    · exact .error (.inl rfl)
    · exact .ok _
  refine .bind (.ofExcept hnames) fun _ => .bind (faults_fileExists _).tells fun found =>
    .ite_bind (faults_needDirectories _).tells fun _ => .bind (tells_temporaryPath c)
    fun temporary => .bind (.tryCatch ?_ fun f hf => ?_) fun _ => tells_discard _
  · exact .bind (faults_writeContent _ _).tells fun _ => (faults_moveFile _ _).tells
  · exact .bind (tells_discard _) fun _ => .throw hf

end Cache

/-! ### Fault files -/

/-- Among the rows of a fault file there is one that has nothing but separators. -/
def HasEmptyRow (text : String) : Prop :=
  ∃ row ∈ Text.lines text, (beforeComment row).isEmpty = false ∧ faultParts (beforeComment row) = []

/-- A row with nothing but separators is not reported; any other row that is not read is. -/
lemma reported_faultRows (path text : String) :
    Reported (fun f => HasEmptyRow text ∧ f = .index "list index out of range")
      (faultRows path text) := by
  rw [faultRows]
  obtain ⟨entries, hread, -⟩ | ⟨k, raw, hstops, hfail⟩ :=
    faultRowsFrom_cases path 1 (Text.lines text)
  · rw [hread]
    exact .ok _
  · rw [hfail, rowFailure]
    split_ifs with hseparators
    · exact .error (.inr ⟨⟨raw, List.mem_of_getElem? hstops.line, by simpa using hstops.row,
        faultParts_eq_nil_iff.mpr hseparators⟩, rfl⟩)
    · exact .error (.inl rfl)

/-- A variant that has all its parts and was compiled. -/
def Altered.IsCompiled (a : Altered) : Prop := ∃ v k, a = .ofVariant v ∧ v.compiled = some k

lemma Altered.IsCompiled.isWhole {a : Altered} (h : a.IsCompiled) : a.IsWhole := by
  obtain ⟨v, k, rfl, -⟩ := h
  exact isWhole_ofVariant v

lemma Altered.IsWhole.remember {a : Altered} (h : a.IsWhole) (k : Compiled) :
    (a.remember k).IsCompiled := by
  obtain ⟨v, rfl⟩ := h
  exact ⟨{ v with compiled := some k }, k, rfl, rfl⟩

namespace Work

/-- Work that reports its failures, on any bench with a variant of some kind, and leaves one. -/
abbrev TellsOn (A : Altered → Prop) (E : Failure → Prop) (w : Work α) : Prop :=
  Reports (fun b : Bench => A b.altered) E w

variable {A : Altered → Prop} {c : Config}

/-! ### Single steps -/

lemma tells_onMachine {a : Action α} (h : Tells E a) : TellsOn A E (onMachine a) := by
  refine ⟨altered_onMachine a, fun b _ => ?_⟩
  rw [run_onMachine]
  exact h.reported b.machine trivial

lemma tells_alter {w : Altered.Alteration α} (h : Reports A E w) : TellsOn A E (alter w) := by
  refine ⟨fun b hb => ?_, fun b hb => ?_⟩
  · rw [run_alter]
    exact h.preserves b.altered hb
  · rw [run_alter]
    exact h.reported b.altered hb

lemma tells_reading {f : Altered → Except Failure α} (h : ∀ a, A a → Reported E (f a)) :
    TellsOn A E (reading f) :=
  .bind_get fun b hb => .ofExcept (h b.altered hb)

lemma tells_count (f : Stats → Stats) : TellsOn A E (count f) := .modify fun _ h => h

lemma tells_changeCache (f : Cache → Cache) : TellsOn A E (changeCache f) := .modify fun _ h => h

section Whole

variable (hA : ∀ a, A a → a.IsWhole)

include hA

lemma tells_callable (operation : String) : TellsOn A E (reading (·.callable operation)) :=
  tells_reading fun a ha => (hA a ha).reported_callable operation

lemma tells_provides (part asked : String) : TellsOn A E (reading (·.provides part asked)) :=
  tells_reading fun a ha => (hA a ha).reported_provides part asked

lemma tells_name : TellsOn A E (reading (·.name)) :=
  tells_reading fun a ha => (hA a ha).reported_name

lemma tells_size : TellsOn A E (reading (·.size)) :=
  tells_reading fun a ha => (hA a ha).reported_size

lemma tells_weighted : TellsOn A E (reading (·.weighted)) :=
  tells_reading fun a ha => (hA a ha).reported_weighted

lemma tells_text : TellsOn A E (reading (·.text)) :=
  tells_reading fun a ha => (hA a ha).reported_text

omit hA in
lemma tells_sourceName (start : String) : TellsOn A E (reading (·.sourceName start)) :=
  tells_reading fun a _ => a.reported_sourceName start

/-! ### Compiling and testing -/

lemma tells_compileEnded (keepSource : Bool) (source : Path) (result : Compilation) :
    TellsOn A E (compileEnded keepSource source result) := by
  have hend : TellsOn A E (do
      if !keepSource && result.executable.any (· ≠ source) then
        onMachine (Host.deleteFile source.text)
      return result.success) :=
    .ite_bind (tells_onMachine (faults_deleteFile _).tells) fun _ => .pure _
  rw [compileEnded]
  by_cases hfailed : !result.success
  · rw [if_pos hfailed]
    exact .bind (tells_name hA) fun _ => .bind (tells_onMachine (faults_warn _).tells) fun _ => hend
  · rw [if_neg hfailed]
    exact hend

lemma tells_compile (hremember : ∀ a k, A a → A (a.remember k)) (sourcePath exePath : Path)
    (keepSource : Bool) : TellsOn A E (compile c sourcePath exePath keepSource) := by
  have hwrite : TellsOn A E (writeSource sourcePath) :=
    .bind (tells_callable hA _) fun _ => .bind (tells_text hA) fun _ =>
      .bind (tells_onMachine (faults_resolve _).tells) fun _ =>
      .bind (tells_onMachine (.bind (faults_needDirectories _).tells fun _ =>
        (faults_writeText _ _).tells)) fun _ => .pure _
  rw [compile_eq]
  refine .bind hwrite fun written => .bind (tells_provides hA _ _) fun _ =>
    .bind (tells_onMachine (faults_resolve _).tells) fun exe =>
    .bind (tells_onMachine (faults_compilation _ _ _).tells) fun result =>
    .bind (tells_provides hA _ _) fun _ => .bind (tells_count _) fun _ =>
    .bind (tells_alter (.modify fun a ha => hremember a _ ha)) fun _ =>
    tells_compileEnded hA _ _ _

omit hA in
lemma tells_runTest (executable source : String) (test : Test) (extra : List (String × String)) :
    TellsOn A E (runTest c executable source test extra) := by
  have hwords (port : Int) : Reported E (testWords c executable source test port) :=
    fun f hf => .inl (fails_testWords executable source test port f hf).isReported
  exact .bind_get fun b _ => .bind (.ofExcept (hwords _)) fun _ =>
    .bind (.modify fun _ h => h) fun _ =>
    tells_onMachine (.bind (faults_start _ _ _).tells fun e => (faults_outcomeOf test e).tells)

lemma tells_freshOutcome (digest : String) (executable source : Path) (test : Test)
    (useCache : Bool) : TellsOn A E (freshOutcome c digest executable source test useCache) := by
  refine .bind (tells_provides hA _ _) fun _ => .bind (tells_runTest _ _ _ _) fun outcome =>
    .bind (tells_provides hA _ _) fun _ => .bind (tells_count _) fun _ => ?_
  dsimp only
  split_ifs
  · exact .bind (tells_changeCache _) fun _ => .bind (tells_changeCache _) fun _ => .pure _
  · exact .bind (tells_changeCache _) fun _ => .pure _
  · exact .pure _

lemma tells_ownCache (asked : String) : TellsOn A E (ownCache asked) := by
  refine .bind_get fun b hb => ?_
  obtain ⟨v, hv⟩ := hA _ hb
  rw [hv]
  exact .pure _

end Whole

/-- A test of what was compiled reports its failures. -/
lemma tells_evaluateTest (test : Test) : TellsOn Altered.IsCompiled E (evaluateTest c test) := by
  have hwhole (a : Altered) (ha : a.IsCompiled) : a.IsWhole := ha.isWhole
  have hvariant : TellsOn Altered.IsCompiled E variant := .bind_get fun _ _ => .pure _
  refine .bind (tells_callable hwhole _) fun _ =>
    hvariant.bind_of (Q := fun v => ∃ k, v.compiled = some k) ?_ ?_
  · rintro b v b' ⟨w, k, hw, hk⟩ hrun
    obtain ⟨hv, -⟩ := Prod.mk.inj hrun
    obtain rfl := Except.ok.inj hv
    exact ⟨k, by rw [hw]; exact hk⟩
  · rintro v ⟨k, hk⟩
    rw [hk]
    dsimp only
    split
    · refine .bind (tells_ownCache hwhole _) fun cache => ?_
      split
      · exact .bind (tells_provides hwhole _ _) fun _ => .bind (tells_count _) fun _ => .pure _
      · exact tells_freshOutcome hwhole _ _ _ _ _
    · exact .pure _

lemma tells_evaluateTests (tests : List Test) :
    TellsOn Altered.IsCompiled E (evaluateTests c tests) := by
  induction tests with
  | nil => exact .pure _
  | cons test tests ih => exact .bind (tells_evaluateTest test) fun _ => .bind ih fun _ => .pure _

/-- Work that goes on from a compilation finds that the variant was compiled. -/
lemma tells_compile_bind {sourcePath exePath : Path} {keepSource : Bool} {f : Bool → Work α}
    (hf : ∀ success, TellsOn Altered.IsCompiled E (f success)) :
    TellsOn Altered.IsWhole E (compile c sourcePath exePath keepSource >>= f) := by
  refine .bind_to (tells_compile (fun _ h => h) (fun a k h => (h.remember k).isWhole) _ _ _) ?_
    (fun b h => h.isWhole) hf
  rintro b success b' ⟨v, hv⟩ hrun
  obtain ⟨f, m, hcases⟩ | ⟨success', m, k, hcases⟩ :=
    run_compile_cases (c := c) hv sourcePath exePath keepSource
  · rw [hcases] at hrun
    cases hrun
  · rw [hcases] at hrun
    cases hrun
    exact ⟨{ v with compiled := some k }, k, rfl, rfl⟩

/-! ### Checking and localizing -/

lemma tells_sanityCheck : TellsOn Altered.IsWhole E (sanityCheck c) := by
  have hwhole (a : Altered) (ha : a.IsWhole) : a.IsWhole := ha
  have hfailed (reason : String) (failures : List String) :
      TellsOn Altered.IsCompiled E (throw (.repair (.sanityCheck reason failures)) : Work PUnit) :=
    .throw (.inl rfl)
  exact .bind (tells_callable hwhole _) fun _ => .bind (tells_provides hwhole _ _) fun _ =>
    .bind (tells_sourceName _) fun name => tells_compile_bind fun compiled =>
    .ite_bind (hfailed _ _) fun _ => .bind (tells_evaluateTests _) fun outcomes =>
    .ite_bind (hfailed _ _) fun _ => tells_onMachine (faults_say _).tells

/-- A fault file is read, or it is reported that it is not, if its rows are. -/
lemma reported_readFaultFile {path : String} {m : Machine}
    (hrows : ∀ text, (readText (Path.ofText path).text).run m = (.ok text, m) →
      Reported E (faultRows (Path.ofText path).text text)) :
    Reported E ((readFaultFile path).run m).1 := by
  have hcaught : Tells E (do
      try readText (Path.ofText path).text
      catch f =>
        if f.isSystem then
          throw (.repair (.faultLocalization (.unreadable (Path.ofText path).text f.message)))
        else throw f : Action String) := by
    refine .tryCatch (faults_readText _).tells fun f hf => ?_
    split_ifs
    · exact .throw (.inl rfl)
    · exact .throw hf
  rw [readFaultFile]
  refine .run_bind (hcaught.reported m trivial) fun text m' hrun => ?_
  cases hread : (readText (Path.ofText path).text).run m with
  | mk r m₁ =>
    obtain rfl := run_eq_of_preserves (fun _ => preserves_readText _) hread
    cases r with
    | error f =>
      rw [run_tryCatch_of_error hread] at hrun
      split_ifs at hrun <;> cases hrun
    | ok text' =>
      rw [run_tryCatch_of_ok hread] at hrun
      cases hrun
      exact (Reports.ofExcept (I := fun _ => True) (hrows text hread)).reported _ trivial

lemma reported_rowWeights {a : Altered} (h : a.IsWhole) (rows : List (Int × Float)) :
    Reported E (rowWeights a rows) :=
  .foldlM (fun _ row => .bind (h.reported_atomsAtLine row.1) fun _ _ => .ok _) rows ∅

/-- The fault file has a row with nothing but separators, and it is asked for. -/
def ReadsEmptyRow (c : Config) (m : Machine) (f : Failure) : Prop :=
  c.faultScheme = "line" ∧ f = .index "list index out of range" ∧
    ∃ text, (readText (Path.ofText c.faultFile).text).run m = (.ok text, m) ∧ HasEmptyRow text

lemma reported_lineLocalization {b : Bench} (hb : b.altered.IsWhole)
    (hscheme : c.faultScheme = "line") :
    Reported (ReadsEmptyRow c b.machine) ((lineLocalization c).run b).1 := by
  have hrows : Reported (ReadsEmptyRow c b.machine)
      ((onMachine (readFaultFile c.faultFile)).run b).1 := by
    rw [run_onMachine]
    exact reported_readFaultFile fun text hread => (reported_faultRows _ text).mono
      fun f hf => ⟨hscheme, hf.2, text, hread, hf.1⟩
  rw [lineLocalization]
  dsimp only
  split_ifs
  · exact .run_bind (.error (.inl rfl)) fun _ _ h => by cases h
  · refine .run_bind hrows fun rows b' hrun => ?_
    obtain ⟨m, -, rfl⟩ := exists_run_of_run_onMachine hrun
    rw [run_reading]
    exact reported_rowWeights hb rows

lemma tells_visits (executable source coverage : String) (tests : List Test) :
    TellsOn Altered.IsWhole E (visits c executable source coverage tests) := by
  induction tests with
  | nil => exact .pure _
  | cons test tests ih =>
    have hcoverage : Tells E (readCoverage coverage) := by
      refine .bind (faults_isFile _).tells fun found => ?_
      split_ifs
      · exact .bind (faults_readText _).tells fun _ => .pure _
      · exact .pure _
    exact .bind (tells_onMachine (faults_deleteFile _).tells) fun _ =>
      .bind (tells_provides (fun _ h => h) _ _) fun _ => .bind (tells_runTest _ _ _ _) fun _ =>
      .bind (tells_onMachine hcoverage) fun _ => .bind ih fun _ => .pure _

lemma tells_pathLocalization : TellsOn Altered.IsWhole E (pathLocalization c) := by
  refine .bind (tells_onMachine (faults_resolve _).tells) fun directory =>
    .bind (tells_onMachine (faults_needDirectories _).tells) fun _ =>
    .bind (tells_sourceName _) fun name =>
    .bind (tells_reading fun a ha => ha.reported_probedText) fun text =>
    .bind (tells_onMachine (faults_writeText _ _).tells) fun _ =>
    .bind (tells_provides (fun _ h => h) _ _) fun _ =>
    .bind (tells_onMachine (faults_compilation _ _ _).tells) fun result => ?_
  split
  · exact .bind (tells_visits _ _ _ _) fun _ => .pure _
  · exact .throw (.inl rfl)

/-- Localizing the faults of a program fails with what is reported, apart from a row of the fault
file that has nothing but separators. -/
lemma reported_localization {b : Bench} (hb : b.altered.IsWhole) :
    Reported (ReadsEmptyRow c b.machine) ((localization c).run b).1 := by
  rw [localization]
  split_ifs with huniform hline hpath
  · have hsize : TellsOn Altered.IsWhole (ReadsEmptyRow c b.machine) (do
        return Localization.ofList (uniformWeights (← reading (·.size)))) :=
      .bind (tells_size fun _ h => h) fun _ => .pure _
    exact hsize.reported b hb
  · exact reported_lineLocalization hb (beq_iff_eq.mp hline)
  · exact tells_pathLocalization.reported b hb
  · exact .error (.inl rfl)

lemma reported_localize {b : Bench} (hb : b.altered.IsWhole) :
    Reported (ReadsEmptyRow c b.machine) ((localize c).run b).1 := by
  have hgive (l : Localization Float) : TellsOn Altered.IsWhole (ReadsEmptyRow c b.machine) (do
      alter (Altered.setLocalization l)
      let weighted ← reading (·.weighted)
      let size ← reading (·.size)
      onMachine (say
        s!"[Localization] scheme={c.faultScheme} weighted_atoms={weighted.length}/{size}")) :=
    .bind (tells_alter (Altered.reports_setLocalization l)) fun _ =>
      .bind (tells_weighted fun _ h => h) fun _ => .bind (tells_size fun _ h => h) fun _ =>
      tells_onMachine (faults_say _).tells
  obtain ⟨v, hv⟩ := hb
  rw [localize, run_bind_of_ok (run_callable hv _), run_bind_of_ok (run_provides hv _ _)]
  refine .run_bind (reported_localization ⟨v, hv⟩) fun l b' hrun => ?_
  have hb' : b'.altered.IsWhole := by
    have hkept := altered_localization (c := c) (A := Altered.IsWhole) b ⟨v, hv⟩
    rwa [hrun] at hkept
  exact (hgive l).reported b' hb'

/-! ### Saving and evaluating -/

lemma tells_saveSnapshot (path : String) : TellsOn Altered.IsWhole E (saveSnapshot path) :=
  .bind (tells_callable (fun _ h => h) _) fun _ => .bind_get fun _ _ => tells_onMachine
    (.bind (faults_needDirectories _).tells fun _ => (faults_writeContent _ _).tells)

lemma tells_noteEvaluation (path : String) (e : Evaluation) : Tells E (noteEvaluation path e) :=
  .bind (faults_needSpelledDirectories _ _).tells fun _ => (faults_appendText _ _).tells

lemma tells_evaluate (output : Option String) : TellsOn Altered.IsWhole E (evaluate c output) := by
  have hvariant : TellsOn Altered.IsCompiled E variant := .bind_get fun _ _ => .pure _
  refine .bind (tells_sourceName _) fun name => tells_compile_bind fun compiled =>
    .bind (tells_name fun _ h => h.isWhole) fun name =>
    .bind (tells_evaluateTests _) fun outcomes => .bind hvariant fun v => ?_
  split
  · exact .ite_bind (tells_onMachine (tells_noteEvaluation _ _)) fun _ => .pure _
  · exact .pure _

end Work

end VariantRepair
