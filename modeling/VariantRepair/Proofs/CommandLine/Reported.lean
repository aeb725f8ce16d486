import Mathlib.Tactic.Common
import VariantRepair.Proofs.Bench.Reported
import VariantRepair.Proofs.CommandLine.Archived

/-!
# What escapes a run

Some failures of a run are not reported: they come from settings, from the data file, from a
snapshot, from a fault file, from the metadata of an archive, and from two hyphens in place of a
number. Whatever else fails before a run works on its program is reported.
-/

namespace VariantRepair

open Host

/-! ### Settings -/

namespace Config

variable {c : Config} {E : Failure → Prop}

/-- Among settings there is one that overflows when it is converted for its field. -/
def Overflows (settings : List (Value × Value)) (f : Failure) : Prop :=
  ∃ field, ∃ p ∈ settings, sets field p = true ∧ field.kind.ofValue p.2 = .error f

lemma Overflows.tail {p : Value × Value} {settings : List (Value × Value)} {f : Failure}
    (h : Overflows settings f) : Overflows (p :: settings) f := by
  obtain ⟨field, q, hq, hsets, hvalue⟩ := h
  exact ⟨field, q, List.mem_cons_of_mem p hq, hsets, hvalue⟩

/-- A setting that is refused is reported, unless it overflows. -/
lemma reported_coerce (field : Field) (raw : Value) :
    Reported (fun f => field.kind.ofValue raw = .error f) (coerce field raw) := by
  rw [coerce]
  split
  · next f hf => exact .error (.inr hf)
  · exact .ok _
  · exact .error (.inl (Failure.isReported_naming fun _ => rfl))

lemma reported_overlayFrom (settings : List (Value × Value)) :
    Reported (Overflows settings) (c.overlayFrom settings).2 := by
  induction settings generalizing c with
  | nil => exact .ok c
  | cons p settings ih =>
    obtain ⟨key, raw⟩ := p
    have hrest (c : Config) : Reported (Overflows ((key, raw) :: settings))
        (c.overlayFrom settings).2 := ih.mono fun _ h => h.tail
    have hwritten := Value.reported_written (E := Overflows ((key, raw) :: settings)) key
    rw [overlayFrom]
    split
    · next e hkey =>
      rw [hkey] at hwritten
      exact .error (hwritten _ rfl)
    · next name hkey =>
      split
      · exact hrest c
      · next field hfield =>
        split
        · exact hrest c
        · next hnull =>
          have hsets : sets field (key, raw) = true := (sets_iff hkey raw field).mpr ⟨hnull, hfield⟩
          split
          · next f hf =>
            refine .error ((reported_coerce field raw f hf).imp_right fun hvalue => ?_)
            exact ⟨field, (key, raw), List.mem_cons_self, hsets, hvalue⟩
          · exact hrest _

lemma reported_check (c : Config) : Reported E c.check := by
  rw [check]
  split
  · exact .error (.inl rfl)
  · split
    · exact .error (.inl rfl)
    · split
      · exact .error (.inl rfl)
      · split
        · exact .error (.inl rfl)
        · exact .ok c

end Config

namespace CommandLine

open Work

variable {o : Options} {c : Config} {m m₁ : Machine}

lemma tells_overlay (c : Config) (settings : List (Value × Value)) :
    Tells (Config.Overflows settings) (overlay c settings) := by
  have hoverlay : Reported (Config.Overflows settings) (c.overlay settings).2 :=
    .bind (Config.reported_overlayFrom settings) fun c _ => Config.reported_check c
  exact .bind (.forM fun _ => (faults_say _).tells) fun _ => .ofExcept hoverlay

lemma tells_loadEnvironment {E : Failure → Prop} (path : String) (override : Bool) :
    Tells E (loadEnvironment path override) := by
  refine .bind (faults_isFile _).tells fun found => ?_
  split_ifs
  · exact .pure _
  · refine .bind (faults_readText _).tells fun text => .bind (.forM fun p => ?_) fun _ => .pure _
    refine .bind_get fun m _ => ?_
    split_ifs
    · exact (faults_setVariable _ _).tells
    · exact .pure _

/-- The settings that a run reads: those in its environment, those in its data file, and those of
its command line. -/
inductive GivesSettings (o : Options) (m : Machine) : List (Value × Value) → Prop
  | environment {assignments env : Config.Environment} (hfile : FileAssignments o m assignments)
      (henv : ∀ name, env.lookup name
        = (m.environment.lookup name).or (assignments.lookup name)) :
      GivesSettings o m (Config.settingsOfEnvironment env)
  | dataFile {entries : List (Value × Value)} (h : FileEntries o m entries) :
      GivesSettings o m entries
  | commandLine : GivesSettings o m o.overrides

/-! ### What is not reported -/

/-- What a run does before it archives a variant. -/
def assess (o : Options) (c : Config) : Work Evaluation := do
  loadProgram c (nonempty o.loadSnapshot)
  prepare o c
  vary o c
  let e ← evaluate c (nonempty o.output)
  onMachine (say (evaluationLine e))
  return e

/-- A run works out its configuration, sets up its bench, and gets to another bench by some work. -/
def Reaches {α : Type} (o : Options) (m : Machine) (w : Config → Work α) (c : Config) (a : α)
    (b : Bench) : Prop :=
  ∃ m₁ start, (CommandLine.resolve o).run m = (.ok c, m₁) ∧
    (setUp o c).run m₁ = (.ok start, start.machine) ∧ (w c).run start = (.ok a, b)

/-- The archive has the source at hand, with metadata that do not take the evaluation's name. -/
def RefusesName (o : Options) (e : Evaluation) (b : Bench) (f : Failure) : Prop :=
  ∃ directory suffix source opened m metadata, nonempty o.archive = some directory ∧
    (Archive.open directory suffix).run b.machine = (.ok opened, m) ∧
    b.altered.text = .ok source ∧
    opened.index.lookup (Archive.shortDigest source) = some metadata ∧
    Archive.noteName metadata e.name = .error f

/-- What a run can fail with that is not reported. -/
inductive Escapes (o : Options) (m : Machine) : Failure → Prop
  /-- A setting overflows. -/
  | setting {settings : List (Value × Value)} {f : Failure} (hgives : GivesSettings o m settings)
      (h : Config.Overflows settings f) : Escapes o m f
  /-- The data file is no document. -/
  | dataFile {text : String} {f : Failure} (hconfig : o.noConfig = false)
      (hname : Config.isJsonName (Path.ofText o.config.text).suffix = false)
      (hread : (readText (Path.ofText o.config.text).text).run m = (.ok text, m))
      (h : Config.settingsOfText false text = .error f) : Escapes o m f
  /-- The snapshot is no stored value. -/
  | noRecord {path : String} {content : Content} (hpath : nonempty o.loadSnapshot = some path)
      (hread : (readContent path).run m = (.ok content, m))
      (h : ∀ r, content = .record r → r = .damaged) : Escapes o m .unreadableRecord
  /-- The snapshot is a stored value that was not made from a variant. -/
  | noVariant {path : String} {r : Record} {held : Record.Held} {f : Failure}
      (hpath : nonempty o.loadSnapshot = some path)
      (hread : (readRecord path).run m = (.ok r, m)) (hheld : r.held path = .ok held)
      (h : ∀ v, held ≠ .variant (.ofVariant v)) : Escapes o m f
  /-- A row of the fault file has nothing but separators. -/
  | faultFile {c : Config} {b : Bench} {f : Failure}
      (hreaches : Reaches o m (fun c => do
        loadProgram c (nonempty o.loadSnapshot)
        check o c) c () b)
      (h : ReadsEmptyRow c b.machine f) : Escapes o m f
  /-- Two hyphens stand for the number of random edits. -/
  | randomEdits (h : o.randomEdits = .nothing) :
      Escapes o m (.misuse (.comparison ">" "list" "int"))
  /-- The metadata in the archive are not such as an archive writes. -/
  | archive {c : Config} {e : Evaluation} {b : Bench} {f : Failure}
      (hreaches : Reaches o m (assess o) c e b) (hpassed : e.passedAll = true)
      (h : RefusesName o e b f) : Escapes o m f

/-! ### The configuration -/

/-- Reading a data file fails with what is reported, unless it is no document. -/
lemma reported_fileSettings (hsame : m.SameFiles m₁) (hconfig : o.noConfig = false)
    (mayBeMissing : Bool) :
    Reported (Escapes o m) ((fileSettings o.config.text mayBeMissing).run m₁).1 := by
  rw [fileSettings]
  by_cases hpath : o.config.text.isEmpty = true
  · rw [if_pos hpath]
    exact .ok _
  · rw [if_neg hpath]
    refine .run_bind ((faults_fileExists _).tells.reported m₁ trivial) fun found m₂ hexists => ?_
    obtain rfl := run_eq_of_preserves (fun _ => preserves_fileExists _) hexists
    cases found with
    | false =>
      rw [if_pos (by simp)]
      split
      · exact .ok _
      · exact .error (.inl rfl)
    | true =>
      rw [if_neg (by simp)]
      refine .run_bind ((faults_readText _).tells.reported m₂ trivial) fun text m₃ hread₂ => ?_
      obtain ⟨hread, rfl⟩ := (looksOnly_readText _).run_of_run hsame.files hsame.directory hread₂
      split
      · exact .ok _
      · next f hf =>
        cases hname : Config.isJsonName (Path.ofText o.config.text).suffix with
        | true =>
          rw [hname, Config.settingsOfText, if_pos rfl] at hf
          cases hparse : Json.parse text with
          | ok v =>
            rw [hparse] at hf
            cases hf
          | error e =>
            rw [hparse] at hf
            obtain rfl := Except.error.inj hf
            cases e <;> exact .error (.inl rfl)
        | false =>
          rw [hname] at hf
          exact .error (.inr (.dataFile hconfig hname hread hf))

/-- Working out a configuration fails with what is reported, unless a setting overflows or the data
file is no document. -/
lemma reported_resolve (o : Options) (m : Machine) :
    Reported (Escapes o m) ((CommandLine.resolve o).run m).1 := by
  have hoverlay {settings : List (Value × Value)} (h : GivesSettings o m settings) (c : Config) :
      Tells (Escapes o m) (overlay c settings) :=
    (tells_overlay c settings).mono fun _ => .setting h
  have hoverlays {entries : List (Value × Value)} (h : FileEntries o m entries) (c : Config) :
      Tells (Escapes o m) (do
        let c ← overlay c entries
        overlay c o.overrides) :=
    .bind (hoverlay (.dataFile h) c) fun c => hoverlay .commandLine c
  rw [CommandLine.resolve]
  refine .run_bind ((tells_loadEnvironment _ _).reported m trivial) fun answer m₁ hload => ?_
  have hsame₁ : m.SameFiles m₁ := (sameFiles_loadEnvironment _ _).of_run (.refl m) hload
  obtain ⟨assignments, hfile, henv⟩ := of_run_loadEnvironment hload
  have henvironment : Tells (Escapes o m)
      (overlay .default (Config.settingsOfEnvironment m₁.environment)) :=
    hoverlay (.environment hfile henv) .default
  refine .run_bind (henvironment.reported m₁ trivial) fun c m₂ hoverlaid => ?_
  have hsame₂ : m.SameFiles m₂ := (sameFiles_overlay _ _).of_run hsame₁ hoverlaid
  dsimp only
  split_ifs with hconfig
  · exact (hoverlays (.ignored hconfig) c).reported m₂ trivial
  · have hconfig : o.noConfig = false := by simpa using hconfig
    refine .run_bind (reported_fileSettings hsame₂ hconfig _) fun entries m₃ hsettings => ?_
    exact (hoverlays (fileEntries_of_run hsame₂ hconfig hsettings) c).reported m₃ trivial

/-! ### The program -/

/-- A snapshot that a run is to load was made from a variant, if it holds anything at all. -/
def HoldsVariant (o : Options) (m : Machine) : Prop :=
  ∀ path r held, nonempty o.loadSnapshot = some path →
    (readRecord path).run m = (.ok r, m) → r.held path = .ok held →
    ∃ v, held = .variant (.ofVariant v)

section Work

variable {α : Type} {J : Machine → Prop} {A : Altered → Prop} {E : Failure → Prop}

lemma reports_onMachine {a : Action α} (h : Reports J E a) :
    Reports (fun b => J b.machine ∧ A b.altered) E (onMachine a) := by
  refine ⟨?_, ?_⟩
  · rintro b ⟨hm, ha⟩
    rw [run_onMachine]
    exact ⟨h.preserves b.machine hm, ha⟩
  · rintro b ⟨hm, -⟩
    rw [run_onMachine]
    exact h.reported b.machine hm

lemma reports_alter {w : Altered.Alteration α} (h : Reports A E w) :
    Reports (fun b => J b.machine ∧ A b.altered) E (alter w) := by
  refine ⟨?_, ?_⟩
  · rintro b ⟨hm, ha⟩
    rw [run_alter]
    exact ⟨hm, h.preserves b.altered ha⟩
  · rintro b ⟨-, ha⟩
    rw [run_alter]
    exact h.reported b.altered ha

lemma reports_reading {f : Altered → Except Failure α} (h : ∀ a, A a → Reported E (f a)) :
    Reports (fun b => J b.machine ∧ A b.altered) E (reading f) :=
  .bind_get fun b hb => .ofExcept (h b.altered hb.2)

end Work

section Load

variable {path : String} (hpath : nonempty o.loadSnapshot = some path)

include hpath

lemma reports_readRecord : Reports m.SameFiles (Escapes o m) (readRecord path) := by
  refine ⟨preserves_readRecord path, fun m₁ hsame => ?_⟩
  refine .run_bind ((faults_readContent path).tells.reported m₁ trivial) fun content m₂ hread => ?_
  obtain ⟨hread, -⟩ := (looksOnly_readContent path).run_of_run hsame.files hsame.directory hread
  cases content with
  | record r => exact .ok r
  | bytes bs => exact .error (.inr (.noRecord hpath hread fun r h => Content.noConfusion h))

/-- What a snapshot holds is not reported if the file has lost its end. -/
lemma reported_held {r : Record} (hread : (readRecord path).run m = (.ok r, m)) :
    Reported (Escapes o m) (r.held path) := by
  cases r with
  | snapshot a => exact .ok _
  | damaged =>
    obtain ⟨content, m₁, hcontent, hrecord⟩ := exists_run_of_run_bind hread
    obtain rfl := run_eq_of_preserves (fun _ => preserves_readContent _) hcontent
    cases content with
    | bytes bs => cases hrecord
    | record r =>
      cases hrecord
      exact .error (.inr (.noRecord hpath hcontent fun r h => (Content.record.inj h).symm))
  | value v =>
    cases v with
    | map pairs =>
      rw [Record.held]
      dsimp only
      split_ifs
      · exact .error (.inl rfl)
      · exact .error (.inl (Failure.isReported_naming fun _ => rfl))
      · exact .ok _
    | _ => exact .error (.inl rfl)

lemma reports_snapshotBackend : Reports m.SameFiles (Escapes o m) (snapshotBackend path) := by
  refine (reports_readRecord hpath).bind_of (Q := fun r => (readRecord path).run m = (.ok r, m))
    ?_ fun r hr => ?_
  · intro m₁ r m₂ hsame hrun
    exact ((looksOnly_readRecord path).run_of_run hsame.files hsame.directory hrun).1
  · have hbackend : Reported (Escapes o m)
        (r.held path >>= Record.Held.backendText (.str "")) :=
      .bind (reported_held hpath hr) fun held _ => held.reported_backendText _
    split
    · exact .pure _
    · next f hf => exact .throw (hbackend f hf)

/-- A snapshot that was made from a variant puts that variant on the bench, or it is reported that
it is one of another backend. -/
lemma reports_loadSnapshot (hholds : HoldsVariant o m) :
    Reports (fun b => m.SameFiles b.machine ∧ b.altered.IsWhole) (Escapes o m)
      (loadSnapshot path) := by
  refine .bind (reports_reading fun a ha => ha.reported_callable _) fun _ => ?_
  refine (reports_onMachine (reports_readRecord hpath)).bind_of
    (Q := fun r => (readRecord path).run m = (.ok r, m)) ?_ fun r hr => ?_
  · rintro b r b' ⟨hsame, -⟩ hrun
    obtain ⟨m₁, hread, -⟩ := exists_run_of_run_onMachine hrun
    exact ((looksOnly_readRecord path).run_of_run hsame.files hsame.directory hread).1
  · refine (Reports.ofExcept (reported_held hpath hr)).bind_of
      (Q := fun held => ∃ v, held = .variant (.ofVariant v)) ?_ ?_
    · intro b held b' _ hrun
      rw [run_ofExcept] at hrun
      exact hholds path r held hpath hr (Prod.mk.inj hrun).1
    · rintro _ ⟨v, rfl⟩
      exact reports_alter (Altered.reports_load path v)

end Load

/-- A bench on which nothing is written yet, with a variant that has all its parts. -/
abbrev Loading (m : Machine) (b : Bench) : Prop := m.SameFiles b.machine ∧ b.altered.IsWhole

lemma reports_chooseBackend (c : Config) :
    Reports m.SameFiles (Escapes o m) (chooseBackend c (nonempty o.loadSnapshot)) := by
  have hkey (key : String) : Reports m.SameFiles (Escapes o m)
      (ofExcept (Backend.ofKey key) : Action Backend) := by
    refine .ofExcept ?_
    rw [Backend.ofKey]
    split
    · exact .ok _
    · exact .error (.inl rfl)
  rw [chooseBackend.eq_def]
  split
  · exact .bind (.pure _) fun _ => hkey _
  · split
    · next path hpath => exact .bind (reports_snapshotBackend hpath) fun _ => hkey _
    · exact .bind (.pure _) fun _ => hkey _

lemma sameFiles_restore (cache : Cache) : Preserves m.SameFiles cache.restore := by
  rw [Cache.restore]
  refine .bind (.tryCatch (.bind (Cache.preserves_readEntries _) fun _ =>
    .bind (sameFiles_say _) fun _ => .pure _) fun f => ?_) fun early => ?_
  · split
    · exact .bind (preserves_fileExists _) fun found => .ite_bind (sameFiles_warn _) fun _ =>
        .pure _
    · exact .bind (.throw _) fun _ => .pure _
  · cases early with
    | error r => exact .pure _
    | ok r => exact .pure _

/-- Setting up a bench fails with what is reported, unless the snapshot is no stored value. -/
lemma reports_setUp (c : Config) : Reports m.SameFiles (Escapes o m) (setUp o c) := by
  have hcache : Reports m.SameFiles (Escapes o m) (openCache c) := by
    have hrestore : Reports m.SameFiles (Escapes o m) (Cache.ofPath c.cachePath).restore :=
      ⟨sameFiles_restore _, fun m₁ _ => (Cache.tells_restore _).reported m₁ trivial⟩
    rw [openCache]
    split_ifs
    · exact .bind hrestore fun _ => .pure _
    · exact .pure _
  rw [setUp]
  exact .ite_bind (.throw (.inl rfl)) fun _ => .bind hcache fun cache =>
    .bind (reports_chooseBackend c) fun backend => .bind_get fun _ _ => .pure _

/-- The bench of a run begins with a variant that has no atoms. -/
lemma loading_of_run_setUp {start : Bench} (hsame : m.SameFiles m₁)
    (h : (setUp o c).run m₁ = (.ok start, start.machine)) : Loading m start := by
  refine ⟨(reports_setUp c).preserves.of_run hsame h, ?_⟩
  rw [setUp] at h
  split_ifs at h
  · cases h
  · obtain ⟨cache, m₂, -, h⟩ := exists_run_of_run_bind h
    obtain ⟨backend, m₃, -, h⟩ := exists_run_of_run_bind h
    cases h
    exact Altered.isWhole_ofVariant _

lemma reports_loadProgram (hholds : HoldsVariant o m) :
    Reports (Loading m) (Escapes o m) (loadProgram c (nonempty o.loadSnapshot)) := by
  have hsay (line : String) : Reports (Loading m) (Escapes o m) (onMachine (say line)) :=
    reports_onMachine ⟨sameFiles_say line, fun _ _ => .ok _⟩
  have hsource : Reports (Loading m) (Escapes o m) (loadSource c.program) := by
    have hread : Reports m.SameFiles (Escapes o m) (readText (Path.ofText c.program).text) :=
      ⟨preserves_readText _, fun m₁ _ => (faults_readText _).tells.reported m₁ trivial⟩
    refine .bind (reports_reading fun a ha => ha.reported_callable _) fun _ =>
      .bind (reports_onMachine hread) fun text =>
      .bind (reports_alter (Altered.reports_readText text)) fun _ => ?_
    split_ifs
    · exact reports_alter (Altered.reports_setSuffix _)
    · exact .pure _
  cases hpath : nonempty o.loadSnapshot with
  | some path =>
    exact .bind (reports_loadSnapshot hpath hholds) fun _ =>
      .bind (reports_reading fun a ha => ha.reported_size) fun _ => hsay _
  | none =>
    exact .bind hsource fun _ => .bind (.bind_get fun _ _ => .pure _) fun _ => hsay _

end CommandLine

end VariantRepair
