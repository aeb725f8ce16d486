import Mathlib.Tactic.Common
import VariantRepair.Proofs.Archive
import VariantRepair.Proofs.Bench.WorkFiles
import VariantRepair.Proofs.CommandLine.Settings

/-!
# What a run writes

Besides the cache file a run writes the files of the work directory, the coverage file that its
environment names, a snapshot, the line of the evaluation, and the files of the archive, as far as
they are asked for. It keeps every file at another place, wherever it fails.
-/

namespace VariantRepair.CommandLine

open Host Work

/-- On the files of a machine, the program that is loaded has a suffix. -/
def Loads (o : Options) (c : Config) (m : Machine) (own : Value) : Prop :=
  ∃ (backend : Backend) (b b' : Bench), m.SameFiles b.machine ∧
    (chooseBackend c (nonempty o.loadSnapshot)).run b.machine = (.ok backend, b.machine) ∧
    b.altered = .ofVariant (.empty backend) ∧
    (loadProgram c (nonempty o.loadSnapshot)).run b = (.ok (), b') ∧ b'.altered.suffix = own

/-- The suffix of the sources in an archive. -/
def archiveSuffix (own : Value) : Except Failure String :=
  if own.truthy then own.needText else .ok ".txt"

/-- The files that a run may write besides the cache file. -/
inductive IsOutput (o : Options) (c : Config) (m : Machine) : String → Prop
  | work {own : Value} {path : String} (hloads : Loads o c m own)
      (hpath : IsWorkFile m.directory c.workDir own path) : IsOutput o c m path
  | coverage {path : String}
      (hpath : m.environment.lookup Program.coverageVariable = some path) : IsOutput o c m path
  | snapshot {path : String} (hpath : nonempty o.saveSnapshot = some path) :
      IsOutput o c m (Path.ofText path).text
  | evaluation {path : String} (hpath : nonempty o.output = some path) : IsOutput o c m path
  | variantSource {directory suffix : String} {own : Value} (source : String)
      (hdirectory : nonempty o.archive = some directory) (hloads : Loads o c m own)
      (hsuffix : archiveSuffix own = .ok suffix) :
      IsOutput o c m
        ((Path.ofText directory).child
          (Archive.sourceName (Archive.shortDigest source) suffix)).text
  | variantMeta {directory : String} (source : String)
      (hdirectory : nonempty o.archive = some directory) :
      IsOutput o c m
        ((Path.ofText directory).child (Archive.metaName (Archive.shortDigest source))).text

variable {m₀ : Machine} {S : Place → Prop} {C : Content → Prop} {K : Cache → Prop} {own : Value}
  {o : Options} {c : Config}

/-- A program that is loaded from a file with a suffix gets that suffix. -/
lemma suffix_of_loads (hsnapshot : nonempty o.loadSnapshot = none)
    (hsuffix : (Path.ofText c.program).suffix.isEmpty = false) (h : Loads o c m₀ own) :
    own = .str (Path.ofText c.program).suffix := by
  obtain ⟨backend, b, b', -, -, -, hload, rfl⟩ := h
  rw [hsnapshot] at hload
  obtain ⟨⟨⟩, b₁, hsource, hrest⟩ := exists_run_of_run_bind hload
  obtain ⟨v, b₂, hvariant, hsay⟩ := exists_run_of_run_bind hrest
  cases hvariant
  obtain ⟨m, -, rfl⟩ := exists_run_of_run_onMachine hsay
  obtain ⟨⟨⟩, b₃, -, hsource⟩ := exists_run_of_run_bind hsource
  obtain ⟨text, b₄, -, hsource⟩ := exists_run_of_run_bind hsource
  obtain ⟨⟨⟩, b₅, -, hset⟩ := exists_run_of_run_bind hsource
  rw [hsuffix] at hset
  change (alter (Altered.setSuffix (Path.ofText c.program).suffix)).run b₅ = _ at hset
  rw [run_alter] at hset
  obtain ⟨-, rfl⟩ := Prod.mk.inj hset
  exact Altered.suffix_setSuffix _ _

/-! ### The parts of a run -/

/-- What a run does with its program: it makes edits, evaluates the variant and keeps it. -/
def repair (o : Options) (c : Config) : Work Unit := do
  reading (·.callable "copy")
  applyEdits c (← ofExcept (Edit.parseList o.edits.text))
  applyRandomEdits c (← ofExcept (randomCount o.randomEdits))
  let e ← evaluate c (nonempty o.output)
  onMachine (say (evaluationLine e))
  if e.passedAll then
    if let some directory := nonempty o.archive then keep directory e
  if o.debug then printListing c

/-- What a run does once its program is loaded: it checks it and localizes its faults first. -/
def afterLoading (o : Options) (c : Config) : Work Unit := do
  if o.sanity = .value true then sanityCheck c
  if (nonempty o.loadSnapshot).isNone || (← reading (·.weighted)).isEmpty then localize c
  if let some path := nonempty o.saveSnapshot then
    saveSnapshot path
    onMachine (say s!"[Save] {path}")
  repair o c

lemma process_eq (o : Options) (c : Config) :
    process o c = (do loadProgram c (nonempty o.loadSnapshot); afterLoading o c) := rfl

/-! ### Steps that write nothing -/

lemma within_printListing {J : Machine → Prop} {A : Altered → Prop}
    (hsay : ∀ line, Preserves J (say line)) :
    Preserves (Bench.Within J K A) (printListing c) := by
  refine .bind_get fun b _ => ?_
  split
  refine .bind (within_onMachine (.forM hsay)) fun _ => ?_
  split
  · exact .throw _
  · exact .pure _

lemma within_applyRandomEdits {J : Machine → Prop} (count : Nat) :
    Preserves (Bench.Within J K (·.suffix = own)) (applyRandomEdits c count) := by
  refine .bind_get fun b hb => ?_
  have hsuffix := Altered.suffix_drawEdits Chance.Twister.dice c.untouchedWeight
    (c.deleteProbability, c.appendProbability, c.swapProbability) count b.altered
    (Chance.Twister.ofSeed c.seed)
  refine .bind (.modify fun b' hb' => ⟨hb'.machine, hb'.cache, hsuffix.trans hb.altered⟩)
    fun _ => ?_
  split
  · exact .throw _
  · exact .pure _

/-! ### The outputs -/

section Outputs

variable
  (houtputs : ∀ path, IsOutput o c m₀ path → ¬ S (FileTree.placeOf m₀.directory path))

include houtputs

/-- A variant that is kept goes to the files of the archive. -/
lemma within_keep {directory : String} (hloads : Loads o c m₀ own)
    (hdirectory : nonempty o.archive = some directory) (e : Evaluation) :
    Preserves (Bench.Within (m₀.Keeps S C) K (·.suffix = own)) (keep directory e) := by
  have hsave {suffix : String} (hsuffix : archiveSuffix own = .ok suffix) :
      Preserves (Bench.Within (m₀.Keeps S C) K (·.suffix = own)) (do
        let archive ← onMachine (Archive.open directory suffix)
        let source ← reading (·.text)
        let note : Archive.Note :=
          { name := e.name, fitness := some (.float e.fitness), extra := [] }
        let digest ← onMachine (ExceptT.mk ((archive.save source "" note).map (·.2)))
        onMachine (say s!"[Archive] saved repaired variant {digest} to {directory}")) := by
    refine .bind_of (Q := fun a => a.directory = .ofText directory ∧ a.suffix = suffix)
      (within_onMachine (Archive.keeps_open _ _)) ?_ ?_
    · intro b a b' _ hrun
      obtain ⟨m, hrun, -⟩ := exists_run_of_run_onMachine hrun
      exact Archive.of_run_open hrun
    · rintro a ⟨ha, rfl⟩
      refine .bind (preserves_reading _) fun source =>
        .bind (within_onMachine fun m hm => ?_) fun _ => within_onMachine (keeps_say _)
      have hmeta := houtputs _ (.variantMeta source hdirectory)
      have hsource := houtputs _ (.variantSource source hdirectory hloads hsuffix)
      rw [← ha] at hmeta hsource
      exact Archive.keeps_save hmeta _ hsource m hm
  refine .bind_get fun b hb => ?_
  dsimp only
  rw [hb.altered]
  split
  · next htruthy =>
    refine .bind_of (Q := fun suffix => own.needText = .ok suffix) (.ofExcept _) ?_ ?_
    · intro b suffix b' _ hrun
      rw [run_ofExcept] at hrun
      exact (Prod.mk.inj hrun).1
    · intro suffix hsuffix
      exact hsave (by rw [archiveSuffix, if_pos htruthy, hsuffix])
  · next htruthy =>
    exact .bind_of (Q := (· = ".txt")) (.pure _) (by rintro b _ b' _ ⟨⟩; rfl)
      (by rintro _ rfl; exact hsave (by rw [archiveSuffix, if_neg htruthy]))

lemma within_saveSnapshot {A : Altered → Prop} {path : String}
    (hpath : nonempty o.saveSnapshot = some path) :
    Preserves (Bench.Within (m₀.Keeps S C) K A) (saveSnapshot path) :=
  .bind (preserves_reading _) fun _ => .bind_get fun _ _ =>
    within_onMachine (.bind (keeps_needDirectories _) fun _ =>
      keeps_writeContent (houtputs _ (.snapshot hpath)) _)

variable (hnew : Cache.TakesNew K) (hloads : Loads o c m₀ own)

include hnew hloads

lemma within_repair : Preserves (Bench.Within (m₀.Keeps S C) K (·.suffix = own)) (repair o c) := by
  have hend (e : Evaluation) :
      Preserves (Bench.Within (m₀.Keeps S C) K (·.suffix = own)) (do
        if e.passedAll then
          if let some directory := nonempty o.archive then keep directory e
        if o.debug then printListing c) := by
    have hlisting : Preserves (Bench.Within (m₀.Keeps S C) K (·.suffix = own))
        (if o.debug then printListing c else pure ()) := by
      split
      · exact within_printListing keeps_say
      · exact .pure _
    dsimp only
    split
    · split
      · next directory hdirectory =>
        exact .bind (within_keep houtputs hloads hdirectory e) fun _ => hlisting
      · exact hlisting
    · exact hlisting
  refine .bind (preserves_reading _) fun _ => .bind (.ofExcept _) fun edits =>
    .bind (within_alter (Altered.keepsSuffix_applyAll _ _)) fun _ =>
    .bind (.ofExcept _) fun count => .bind (within_applyRandomEdits count) fun _ =>
    .bind (within_evaluate (fun path h => houtputs path (.work hloads h))
      (fun path h => houtputs path (.coverage h)) hnew
      fun path h => houtputs path (.evaluation h)) fun e =>
    .bind (within_onMachine (keeps_say _)) fun _ => hend e

/-- Work on a loaded program keeps what is not among the outputs. -/
lemma within_afterLoading :
    Preserves (Bench.Within (m₀.Keeps S C) K (·.suffix = own)) (afterLoading o c) := by
  have hfiles (path : String) (h : IsWorkFile m₀.directory c.workDir own path) :=
    houtputs path (.work hloads h)
  have hrepair : Preserves (Bench.Within (m₀.Keeps S C) K (·.suffix = own)) (repair o c) :=
    within_repair houtputs hnew hloads
  have hsnapshot : Preserves (Bench.Within (m₀.Keeps S C) K (·.suffix = own)) (do
      if let some path := nonempty o.saveSnapshot then
        saveSnapshot path
        onMachine (say s!"[Save] {path}")
      repair o c) := by
    dsimp only
    split
    · next path hpath =>
      exact .bind (within_saveSnapshot houtputs hpath) fun _ =>
        .bind (within_onMachine (keeps_say _)) fun _ => hrepair
    · exact hrepair
  have hlocalize : Preserves (Bench.Within (m₀.Keeps S C) K (·.suffix = own)) (do
      if (nonempty o.loadSnapshot).isNone || (← reading (·.weighted)).isEmpty then localize c
      if let some path := nonempty o.saveSnapshot then
        saveSnapshot path
        onMachine (say s!"[Save] {path}")
      repair o c) := by
    exact .bind (preserves_reading _) fun weighted => .ite_bind (within_localize hfiles) fun _ =>
      hsnapshot
  rw [afterLoading]
  exact .ite_bind (within_sanityCheck hfiles (fun path h => houtputs path (.coverage h)) hnew)
    fun _ => hlocalize

end Outputs

end VariantRepair.CommandLine
