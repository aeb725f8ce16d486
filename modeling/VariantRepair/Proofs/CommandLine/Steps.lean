import Mathlib.Tactic.Common
import VariantRepair.Proofs.CommandLine.Retention

/-!
# The steps of a run

A run that ends well has taken its steps in order: it has worked out its configuration, loaded a
program and prepared it, made edits, evaluated the variant, archived it or not, and written the
cache. The steps are determined by the run, and they make the run.
-/

namespace VariantRepair

open Host

namespace CommandLine

open Work

variable {o : Options} {c : Config} {m m' : Machine} {b b' : Bench}

/-! ### The parts of a run -/

/-- The bench that a run begins with. -/
def setUp (o : Options) (c : Config) : Action Bench := do
  if c.program.isEmpty && (nonempty o.loadSnapshot).isNone then throw (.refused .noProgram)
  let cache ← openCache c
  let backend ← chooseBackend c (nonempty o.loadSnapshot)
  return { machine := ← get, cache, stats := .zero, port := c.port
           altered := .ofVariant (.empty backend) }

/-- Write a snapshot, if a file is named for it. -/
def snapshot (o : Options) : Work Unit := do
  if let some path := nonempty o.saveSnapshot then
    saveSnapshot path
    onMachine (say s!"[Save] {path}")

/-- The first check of a program, which may be left out. -/
def check (o : Options) (c : Config) : Work Unit := do
  if o.sanity = .value true then sanityCheck c

/-- Give weights to a program that has none. -/
def weigh (o : Options) (c : Config) : Work Unit := do
  if (nonempty o.loadSnapshot).isNone || (← reading (·.weighted)).isEmpty then localize c

/-- What a run does with a program before it makes edits. -/
def prepare (o : Options) (c : Config) : Work Unit := do
  if o.sanity = .value true then sanityCheck c
  if (nonempty o.loadSnapshot).isNone || (← reading (·.weighted)).isEmpty then localize c
  snapshot o

/-- Make the edits of a command line, and then random ones. -/
def vary (o : Options) (c : Config) : Work Unit := do
  reading (·.callable "copy")
  applyEdits c (← ofExcept (Edit.parseList o.edits.text))
  applyRandomEdits c (← ofExcept (randomCount o.randomEdits))

/-- Keep a variant that passes every test, if there is an archive for it. -/
def archive (o : Options) (e : Evaluation) : Work Unit := do
  if e.passedAll then
    if let some directory := nonempty o.archive then keep directory e

/-- What a run does after the archive. -/
def finish (o : Options) (c : Config) : Work Unit := do
  if o.debug then printListing c
  closeCache

/-- The steps of a run that ends well, with the benches that they leave. -/
structure Steps (o : Options) (m m' : Machine) where
  config : Config
  resolved : Machine
  start : Bench
  loaded : Bench
  prepared : Bench
  varied : Bench
  evaluation : Evaluation
  evaluated : Bench
  reported : Bench
  archived : Bench
  finished : Bench
  resolves : (CommandLine.resolve o).run m = (.ok config, resolved)
  setsUp : (setUp o config).run resolved = (.ok start, start.machine)
  loads : (loadProgram config (nonempty o.loadSnapshot)).run start = (.ok (), loaded)
  prepares : (prepare o config).run loaded = (.ok (), prepared)
  varies : (vary o config).run prepared = (.ok (), varied)
  evaluates : (evaluate config (nonempty o.output)).run varied = (.ok evaluation, evaluated)
  reports : (onMachine (say (evaluationLine evaluation))).run evaluated = (.ok (), reported)
  archives : (archive o evaluation).run reported = (.ok (), archived)
  finishes : (finish o config).run archived = (.ok (), finished)
  prints : (say (Json.write Json.blockLayout (.map finished.stats.summary))).run finished.machine
    = (.ok (), m')

lemma runWith_eq (o : Options) (c : Config) :
    runWith o c = (do
      let bench ← setUp o c
      let (r, bench) := (thenClose (process o c)).run bench
      set bench.machine
      match r with
      | .error f => throw f
      | .ok () => say (Json.write Json.blockLayout (.map bench.stats.summary))) := by
  rw [runWith, setUp]
  split_ifs
  · rfl
  · simp only [bind_assoc]
    rfl

lemma prepare_eq (o : Options) (c : Config) :
    prepare o c = (do check o c; weigh o c; snapshot o) := by
  rw [prepare, check, weigh]
  split_ifs <;> simp only [bind_assoc, pure_bind, apply_ite (· >>= fun _ => snapshot o)]

lemma afterLoading_eq (o : Options) (c : Config) :
    afterLoading o c = (do prepare o c; repair o c) := by
  simp only [afterLoading, prepare, snapshot]
  cases nonempty o.saveSnapshot <;> split_ifs <;>
    simp only [bind_assoc, pure_bind, apply_ite (· >>= fun _ => repair o c)]

lemma repair_eq (o : Options) (c : Config) :
    repair o c = (do
      vary o c
      let e ← evaluate c (nonempty o.output)
      onMachine (say (evaluationLine e))
      archive o e
      if o.debug then printListing c) := by
  simp only [repair, vary, archive, bind_assoc]
  cases nonempty o.archive <;>
    simp only [pure_bind, ite_self,
      apply_ite (· >>= fun _ => if o.debug then printListing c else pure ())]

/-- The work of a run, when it ends well, up to the writing of the cache. -/
lemma process_closeCache_eq (o : Options) (c : Config) :
    (do process o c; closeCache) = (do
      loadProgram c (nonempty o.loadSnapshot)
      prepare o c
      vary o c
      let e ← evaluate c (nonempty o.output)
      onMachine (say (evaluationLine e))
      archive o e
      finish o c) := by
  have hfinish : (do (if o.debug then printListing c else pure ()); closeCache) = finish o c := by
    rw [finish]
    split_ifs
    · rfl
    · exact pure_bind _ _
  simp only [process_eq, afterLoading_eq, repair_eq, bind_assoc, hfinish]

/-- Work that fails still fails when the cache is written after it. -/
lemma exists_run_thenClose_of_error {w : Work Unit} {f : Failure} (h : w.run b = (.error f, b')) :
    ∃ f' b'', (do closeCache; throw f : Work Unit).run b' = (.error f', b'') ∧
      (thenClose w).run b = (.error f', b'') := by
  obtain ⟨f', b'', hfailed⟩ : ∃ f' b'',
      (do closeCache; throw f : Work Unit).run b' = (.error f', b'') := by
    cases hclose : closeCache.run b' with
    | mk r b'' =>
      cases r with
      | ok u => exact ⟨f, b'', run_bind_of_ok hclose _⟩
      | error f' => exact ⟨f', b'', run_bind_of_error hclose _⟩
  refine ⟨f', b'', hfailed, ?_⟩
  rw [thenClose, run_bind_of_error ((run_tryCatch_of_error h _).trans hfailed)]

lemma run_thenClose_eq_ok_iff {w : Work Unit} :
    (thenClose w).run b = (.ok (), b') ↔ (do w; closeCache).run b = (.ok (), b') := by
  cases hw : w.run b with
  | mk r b₁ =>
    cases r with
    | ok u => rw [thenClose, run_bind_of_ok (run_tryCatch_of_ok hw _), run_bind_of_ok hw]
    | error f =>
      obtain ⟨f', b₂, -, hclosed⟩ := exists_run_thenClose_of_error hw
      rw [run_bind_of_error hw, hclosed]
      constructor <;> intro h <;> cases h

lemma machine_of_run_setUp (h : (setUp o c).run m = (.ok b, m')) : b.machine = m' := by
  rw [setUp] at h
  split_ifs at h
  · cases h
  · obtain ⟨cache, m₁, -, h⟩ := exists_run_of_run_bind h
    obtain ⟨backend, m₂, -, h⟩ := exists_run_of_run_bind h
    cases h
    rfl

/-- A run that ends well took its steps. -/
lemma nonempty_steps (h : (run o).run m = (.ok (), m')) : Nonempty (Steps o m m') := by
  rw [run_eq] at h
  obtain ⟨c, m₁, hresolve, h⟩ := exists_run_of_run_bind h
  rw [runWith_eq] at h
  obtain ⟨start, m₂, hsetUp, h⟩ := exists_run_of_run_bind h
  cases hwork : (thenClose (process o c)).run start with
  | mk r finished =>
    rw [hwork] at h
    obtain ⟨⟨⟩, m₃, hset, hprint⟩ := exists_run_of_run_bind h
    cases hset
    cases r with
    | error f => cases hprint
    | ok u =>
      obtain rfl := machine_of_run_setUp hsetUp
      rw [run_thenClose_eq_ok_iff, process_closeCache_eq] at hwork
      obtain ⟨⟨⟩, loaded, hload, hwork⟩ := exists_run_of_run_bind hwork
      obtain ⟨⟨⟩, prepared, hprepare, hwork⟩ := exists_run_of_run_bind hwork
      obtain ⟨⟨⟩, varied, hvary, hwork⟩ := exists_run_of_run_bind hwork
      obtain ⟨e, evaluated, hevaluate, hwork⟩ := exists_run_of_run_bind hwork
      obtain ⟨⟨⟩, reported, hreport, hwork⟩ := exists_run_of_run_bind hwork
      obtain ⟨⟨⟩, archived, harchive, hfinish⟩ := exists_run_of_run_bind hwork
      exact ⟨⟨c, m₁, start, loaded, prepared, varied, e, evaluated, reported, archived, finished,
        hresolve, hsetUp, hload, hprepare, hvary, hevaluate, hreport, harchive, hfinish, hprint⟩⟩

/-- The steps of a run make the run. -/
lemma Steps.run_eq (s : Steps o m m') : (run o).run m = (.ok (), m') := by
  have hwork : (thenClose (process o s.config)).run s.start = (.ok (), s.finished) := by
    rw [run_thenClose_eq_ok_iff, process_closeCache_eq, run_bind_of_ok s.loads,
      run_bind_of_ok s.prepares, run_bind_of_ok s.varies, run_bind_of_ok s.evaluates,
      run_bind_of_ok s.reports, run_bind_of_ok s.archives, s.finishes]
  rw [CommandLine.run_eq, run_bind_of_ok s.resolves, runWith_eq, run_bind_of_ok s.setsUp, hwork]
  exact s.prints

/-- The steps are determined by the run. -/
instance : Subsingleton (Steps o m m') := by
  refine ⟨fun s s' => ?_⟩
  obtain ⟨c, m₁, b₀, b₁, b₂, b₃, e, b₄, b₅, b₆, b₇, h₁, h₂, h₃, h₄, h₅, h₆, h₇, h₈, h₉, -⟩ := s
  obtain ⟨c', m₁', b₀', b₁', b₂', b₃', e', b₄', b₅', b₆', b₇', h₁', h₂', h₃', h₄', h₅', h₆', h₇',
    h₈', h₉', -⟩ := s'
  obtain ⟨rfl, rfl⟩ := eq_of_run_eq_ok h₁ h₁'
  obtain ⟨rfl, -⟩ := eq_of_run_eq_ok h₂ h₂'
  obtain ⟨-, rfl⟩ := eq_of_run_eq_ok h₃ h₃'
  obtain ⟨-, rfl⟩ := eq_of_run_eq_ok h₄ h₄'
  obtain ⟨-, rfl⟩ := eq_of_run_eq_ok h₅ h₅'
  obtain ⟨rfl, rfl⟩ := eq_of_run_eq_ok h₆ h₆'
  obtain ⟨-, rfl⟩ := eq_of_run_eq_ok h₇ h₇'
  obtain ⟨-, rfl⟩ := eq_of_run_eq_ok h₈ h₈'
  obtain ⟨-, rfl⟩ := eq_of_run_eq_ok h₉ h₉'
  rfl

lemma run_execute_of_ok {words : List String} (hread : CommandLine.read words = .ok (.run o))
    (h : (run o).run m = (.ok (), m')) : (execute words).run m = (.ok 0, m') := by
  rw [execute, hread]
  exact (run_bind_of_ok (run_tryCatch_of_ok ((run_bind_of_ok h _).trans rfl) _) _).trans rfl

/-- The exit status is zero where help was asked for, and where a run ends well. -/
lemma of_run_execute {words : List String} (h : (execute words).run m = (.ok 0, m')) :
    CommandLine.read words = .ok .help ∧ m' = m ∨
      ∃ o, CommandLine.read words = .ok (.run o) ∧ (run o).run m = (.ok (), m') := by
  cases hread : CommandLine.read words with
  | error e =>
    rw [execute, hread] at h
    cases h
  | ok request =>
    cases request with
    | help =>
      rw [execute, hread] at h
      cases h
      exact .inl ⟨rfl, rfl⟩
    | run o =>
      refine .inr ⟨o, rfl, ?_⟩
      cases hrun : (run o).run m with
      | mk r m₁ =>
        cases r with
        | ok u =>
          rw [run_execute_of_ok hread hrun] at h
          rw [(Prod.mk.inj h).2]
        | error f =>
          rw [execute, hread] at h
          obtain ⟨early, m₂, htry, h⟩ := exists_run_of_run_bind h
          rw [run_tryCatch_of_error (run_bind_of_error hrun _)] at htry
          split_ifs at htry
          · cases htry
            cases h
          · cases htry

end CommandLine

end VariantRepair
