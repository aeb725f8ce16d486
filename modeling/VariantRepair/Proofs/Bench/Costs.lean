import Mathlib.Data.List.Dedup
import Mathlib.Data.List.Perm.Subperm
import Mathlib.Tactic.Common
import VariantRepair.Proofs.Bench.Compile
import VariantRepair.Proofs.Bench.Transparency

/-!
# What a session costs

The counters of a session say how often something was compiled and tested, and the cache says which
tests were run. They are changed at different points of a compilation or a test, but every step that
is taken changes them together: by nothing, by one compilation, by one outcome from the cache, or by
one run of the harness. So at every point they are the numbers of the steps that were taken.
-/

namespace VariantRepair

/-! ### Steps that were taken -/

/-- What a step finds: the configuration of the variant it works on, the machine, and the port of
the next test. -/
structure Occasion where
  config : Config
  machine : Host.Machine
  port : Int

/-- A step that was taken. -/
structure Taken where
  before : Session
  step : Step
  answer : Answer
  after : Session

namespace Taken

/-- Did a compilation return? -/
def compiles (e : Taken) : Bool :=
  match e.answer with
  | .compiled (.ok _) => true
  | _ => false

/-- Did a compilation return that nothing was made? -/
def compilesNothing (e : Taken) : Bool :=
  match e.answer with
  | .compiled (.ok false) => true
  | _ => false

/-- Did a test return that it ran out of time? -/
def timesOut (e : Taken) : Bool :=
  match e.answer with
  | .tested (.ok .timeout) => true
  | _ => false

/-- The digest and the test that a step asks for: it is a test of a variant whose last compilation
made an executable. -/
def key? (e : Taken) : Option CacheKey :=
  match e.step with
  | .test i t =>
    match e.before.compiled? i with
    | some k => if k.success && k.executable.isSome then some (k.digest, t) else none
    | none => none
  | _ => none

/-- Did a test of an executable return an outcome? -/
def answered (e : Taken) : Bool :=
  match e.answer with
  | .tested (.ok _) => e.key?.isSome
  | _ => false

/-- The digest and the test that the harness was run on, if it returned an outcome: a process was
started. -/
def ran? (e : Taken) : Option CacheKey :=
  if e.answered && e.before.machine.calls.length < e.after.machine.calls.length then e.key?
  else none

end Taken

/-- Take a step, and note it. -/
def Step.note (c : Config) (s : Session) (step : Step) : Taken :=
  { before := s, step, answer := (step.take c s).1, after := (step.take c s).2 }

namespace Session

/-- The session as a step finds it. -/
def meet (s : Session) (o : Occasion) : Session :=
  { s with machine := o.machine, port := o.port }

/-- Take steps in turn, each on its occasion: the steps that were taken, and the session after
them. -/
def takeAll : Session → List (Occasion × Step) → List Taken × Session
  | s, [] => ([], s)
  | s, (o, step) :: rest =>
    let e := step.note o.config (s.meet o)
    let (es, last) := takeAll e.after rest
    (e :: es, last)

end Session

/-! ### What a step costs -/

/-- What a step does to the counters and the cache: nothing, one compilation, one outcome from the
cache, or one run of the harness on what the cache does not know. -/
inductive Charge (e : Taken) : Prop
  | nothing (hstats : e.after.stats = e.before.stats) (hcache : e.after.cache = e.before.cache)
      (hcompiles : e.compiles = false) (hanswered : e.answered = false)
      (htime : e.timesOut = false) : Charge e
  | compilation (success : Bool) (hanswer : e.answer = .compiled (.ok success))
      (hstats : e.after.stats = e.before.stats.recordCompile success)
      (hcache : e.after.cache = e.before.cache) : Charge e
  | hit (passed : Bool) (hanswer : e.answer = .tested (.ok (Work.outcomeOfStored passed)))
      (hstats : e.after.stats = e.before.stats.recordCacheHit)
      (hcache : e.after.cache = e.before.cache) (hanswered : e.answered = true)
      (hran : e.ran? = none) : Charge e
  | run (key : CacheKey) (o : Outcome) (hanswer : e.answer = .tested (.ok o))
      (hstats : e.after.stats = e.before.stats.recordTest (o == .timeout))
      (hcache : e.after.cache = e.before.cache.map (·.afterRun key.1 key.2 o))
      (hran : e.ran? = some key) (hunknown : ¬ IsKnown e.before.cache key) : Charge e

namespace Taken

variable {e : Taken}

lemma ran?_of_not_answered (h : e.answered = false) : e.ran? = none := by
  rw [ran?, h]
  rfl

lemma answered_of_ran? {key : CacheKey} (h : e.ran? = some key) : e.answered = true := by
  by_contra hnot
  rw [ran?_of_not_answered (by simpa using hnot)] at h
  cases h

lemma answered_of_answer {key : CacheKey} {o : Outcome} (hkey : e.key? = some key)
    (hanswer : e.answer = .tested (.ok o)) : e.answered = true := by
  rw [answered, hanswer]
  dsimp only
  rw [hkey]
  rfl

/-- What returns that nothing was made returns. -/
lemma compilesNothing_of_not_compiles (h : e.compiles = false) : e.compilesNothing = false := by
  rw [compiles] at h
  rw [compilesNothing]
  split at h
  · cases h
  · next hnot =>
    split
    · next hanswer => exact absurd hanswer (hnot false)
    · rfl

end Taken

section Note

variable {c : Config} {s : Session} {i : Nat}

/-- Work that the counters and the cache do not see costs nothing. -/
lemma charge_note_of_work {α : Type} {w : Work α} {answer : Except Failure α → Answer} {step : Step}
    (htake : step.take c s = s.work i w answer)
    (h : ∀ v, s.variants[i]? = some v →
      Charge ⟨s, step, answer (w.run (s.bench v)).1, s.leave i (w.run (s.bench v)).2⟩) :
    Charge (step.note c s) := by
  rw [Step.note, htake, Session.work]
  cases hv : s.variants[i]? with
  | none => exact .nothing rfl rfl rfl rfl rfl
  | some v => exact h v hv

/-- An attempt at a change costs nothing. -/
lemma charge_note_attempt (t : Attempt) : Charge ((Step.attempt i t).note c s) := by
  refine charge_note_of_work rfl fun v _ => ?_
  rw [Work.run_alter]
  exact .nothing rfl rfl rfl rfl rfl

lemma charge_note_copy : Charge ((Step.copy i).note c s) := by
  rw [Step.note, Step.take]
  cases s.variants[i]? with
  | none => exact .nothing rfl rfl rfl rfl rfl
  | some v => exact .nothing rfl rfl rfl rfl rfl

/-- A compilation costs nothing if it fails. -/
lemma charge_note_compile (source exe : Path) (keepSource : Bool) :
    Charge ((Step.compile i source exe keepSource).note c s) := by
  refine charge_note_of_work rfl fun v _ => ?_
  obtain ⟨f, m, hrun⟩ | ⟨success, m, k, hrun⟩ :=
    Work.run_compile_cases (c := c) (b := s.bench v) rfl source exe keepSource
  · rw [hrun]
    exact .nothing rfl rfl rfl rfl rfl
  · rw [hrun]
    exact .compilation success rfl rfl rfl

/-- A test of a variant costs nothing, one outcome from the cache, or one run of the harness. -/
lemma charge_note_test (t : Test) : Charge ((Step.test i t).note c s) := by
  refine charge_note_of_work rfl fun v hv => ?_
  have htests : Work.Tests c t v (s.bench v) _ _ := Work.tests_run rfl
  generalize ((Work.evaluateTest c t).run (s.bench v)).1 = r at htests
  generalize ((Work.evaluateTest c t).run (s.bench v)).2 = b at htests
  let e : Taken := ⟨s, .test i t, .tested r, s.leave i b⟩
  have hkey {k : Compiled} (hk : v.compiled = some k) :
      e.key? = if k.success && k.executable.isSome then some (k.digest, t) else none := by
    have hcompiled : s.compiled? i = some k := by rw [Session.compiled?, hv, Option.bind_some, hk]
    rw [Taken.key?]
    dsimp only [e]
    rw [hcompiled]
  have hkey_of_success {k : Compiled} {executable : Path} (hk : v.compiled = some k)
      (hsuccess : k.success = true) (hexecutable : k.executable = some executable) :
      e.key? = some (k.digest, t) := by
    rw [hkey hk, hsuccess, hexecutable]
    rfl
  cases htests with
  | notCompiled hk => exact .nothing rfl rfl rfl rfl rfl
  | unsuccessful hk hfailed =>
    have hnone : e.key? = none := by
      rw [hkey hk]
      rcases hfailed with hfailed | hfailed <;> simp [hfailed]
    exact .nothing rfl rfl rfl (congrArg Option.isSome hnone) rfl
  | known hk hsuccess hexecutable hknown =>
    have hanswered := Taken.answered_of_answer (hkey_of_success hk hsuccess hexecutable) rfl
    refine .hit _ rfl rfl rfl hanswered ?_
    rw [Taken.ran?, if_neg]
    simp [Session.leave, Session.bench]
  | broken hk hsuccess hexecutable hunknown => exact .nothing rfl rfl rfl rfl rfl
  | @ran k executable words o m hk hsuccess hexecutable hunknown hwords hcalls =>
    have hkey := hkey_of_success hk hsuccess hexecutable
    have hanswered := Taken.answered_of_answer hkey rfl
    have hstarted : s.machine.calls.length < m.calls.length := by
      rw [hcalls]
      simp [Session.bench]
    refine .run (k.digest, t) o rfl rfl rfl ?_ ?_
    · rw [Taken.ran?, if_pos, hkey]
      exact Bool.and_eq_true_iff.mpr ⟨hanswered, decide_eq_true hstarted⟩
    · rw [IsKnown]
      exact Bool.eq_false_iff.mp (congrArg Option.isSome hunknown)

lemma charge_note (step : Step) : Charge (step.note c s) := by
  cases step with
  | attempt i t => exact charge_note_attempt t
  | copy i => exact charge_note_copy
  | compile i source exe keepSource => exact charge_note_compile source exe keepSource
  | test i t => exact charge_note_test t

end Note

/-! ### Counters -/

/-- The counters are the numbers of the steps that were taken. -/
structure Counts (es : List Taken) (stats : Stats) : Prop where
  attempts : stats.compileAttempts = es.countP (·.compiles)
  failures : stats.compileFailures = es.countP (·.compilesNothing)
  lookups : stats.cacheHits + stats.testEvaluations = es.countP (·.answered)
  timeouts : stats.testTimeouts = es.countP (·.timesOut)
  runs : stats.testEvaluations = (es.filterMap (·.ran?)).length

namespace Counts

variable {es : List Taken} {e : Taken}

lemma zero : Counts [] .zero := ⟨rfl, rfl, rfl, rfl, rfl⟩

/-- A step adds to each counter one or nothing. -/
lemma snoc {before after : Stats} (h : Counts es before)
    (hattempts : after.compileAttempts = before.compileAttempts + if e.compiles then 1 else 0)
    (hfailures :
      after.compileFailures = before.compileFailures + if e.compilesNothing then 1 else 0)
    (hlookups : after.cacheHits + after.testEvaluations
      = before.cacheHits + before.testEvaluations + if e.answered then 1 else 0)
    (htimeouts : after.testTimeouts = before.testTimeouts + if e.timesOut then 1 else 0)
    (hruns : after.testEvaluations = before.testEvaluations + e.ran?.toList.length) :
    Counts (es ++ [e]) after where
  attempts := by rw [hattempts, h.attempts, List.countP_append, List.countP_singleton]
  failures := by rw [hfailures, h.failures, List.countP_append, List.countP_singleton]
  lookups := by rw [hlookups, h.lookups, List.countP_append, List.countP_singleton]
  timeouts := by rw [htimeouts, h.timeouts, List.countP_append, List.countP_singleton]
  runs := by
    rw [hruns, h.runs, List.filterMap_append, List.length_append]
    cases hran : e.ran? <;> simp [hran]

/-- The counters grow by what a step is charged with. -/
lemma append (h : Counts es e.before.stats) (hcharge : Charge e) :
    Counts (es ++ [e]) e.after.stats := by
  cases hcharge with
  | nothing hstats hcache hcompiles hanswered htime =>
    have hnothing := Taken.compilesNothing_of_not_compiles hcompiles
    have hran := Taken.ran?_of_not_answered hanswered
    apply h.snoc <;> simp [*]
  | compilation success hanswer hstats hcache =>
    have hanswered : e.answered = false := by rw [Taken.answered, hanswer]
    have hran := Taken.ran?_of_not_answered hanswered
    rw [hstats]
    apply h.snoc <;> cases success <;>
      simp [Stats.recordCompile, Taken.compiles, Taken.compilesNothing, Taken.timesOut, *]
  | hit passed hanswer hstats hcache hanswered hran =>
    rw [hstats]
    apply h.snoc <;> cases passed <;>
      simp [Stats.recordCacheHit, Taken.compiles, Taken.compilesNothing, Taken.timesOut,
        Work.outcomeOfStored, Nat.add_right_comm, *]
  | run key o hanswer hstats hcache hran hunknown =>
    have hanswered := Taken.answered_of_ran? hran
    rw [hstats]
    apply h.snoc <;> cases o <;>
      simp [Stats.recordTest, Taken.compiles, Taken.compilesNothing, Taken.timesOut,
        Nat.add_assoc, *]

end Counts

/-! ### What was run -/

lemma Cache.evaluated_afterRun (cache : Cache) (digest : String) (test : Test) (o : Outcome) :
    (cache.afterRun digest test o).evaluated = (cache.recordEvaluation digest test).evaluated := by
  rw [afterRun]
  split_ifs <;> rfl

/-- The cache has noted what was run. What was run and did not time out is known, so that it was not
run again. -/
structure Remembers (es : List Taken) (cache : Cache) : Prop where
  nodup : cache.evaluated.Nodup
  mem_iff : ∀ key, key ∈ cache.evaluated ↔ key ∈ es.filterMap (·.ran?)
  known : ∀ e ∈ es, ∀ key, e.ran? = some key → e.timesOut = false → IsKnown (some cache) key
  again : es.Pairwise fun e e' => ∀ key, e.ran? = some key → e'.ran? = some key →
    e.timesOut = true

namespace Remembers

variable {es : List Taken} {e : Taken} {cache : Cache}

lemma nil (h : cache.evaluated = []) : Remembers [] cache where
  nodup := by
    rw [h]
    exact List.nodup_nil
  mem_iff key := by rw [h, List.filterMap_nil]
  known _ he := absurd he List.not_mem_nil
  again := .nil

/-- A step without a run. -/
lemma snoc_of_none (h : Remembers es cache) (hran : e.ran? = none) :
    Remembers (es ++ [e]) cache where
  nodup := h.nodup
  mem_iff key := by
    rw [h.mem_iff, List.filterMap_append, List.filterMap_cons_none hran, List.filterMap_nil,
      List.append_nil]
  known e' he' key hkey htime := by
    rcases List.mem_append.mp he' with he' | he'
    · exact h.known e' he' key hkey htime
    · obtain rfl := List.mem_singleton.mp he'
      rw [hran] at hkey
      cases hkey
  again := by
    refine List.pairwise_append.mpr ⟨h.again, List.pairwise_singleton _ _, ?_⟩
    intro e₁ _ e₂ he₂ key _ hkey
    obtain rfl := List.mem_singleton.mp he₂
    rw [hran] at hkey
    cases hkey

/-- A step with a run of what was not known. -/
lemma snoc_of_run (h : Remembers es cache) {key : CacheKey} {o : Outcome}
    (hran : e.ran? = some key) (hanswer : e.answer = .tested (.ok o))
    (hunknown : ¬ IsKnown (some cache) key) :
    Remembers (es ++ [e]) (cache.afterRun key.1 key.2 o) where
  nodup := by
    rw [Cache.evaluated_afterRun]
    exact Cache.nodup_evaluated_recordEvaluation h.nodup key.1 key.2
  mem_iff key' := by
    rw [Cache.evaluated_afterRun, Cache.mem_evaluated_recordEvaluation, h.mem_iff,
      List.filterMap_append, List.filterMap_cons_some hran, List.filterMap_nil, List.mem_append,
      List.mem_singleton]
  known e' he' key' hkey htime := by
    rcases List.mem_append.mp he' with he' | he'
    · exact Cache.isSome_query_afterRun (h.known e' he' key' hkey htime)
    · obtain rfl := List.mem_singleton.mp he'
      obtain rfl := Option.some.inj (hran.symm.trans hkey)
      refine Cache.isSome_query_afterRun_self ?_
      rintro rfl
      rw [Taken.timesOut, hanswer] at htime
      cases htime
  again := by
    refine List.pairwise_append.mpr ⟨h.again, List.pairwise_singleton _ _, ?_⟩
    intro e₁ he₁ e₂ he₂ key' hkey₁ hkey₂
    obtain rfl := List.mem_singleton.mp he₂
    obtain rfl := Option.some.inj (hran.symm.trans hkey₂)
    -- what was run before is known unless it timed out
    by_contra htime
    exact hunknown (h.known e₁ he₁ key hkey₁ (by simpa using htime))

/-- What a step is charged with is remembered. -/
lemma append (h : Remembers es cache) (hcache : e.before.cache = some cache)
    (hcharge : Charge e) :
    ∃ cache', e.after.cache = some cache' ∧ Remembers (es ++ [e]) cache' := by
  cases hcharge with
  | nothing hstats hsame hcompiles hanswered htime =>
    exact ⟨cache, hsame.trans hcache, h.snoc_of_none (Taken.ran?_of_not_answered hanswered)⟩
  | compilation success hanswer hstats hsame =>
    have hanswered : e.answered = false := by rw [Taken.answered, hanswer]
    exact ⟨cache, hsame.trans hcache, h.snoc_of_none (Taken.ran?_of_not_answered hanswered)⟩
  | hit passed hanswer hstats hsame hanswered hran =>
    exact ⟨cache, hsame.trans hcache, h.snoc_of_none hran⟩
  | run key o hanswer hstats hgrown hran hunknown =>
    rw [hcache] at hgrown hunknown
    exact ⟨_, hgrown, h.snoc_of_run hran hanswer hunknown⟩

/-- The tests that were run, each as often as it was run without a timeout. -/
lemma length_runs_le (es : List Taken) :
    (es.filterMap (·.ran?)).length
      ≤ (es.filterMap fun e => if e.timesOut then none else e.ran?).length
        + es.countP (·.timesOut) := by
  induction es with
  | nil => exact Nat.le_refl 0
  | cons e es ih =>
    cases hran : e.ran? <;> cases htime : e.timesOut <;> simp [hran, htime] <;> omega

lemma evaluations_eq (h : Remembers es cache) :
    cache.evaluations = (es.filterMap (·.ran?)).dedup.length := by
  refine List.Perm.length_eq ((List.perm_ext_iff_of_nodup h.nodup (List.nodup_dedup _)).mpr ?_)
  intro key
  rw [h.mem_iff, List.mem_dedup]

lemma evaluations_le (h : Remembers es cache) :
    cache.evaluations ≤ (es.filterMap (·.ran?)).length := by
  rw [h.evaluations_eq]
  exact (List.dedup_sublist _).length_le

/-- Every run but those that timed out is the last one of its test. -/
lemma length_settled_le (h : Remembers es cache) :
    (es.filterMap fun e => if e.timesOut then none else e.ran?).length ≤ cache.evaluations := by
  have hmem {e : Taken} {key : CacheKey} (hkey : (if e.timesOut then none else e.ran?) = some key) :
      e.timesOut = false ∧ e.ran? = some key := by
    split_ifs at hkey with htime
    exact ⟨by simpa using htime, hkey⟩
  refine (List.subperm_of_subset (List.Pairwise.filterMap _ ?_ h.again) ?_).length_le
  · rintro e e' hagain key hkey _ hkey' rfl
    obtain ⟨htime, hran⟩ := hmem hkey
    rw [hagain key hran (hmem hkey').2] at htime
    cases htime
  · intro key hkey
    obtain ⟨e, he, hkey⟩ := List.mem_filterMap.mp hkey
    exact (h.mem_iff key).mpr (List.mem_filterMap.mpr ⟨e, he, (hmem hkey).2⟩)

/-- A test is run once, and once more for each timeout. -/
lemma runs_le (h : Remembers es cache) :
    (es.filterMap (·.ran?)).length ≤ cache.evaluations + es.countP (·.timesOut) :=
  Nat.le_trans (length_runs_le es) (Nat.add_le_add_right h.length_settled_le _)

end Remembers

/-! ### Runs -/

namespace Session

variable {s : Session} {cache : Cache} {es : List Taken}

/-- Steps in turn add up to what they are charged with. -/
lemma accounts_takeAll (hcache : s.cache = some cache) (hcounts : Counts es s.stats)
    (hremembers : Remembers es cache) (steps : List (Occasion × Step)) :
    Counts (es ++ (s.takeAll steps).1) (s.takeAll steps).2.stats ∧
      ∃ cache', (s.takeAll steps).2.cache = some cache' ∧
        Remembers (es ++ (s.takeAll steps).1) cache' := by
  induction steps generalizing s cache es with
  | nil =>
    rw [takeAll, List.append_nil]
    exact ⟨hcounts, cache, hcache, hremembers⟩
  | cons next rest ih =>
    obtain ⟨o, step⟩ := next
    have hcharge := charge_note (c := o.config) (s := s.meet o) step
    obtain ⟨cache', hcache', hremembers'⟩ := hremembers.append hcache hcharge
    have hrest := ih hcache' (hcounts.append hcharge) hremembers'
    rw [List.append_assoc, List.singleton_append] at hrest
    exact hrest

/-- Every step that was taken is charged. -/
lemma charge_of_mem_takeAll {e : Taken} {steps : List (Occasion × Step)}
    (he : e ∈ (s.takeAll steps).1) : Charge e := by
  induction steps generalizing s with
  | nil => cases he
  | cons next rest ih =>
    obtain ⟨o, step⟩ := next
    rcases List.mem_cons.mp he with rfl | he
    · exact charge_note step
    · exact ih he

end Session

/-- A test that fails costs nothing. -/
lemma Charge.of_failed {e : Taken} {f : Failure} (h : Charge e)
    (hanswer : e.answer = .tested (.error f)) :
    e.after.stats = e.before.stats ∧ e.after.cache = e.before.cache := by
  cases h with
  | nothing hstats hcache hcompiles hanswered htime => exact ⟨hstats, hcache⟩
  | compilation success hanswer' hstats hcache => cases hanswer.symm.trans hanswer'
  | hit passed hanswer' hstats hcache hanswered hran => cases hanswer.symm.trans hanswer'
  | run key o hanswer' hstats hcache hran hunknown => cases hanswer.symm.trans hanswer'

/-- Costs add up. Let some variants share a cache and counters that start from zero, and let them be
edited, copied, compiled and tested in any order, each step with any configuration, machine and
port. Then the counters are the numbers of compilations that returned, of those that made nothing,
of tests of an executable that returned, and of timeouts; the evaluations are the tests that the
harness was run on, each counted once; there are as many test runs as that, and at most one more for
each timeout, for a test is run again only after timeouts; and a test that fails changes neither
the counters nor the cache. -/
theorem session_costs_add_up (s : Session) (cache : Cache) (hcache : s.cache = some cache)
    (hstats : s.stats = .zero) (hnew : cache.evaluated = []) (steps : List (Occasion × Step))
    (es : List Taken) (last : Session) (htaken : s.takeAll steps = (es, last)) :
    ∃ cache', last.cache = some cache' ∧
      last.stats.compileAttempts = es.countP (·.compiles) ∧
      last.stats.compileFailures = es.countP (·.compilesNothing) ∧
      last.stats.cacheHits + last.stats.testEvaluations = es.countP (·.answered) ∧
      last.stats.testTimeouts = es.countP (·.timesOut) ∧
      cache'.evaluations = (es.filterMap (·.ran?)).dedup.length ∧
      cache'.evaluations ≤ last.stats.testEvaluations ∧
      last.stats.testEvaluations ≤ cache'.evaluations + last.stats.testTimeouts ∧
      (es.Pairwise fun e e' => ∀ key, e.ran? = some key → e'.ran? = some key →
        e.timesOut = true) ∧
      ∀ e ∈ es, ∀ f, e.answer = .tested (.error f) →
        e.after.stats = e.before.stats ∧ e.after.cache = e.before.cache := by
  have hcharge {e : Taken} (he : e ∈ es) : Charge e := by
    have he : e ∈ (s.takeAll steps).1 := by rwa [htaken]
    exact Session.charge_of_mem_takeAll he
  obtain ⟨hcounts, cache', hlast, hremembers⟩ :=
    Session.accounts_takeAll hcache (hstats ▸ .zero) (.nil hnew) steps
  rw [htaken, List.nil_append] at hcounts hremembers
  rw [htaken] at hlast
  refine ⟨cache', hlast, hcounts.attempts, hcounts.failures, hcounts.lookups, hcounts.timeouts,
    hremembers.evaluations_eq, ?_, ?_, hremembers.again, fun e he f => (hcharge he).of_failed⟩
  · rw [hcounts.runs]
    exact hremembers.evaluations_le
  · rw [hcounts.runs, hcounts.timeouts]
    exact hremembers.runs_le

/-- A positive test passes, and its outcome is then taken from the cache, also for a copy. A
negative test times out twice, and is run a third time, but its process breaks. -/
theorem session_costs_add_up_timeouts :
    ∃ (s : Session) (cache cache' : Cache) (steps : List (Occasion × Step)) (p n : Test),
      (s.cache = some cache ∧ s.stats = .zero ∧ cache.evaluated = []) ∧
      steps.map (·.2)
        = [.test 0 p, .test 0 p, .copy 0, .test 1 p, .test 1 n, .test 0 n, .test 0 n] ∧
      (s.takeAll steps).2.stats = ⟨0, 0, 3, 2, 2⟩ ∧
      (s.takeAll steps).2.cache = some cache' ∧
      cache'.evaluations = ((s.takeAll steps).1.filterMap (·.ran?)).dedup.length ∧
      cache'.evaluations ≤ 3 ∧ 3 ≤ cache'.evaluations + 2 := by
  let c : Config := Config.default.set .testCommand "t"
  let quick : Host.Machine := .ofDirectory [] "1"
  let slow : Host.Machine := { quick with further := { coverage := none, ending := .timedOut } }
  let broken : Host.Machine :=
    { quick with further := { coverage := none, ending := .failed "broken" } }
  let p : Test := ⟨.positive, 1, Nat.one_pos⟩
  let n : Test := ⟨.negative, 1, Nat.one_pos⟩
  let v : Variant Float :=
    { program := .lines ["a", "b"], localization := ⟨[]⟩, history := [], ownSuffix := none
      compiled := some ⟨"d", true, .ofText "/s", some (.ofText "/e")⟩ }
  let s : Session :=
    { machine := quick, cache := some (.ofPath "x"), stats := .zero, port := 808, variants := [v] }
  let on (m : Host.Machine) (step : Step) : Occasion × Step := (⟨c, m, 808⟩, step)
  let steps : List (Occasion × Step) := [on quick (.test 0 p), on quick (.test 0 p),
    on quick (.copy 0), on quick (.test 1 p), on slow (.test 1 n), on slow (.test 0 n),
    on broken (.test 0 n)]
  have hstats : (s.takeAll steps).2.stats = ⟨0, 0, 3, 2, 2⟩ := by decide +kernel
  obtain ⟨cache', hcache', -, -, -, -, hevaluations, hle, hruns, -, -⟩ :=
    session_costs_add_up s (.ofPath "x") rfl rfl rfl steps (s.takeAll steps).1 (s.takeAll steps).2
      rfl
  rw [hstats] at hle hruns
  exact ⟨s, .ofPath "x", cache', steps, p, n, ⟨rfl, rfl, rfl⟩, rfl, hstats, hcache', hevaluations,
    hle, hruns⟩

end VariantRepair
