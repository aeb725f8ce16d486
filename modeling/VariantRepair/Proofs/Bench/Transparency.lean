import Mathlib.Tactic.Common
import VariantRepair.Proofs.Bench.Harness
import VariantRepair.Proofs.Command.Templates

/-!
# The cache changes no outcome

When the outcome of a test depends only on the text that was compiled, a session that keeps outcomes
in a cache gets the same answers as one that does not. What the cache holds stays true, and no test
is run again whose outcome it holds.
-/

namespace VariantRepair

variable {c : Config} {H : String → Test → Outcome}

/-! ### Harnesses and caches -/

/-- All outcomes in a cache are those of a harness. -/
def Cache.Agrees (H : String → Test → Outcome) (cache : Cache) : Prop :=
  ∀ digest test passed, cache.query digest test = some passed →
    Work.outcomeOfStored passed = H digest test

/-- The machine that a test finds is such that the harness gives the outcome that belongs to the
digest of the compiled text and the test, whatever port it gets. -/
def Step.Obeys (c : Config) (H : String → Test → Outcome) (s : Session) : Step → Prop
  | .test i t => ∀ k executable, s.compiled? i = some k → k.success = true →
      k.executable = some executable → ∀ b : Bench, b.machine = s.machine →
        ((Work.runTest c executable.text k.source.text t []).run b).1 = .ok (H k.digest t)
  | _ => True

/-- All tests of a session find such machines. -/
def Session.Obeys (c : Config) (H : String → Test → Outcome) : Session → Timeline → Prop
  | _, [] => True
  | s, (m, step) :: rest =>
    step.Obeys c H (s.on m) ∧ Session.Obeys c H (step.take c (s.on m)).2 rest

lemma Cache.Agrees.afterRun {cache : Cache} (h : cache.Agrees H) (digest : String) (test : Test) :
    (cache.afterRun digest test (H digest test)).Agrees H := by
  intro digest' test' passed hquery
  rw [Cache.afterRun] at hquery
  split_ifs at hquery with htimeout
  · rw [Cache.query_recordEvaluation] at hquery
    exact h digest' test' passed hquery
  · rw [Cache.query_add, Cache.query_recordEvaluation] at hquery
    split_ifs at hquery with hkey
    · obtain ⟨rfl, rfl⟩ := Prod.mk.inj hkey
      obtain rfl := Option.some.inj hquery
      cases hH : H digest' test' with
      | passed => rfl
      | failed => rfl
      | timeout => exact absurd hH htimeout
    · exact h digest' test' passed hquery

/-- A run of a test takes nothing out of the cache. -/
lemma Cache.isSome_query_afterRun {cache : Cache} {digest digest' : String} {test test' : Test}
    {o : Outcome} (h : (cache.query digest' test').isSome) :
    ((cache.afterRun digest test o).query digest' test').isSome := by
  rw [Cache.afterRun]
  split_ifs
  · rwa [Cache.query_recordEvaluation]
  · rw [Cache.query_add, Cache.query_recordEvaluation]
    split_ifs
    · rfl
    · exact h

/-- A run of a test puts its outcome into the cache unless it is a timeout. -/
lemma Cache.isSome_query_afterRun_self {cache : Cache} {digest : String} {test : Test}
    {o : Outcome} (ho : o ≠ .timeout) :
    ((cache.afterRun digest test o).query digest test).isSome := by
  rw [Cache.afterRun, if_neg ho, Cache.query_add, if_pos rfl]
  rfl

/-- The outcomes in the cache of a session, if it has one, are those of a harness. -/
def Session.Agrees (H : String → Test → Outcome) (s : Session) : Prop :=
  ∀ cache, s.cache = some cache → cache.Agrees H

/-- What a test of a variant comes to by the harness alone. -/
def Variant.expected (H : String → Test → Outcome) (v : Variant Float) (t : Test) :
    Except Failure Outcome :=
  match v.compiled with
  | none => .error (.notCompiled v.name)
  | some k => if k.success && k.executable.isSome then .ok (H k.digest t) else .ok .failed

section Expected

variable {v : Variant Float} {k : Compiled} (hk : v.compiled = some k) (t : Test)

include hk

lemma Variant.expected_of_unsuccessful (hfailed : k.success = false ∨ k.executable = none) :
    v.expected H t = .ok .failed := by
  rw [expected, hk]
  rcases hfailed with hfailed | hfailed <;> simp [hfailed]

lemma Variant.expected_of_success (hsuccess : k.success = true) {executable : Path}
    (hexecutable : k.executable = some executable) : v.expected H t = .ok (H k.digest t) := by
  rw [expected, hk]
  simp [hsuccess, hexecutable]

end Expected

/-! ### What a step does to the cache -/

/-- Is the outcome of a test in the cache? -/
def IsKnown (cache : Option Cache) (key : CacheKey) : Prop :=
  (cache.bind fun cache => cache.query key.1 key.2).isSome

/-- What becomes of the cache, and the test runs on the way: nothing happens, or a test is run whose
outcome the cache does not know. -/
inductive CacheStep (H : String → Test → Outcome) :
    Option Cache → List CacheKey → Option Cache → Prop
  | idle (cache : Option Cache) : CacheStep H cache [] cache
  | run {cache : Option Cache} {key : CacheKey} (h : ¬ IsKnown cache key) :
      CacheStep H cache [key] (cache.map (·.afterRun key.1 key.2 (H key.1 key.2)))

namespace CacheStep

variable {cache cache' : Option Cache} {runs : List CacheKey} {key : CacheKey}

lemma agrees (h : CacheStep H cache runs cache') (hcache : ∀ c, cache = some c → c.Agrees H) :
    ∀ c, cache' = some c → c.Agrees H := by
  cases h with
  | idle => exact hcache
  | run h =>
    intro c hc
    obtain ⟨c₀, hc₀, rfl⟩ := Option.map_eq_some_iff.mp hc
    exact (hcache c₀ hc₀).afterRun _ _

lemma isSome_eq (h : CacheStep H cache runs cache') : cache'.isSome = cache.isSome := by
  cases h with
  | idle => rfl
  | run h => exact Option.isSome_map

/-- What is known stays known. -/
lemma isKnown (h : CacheStep H cache runs cache') (hkey : IsKnown cache key) :
    IsKnown cache' key := by
  cases h with
  | idle => exact hkey
  | run h =>
    cases cache with
    | none => exact hkey
    | some cache => exact Cache.isSome_query_afterRun hkey

/-- What is known is not run. -/
lemma not_mem (h : CacheStep H cache runs cache') (hkey : IsKnown cache key) : key ∉ runs := by
  cases h with
  | idle => exact List.not_mem_nil
  | run h =>
    intro hmem
    obtain rfl := List.mem_singleton.mp hmem
    exact h hkey

/-- What was run is known, unless it timed out. -/
lemma isKnown_of_mem (h : CacheStep H cache runs cache') (hcache : cache.isSome)
    (hmem : key ∈ runs) (hH : H key.1 key.2 ≠ .timeout) : IsKnown cache' key := by
  cases h with
  | idle => exact absurd hmem List.not_mem_nil
  | run h =>
    obtain rfl := List.mem_singleton.mp hmem
    obtain ⟨cache, rfl⟩ := Option.isSome_iff_exists.mp hcache
    exact Cache.isSome_query_afterRun_self hH

lemma count_le_one (h : CacheStep H cache runs cache') : runs.count key ≤ 1 := by
  cases h with
  | idle => exact Nat.zero_le 1
  | run h => exact List.count_le_length

end CacheStep

namespace Session

variable {s : Session}

lemma variants_leave {i : Nat} {v : Variant Float} {b : Bench} (hv : s.variants[i]? = some v)
    (hb : b.altered = .ofVariant v) : (s.leave i b).variants = s.variants := by
  obtain ⟨hlt, rfl⟩ := List.getElem?_eq_some_iff.mp hv
  have hvariant : b.altered.variant = s.variants[i] := congrArg (·.variant) hb
  rw [leave, hvariant, List.set_getElem_self]

lemma take_test {i : Nat} {t : Test} {v : Variant Float} (hv : s.variants[i]? = some v) :
    (Step.test i t).take c s = (.tested ((Work.evaluateTest c t).run (s.bench v)).1,
      s.leave i ((Work.evaluateTest c t).run (s.bench v)).2) := by
  rw [Step.take, work, hv]

/-- A test that starts no process. -/
lemma cacheStep_idle {i : Nat} {t : Test} {after : Session}
    (hcalls : after.machine.calls.length = s.machine.calls.length)
    (hcache : after.cache = s.cache) :
    CacheStep H s.cache ((Step.test i t).testRuns s after) after.cache := by
  have hruns : (Step.test i t).testRuns s after = [] := by
    rw [Step.testRuns, hcalls, Nat.sub_self]
    cases s.compiled? i <;> rfl
  rw [hruns, hcache]
  exact .idle s.cache

/-- A test that starts a process. -/
lemma cacheStep_run {i : Nat} {t : Test} {k : Compiled} {after : Session}
    (hk : s.compiled? i = some k) (hunknown : ¬ IsKnown s.cache (k.digest, t))
    (hcalls : after.machine.calls.length = s.machine.calls.length + 1)
    (hcache : after.cache = s.cache.map (·.afterRun k.digest t (H k.digest t))) :
    CacheStep H s.cache ((Step.test i t).testRuns s after) after.cache := by
  have hruns : (Step.test i t).testRuns s after = [(k.digest, t)] := by
    rw [Step.testRuns, hk, hcalls, Nat.add_sub_cancel_left]
    rfl
  rw [hruns, hcache]
  exact .run hunknown

/-- A test of a variant has the outcome that the harness alone gives, from wherever it comes. -/
lemma take_test_spec {i : Nat} {t : Test} {v : Variant Float} (hagrees : s.Agrees H)
    (hobeys : (Step.test i t).Obeys c H s) (hv : s.variants[i]? = some v) :
    ((Step.test i t).take c s).1 = .tested (v.expected H t) ∧
      ((Step.test i t).take c s).2.variants = s.variants ∧
      CacheStep H s.cache ((Step.test i t).testRuns s ((Step.test i t).take c s).2)
        ((Step.test i t).take c s).2.cache := by
  have hb : (s.bench v).altered = .ofVariant v := rfl
  rw [take_test hv]
  cases hk : v.compiled with
  | none =>
    rw [Work.run_evaluateTest_of_none hb hk, Variant.expected, hk]
    exact ⟨rfl, variants_leave hv hb, cacheStep_idle rfl rfl⟩
  | some k =>
    by_cases hfailed : k.success = false ∨ k.executable = none
    · rw [Work.run_evaluateTest_of_unsuccessful hb hk hfailed,
        Variant.expected_of_unsuccessful hk t hfailed]
      exact ⟨rfl, variants_leave hv hb, cacheStep_idle rfl rfl⟩
    · obtain ⟨hsuccess, hexecutable⟩ := not_or.mp hfailed
      have hsuccess : k.success = true := by simpa using hsuccess
      obtain ⟨executable, hexecutable⟩ := Option.ne_none_iff_exists'.mp hexecutable
      rw [Variant.expected_of_success hk t hsuccess hexecutable]
      cases hquery : (s.bench v).cache.bind fun cache => cache.query k.digest t with
      | some passed =>
        -- the cache answers, and it agrees with the harness
        obtain ⟨cache, hcache, hpassed⟩ := Option.bind_eq_some_iff.mp hquery
        have houtcome := hagrees cache hcache k.digest t passed hpassed
        rw [Work.run_evaluateTest_of_known hb hk hsuccess hexecutable hquery, houtcome]
        exact ⟨rfl, variants_leave hv hb, cacheStep_idle rfl rfl⟩
      | none =>
        -- the harness answers, and the cache takes note
        have hcompiled : s.compiled? i = some k := by rw [compiled?, hv, Option.bind_some, hk]
        have houtcome := hobeys k executable hcompiled hsuccess hexecutable (s.bench v) rfl
        obtain ⟨words, m, -, hrun, hcalls⟩ :=
          Work.run_evaluateTest_of_unknown hb hk hsuccess hexecutable hquery houtcome
        have hcalls : m.calls.length = s.machine.calls.length + 1 := by
          rw [hcalls, List.length_append, List.length_singleton]
          rfl
        have hunknown : ¬ IsKnown s.cache (k.digest, t) := by
          have hnone : (s.cache.bind fun cache => cache.query k.digest t) = none := hquery
          rw [IsKnown, hnone]
          exact Bool.false_ne_true
        rw [hrun]
        exact ⟨rfl, variants_leave hv hb, cacheStep_run hcompiled hunknown hcalls rfl⟩

/-- Blind work on a variant comes to the same in two sessions, and leaves the cache. -/
lemma work_blind {α : Type} {w : Work α} (hw : w.IsBlind) {s s' : Session}
    (hmachine : s.machine = s'.machine) (hvariants : s.variants = s'.variants) (i : Nat)
    (answer : Except Failure α → Answer) :
    (s.work i w answer).1 = (s'.work i w answer).1 ∧
      (s.work i w answer).2.variants = (s'.work i w answer).2.variants ∧
      (s.work i w answer).2.cache = s.cache := by
  rw [work, work, hvariants]
  cases hv : s'.variants[i]? with
  | none => exact ⟨rfl, hvariants, rfl⟩
  | some v =>
    have halike : Alike s.cache s'.cache (s.bench v) (s'.bench v) := ⟨hmachine, rfl, rfl, rfl⟩
    obtain ⟨hanswer, hafter⟩ := hw _ _ _ _ halike
    refine ⟨congrArg answer hanswer, ?_, hafter.cache_left⟩
    dsimp only [leave]
    rw [hvariants, hafter.altered_eq]

lemma obeys_congr {step : Step} {s s' : Session} (hmachine : s.machine = s'.machine)
    (hvariants : s.variants = s'.variants) (h : step.Obeys c H s) : step.Obeys c H s' := by
  cases step with
  | test i t =>
    intro k executable hk hsuccess hexecutable b hb
    rw [compiled?, ← hvariants] at hk
    exact h k executable hk hsuccess hexecutable b (hb.trans hmachine.symm)
  | _ => trivial

/-- A step answers the same with any true cache, and leaves the same variants. -/
lemma take_eq {step : Step} {s s' : Session} (hmachine : s.machine = s'.machine)
    (hvariants : s.variants = s'.variants) (hs : s.Agrees H) (hs' : s'.Agrees H)
    (hobeys : step.Obeys c H s) :
    (step.take c s).1 = (step.take c s').1 ∧
      (step.take c s).2.variants = (step.take c s').2.variants := by
  cases step with
  | attempt i t =>
    obtain ⟨hanswer, hafter, -⟩ := work_blind (.alter _) hmachine hvariants i .edited
    exact ⟨hanswer, hafter⟩
  | copy i =>
    rw [Step.take, Step.take, hvariants]
    cases s'.variants[i]? with
    | none => exact ⟨rfl, hvariants⟩
    | some v => exact ⟨rfl, rfl⟩
  | compile i source exe keepSource =>
    obtain ⟨hanswer, hafter, -⟩ :=
      work_blind (Work.compile_isBlind c source exe keepSource) hmachine hvariants i .compiled
    exact ⟨hanswer, hafter⟩
  | test i t =>
    cases hv : s'.variants[i]? with
    | none =>
      rw [Step.take, Step.take, work, work, hvariants, hv]
      exact ⟨rfl, hvariants⟩
    | some v =>
      obtain ⟨hanswer, hafter, -⟩ := take_test_spec hs hobeys (hvariants ▸ hv)
      obtain ⟨hanswer', hafter', -⟩ :=
        take_test_spec hs' (obeys_congr hmachine hvariants hobeys) hv
      exact ⟨hanswer.trans hanswer'.symm, by rw [hafter, hafter', hvariants]⟩

/-- Every step does to the cache what a test may do. -/
lemma take_cacheStep {step : Step} (hagrees : s.Agrees H) (hobeys : step.Obeys c H s) :
    CacheStep H s.cache (step.testRuns s (step.take c s).2) (step.take c s).2.cache := by
  cases step with
  | attempt i t =>
    have hblind : (Work.alter (t.make c.untouchedWeight)).IsBlind := .alter _
    obtain ⟨-, -, hcache⟩ := work_blind (s := s) hblind rfl rfl i .edited
    rw [Step.take, hcache]
    exact .idle _
  | copy i =>
    rw [Step.take]
    cases s.variants[i]? with
    | none => exact .idle _
    | some v => exact .idle _
  | compile i source exe keepSource =>
    obtain ⟨-, -, hcache⟩ :=
      work_blind (s := s) (Work.compile_isBlind c source exe keepSource) rfl rfl i .compiled
    rw [Step.take, hcache]
    exact .idle _
  | test i t =>
    cases hv : s.variants[i]? with
    | none =>
      have htake : (Step.test i t).take c s = (.missing, s) := by rw [Step.take, work, hv]
      rw [htake]
      exact cacheStep_idle rfl rfl
    | some v => exact (take_test_spec hagrees hobeys hv).2.2

/-! ### Runs -/

variable {tl : Timeline} {key : CacheKey}

lemma agrees_run (hagrees : s.Agrees H) (hobeys : s.Obeys c H tl) : (s.run c tl).2.Agrees H := by
  induction tl generalizing s with
  | nil => exact hagrees
  | cons e tl ih =>
    obtain ⟨m, step⟩ := e
    obtain ⟨hstep, hrest⟩ := hobeys
    have hcache := take_cacheStep (s := s.on m) hagrees hstep
    exact ih (hcache.agrees hagrees) hrest

/-- A session answers the same with any true cache. -/
lemma run_eq {s s' : Session} (hvariants : s.variants = s'.variants) (hs : s.Agrees H)
    (hs' : s'.Agrees H) (hobeys : s.Obeys c H tl) : (s.run c tl).1 = (s'.run c tl).1 := by
  -- the variants stay equal; the caches may differ and so may counters and ports
  induction tl generalizing s s' with
  | nil => rfl
  | cons e tl ih =>
    obtain ⟨m, step⟩ := e
    obtain ⟨hstep, hrest⟩ := hobeys
    have hmachine : (s.on m).machine = (s'.on m).machine := rfl
    have hvariants : (s.on m).variants = (s'.on m).variants := hvariants
    have hstep' := obeys_congr hmachine hvariants hstep
    obtain ⟨hanswer, hafter⟩ := take_eq hmachine hvariants hs hs' hstep
    have hcache := take_cacheStep (s := s.on m) hs hstep
    have hcache' := take_cacheStep (s := s'.on m) hs' hstep'
    have hanswers := ih hafter (hcache.agrees hs) (hcache'.agrees hs') hrest
    exact congrArg₂ List.cons hanswer hanswers

/-- A test whose outcome is in the cache is not run. -/
lemma not_mem_testRuns (hagrees : s.Agrees H) (hobeys : s.Obeys c H tl)
    (hkey : IsKnown s.cache key) : key ∉ s.testRuns c tl := by
  induction tl generalizing s with
  | nil => exact List.not_mem_nil
  | cons e tl ih =>
    obtain ⟨m, step⟩ := e
    obtain ⟨hstep, hrest⟩ := hobeys
    have hcache := take_cacheStep (s := s.on m) hagrees hstep
    rw [testRuns, List.mem_append, not_or]
    exact ⟨hcache.not_mem hkey, ih (hcache.agrees hagrees) hrest (hcache.isKnown hkey)⟩

/-- A test is run once, unless it times out. -/
lemma count_testRuns_le_one (hagrees : s.Agrees H) (hobeys : s.Obeys c H tl)
    (hcache : s.cache.isSome) (hkey : H key.1 key.2 ≠ .timeout) :
    (s.testRuns c tl).count key ≤ 1 := by
  induction tl generalizing s with
  | nil => exact Nat.zero_le 1
  | cons e tl ih =>
    obtain ⟨m, step⟩ := e
    obtain ⟨hstep, hrest⟩ := hobeys
    have hafter := take_cacheStep (s := s.on m) hagrees hstep
    rw [testRuns, List.count_append]
    by_cases hmem : key ∈ step.testRuns (s.on m) (step.take c (s.on m)).2
    · -- the outcome is in the cache from here on, so the rest of the session does not run it
      have hknown := hafter.isKnown_of_mem hcache hmem hkey
      have hrest := not_mem_testRuns (hafter.agrees hagrees) hrest hknown
      rw [List.count_eq_zero_of_not_mem hrest]
      exact hafter.count_le_one
    · rw [List.count_eq_zero_of_not_mem hmem, Nat.zero_add]
      exact ih (hafter.agrees hagrees) hrest (hafter.isSome_eq.trans hcache)

lemma isSome_cache_run (hagrees : s.Agrees H) (hobeys : s.Obeys c H tl) :
    (s.run c tl).2.cache.isSome = s.cache.isSome := by
  induction tl generalizing s with
  | nil => rfl
  | cons e tl ih =>
    obtain ⟨m, step⟩ := e
    obtain ⟨hstep, hrest⟩ := hobeys
    have hcache := take_cacheStep (s := s.on m) hagrees hstep
    exact (ih (hcache.agrees hagrees) hrest).trans hcache.isSome_eq

lemma obeys_append {pre post : Timeline} (h : s.Obeys c H (pre ++ post)) :
    s.Obeys c H pre ∧ (s.run c pre).2.Obeys c H post := by
  induction pre generalizing s with
  | nil => exact ⟨trivial, h⟩
  | cons e pre ih =>
    obtain ⟨m, step⟩ := e
    obtain ⟨hstep, hrest⟩ := h
    obtain ⟨hpre, hpost⟩ := ih hrest
    exact ⟨⟨hstep, hpre⟩, hpost⟩

end Session

/-- The cache changes no outcome. Let some variants share a cache whose entries are those of the
harness, and let them be edited, copied, compiled and tested in any order, with any machine at every
step, as long as the outcome of a test depends on the digest of the compiled text and on the test.
Then every step answers what it would answer without a cache; at every point the entries of the
cache are those of the harness; a test whose outcome is in the cache is not run from there on; and
no test is run twice unless it times out. -/
theorem cache_is_transparent (c : Config) (H : String → Test → Outcome) (s : Session)
    (cache : Cache) (tl : Timeline) (hcache : s.cache = some cache) (hagrees : cache.Agrees H)
    (hobeys : s.Obeys c H tl) :
    (s.run c tl).1 = (Session.run c { s with cache := none } tl).1 ∧
      (∀ pre post, pre ++ post = tl →
        ∃ cache', (s.run c pre).2.cache = some cache' ∧ cache'.Agrees H ∧
          ∀ digest test, (cache'.query digest test).isSome →
            (digest, test) ∉ (s.run c pre).2.testRuns c post) ∧
      ∀ digest test, H digest test ≠ .timeout →
        (s.testRuns c tl).count (digest, test) ≤ 1 := by
  have hs : s.Agrees H := by
    intro cache' hcache'
    obtain rfl := Option.some.inj (hcache.symm.trans hcache')
    exact hagrees
  refine ⟨?_, ?_, ?_⟩
  · exact Session.run_eq rfl hs (fun _ h => absurd h (Option.some_ne_none _).symm) hobeys
  · rintro pre post rfl
    obtain ⟨hpre, hpost⟩ := Session.obeys_append hobeys
    have hafter := Session.agrees_run hs hpre
    have hsome : (s.run c pre).2.cache.isSome := by
      rw [Session.isSome_cache_run hs hpre, hcache]
      rfl
    obtain ⟨cache', hcache'⟩ := Option.isSome_iff_exists.mp hsome
    refine ⟨cache', hcache', hafter cache' hcache', fun digest test hknown => ?_⟩
    apply Session.not_mem_testRuns hafter hpost
    rwa [IsKnown, hcache', Option.bind_some]
  · intro digest test hH
    exact Session.count_testRuns_le_one hs hobeys (by rw [hcache]; rfl) hH

/-- Positive tests pass and negative tests run out of time. The first positive test is in the cache
to begin with, so neither the variant nor its copy runs it; what is compiled anew runs it once. -/
theorem cache_is_transparent_copies :
    ∃ (c : Config) (H : String → Test → Outcome) (s : Session) (cache : Cache) (tl : Timeline)
      (p n : Test) (source exe : Path),
      (H "d" p = .passed ∧ H "d" n = .timeout) ∧
      s.compiled? 0 = some ⟨"d", true, source, some exe⟩ ∧
      (s.cache = some cache ∧ cache.query "d" p = some true) ∧
      tl.map (·.2) = [.test 0 p, .copy 0, .attempt 1 (.delete (.int 1)), .test 1 n, .test 0 n,
        .compile 1 source exe true, .test 1 p, .copy 1, .test 2 p] ∧
      (s.run c tl).1 = (Session.run c { s with cache := none } tl).1 ∧
      ("d", p) ∉ s.testRuns c tl ∧
      ∀ digest, (s.testRuns c tl).count (digest, p) ≤ 1 := by
  let c : Config := Config.default.set .testCommand "t"
  let H : String → Test → Outcome := fun _ test => if test.isPositive then .passed else .timeout
  let quick : Host.Machine := .ofDirectory [] "1"
  let slow : Host.Machine := { quick with further := { coverage := none, ending := .timedOut } }
  let p : Test := ⟨.positive, 1, Nat.one_pos⟩
  let n : Test := ⟨.negative, 1, Nat.one_pos⟩
  let source : Path := .ofText "/s"
  let exe : Path := .ofText "/e"
  let cache : Cache := (Cache.ofPath "x").add "d" p true
  let v : Variant Float :=
    { program := .lines ["a", "b"], localization := ⟨[]⟩, history := [], ownSuffix := none
      compiled := some ⟨"d", true, source, some exe⟩ }
  let s : Session :=
    { machine := quick, cache := some cache, stats := .zero, port := 808, variants := [v] }
  let tl : Timeline := [(quick, .test 0 p), (quick, .copy 0),
    (quick, .attempt 1 (.delete (.int 1))), (slow, .test 1 n), (slow, .test 0 n),
    (quick, .compile 1 source exe true), (quick, .test 1 p), (quick, .copy 1), (quick, .test 2 p)]
  have hwords {t : Test} (ht : t.IsReadable) (executable source : Path) (b : Bench) :
      Work.testWords c executable.text source.text t b.port = .ok ["t"] :=
    Work.testWords_of_plain (by decide +kernel) (by decide +kernel) ht
  have hrun {m : Host.Machine} {t : Test} {o : Outcome} (ht : t.IsReadable)
      (ho : ((do Work.outcomeOf t (← Host.start ["t"] c.testTimeout
        (some m.environment))).run m).1 = .ok o)
      (executable source : Path) (b : Bench) (hb : b.machine = m) :
      ((Work.runTest c executable.text source.text t []).run b).1 = .ok o := by
    rw [Work.run_runTest, hwords ht]
    dsimp only
    rw [Work.run_onMachine, hb]
    exact ho
  have hquick := hrun (m := quick) (t := p) (o := .passed) (Test.isReadable_one _) rfl
  have hslow := hrun (m := slow) (t := n) (o := .timeout) (Test.isReadable_one _) rfl
  have hagrees : cache.Agrees H := by
    intro digest test passed hquery
    rw [Cache.query_add] at hquery
    split_ifs at hquery with hkey
    · obtain ⟨rfl, rfl⟩ := Prod.mk.inj hkey
      obtain rfl := Option.some.inj hquery
      rfl
    · cases hquery
  have hobeys : s.Obeys c H tl :=
    ⟨fun k exe _ _ _ => hquick exe k.source, trivial, trivial,
      fun k exe _ _ _ => hslow exe k.source, fun k exe _ _ _ => hslow exe k.source, trivial,
      fun k exe _ _ _ => hquick exe k.source, trivial, fun k exe _ _ _ => hquick exe k.source,
      trivial⟩
  have hquery : cache.query "d" p = some true := by rw [Cache.query_add, if_pos rfl]
  obtain ⟨hanswers, hentries, honce⟩ := cache_is_transparent c H s cache tl rfl hagrees hobeys
  obtain ⟨cache', hcache', -, hnever⟩ := hentries [] tl rfl
  obtain rfl : cache = cache' := Option.some.inj hcache'
  have hknown : (cache.query "d" p).isSome := by rw [hquery]; rfl
  exact ⟨c, H, s, cache, tl, p, n, source, exe, ⟨rfl, rfl⟩, rfl, ⟨rfl, hquery⟩, rfl,
    hanswers, hnever "d" p hknown, fun digest => honce digest p (by decide)⟩

end VariantRepair
