import Mathlib.Tactic.Common
import VariantRepair.Proofs.Bench.Compile
import VariantRepair.Proofs.Bench.Harness
import VariantRepair.Proofs.Cache.File
import VariantRepair.Proofs.Host.Kept

/-!
# Benches that stay as they should

Work at the bench is put together from what is done on the machine, with the variant, with the cache
and with the counters. So it keeps what is known of the machine, of the cache and of the variant
when each of its parts does. Compiling writes one file, and testing one at most, which the
environment names; a test adds to the cache only what the cache does not know.
-/

namespace VariantRepair

open Host

variable {α β : Type}

/-- What is known of the parts of a bench. -/
structure Bench.Within (J : Machine → Prop) (K : Cache → Prop) (A : Altered → Prop) (b : Bench) :
    Prop where
  machine : J b.machine
  cache : ∀ cache, b.cache = some cache → K cache
  altered : A b.altered

namespace Work

variable {J : Machine → Prop} {K : Cache → Prop} {A : Altered → Prop} {I : Bench → Prop}

/-! ### Single steps -/

lemma preserves_reading (f : Altered → Except Failure α) : Preserves I (reading f) :=
  .bind_get fun _ _ => .ofExcept _

lemma preserves_variant : Preserves I variant :=
  .bind_get fun _ _ => .pure _

lemma preserves_ownCache (asked : String) : Preserves I (ownCache asked) := by
  refine .bind_get fun b _ => ?_
  split
  · exact .pure _
  · exact .pure _
  · exact .throw _

lemma within_onMachine {a : Action α} (h : Preserves J a) :
    Preserves (Bench.Within J K A) (onMachine a) := by
  intro b hb
  rw [run_onMachine]
  exact ⟨h _ hb.machine, hb.cache, hb.altered⟩

lemma within_alter {a : Altered.Alteration α} (h : Preserves A a) :
    Preserves (Bench.Within J K A) (alter a) := by
  intro b hb
  rw [run_alter]
  exact ⟨hb.machine, hb.cache, h _ hb.altered⟩

lemma within_count (f : Stats → Stats) : Preserves (Bench.Within J K A) (count f) :=
  .modify fun _ hb => ⟨hb.machine, hb.cache, hb.altered⟩

lemma within_changeCache {f : Cache → Cache} (h : ∀ cache, K cache → K (f cache)) :
    Preserves (Bench.Within J K A) (changeCache f) := by
  refine .modify fun b hb => ⟨hb.machine, fun cache hcache => ?_, hb.altered⟩
  obtain ⟨cache', hcache', rfl⟩ := Option.map_eq_some_iff.mp hcache
  exact h cache' (hb.cache cache' hcache')

variable {m₀ : Machine} {S : Place → Prop} {C : Content → Prop} {c : Config}

/-- The cache that a variant uses is the one on the bench, if it uses any. -/
lemma own_of_run_ownCache {asked : String} {own : Option Cache} {b b' : Bench}
    (hb : ∀ cache, b.cache = some cache → K cache)
    (hrun : (ownCache asked).run b = (.ok own, b')) : ∀ cache, own = some cache → K cache := by
  have hget : (get : Work Bench).run b = (.ok b, b) := rfl
  rw [ownCache, run_bind_of_ok hget] at hrun
  split at hrun
  · cases hrun
    exact hb
  · cases hrun
    intro cache hcache
    cases hcache
  · cases hrun

/-! ### Compiling -/

lemma within_writeSource {sourcePath : Path}
    (hsource : S (FileTree.placeOf m₀.directory (sourcePath.resolve m₀.directory).text) →
      ∀ a text, A a → a.text = .ok text → C (.ofText text)) :
    Preserves (Bench.Within (m₀.Keeps S C) K A) (writeSource sourcePath) := by
  refine .bind (preserves_reading _) fun _ =>
    .bind_of (Q := fun text => ∃ a, A a ∧ a.text = .ok text) (preserves_reading _) ?_
      fun text ⟨a, ha, htext⟩ =>
    .bind_of (Q := (· = sourcePath.resolve m₀.directory))
      (within_onMachine (preserves_resolve _)) ?_ ?_
  · intro b text b' hb hrun
    rw [run_reading] at hrun
    exact ⟨b.altered, hb.altered, (Prod.mk.inj hrun).1⟩
  · intro b source b' hb hrun
    obtain ⟨m, hrun, -⟩ := exists_run_of_run_onMachine hrun
    rw [(Host.eq_resolve_of_run hrun).1, hb.machine.directory]
  · rintro source rfl
    refine .bind (within_onMachine (.bind (keeps_needDirectories _) fun _ => ?_)) fun _ => .pure _
    exact keeps_writeContent_of fun hplace => hsource hplace a text ha htext

/-- The end of a compilation preserves what is preserved by saying that it failed and by deleting
the source, where that is deleted. -/
lemma preserves_compileEnded {source : Path} {keepSource : Bool} {result : Compilation}
    (hwarn : ∀ line, Preserves I (onMachine (Host.warn line)))
    (hdelete : (!keepSource && result.executable.any (· ≠ source)) = true →
      Preserves I (onMachine (Host.deleteFile source.text))) :
    Preserves I (compileEnded keepSource source result) := by
  have hend : Preserves I (do
      if !keepSource && result.executable.any (· ≠ source) then
        onMachine (Host.deleteFile source.text)
      return result.success) := by
    dsimp only
    split_ifs with hdeleted
    · exact .bind (hdelete hdeleted) fun _ => .pure _
    · exact .pure _
  rw [compileEnded]
  by_cases hfailed : !result.success
  · rw [if_pos hfailed]
    exact .bind (preserves_reading _) fun name => .bind (hwarn _) fun _ => hend
  · rw [if_neg hfailed]
    exact hend

section Written

variable {source exePath : Path} {text : String} {keepSource : Bool}
  (hdelete : S (FileTree.placeOf m₀.directory source.text) →
    Compilation.producesExecutable c = false)

include hdelete

lemma within_compileEnded {result : Compilation}
    (hresult : Compilation.producesExecutable c = false →
      result.executable = none ∨ result.executable = some source) :
    Preserves (Bench.Within (m₀.Keeps S C) K A) (compileEnded keepSource source result) := by
  refine preserves_compileEnded (fun _ => within_onMachine (keeps_warn _)) fun hother =>
    within_onMachine (keeps_deleteFile fun hplace => ?_)
  rcases hresult (hdelete hplace) with hnone | hsome
  · simp [hnone] at hother
  · simp [hsome] at hother

lemma within_compileWritten
    (hA : ∀ a k, A a → IsRecord c text source k →
      A { a with variant := { a.variant with compiled := some k } }) :
    Preserves (Bench.Within (m₀.Keeps S C) K A)
      (compileWritten c exePath keepSource text source) := by
  refine .bind (preserves_reading _) fun _ =>
    .bind (within_onMachine (preserves_resolve _)) fun exe =>
    .bind_of (Q := fun result => Compilation.producesExecutable c = false →
      result.executable = none ∨ result.executable = some source)
      (within_onMachine (keeps_compilation _ _ _)) ?_ fun result hresult =>
    .bind (preserves_reading _) fun _ => .bind (within_count _) fun _ =>
    .bind (within_alter (.modify fun a ha => hA a _ ha ⟨rfl, rfl, hresult⟩)) fun _ =>
    within_compileEnded hdelete hresult
  intro b result b' _ hrun hcommand
  obtain ⟨m, hrun, -⟩ := exists_run_of_run_onMachine hrun
  exact executable_of_run_compilation hcommand hrun

end Written

/-- Compiling keeps what is known when the source is written elsewhere, or holds a text of the kind
and is itself what runs. -/
lemma within_compile {sourcePath exePath : Path} {keepSource : Bool}
    (hsource : S (FileTree.placeOf m₀.directory (sourcePath.resolve m₀.directory).text) →
      Compilation.producesExecutable c = false ∧
        ∀ a text, A a → a.text = .ok text → C (.ofText text))
    (hA : ∀ a k, A a → A { a with variant := { a.variant with compiled := some k } }) :
    Preserves (Bench.Within (m₀.Keeps S C) K A) (compile c sourcePath exePath keepSource) := by
  rw [compile_eq]
  refine .bind_of (Q := fun x => x.2 = sourcePath.resolve m₀.directory)
    (within_writeSource fun hplace => (hsource hplace).2) ?_ ?_
  · rintro b ⟨text, source⟩ b' hb hrun
    obtain ⟨-, hresolve, -⟩ := of_run_writeSource hrun
    rw [hresolve, hb.machine.directory]
  · rintro ⟨text, source⟩ rfl
    exact within_compileWritten (fun hplace => (hsource hplace).1) fun a k ha _ => hA a k ha

/-! ### Testing -/

/-- A run of a test preserves what is preserved by starting its process, in the environment of the
machine with some variables more. -/
lemma within_runTest_of_start {env : Config.Environment} {extra : List (String × String)}
    (henv : ∀ m, J m → m.environment = env) (hwarn : ∀ line, Preserves J (warn line))
    (hstart : ∀ words,
      Preserves J (start words c.testTimeout (some (withVariables env extra))))
    (executable source : String) (test : Test) :
    Preserves (Bench.Within J K A) (runTest c executable source test extra) := by
  refine .bind_get fun b hb => .bind (.ofExcept _) fun argv =>
    .bind (.modify fun _ h => ⟨h.machine, h.cache, h.altered⟩) fun _ => within_onMachine ?_
  rw [henv _ hb.machine]
  exact .bind (hstart argv) fun e => preserves_outcomeOf hwarn test e

lemma within_runTest {extra : List (String × String)}
    (hcoverage : m₀.CoverageElsewhere S (withVariables m₀.environment extra))
    (executable source : String) (test : Test) :
    Preserves (Bench.Within (m₀.Keeps S C) K A) (runTest c executable source test extra) := by
  refine within_runTest_of_start (fun _ h => h.environment) keeps_warn
    (fun words => keeps_start ?_ words _) executable source test
  rintro env henv
  obtain rfl := Option.some.inj henv
  exact hcoverage

section Evaluate

variable (hrun : ∀ executable source test,
  Preserves (Bench.Within J K A) (runTest c executable source test []))

include hrun

lemma within_freshOutcome {digest : String} {test : Test} {useCache : Bool}
    (htakes : useCache = true → test.IsReadable → Cache.Takes K digest test)
    (executable source : Path) :
    Preserves (Bench.Within J K A)
      (freshOutcome c digest executable source test useCache) := by
  refine .bind (preserves_reading _) fun _ =>
    .bind_of (Q := fun _ => test.IsReadable) (hrun _ _ _) ?_ fun outcome htest =>
    .bind (preserves_reading _) fun _ => .bind (within_count _) fun _ => ?_
  · intro b outcome b' _ hrun
    obtain ⟨words, m, hwords, -⟩ := run_runTest_of_ok (congrArg Prod.fst hrun)
    exact isReadable_of_testWords hwords
  · cases useCache with
    | false => exact .pure _
    | true =>
      have htakes := htakes rfl htest
      exact .bind (within_changeCache fun cache h => (htakes cache h).1) fun _ =>
        .ite_bind (within_changeCache fun cache h => (htakes cache h).2 _) fun _ => .pure _

/-- A test keeps what the harness keeps, if the caches may grow by what they do not know. -/
lemma within_evaluateTest_of_runTest (hnew : Cache.TakesNew K) (test : Test) :
    Preserves (Bench.Within J K A) (evaluateTest c test) := by
  refine .bind (preserves_reading _) fun _ => .bind preserves_variant fun v => ?_
  split
  · exact .bind (preserves_reading _) fun _ => .throw _
  · next compiled _ =>
    split
    · next executable _ _ =>
      refine .bind_of (Q := fun own => ∀ cache, own = some cache → K cache)
        (preserves_ownCache _) ?_ fun own hown => ?_
      · intro b own b' hb hrun
        exact own_of_run_ownCache hb.cache hrun
      · split
        · exact .bind (preserves_reading _) fun _ => .bind (within_count _) fun _ => .pure _
        · next hunknown =>
          refine within_freshOutcome hrun (fun hsome htest => ?_) _ _
          obtain ⟨cache, rfl⟩ := Option.isSome_iff_exists.mp hsome
          exact hnew cache _ test (hown cache rfl) htest hunknown
    · exact .pure _

lemma within_evaluateTests_of_runTest (hnew : Cache.TakesNew K) (tests : List Test) :
    Preserves (Bench.Within J K A) (evaluateTests c tests) := by
  induction tests with
  | nil => exact .pure _
  | cons test tests ih =>
    exact .bind (within_evaluateTest_of_runTest hrun hnew test) fun _ =>
      .bind ih fun _ => .pure _

end Evaluate

section Evaluate

variable (hcoverage : m₀.CoverageElsewhere S m₀.environment)

include hcoverage

lemma within_evaluateTest (hnew : Cache.TakesNew K) (test : Test) :
    Preserves (Bench.Within (m₀.Keeps S C) K A) (evaluateTest c test) :=
  within_evaluateTest_of_runTest (within_runTest hcoverage) hnew test

lemma within_evaluateTests (hnew : Cache.TakesNew K) (tests : List Test) :
    Preserves (Bench.Within (m₀.Keeps S C) K A) (evaluateTests c tests) :=
  within_evaluateTests_of_runTest (within_runTest hcoverage) hnew tests

end Evaluate

end Work

end VariantRepair
