import Mathlib.Tactic.Common
import VariantRepair.Bench.Evaluate
import VariantRepair.Proofs.Bench.Kept
import VariantRepair.Proofs.Command.Templates

/-!
# An evaluation, step by step

An evaluation writes the text of the variant to a file, compiles it, and then takes the outcome of
each test from the cache or from the harness. Nothing of this changes the variant, except that it
has a record of the compilation afterwards.
-/

namespace VariantRepair

open Host

variable {α β : Type} {c : Config} {b b' : Bench} {k : Compiled} {test : Test} {outcome : Outcome}

/-! ### Tests by number -/

lemma Test.all_eq_nil_iff {positives negatives : Int} (hpositives : 0 ≤ positives)
    (hnegatives : 0 ≤ negatives) :
    Test.all positives negatives = [] ↔ ¬ 1 ≤ positives + negatives := by
  simp only [all, upTo, List.append_eq_nil_iff, List.map_eq_nil_iff, List.range_eq_nil]
  omega

lemma Test.nodup_upTo (p : Polarity) (count : Int) : (upTo p count).Nodup := by
  refine (List.nodup_range).map fun i j h => ?_
  rw [Test.mk.injEq] at h
  omega

lemma Test.nodup_all (positives negatives : Int) : (all positives negatives).Nodup := by
  refine List.nodup_append.mpr ⟨nodup_upTo _ _, nodup_upTo _ _, ?_⟩
  rintro t ht t' ht' rfl
  obtain ⟨i, -, rfl⟩ := List.mem_map.mp ht
  obtain ⟨j, -, h⟩ := List.mem_map.mp ht'
  cases h

/-- Outcomes that name each test once all say the same when each test has this outcome. -/
lemma forall_outcome_iff {tests : List Test} {outcomes : List (Test × Outcome)}
    (hkeys : outcomes.map Prod.fst = tests) (hnodup : tests.Nodup) (outcome : Outcome) :
    (∀ o ∈ outcomes, o.2 = outcome) ↔ ∀ test ∈ tests, (test, outcome) ∈ outcomes := by
  subst hkeys
  constructor
  · intro h test htest
    obtain ⟨o, ho, rfl⟩ := List.mem_map.mp htest
    rwa [← h o ho]
  · intro h o ho
    have hsame := h o.1 (List.mem_map_of_mem ho)
    have hinj := List.inj_on_of_nodup_map hnodup
    rw [hinj ho hsame rfl]

/-! ### Single steps -/

/-- The variant with a record of its last compilation. -/
def Altered.remember (a : Altered) (k : Compiled) : Altered :=
  { a with variant := { a.variant with compiled := some k } }

namespace Work

/-- What goes on after something was read off the variant. -/
lemma of_run_reading_bind {f : Altered → Except Failure α} {g : α → Work β} {y : β}
    (h : (reading f >>= g).run b = (.ok y, b')) :
    ∃ x, f b.altered = .ok x ∧ (g x).run b = (.ok y, b') := by
  obtain ⟨x, b₁, hread, hrest⟩ := exists_run_of_run_bind h
  rw [run_reading] at hread
  obtain ⟨hx, rfl⟩ := Prod.mk.inj hread
  exact ⟨x, hx, hrest⟩

/-- What goes on after something was done on the machine. -/
lemma of_run_onMachine_bind {a : Action α} {g : α → Work β} {y : β}
    (h : (onMachine a >>= g).run b = (.ok y, b')) :
    ∃ x m, a.run b.machine = (.ok x, m) ∧ (g x).run { b with machine := m } = (.ok y, b') := by
  obtain ⟨x, b₁, hmachine, hrest⟩ := exists_run_of_run_bind h
  obtain ⟨m, hrun, rfl⟩ := exists_run_of_run_onMachine hmachine
  exact ⟨x, m, hrun, hrest⟩

/-- What goes on with an answer that was there already. -/
lemma of_run_ofExcept_bind {r : Except Failure α} {g : α → Work β} {y : β}
    (h : ((MonadExcept.ofExcept r : Work α) >>= g).run b = (.ok y, b')) :
    ∃ x, r = .ok x ∧ (g x).run b = (.ok y, b') :=
  of_run_reading_bind (f := fun _ => r) h

/-- What goes on after the variant was altered. -/
lemma of_run_alter_bind {a : Altered.Alteration α} {g : α → Work β} {y : β}
    (h : (alter a >>= g).run b = (.ok y, b')) :
    ∃ x altered, a.run b.altered = (.ok x, altered) ∧
      (g x).run { b with altered := altered } = (.ok y, b') := by
  obtain ⟨x, b₁, halter, hrest⟩ := exists_run_of_run_bind h
  rw [run_alter] at halter
  obtain ⟨hx, rfl⟩ := Prod.mk.inj halter
  exact ⟨x, _, Prod.ext hx rfl, hrest⟩

lemma of_run_ownCache {asked : String} {own : Option Cache}
    (h : (ownCache asked).run b = (.ok own, b')) : b' = b := by
  have hkept := preserves_ownCache (I := (· = b)) asked b rfl
  rwa [h] at hkept

/-! ### Tests -/

/-- The outcome of a test on what was compiled last. A test of what could not be compiled fails. An
outcome that the cache knows is taken from it. Any other outcome comes from the harness, which runs
the executable, and goes into the cache if one is used. -/
inductive Answers (c : Config) (k : Compiled) (test : Test) (b : Bench) : Outcome → Bench → Prop
  | unsuccessful (hfailed : k.success = false ∨ k.executable = none) :
      Answers c k test b .failed b
  | known {executable : Path} {cache : Cache} {passed : Bool} (hsuccess : k.success = true)
      (hexecutable : k.executable = some executable)
      (hcache : (ownCache "query").run b = (.ok (some cache), b))
      (hknown : cache.query k.digest test = some passed) :
      Answers c k test b (outcomeOfStored passed) { b with stats := b.stats.recordCacheHit }
  | fresh {executable : Path} {own : Option Cache} {outcome : Outcome} {b₁ : Bench}
      (hsuccess : k.success = true) (hexecutable : k.executable = some executable)
      (hcache : (ownCache "query").run b = (.ok own, b))
      (hunknown : (own.bind fun cache => cache.query k.digest test) = none)
      (hrun : (runTest c executable.text k.source.text test []).run b = (.ok outcome, b₁)) :
      Answers c k test b outcome { b₁ with
        stats := b₁.stats.recordTest (outcome == .timeout)
        cache := b₁.cache.map fun cache =>
          if own.isSome then cache.afterRun k.digest test outcome else cache }

lemma of_run_freshOutcome {digest : String} {executable source : Path} {useCache : Bool}
    (h : (freshOutcome c digest executable source test useCache).run b = (.ok outcome, b')) :
    ∃ b₁, (runTest c executable.text source.text test []).run b = (.ok outcome, b₁) ∧
      b' = { b₁ with
        stats := b₁.stats.recordTest (outcome == .timeout)
        cache := b₁.cache.map fun cache =>
          if useCache then cache.afterRun digest test outcome else cache } := by
  obtain ⟨⟨⟩, -, h⟩ := of_run_reading_bind h
  obtain ⟨outcome', b₁, hrun, h⟩ := exists_run_of_run_bind h
  obtain ⟨⟨⟩, -, h⟩ := of_run_reading_bind h
  obtain ⟨machine, cache, stats, port, altered⟩ := b₁
  cases useCache with
  | false =>
    cases h
    exact ⟨_, hrun, by cases cache <;> rfl⟩
  | true =>
    cases outcome' <;> cases h <;> exact ⟨_, hrun, by cases cache <;> rfl⟩

lemma answers_of_run_evaluateTest (hk : b.altered.variant.compiled = some k)
    (h : (evaluateTest c test).run b = (.ok outcome, b')) : Answers c k test b outcome b' := by
  obtain ⟨⟨⟩, -, h⟩ := of_run_reading_bind h
  have hvariant : variant.run b = (.ok b.altered.variant, b) := rfl
  rw [run_bind_of_ok hvariant, hk] at h
  dsimp only at h
  split at h
  · next executable hsuccess hexecutable =>
    obtain ⟨own, b₁, hown, hrest⟩ := exists_run_of_run_bind h
    obtain rfl := of_run_ownCache hown
    split at hrest
    · next passed hknown =>
      obtain ⟨cache, rfl, hquery⟩ := Option.bind_eq_some_iff.mp hknown
      obtain ⟨⟨⟩, -, hcount⟩ := of_run_reading_bind hrest
      cases hcount
      exact .known hsuccess hexecutable hown hquery
    · next hunknown =>
      obtain ⟨b₂, hrun, rfl⟩ := of_run_freshOutcome hrest
      exact .fresh hsuccess hexecutable hown hunknown hrun
  · next hfailed =>
    cases h
    refine .unsuccessful ?_
    cases hsuccess : k.success with
    | false => exact .inl rfl
    | true =>
      cases hexecutable : k.executable with
      | none => exact .inr rfl
      | some executable => exact absurd hexecutable (hfailed executable hsuccess)

lemma altered_of_run_runTest {executable source : String} {extra : List (String × String)}
    (h : (runTest c executable source test extra).run b = (.ok outcome, b')) :
    b'.altered = b.altered := by
  obtain ⟨words, m, -, hrun, -⟩ := run_runTest_of_ok (congrArg Prod.fst h)
  rw [h] at hrun
  obtain ⟨-, rfl⟩ := Prod.mk.inj hrun
  rfl

lemma Answers.altered_eq (h : Answers c k test b outcome b') : b'.altered = b.altered := by
  cases h with
  | unsuccessful => rfl
  | known => rfl
  | fresh _ _ _ _ hrun => exact (altered_of_run_runTest hrun :)

/-- The outcomes of tests in turn, on what was compiled last. -/
inductive AnswersAll (c : Config) (k : Compiled) :
    List Test → Bench → List (Test × Outcome) → Bench → Prop
  | nil {b : Bench} : AnswersAll c k [] b [] b
  | cons {test : Test} {tests : List Test} {outcome : Outcome} {outcomes : List (Test × Outcome)}
      {b b₁ b' : Bench} (hfirst : Answers c k test b outcome b₁)
      (hrest : AnswersAll c k tests b₁ outcomes b') :
      AnswersAll c k (test :: tests) b ((test, outcome) :: outcomes) b'

variable {tests : List Test} {outcomes : List (Test × Outcome)}

lemma answersAll_of_run_evaluateTests (hk : b.altered.variant.compiled = some k)
    (h : (evaluateTests c tests).run b = (.ok outcomes, b')) :
    AnswersAll c k tests b outcomes b' := by
  induction tests generalizing b outcomes with
  | nil =>
    cases h
    exact .nil
  | cons test tests ih =>
    obtain ⟨outcome, b₁, hfirst, h⟩ := exists_run_of_run_bind h
    obtain ⟨rest, b₂, hrest, h⟩ := exists_run_of_run_bind h
    cases h
    have hanswers := answers_of_run_evaluateTest hk hfirst
    exact .cons hanswers (ih (by rw [hanswers.altered_eq, hk]) hrest)

namespace AnswersAll

lemma altered_eq (h : AnswersAll c k tests b outcomes b') : b'.altered = b.altered := by
  induction h with
  | nil => rfl
  | cons hfirst _ ih => exact ih.trans hfirst.altered_eq

/-- Every test has an outcome, in order. -/
lemma map_fst (h : AnswersAll c k tests b outcomes b') : outcomes.map Prod.fst = tests := by
  induction h with
  | nil => rfl
  | cons _ _ ih => rw [List.map_cons, ih]

end AnswersAll

/-! ### Tests that pass -/

section Silent

variable {words : List String} (hplain : '_' ∉ c.testCommand.toList)
  (hwords : Command.split c.testCommand = .ok words)

include hplain hwords

/-- A test whose process says nothing and succeeds is passed. -/
lemma run_runTest_of_silent {executable source : String} (htest : test.IsReadable)
    (hreplies : b.machine.replies = []) (hfurther : b.machine.further = .silent) :
    (runTest c executable source test []).run b = (.ok .passed, { b with
      machine := { b.machine with
        calls := b.machine.calls ++ [⟨words, c.testTimeout, some b.machine.environment⟩] }
      port := nextPort b.port }) := by
  rw [run_runTest, testWords_of_plain hplain hwords htest]
  obtain ⟨machine, cache, stats, port, altered⟩ := b
  obtain ⟨files, directory, process, environment, replies, further, calls, out, err⟩ := machine
  obtain rfl : replies = [] := hreplies
  obtain rfl : further = .silent := hfurther
  rfl

/-- Without a cache all tests are passed where their processes say nothing and succeed. -/
lemma run_evaluateTests_of_silent {v : Variant Float} {executable : Path}
    (htests : ∀ test ∈ tests, test.IsReadable) (hv : b.altered = .ofVariant v)
    (hk : v.compiled = some k) (hsuccess : k.success = true)
    (hexecutable : k.executable = some executable) (hcache : b.cache = none)
    (hreplies : b.machine.replies = []) (hfurther : b.machine.further = .silent) :
    ∃ calls stats port, (evaluateTests c tests).run b
      = (.ok (tests.map fun test => (test, .passed)),
        { b with machine := { b.machine with calls := calls }, stats := stats, port := port }) := by
  induction tests generalizing b with
  | nil => exact ⟨b.machine.calls, b.stats, b.port, rfl⟩
  | cons test tests ih =>
    obtain ⟨hreadable, htests⟩ := List.forall_mem_cons.mp htests
    let b₁ : Bench := { b with
      machine := { b.machine with
        calls := b.machine.calls ++ [⟨words, c.testTimeout, some b.machine.environment⟩] }
      port := nextPort b.port }
    have hrun : (runTest c executable.text k.source.text test []).run b = (.ok .passed, b₁) :=
      run_runTest_of_silent hplain hwords hreadable hreplies hfurther
    have hstats : (reading (·.provides "stats" "record_test")).run b₁ = (.ok (), b₁) :=
      run_provides (b := b₁) hv _ _
    have hfirst : (evaluateTest c test).run b
        = (.ok .passed, { b₁ with stats := b.stats.recordTest false }) := by
      rw [evaluateTest, run_bind_of_ok (run_callable hv _), run_bind_of_ok (run_variant hv), hk]
      simp only [hsuccess, hexecutable]
      have hunknown : (b.cache.bind fun cache => cache.query k.digest test) = none := by
        rw [hcache, Option.bind_none]
      rw [run_bind_of_ok (run_ownCache hv _), hunknown]
      dsimp only
      rw [freshOutcome, run_bind_of_ok (run_provides hv _ _), run_bind_of_ok hrun,
        run_bind_of_ok hstats, Option.isSome_eq_false_iff.mpr (by rw [hcache]; rfl)]
      rfl
    obtain ⟨calls, stats, port, hrest⟩ :=
      ih (b := { b₁ with stats := b.stats.recordTest false }) htests hv hcache hreplies hfurther
    refine ⟨calls, stats, port, ?_⟩
    rw [evaluateTests, run_bind_of_ok hfirst, run_bind_of_ok hrest]
    rfl

end Silent

/-! ### Evaluations -/

/-- An evaluation of the variant at hand. Its text is written to a file, compiled and remembered,
and then the tests are answered on what was compiled. -/
structure Evaluates (c : Config) (b : Bench) (e : Evaluation) (b' : Bench) where
  /-- The text that is compiled. -/
  text : String
  /-- The record of its compilation. -/
  record : Compiled
  /-- The path that the text is written to, as it is given. -/
  source : Path
  written : Bench
  compiled : Bench
  tested : Bench
  writes : (writeSource source).run b = (.ok (text, record.source), written)
  compiles : (compileWritten c ((Path.ofText c.workDir).child "variant") c.keepSource text
    record.source).run written = (.ok record.success, compiled)
  remembers : compiled.altered = b.altered.remember record
  answers : AnswersAll c record (Test.all c.posTests c.negTests) compiled e.outcomes tested
  ends : b' = { tested with machine := b'.machine }
  digest_eq : record.digest = textDigest text
  compiled_eq : e.compiled = record.success
  reported : e.digest = some record.digest

/-- At the path of a source is what was written there, or nothing if the source was deleted. -/
def SourceLeft (deleted : Bool) (source : Path) (content : Content) (m : Machine) : Prop :=
  if deleted then ∃ place, m.files.locate m.directory source.text = .ok place ∧
    m.files.get? place = none
  else Cache.FileAt m source.text content

section Ends

variable {keepSource success : Bool} {exePath source : Path} {text : String}
  {result : Compilation} {content : Content} {m : Machine}

lemma sourceLeft_of_run_deleteFile (hfile : Cache.FileAt b.machine source.text content)
    (h : (Host.deleteFile source.text).run b.machine = (.ok (), m)) :
    SourceLeft true source content m := by
  obtain ⟨hnul, place, hfind⟩ := hfile
  obtain ⟨hlocate, hget⟩ := FileTree.find_eq_ok_iff.mp hfind
  rw [run_deleteFile_of_find hnul hfind] at h
  cases h
  have hfree : b.machine.files.get? place ≠ some .directory := by
    rw [hget]
    simp
  have hne : place ≠ [] := by
    rintro rfl
    cases hget
  exact ⟨place, FileTree.locate_of_directoriesStay (.erase hfree) hlocate,
    FileTree.get?_erase_self _ hne⟩

/-- The end of a compilation deletes the source if it is not to be kept and something else runs. -/
lemma of_run_compileEnded (h : (compileEnded keepSource source result).run b = (.ok success, b')) :
    success = result.success ∧ b'.altered = b.altered ∧
      ∀ content, Cache.FileAt b.machine source.text content →
        SourceLeft (!keepSource && result.executable.any (· ≠ source)) source content
          b'.machine := by
  have hdelete {b : Bench} (h : (do
      if !keepSource && result.executable.any (· ≠ source) then
        onMachine (Host.deleteFile source.text)
      return result.success : Work Bool).run b = (.ok success, b')) :
      success = result.success ∧ b'.altered = b.altered ∧
        ∀ content, Cache.FileAt b.machine source.text content →
          SourceLeft (!keepSource && result.executable.any (· ≠ source)) source content
            b'.machine := by
    dsimp only at h
    split_ifs at h with hdeleted
    · obtain ⟨⟨⟩, m, hrun, hend⟩ := of_run_onMachine_bind h
      cases hend
      refine ⟨rfl, rfl, fun content hfile => ?_⟩
      rw [hdeleted]
      exact sourceLeft_of_run_deleteFile hfile hrun
    · cases h
      refine ⟨rfl, rfl, fun content hfile => ?_⟩
      rw [SourceLeft, if_neg hdeleted]
      exact hfile
  rw [compileEnded] at h
  by_cases hfailed : !result.success
  · rw [if_pos hfailed] at h
    obtain ⟨name, -, h⟩ := of_run_reading_bind h
    obtain ⟨⟨⟩, m, hwarn, h⟩ := of_run_onMachine_bind h
    cases hwarn
    exact (hdelete h :)
  · rw [if_neg hfailed] at h
    exact hdelete h

/-- A compilation of a text that was written leaves a record of the text. It leaves the source
unless it deletes it. -/
lemma of_run_compileWritten
    (h : (compileWritten c exePath keepSource text source).run b = (.ok success, b')) :
    ∃ k, IsRecord c text source k ∧ k.success = success ∧ b'.altered = b.altered.remember k ∧
      ∀ content, Cache.FileAt b.machine source.text content →
        SourceLeft (!keepSource && k.executable.any (· ≠ source)) source content b'.machine := by
  obtain ⟨⟨⟩, -, h⟩ := of_run_reading_bind h
  obtain ⟨exe, m, hresolve, h⟩ := of_run_onMachine_bind h
  obtain ⟨-, rfl⟩ := Host.eq_resolve_of_run hresolve
  obtain ⟨result, m', hcompile, h⟩ := of_run_onMachine_bind h
  obtain ⟨⟨⟩, -, h⟩ := of_run_reading_bind h
  obtain ⟨⟨⟩, b₁, hcount, h⟩ := exists_run_of_run_bind h
  obtain ⟨⟨⟩, b₂, halter, hended⟩ := exists_run_of_run_bind h
  obtain ⟨rfl, haltered, hleft⟩ := of_run_compileEnded hended
  cases hcount
  cases halter
  exact ⟨_, ⟨rfl, rfl, fun hcommand => executable_of_run_compilation hcommand hcompile⟩, rfl,
    haltered, fun content hfile => hleft content (fileAt_of_run_compilation hfile hcompile)⟩

end Ends

lemma nonempty_evaluates {output : Option String} {e : Evaluation}
    (h : (evaluate c output).run b = (.ok e, b')) : Nonempty (Evaluates c b e b') := by
  obtain ⟨name, -, h⟩ := of_run_reading_bind h
  obtain ⟨success, compiled, hcompile, h⟩ := exists_run_of_run_bind h
  rw [compile_eq] at hcompile
  obtain ⟨⟨text, source⟩, written, hwrite, hcompile⟩ := exists_run_of_run_bind hcompile
  obtain ⟨k, ⟨hdigest, rfl, -⟩, rfl, hremember, -⟩ := of_run_compileWritten hcompile
  obtain ⟨-, -, hwritten, -⟩ := of_run_writeSource hwrite
  rw [hwritten] at hremember
  have hk : compiled.altered.variant.compiled = some k := by rw [hremember]; rfl
  obtain ⟨shown, -, h⟩ := of_run_reading_bind h
  obtain ⟨outcomes, tested, htests, h⟩ := exists_run_of_run_bind h
  have hanswers := answersAll_of_run_evaluateTests hk htests
  have hvariant : variant.run tested = (.ok tested.altered.variant, tested) := rfl
  rw [run_bind_of_ok hvariant] at h
  have hdone : e.outcomes = outcomes ∧ e.compiled = k.success ∧
      e.digest = tested.altered.variant.compiled.map (·.digest) ∧
      b' = { tested with machine := b'.machine } := by
    split at h
    · split_ifs at h
      · obtain ⟨⟨⟩, m, -, hend⟩ := of_run_onMachine_bind h
        cases hend
        exact ⟨rfl, rfl, rfl, rfl⟩
      · cases h
        exact ⟨rfl, rfl, rfl, rfl⟩
    · cases h
      exact ⟨rfl, rfl, rfl, rfl⟩
  obtain ⟨rfl, hcompiled, hreported, hends⟩ := hdone
  rw [hanswers.altered_eq, hk] at hreported
  exact ⟨⟨text, k, _, written, compiled, tested, hwrite, hcompile, hremember, hanswers, hends,
    hdigest, hcompiled, hreported⟩⟩

/-- The variant has a record of the compilation afterwards, and is the same otherwise. -/
lemma Evaluates.altered_eq {e : Evaluation} (t : Evaluates c b e b') :
    b'.altered = b.altered.remember t.record :=
  (congrArg Bench.altered t.ends).trans (t.answers.altered_eq.trans t.remembers)

/-- The variant passes all tests when it was compiled, and there are tests, each of which it
passes. -/
lemma Evaluates.passedAll_iff {e : Evaluation} (t : Evaluates c b e b')
    (hpositives : 0 ≤ c.posTests) (hnegatives : 0 ≤ c.negTests) :
    e.passedAll = true ↔ t.record.success = true ∧ 1 ≤ c.posTests + c.negTests ∧
      ∀ test ∈ Test.all c.posTests c.negTests, (test, .passed) ∈ e.outcomes := by
  have hkeys := t.answers.map_fst
  have hsome : e.outcomes ≠ [] ↔ 1 ≤ c.posTests + c.negTests := by
    rw [ne_eq, ← List.map_eq_nil_iff, hkeys, Test.all_eq_nil_iff hpositives hnegatives, not_not]
  have hpassed : e.passedAll = true ↔
      e.compiled = true ∧ e.outcomes ≠ [] ∧ ∀ o ∈ e.outcomes, o.2 = .passed := by
    simp [Evaluation.passedAll, and_assoc]
  rw [hpassed, t.compiled_eq, hsome, forall_outcome_iff hkeys (Test.nodup_all _ _)]

end Work

end VariantRepair
