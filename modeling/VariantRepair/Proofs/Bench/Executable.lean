import Mathlib.Tactic.Common
import VariantRepair.Proofs.Bench.Evaluated
import VariantRepair.Proofs.Bench.Harness
import VariantRepair.Proofs.Bench.Kept
import VariantRepair.Proofs.Cache.File
import VariantRepair.Proofs.Command.Templates

/-!
# The text that ran

Where the compile command makes no executable, the rendered source is what runs. Its file holds the
text that was compiled until another text is compiled into it. So an outcome goes into the cache
under the digest of the text that ran, unless the file was overwritten while a variant still counted
as compiled to it: by another variant, or by its own compilation that failed on the way.
-/

namespace VariantRepair

open Host

variable {c : Config} {s : Session} {k : Compiled}

/-! ### Records of compilations -/

/-- An attempt leaves the record of the last compilation alone. -/
lemma Attempt.preserves_compiled (untouched : Float) (t : Attempt) (last : Option Compiled) :
    Preserves (fun a => ∃ v, a = .ofVariant v ∧ v.compiled = last) (t.make untouched) := by
  rintro _ ⟨v, rfl, hv⟩
  rw [run_make]
  rcases v.attempt_cases untouched t with ⟨f, hattempt⟩ | ⟨e, -, hattempt⟩
  · rw [hattempt]
    exact ⟨v, rfl, hv⟩
  · rw [hattempt]
    exact ⟨v.edited untouched e, rfl, hv⟩

/-- A compilation leaves the record of the last one, or a record of its own and the text in its
source. -/
lemma Work.compiled_run_compile {b : Bench} {sourcePath exePath : Path} {keepSource : Bool}
    (hcommand : Compilation.producesExecutable c = false) :
    ((compile c sourcePath exePath keepSource).run b).2.altered.variant.compiled
        = b.altered.variant.compiled ∨
      ∃ text source k, IsRecord c text source k ∧
        ((compile c sourcePath exePath keepSource).run b).2.altered.variant.compiled = some k ∧
        Cache.FileAt ((compile c sourcePath exePath keepSource).run b).2.machine source.text
          (.ofText text) := by
  rw [compile_eq]
  cases hwrite : (writeSource sourcePath).run b with
  | mk r b₁ =>
    cases r with
    | error f =>
      have hkept : Preserves (Bench.Within (b.machine.Keeps (fun _ => False) (fun _ => True))
          (fun _ => True) (· = b.altered)) (writeSource sourcePath) :=
        within_writeSource nofun
      have hb₁ := hkept b ⟨.refl nofun, fun _ _ => trivial, rfl⟩
      rw [hwrite] at hb₁
      rw [run_bind_of_error hwrite, hb₁.altered]
      exact .inl rfl
    | ok x =>
      obtain ⟨text, source⟩ := x
      obtain ⟨-, -, haltered, hnul, place, hfind⟩ := of_run_writeSource hwrite
      obtain ⟨hlocate, hget⟩ := FileTree.find_eq_ok_iff.mp hfind
      rw [run_bind_of_ok hwrite]
      -- the file stays as it was written
      have hkept : Preserves (Bench.Within (b₁.machine.Keeps (· = place) (· = .ofText text))
          (fun _ => True) fun a => a.variant.compiled = b.altered.variant.compiled ∨
            ∃ k, IsRecord c text source k ∧ a.variant.compiled = some k)
          (compileWritten c exePath keepSource text source) :=
        within_compileWritten (fun _ => hcommand) fun a k _ hk => .inr ⟨k, hk, rfl⟩
      have hafter := hkept b₁
        ⟨.refl fun _ h => ⟨_, h ▸ hget, rfl⟩, fun _ _ => trivial, .inl (by rw [haltered])⟩
      rcases hafter.altered with hsame | ⟨k, hrecord, hk⟩
      · exact .inl hsame
      · obtain ⟨content, hfound, rfl⟩ := hafter.machine.find rfl hlocate
        exact .inr ⟨text, source, k, hrecord, hk, hnul, place, hfound⟩

/-! ### Sessions on one machine -/

namespace Session

/-- Take steps in turn, each on what the one before it leaves. -/
def play (c : Config) (s : Session) (steps : List Step) : Session :=
  steps.foldl (fun s step => (step.take c s).2) s

lemma play_append_singleton (c : Config) (s : Session) (steps : List Step) (step : Step) :
    s.play c (steps ++ [step]) = (step.take c (s.play c steps)).2 := by
  rw [play, List.foldl_append]
  rfl

/-- Some variant was last compiled as a record says. -/
def Remembers (s : Session) (k : Compiled) : Prop :=
  ∃ v ∈ s.variants, v.compiled = some k

end Session

/-- A compilation puts a text with another digest where the executable of a record is. -/
def Step.Overwrites (s : Session) (k : Compiled) : Step → Prop
  | .compile i source _ _ => ∃ v text executable, s.variants[i]? = some v ∧
      v.program.text = .ok text ∧ textDigest text ≠ k.digest ∧ k.executable = some executable ∧
      FileTree.placeOf s.machine.directory (source.resolve s.machine.directory).text
        = FileTree.placeOf s.machine.directory executable.text
  | _ => False

/-- No step overwrites the executable of a record that a variant goes on having. -/
def Session.Spares (c : Config) (k : Compiled) : Session → List Step → Prop
  | _, [] => True
  | s, step :: steps =>
    (s.Remembers k → (step.take c s).2.Remembers k → ¬ step.Overwrites s k) ∧
      Session.Spares c k (step.take c s).2 steps

/-- The executable of a record holds a text with its digest. -/
def Compiled.Holds (k : Compiled) (m : Machine) : Prop :=
  ∀ executable, k.executable = some executable →
    ∃ text, Cache.FileAt m executable.text (.ofText text) ∧ textDigest text = k.digest

/-- The coverage file that variables name is not the executable of a record. -/
def Compiled.CoverageElsewhere (k : Compiled) (m : Machine) : Prop :=
  ∀ executable, k.executable = some executable →
    m.CoverageElsewhere (· = FileTree.placeOf m.directory executable.text) m.environment

namespace Session

variable {step : Step} {steps : List Step}

/-! ### Steps that compile -/

/-- The session after a compilation that succeeds. -/
def compiled (c : Config) (s : Session) (i : Nat) (v : Variant Float) (text : String)
    (source : Path) (place : Place) (words : List String) : Session :=
  { machine := s.machine.compiled place text words c.compileTimeout, cache := s.cache
    stats := s.stats.recordCompile true, port := s.port
    variants := s.variants.set i
      { v with compiled := some ⟨textDigest text, true, source, some source⟩ } }

lemma take_compile_of_compiles {i : Nat} {v : Variant Float} {text : String}
    {sourcePath exePath source : Path} {keepSource : Bool} {place : Place} {words : List String}
    (hcommand : Compilation.producesExecutable c = false) (hv : s.variants[i]? = some v)
    (htext : v.program.text = .ok text)
    (h : Work.Compiles c s.machine sourcePath exePath source place words) :
    (Step.compile i sourcePath exePath keepSource).take c s
      = (.compiled (.ok true), s.compiled c i v text source place words) := by
  rw [Step.take, work, hv]
  dsimp only
  rw [Work.run_compile_of_compiles (b := s.bench v) hcommand rfl htext h]
  rfl

/-! ### What a step does to the machine -/

/-- The bench with a variant of a session on it is within what is known of the two. -/
lemma within_bench {J : Machine → Prop} {A : Altered → Prop} {v : Variant Float}
    (hmachine : J s.machine) (hA : A (.ofVariant v)) :
    Bench.Within J (fun _ => True) A (s.bench v) :=
  ⟨hmachine, fun _ _ => trivial, hA⟩

/-- Work in a session keeps what it keeps of the machine at the bench. -/
lemma machine_work {α : Type} {J : Machine → Prop} {w : Work α} {i : Nat}
    (answer : Except Failure α → Answer) (hs : J s.machine)
    (hw : ∀ v, s.variants[i]? = some v → J (w.run (s.bench v)).2.machine) :
    J (s.work i w answer).2.machine := by
  rw [work]
  split
  · exact hs
  · next v hv => exact hw v hv

variable {m₀ : Machine} {S : Place → Prop} {C : Content → Prop}

/-- A step keeps files of a kind when what it compiles to their places is of the kind. -/
lemma keeps_take (hcoverage : m₀.CoverageElsewhere S m₀.environment)
    (hwrite : ∀ i source exe keepSource v text, step = .compile i source exe keepSource →
      s.variants[i]? = some v → v.program.text = .ok text →
      S (FileTree.placeOf m₀.directory (source.resolve m₀.directory).text) →
      C (.ofText text))
    (hcommand : Compilation.producesExecutable c = false)
    (hs : m₀.Keeps S C s.machine) : m₀.Keeps S C (step.take c s).2.machine := by
  cases step with
  | attempt i t =>
    refine machine_work _ hs fun v _ => ?_
    exact (Work.within_alter (A := fun _ => True) (fun _ _ => trivial) _
      (within_bench hs trivial)).machine
  | copy i =>
    rw [Step.take]
    split
    · exact hs
    · exact hs
  | compile i source exe keepSource =>
    refine machine_work _ hs fun v hv => ?_
    refine (Work.within_compile (A := fun a => ∃ k, a = .ofVariant { v with compiled := k })
      (fun hplace => ⟨hcommand, ?_⟩) ?_ _ (within_bench hs ⟨v.compiled, rfl⟩)).machine
    · rintro _ text ⟨k, rfl⟩ htext
      rw [Altered.text_ofVariant] at htext
      exact hwrite i source exe keepSource v text rfl hv htext hplace
    · rintro _ k ⟨k', rfl⟩
      exact ⟨some k, rfl⟩
  | test i t =>
    refine machine_work _ hs fun v _ => ?_
    exact (Work.within_evaluateTest (A := fun _ => True) hcoverage Cache.takesNew_true t _
      (within_bench hs trivial)).machine

/-! ### Records -/

lemma remembers_of_compiled {i : Nat} {v : Variant Float} (hv : s.variants[i]? = some v)
    (hk : v.compiled = some k) : s.Remembers k :=
  ⟨v, List.mem_of_getElem? hv, hk⟩

/-- A record that is new after work on a variant is that of the variant, which had another one. -/
lemma remembers_work {α : Type} {w : Work α} {i : Nat} {answer : Except Failure α → Answer}
    (h : (s.work i w answer).2.Remembers k) :
    s.Remembers k ∨ ∃ v, s.variants[i]? = some v ∧ v.compiled ≠ some k ∧
      (w.run (s.bench v)).2.altered.variant.compiled = some k := by
  rw [work] at h
  split at h
  · exact .inl h
  · next v hv =>
    by_cases hold : v.compiled = some k
    · exact .inl (remembers_of_compiled hv hold)
    · obtain ⟨w, hw, hk⟩ := h
      rcases List.mem_or_eq_of_mem_set hw with hw | rfl
      · exact .inl ⟨w, hw, hk⟩
      · exact .inr ⟨v, hv, hold, hk⟩

/-- A record that is new after a step is that of a text which was compiled in the step and which its
source holds. -/
lemma remembers_take (hcommand : Compilation.producesExecutable c = false)
    (h : (step.take c s).2.Remembers k) :
    s.Remembers k ∨ ∃ text source, Work.IsRecord c text source k ∧
      Cache.FileAt (step.take c s).2.machine source.text (.ofText text) := by
  cases step with
  | attempt i t =>
    obtain h | ⟨v, -, hne, hk⟩ := remembers_work h
    · exact .inl h
    · have hkept := Work.within_alter
        (Attempt.preserves_compiled c.untouchedWeight t v.compiled) (s.bench v)
        (within_bench (J := fun _ => True) trivial ⟨v, rfl, rfl⟩)
      obtain ⟨v', ha, hsame⟩ := hkept.altered
      rw [ha] at hk
      exact absurd (hsame.symm.trans hk) hne
  | copy i =>
    left
    rw [Step.take] at h
    split at h
    · exact h
    · next v hv =>
      obtain ⟨w, hw, hk⟩ := h
      rcases List.mem_append.mp hw with hw | hw
      · exact ⟨w, hw, hk⟩
      · obtain rfl := List.mem_singleton.mp hw
        exact remembers_of_compiled hv hk
  | compile i source exe keepSource =>
    obtain h | ⟨v, hv, hne, hk⟩ := remembers_work h
    · exact .inl h
    · rcases Work.compiled_run_compile hcommand with
        hsame | ⟨text, source', k', hrecord, hk', hfile⟩
      · exact absurd (hsame.symm.trans hk) hne
      · obtain rfl := Option.some.inj (hk'.symm.trans hk)
        refine .inr ⟨text, source', hrecord, ?_⟩
        rw [Step.take, work, hv]
        exact hfile
  | test i t =>
    obtain h | ⟨v, -, hne, hk⟩ := remembers_work h
    · exact .inl h
    · have hkept : Preserves (Bench.Within (s.machine.Keeps (fun _ => False) (fun _ => True))
          (fun _ => True) (· = .ofVariant v)) (Work.evaluateTest c t) :=
        Work.within_evaluateTest (fun _ _ => id) Cache.takesNew_true t
      rw [(hkept (s.bench v) (within_bench (.refl nofun) rfl)).altered] at hk
      exact absurd hk hne

/-! ### Executables hold what was compiled -/

/-- A step that spares a record leaves it with an executable that holds its text. -/
lemma holds_take (hcommand : Compilation.producesExecutable c = false)
    (hcoverage : k.CoverageElsewhere s.machine) (hholds : s.Remembers k → k.Holds s.machine)
    (hspared : s.Remembers k → (step.take c s).2.Remembers k → ¬ step.Overwrites s k)
    (h : (step.take c s).2.Remembers k) : k.Holds (step.take c s).2.machine := by
  intro executable hexecutable
  rcases remembers_take hcommand h with hk | ⟨text, source, hrecord, hfile⟩
  · -- the record is an old one, and its file stays or gets a text with the same digest
    obtain ⟨text, ⟨hnul, place, hfind⟩, hdigest⟩ := hholds hk executable hexecutable
    obtain ⟨hlocate, hget⟩ := FileTree.find_eq_ok_iff.mp hfind
    obtain rfl := FileTree.eq_placeOf_of_locate hlocate
    have hkept : s.machine.Keeps (· = FileTree.placeOf s.machine.directory executable.text)
        (fun content => ∃ text, content = .ofText text ∧ textDigest text = k.digest)
        (step.take c s).2.machine := by
      refine keeps_take (hcoverage executable hexecutable) ?_ hcommand
        (.refl fun _ h => ⟨_, h ▸ hget, text, rfl, hdigest⟩)
      rintro i source exe keepSource v text' rfl hv htext hplace
      refine ⟨text', rfl, ?_⟩
      by_contra hne
      exact hspared hk h ⟨v, text', executable, hv, htext, hne, hexecutable, hplace⟩
    obtain ⟨_, hfound, text', rfl, hdigest'⟩ := hkept.find rfl hlocate
    exact ⟨text', ⟨hnul, _, hfound⟩, hdigest'⟩
  · -- the record is a new one, and so is what its source holds
    rcases hrecord.executable_eq hcommand with hnone | hsource
    · rw [hexecutable] at hnone
      cases hnone
    · obtain rfl := Option.some.inj (hexecutable.symm.trans hsource)
      exact ⟨text, hfile, hrecord.digest_eq.symm⟩

lemma coverageElsewhere_take (hcommand : Compilation.producesExecutable c = false)
    (h : k.CoverageElsewhere s.machine) : k.CoverageElsewhere (step.take c s).2.machine := by
  have hkept : s.machine.Keeps (fun _ => False) (fun _ => True) (step.take c s).2.machine :=
    keeps_take (fun _ _ => id) (fun _ _ _ _ _ _ _ _ _ => False.elim) hcommand (.refl nofun)
  intro executable hexecutable
  rw [hkept.directory, hkept.environment]
  intro path hpath
  rw [hkept.directory]
  exact h executable hexecutable path hpath

/-- Steps that spare a record leave it with an executable that holds its text. -/
lemma holds_play (hcommand : Compilation.producesExecutable c = false)
    (hcoverage : k.CoverageElsewhere s.machine) (hholds : s.Remembers k → k.Holds s.machine)
    (hspared : s.Spares c k steps) (h : (s.play c steps).Remembers k) :
    k.Holds (s.play c steps).machine := by
  induction steps generalizing s with
  | nil => exact hholds h
  | cons step steps ih =>
    exact ih (coverageElsewhere_take hcommand hcoverage)
      (holds_take hcommand hcoverage hholds hspared.1) hspared.2 h

end Session

/-! ### What goes into the cache -/

/-- When a test changes what the cache knows, the harness ran the executable of the last
compilation, and the change is under the digest of that compilation. -/
lemma Work.of_query_evaluateTest_ne {b b' : Bench} {v : Variant Float} {t test : Test}
    {digest : String} (hv : b.altered = .ofVariant v)
    (hrun : ((evaluateTest c t).run b).2 = b')
    (h : (b'.cache.bind fun cache => cache.query digest test)
      ≠ b.cache.bind fun cache => cache.query digest test) :
    ∃ k executable words, v.compiled = some k ∧ k.executable = some executable ∧
      (digest = k.digest ∧ test = t) ∧
      testWords c executable.text k.source.text t b.port = .ok words ∧
      b'.machine.calls
        = b.machine.calls ++ [⟨words, c.testTimeout, some b.machine.environment⟩] := by
  have hcache : b'.cache ≠ b.cache := fun hsame => h (by rw [hsame])
  have htests : Tests c t v b ((evaluateTest c t).run b).1 ((evaluateTest c t).run b).2 :=
    tests_run hv
  rw [hrun] at htests
  generalize ((evaluateTest c t).run b).1 = r at htests
  cases htests with
  | notCompiled | unsuccessful | known | broken => exact absurd rfl hcache
  | @ran k executable words o m hk _ hexecutable _ hwords hcalls =>
    refine ⟨k, executable, words, hk, hexecutable, ?_, hwords, hcalls⟩
    by_contra hkey
    apply h
    cases hsome : b.cache with
    | none => rfl
    | some cache => exact cache.query_afterRun_of_ne (by simpa using hkey) o

/-! ### A variant and a copy of it -/

namespace Session

lemma take_attempt {i : Nat} {t : Attempt} {v v' : Variant Float} (hv : s.variants[i]? = some v)
    (h : v.attempt c.untouchedWeight t = .ok v') :
    ((Step.attempt i t).take c s).2 = { s with variants := s.variants.set i v' } := by
  rw [Step.take, work, hv]
  dsimp only
  rw [leave, Work.run_alter, show (s.bench v).altered = .ofVariant v from rfl, run_make, h]
  rfl

/-- A variant is compiled, and a copy of it is edited and compiled. -/
def compileBoth (source other : Path) (t : Attempt) : List Step :=
  [.copy 0, .compile 0 source source true, .attempt 1 t, .compile 1 other other true]

/-- Both variants count as compiled to their sources, and the first one is spared if the sources are
at different places. -/
lemma play_compileBoth {v v' : Variant Float} {text text' : String} {source other : Path}
    {place place' : Place} {words words' : List String} {t : Attempt}
    (hcommand : Compilation.producesExecutable c = false) (hvariants : s.variants = [v])
    (htext : v.program.text = .ok text)
    (hcompiles : Work.Compiles c s.machine source source source place words)
    (hattempt : v.attempt c.untouchedWeight t = .ok v') (htext' : v'.program.text = .ok text')
    (hcompiles' : Work.Compiles c (s.machine.compiled place text words c.compileTimeout) other
      other other place' words') :
    (∃ stats, s.play c (compileBoth source other t) =
      { machine := (s.machine.compiled place text words c.compileTimeout).compiled place' text'
          words' c.compileTimeout
        cache := s.cache, stats, port := s.port
        variants := [{ v with compiled := some ⟨textDigest text, true, source, some source⟩ },
          { v' with compiled := some ⟨textDigest text', true, other, some other⟩ }] }) ∧
      (place' ≠ place → s.Spares c ⟨textDigest text, true, source, some source⟩
        (compileBoth source other t)) := by
  let s₁ : Session := { s with variants := [v, v] }
  let s₂ : Session := s₁.compiled c 0 v text source place words
  let s₃ : Session := { s₂ with variants := s₂.variants.set 1 v' }
  have hs₁ : ((Step.copy 0).take c s).2 = s₁ := by
    rw [Step.take, hvariants]
    rfl
  have hs₂ : ((Step.compile 0 source source true).take c s₁).2 = s₂ :=
    congrArg (·.2) (take_compile_of_compiles (s := s₁) hcommand rfl htext hcompiles)
  have hs₃ : ((Step.attempt 1 t).take c s₂).2 = s₃ := take_attempt (s := s₂) rfl hattempt
  have hs₄ : ((Step.compile 1 other other true).take c s₃).2
      = s₃.compiled c 1 v' text' other place' words' :=
    congrArg (·.2) (take_compile_of_compiles (s := s₃) hcommand rfl htext' hcompiles')
  constructor
  · refine ⟨(s.stats.recordCompile true).recordCompile true, ?_⟩
    simp only [play, compileBoth, List.foldl_cons, List.foldl_nil]
    rw [hs₁, hs₂, hs₃, hs₄]
    rfl
  · intro hne
    simp only [compileBoth, Spares, hs₁, hs₂, hs₃, hs₄]
    refine ⟨fun _ _ => id, fun _ _ => ?_, fun _ _ => id, fun _ _ => ?_, trivial⟩
    · rintro ⟨w, text₁, executable, hw, htext₁, hdigest, -⟩
      obtain rfl : v = w := Option.some.inj hw
      obtain rfl := Except.ok.inj (htext.symm.trans htext₁)
      exact hdigest rfl
    · rintro ⟨w, text₁, executable, -, -, -, hexecutable, hplace⟩
      obtain rfl : source = executable := Option.some.inj hexecutable
      obtain ⟨old, hopens⟩ := hcompiles.opens
      obtain ⟨old', hopens'⟩ := hcompiles'.opens
      rw [show other.resolve s₃.machine.directory = other from hcompiles'.resolve_eq] at hplace
      apply hne
      rw [FileTree.eq_placeOf_of_locate hopens.locate,
        FileTree.eq_placeOf_of_locate hopens'.locate]
      exact hplace

/-- A test that passes and was not known is known afterwards. -/
lemma query_take_test {j : Nat} {v : Variant Float} {executable : Path} {t : Test} {cache : Cache}
    (hcache : s.cache = some cache) (hv : s.variants[j]? = some v) (hk : v.compiled = some k)
    (hsuccess : k.success = true) (hexecutable : k.executable = some executable)
    (hunknown : cache.query k.digest t = none)
    (hrun : ((Work.runTest c executable.text k.source.text t []).run (s.bench v)).1
      = .ok .passed) :
    (((Step.test j t).take c s).2.cache.bind fun cache => cache.query k.digest t) = some true := by
  have hquery : ((s.bench v).cache.bind fun cache => cache.query k.digest t) = none := by
    rw [show (s.bench v).cache = some cache from hcache]
    exact hunknown
  obtain ⟨words, m, -, hevaluate, -⟩ :=
    Work.run_evaluateTest_of_unknown (b := s.bench v) rfl hk hsuccess hexecutable hquery hrun
  have hafter : ((Step.test j t).take c s).2.cache
      = some (cache.afterRun k.digest t .passed) := by
    rw [Step.take, work, hv]
    dsimp only
    rw [leave, hevaluate, show (s.bench v).cache = some cache from hcache]
    rfl
  have hpassed : Outcome.passed ≠ .timeout := by decide
  rw [hafter, Option.bind_some, Cache.afterRun, if_neg hpassed, Cache.query_add, if_pos rfl]
  rfl

end Session

/-- Two lines are compiled to one path, and a copy without the first line to that path or another.
Then the first of them passes a test. -/
lemma exists_compileBoth {other : Path} {place : Place}
    (hother : other = .ofText "/v" ∧ place = ["v"] ∨ other = .ofText "/w" ∧ place = ["w"]) :
    ∃ (c : Config) (s : Session) (p : Test) (k : Compiled) (steps : List Step),
      steps = Session.compileBoth (.ofText "/v") other (.delete (.int 1)) ∧
      (Compilation.producesExecutable c = false ∧ (∀ v ∈ s.variants, v.compiled = none) ∧
        k.CoverageElsewhere s.machine) ∧
      k = ⟨textDigest "a\nb\n", true, .ofText "/v", some (.ofText "/v")⟩ ∧
      (s.play c steps).compiled? 0 = some k ∧
      ((s.play c steps).cache.bind fun cache => cache.query k.digest p) = none ∧
      ((s.play c (steps ++ [.test 0 p])).cache.bind fun cache => cache.query k.digest p)
        = some true ∧
      Cache.FileAt (s.play c steps).machine other.text (.ofText "b\n") ∧
      (place ≠ ["v"] → s.Spares c k steps) := by
  let c : Config := (Config.default.set .compileCommand "c").set .testCommand "t"
  let p : Test := ⟨.positive, 1, Nat.one_pos⟩
  let source : Path := .ofText "/v"
  let v : Variant Float :=
    { program := .lines ["a", "b"], localization := ⟨[]⟩, history := [], ownSuffix := none
      compiled := none }
  let s : Session :=
    { machine := .ofDirectory [] "1", cache := some (.ofPath "x"), stats := .zero, port := 808
      variants := [v] }
  let m : Machine := s.machine.compiled ["v"] "a\nb\n" ["c"] c.compileTimeout
  have hcommand : Compilation.producesExecutable c = false := by decide +kernel
  have hroot (t : FileTree) (h : t.locate [] "/" = .ok []) :
      t.find [] "/" = .ok ([], .directory) := FileTree.find_eq_ok_iff.mpr ⟨h, rfl⟩
  have hsource : '\x00' ∉ source.text.toList := by decide +kernel
  have hcompiles : Work.Compiles c s.machine source source source ["v"] ["c"] :=
    ⟨hsource, hsource, by decide +kernel, by decide +kernel, ⟨[], hroot _ (by decide +kernel)⟩,
      ⟨none, hsource, by decide +kernel, rfl, fun _ => rfl⟩, by decide +kernel, ⟨_, _, rfl⟩⟩
  have hnul : '\x00' ∉ other.text.toList := by
    rcases hother with ⟨rfl, rfl⟩ | ⟨rfl, rfl⟩ <;> decide +kernel
  have hcompiles' : Work.Compiles c m other other other place ["c"] := by
    rcases hother with ⟨rfl, rfl⟩ | ⟨rfl, rfl⟩
    · exact ⟨hnul, hnul, by decide +kernel, by decide +kernel, ⟨[], hroot _ (by decide +kernel)⟩,
        ⟨some (.ofText "a\nb\n"), hnul, by decide +kernel, rfl, nofun⟩, by decide +kernel,
        ⟨_, _, rfl⟩⟩
    · exact ⟨hnul, hnul, by decide +kernel, by decide +kernel, ⟨[], hroot _ (by decide +kernel)⟩,
        ⟨none, hnul, by decide +kernel, rfl, fun _ => rfl⟩, by decide +kernel, ⟨_, _, rfl⟩⟩
  have hfile : (m.compiled place "b\n" ["c"] c.compileTimeout).files.find [] other.text
      = .ok (place, .file (.ofText "b\n")) := by
    rcases hother with ⟨rfl, rfl⟩ | ⟨rfl, rfl⟩ <;>
      exact FileTree.find_eq_ok_iff.mpr ⟨by decide +kernel, rfl⟩
  have hrun (b : Bench) (hb : b.machine.replies = [] ∧ b.machine.further = .silent) :
      ((Work.runTest c source.text source.text p []).run b).1 = .ok .passed := by
    have hsplit : Command.split c.testCommand = .ok ["t"] := by decide +kernel
    rw [Work.run_runTest_of_silent (by decide +kernel) hsplit (Test.isReadable_one _) hb.1 hb.2]
  have hattempt : v.attempt c.untouchedWeight (.delete (.int 1))
      = .ok { v with program := .lines ["b"], history := [.delete 1] } := rfl
  obtain ⟨⟨stats, hplay⟩, hspared⟩ :=
    Session.play_compileBoth hcommand rfl (show v.program.text = .ok "a\nb\n" from rfl) hcompiles
      hattempt (show (Program.lines ["b"]).text = .ok "b\n" from rfl) hcompiles'
  refine ⟨c, s, p, ⟨textDigest "a\nb\n", true, source, some source⟩, _, rfl,
    ⟨hcommand, fun w hw => by rw [List.mem_singleton.mp hw], nofun⟩, rfl, ?_, ?_, ?_, ?_, hspared⟩
  · rw [hplay]
    rfl
  · rw [hplay]
    rfl
  · rw [Session.play_append_singleton, hplay]
    exact Session.query_take_test (k := ⟨textDigest "a\nb\n", true, source, some source⟩) rfl rfl
      rfl rfl rfl rfl (hrun _ ⟨rfl, rfl⟩)
  · rw [hplay]
    exact ⟨hnul, place, hfile⟩

/-- Let the compile command make no executable, so that the rendered source is what runs, and let
variants be edited, copied, compiled and tested in any order. Whenever a test changes what the cache
knows, the harness has run the executable of the last compilation of the variant, the change is
under the digest of that compilation, and the executable held a text with that digest, unless the
file was overwritten with another text while a variant still counted as compiled to it. -/
theorem outcome_goes_to_text_that_ran (c : Config) (s : Session) (steps : List Step) (j : Nat)
    (t test : Test) (k : Compiled) (digest : String)
    (hcommand : Compilation.producesExecutable c = false)
    (hnew : ∀ v ∈ s.variants, v.compiled = none)
    (hcoverage : k.CoverageElsewhere s.machine) (hspared : s.Spares c k steps)
    (hk : (s.play c steps).compiled? j = some k)
    (hstored : ((s.play c (steps ++ [.test j t])).cache.bind fun cache => cache.query digest test)
      ≠ (s.play c steps).cache.bind fun cache => cache.query digest test) :
    digest = k.digest ∧ test = t ∧ ∃ executable text words, k.executable = some executable ∧
      Cache.FileAt (s.play c steps).machine executable.text (.ofText text) ∧
      textDigest text = digest ∧
      Work.testWords c executable.text k.source.text t (s.play c steps).port = .ok words ∧
      (s.play c (steps ++ [.test j t])).machine.calls = (s.play c steps).machine.calls
        ++ [⟨words, c.testTimeout, some (s.play c steps).machine.environment⟩] := by
  rw [Session.play_append_singleton] at hstored ⊢
  obtain ⟨v, hv, hvk⟩ := Option.bind_eq_some_iff.mp hk
  have htake : ((Step.test j t).take c (s.play c steps)).2 = (s.play c steps).leave j
      ((Work.evaluateTest c t).run ((s.play c steps).bench v)).2 := by
    rw [Step.take, Session.work, hv]
  rw [htake] at hstored ⊢
  obtain ⟨k', executable, words, hk', hexecutable, ⟨rfl, rfl⟩, hwords, hcalls⟩ :=
    Work.of_query_evaluateTest_ne (b := (s.play c steps).bench v) rfl rfl hstored
  obtain rfl := Option.some.inj (hvk.symm.trans hk')
  have hremembers : (s.play c steps).Remembers k := Session.remembers_of_compiled hv hvk
  have hfresh : s.Remembers k → k.Holds s.machine := by
    rintro ⟨w, hw, hwk⟩
    rw [hnew w hw] at hwk
    cases hwk
  obtain ⟨text, hfile, hdigest⟩ :=
    Session.holds_play hcommand hcoverage hfresh hspared hremembers executable hexecutable
  exact ⟨rfl, rfl, executable, text, words, hexecutable, hfile, hdigest, hwords, hcalls⟩

/-- The copy is compiled to a path of its own, so the text that passes the test is the one whose
digest the outcome goes to. -/
theorem outcome_goes_to_text_that_ran_copies :
    ∃ (c : Config) (s : Session) (p : Test) (k : Compiled) (steps : List Step)
      (executable : Path) (text : String),
      steps = Session.compileBoth (.ofText "/v") (.ofText "/w") (.delete (.int 1)) ∧
      (Compilation.producesExecutable c = false ∧ (∀ v ∈ s.variants, v.compiled = none) ∧
        k.CoverageElsewhere s.machine ∧ s.Spares c k steps) ∧
      (s.play c steps).compiled? 0 = some k ∧
      ((s.play c (steps ++ [.test 0 p])).cache.bind fun cache => cache.query k.digest p)
        ≠ ((s.play c steps).cache.bind fun cache => cache.query k.digest p) ∧
      k.executable = some executable ∧
      Cache.FileAt (s.play c steps).machine executable.text (.ofText text) ∧
      textDigest text = k.digest := by
  obtain ⟨c, s, p, k, steps, hsteps, ⟨hcommand, hnew, hcoverage⟩, -, hk, hbefore, hafter, -,
    hspared⟩ := exists_compileBoth (.inr ⟨rfl, rfl⟩)
  have hstored : ((s.play c (steps ++ [.test 0 p])).cache.bind fun cache => cache.query k.digest p)
      ≠ ((s.play c steps).cache.bind fun cache => cache.query k.digest p) := by
    rw [hbefore, hafter]
    exact Option.some_ne_none true
  have hspared := hspared (by decide)
  obtain ⟨-, -, executable, text, words, hexecutable, hfile, hdigest, -⟩ :=
    outcome_goes_to_text_that_ran c s steps 0 p p k k.digest hcommand hnew hcoverage hspared hk
      hstored
  exact ⟨c, s, p, k, steps, executable, text, hsteps, ⟨hcommand, hnew, hcoverage, hspared⟩, hk,
    hstored, hexecutable, hfile, hdigest⟩

/-- The copy is compiled to the same path, so another text passes the test than the one whose digest
the outcome goes to. -/
theorem outcome_goes_to_other_text :
    ∃ (c : Config) (s : Session) (p : Test) (k : Compiled) (steps : List Step)
      (executable : Path) (text : String),
      steps = Session.compileBoth (.ofText "/v") (.ofText "/v") (.delete (.int 1)) ∧
      (Compilation.producesExecutable c = false ∧ (∀ v ∈ s.variants, v.compiled = none) ∧
        k.CoverageElsewhere s.machine) ∧
      (s.play c steps).compiled? 0 = some k ∧
      ((s.play c steps).cache.bind fun cache => cache.query k.digest p) = none ∧
      ((s.play c (steps ++ [.test 0 p])).cache.bind fun cache => cache.query k.digest p)
        = some true ∧
      k.executable = some executable ∧
      Cache.FileAt (s.play c steps).machine executable.text (.ofText text) ∧
      textDigest text ≠ k.digest := by
  obtain ⟨c, s, p, k, steps, hsteps, hfresh, rfl, hk, hbefore, hafter, hfile, -⟩ :=
    exists_compileBoth (.inl ⟨rfl, rfl⟩)
  have hdigest : textDigest "b\n" ≠ textDigest "a\nb\n" := by decide +kernel
  exact ⟨c, s, p, _, steps, .ofText "/v", "b\n", hsteps, hfresh, hk, hbefore, hafter, rfl, hfile,
    hdigest⟩

end VariantRepair
