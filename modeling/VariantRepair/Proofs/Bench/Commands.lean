import Mathlib.Tactic.Common
import VariantRepair.Bench.Compile
import VariantRepair.Proofs.Bench.Harness
import VariantRepair.Proofs.Command.Templates
import VariantRepair.Proofs.Json.Number

/-!
# The commands that are run

The compiler and the tests are run by commands that are written as templates. Word by word, a path
is one argument, whatever characters it has, and so are the name of a test and its port; the name
and the options of the compiler are split into words.
-/

namespace VariantRepair

open Command

/-! ### Texts of words -/

namespace Command

variable {names : List String} {s : String} {c : Char}

/-- A placeholder that has a character does not occur in a text without it. -/
lemma free_of_notMem (h : ∀ name ∈ names, c ∈ name.toList) (hs : c ∉ s.toList) : Free names s :=
  fun name hname hpart => hs (hpart.subset (h name hname))

lemma isSafe_of_isDigit (h : c.isDigit = true) : isSafe c = true := by
  rw [isSafe, Char.isAlphanum, h, Bool.or_true, Bool.true_or]

end Command

namespace Test

variable (test : Test)

lemma isSafe_name : ∀ c ∈ test.name.toList, isSafe c = true := by
  rw [name_eq, String.toList_ofList]
  refine List.forall_mem_cons.mpr ⟨by cases test.polarity <;> decide, fun c hc => ?_⟩
  exact isSafe_of_isDigit (Number.isDigit_of_mem_toDigits hc)

lemma underscore_notMem_name : '_' ∉ test.name.toList := by
  rw [name_eq, String.toList_ofList, List.mem_cons, not_or]
  refine ⟨by cases test.polarity <;> decide, fun h => ?_⟩
  exact absurd (Number.isDigit_of_mem_toDigits h) (by decide)

lemma name_ne_empty : test.name ≠ "" := by
  rw [name_eq]
  simp

end Test

lemma isSafe_toString_int (n : Int) : ∀ c ∈ (toString n).toList, isSafe c = true := by
  rw [Json.toList_toString_int]
  refine List.forall_mem_append.mpr ⟨?_, fun c hc => ?_⟩
  · cases decide (n < 0) with
    | false => exact List.forall_mem_nil _
    | true => exact List.forall_mem_singleton.mpr (by decide)
  · exact isSafe_of_isDigit (Number.isDigit_of_mem_toDigits hc)

lemma underscore_notMem_toString_int (n : Int) : '_' ∉ (toString n).toList := by
  rw [Json.toList_toString_int, List.mem_append, not_or]
  refine ⟨by cases decide (n < 0) <;> decide, fun h => ?_⟩
  exact absurd (Number.isDigit_of_mem_toDigits h) (by decide)

lemma toString_int_ne_empty (n : Int) : toString n ≠ "" := by
  rw [ne_eq, ← String.toList_eq_nil_iff, Json.toList_toString_int, List.append_eq_nil_iff]
  exact fun h => Nat.toDigits_ne_nil h.2

/-- What is not in a table by its name has no entry. -/
lemma lookup_of_notMem {α : Type} {table : List (String × α)} {w : String}
    (h : w ∉ table.map Prod.fst) : table.lookup w = none := by
  refine List.lookup_eq_none_iff.mpr fun p hp => bne_iff_ne.mpr ?_
  rintro rfl
  exact h (List.mem_map_of_mem hp)

/-- To look for a part of a list finds it where it stands in the list. -/
lemma contains_eq_true_iff {part ns : List Nat} :
    Language.contains part ns = true ↔ part <:+: ns := by
  induction ns with
  | nil => rw [Language.contains, List.isEmpty_iff, List.infix_nil]
  | cons n ns ih =>
    rw [Language.contains, Bool.or_eq_true, ih, List.isPrefixOf_iff_prefix, List.infix_cons_iff]

/-! ### The command of the compiler -/

namespace Compilation

open Host

/-- What is filled into the command of the compiler. -/
def placeholders : List String :=
  ["__COMPILER_NAME__", "__COMPILER_OPTIONS__", "__SOURCE_NAME__", exePlaceholder]

lemma arePlaceholders : ArePlaceholders placeholders where
  ne_empty := by decide
  plain := by
    have hplain : placeholders.all fun name => name.toList.all isSafe := by decide
    simpa using hplain
  nodup := by decide
  apart := by decide

/-- The words that a word of the command stands for. -/
def wordsOf (compiler options : List String) (source exe : Path) (w : String) : List String :=
  ([("__COMPILER_NAME__", compiler), ("__COMPILER_OPTIONS__", options),
    ("__SOURCE_NAME__", [source.text]), (exePlaceholder, [exe.text])].lookup w).getD [w]

variable {c : Config} {source exe exe' : Path} {compiler options : List String} {w : String}

lemma wordsOf_of_notMem (h : w ∉ placeholders) : wordsOf compiler options source exe w = [w] := by
  rw [wordsOf, lookup_of_notMem h]
  rfl

/-- The path of the executable matters only for its own placeholder. -/
lemma wordsOf_congr (h : w ≠ exePlaceholder) :
    wordsOf compiler options source exe w = wordsOf compiler options source exe' w := by
  simp only [wordsOf, List.lookup_cons, beq_false_of_ne h]

/-- The words of the command, with everything in it that is filled in. -/
lemma words_of_isTemplate (htemplate : IsTemplate placeholders c.compileCommand)
    (hname : Free placeholders c.compilerName) (hcompiler : split c.compilerName = .ok compiler)
    (hfree : Free placeholders c.compilerOptions) (hoptions : split c.compilerOptions = .ok options)
    (hsource : Free placeholders source.text) (hexe : Free placeholders exe.text) :
    words c source exe
      = .ok ((templateWords c.compileCommand).flatMap (wordsOf compiler options source exe)) := by
  refine substitute_of_isTemplate arePlaceholders htemplate ?_ ?_ fun w => wordsOf_of_notMem
  · simp only [List.forall_mem_cons]
    exact ⟨hname, hfree, hsource.quoteWord arePlaceholders, hexe.quoteWord arePlaceholders,
      List.forall_mem_nil _⟩
  · simp only [List.forall_mem_cons]
    exact ⟨hcompiler, hoptions, split_quoteWord _, split_quoteWord _, List.forall_mem_nil _⟩

/-- A command with the placeholder for the executable makes one. -/
lemma producesExecutable_of_mem (h : exePlaceholder ∈ templateWords c.compileCommand) :
    producesExecutable c = true := by
  obtain ⟨w, hw, hname⟩ := List.mem_map.mp h
  have hpart : exePlaceholder.toList <:+: c.compileCommand.toList := by
    rw [← hname, String.toList_ofList]
    exact Text.infix_of_mem_wordsBy hw
  rw [producesExecutable, contains_eq_true_iff]
  exact hpart.map Char.toNat

lemma calls_run_of_words {argv : List String}
    (h : words c source (if producesExecutable c then exe else source) = .ok argv) (m : Machine) :
    ((Compilation.run c source exe).run m).2.calls
      = m.calls ++ [⟨argv, c.compileTimeout, none⟩] := by
  unfold Compilation.run
  dsimp only
  rw [h]
  dsimp only
  rw [KeepsCalls.calls_bind fun _ => .pure _, calls_start]

/-- The compiler is started with the words of its command. -/
lemma calls_run (htemplate : IsTemplate placeholders c.compileCommand)
    (hname : Free placeholders c.compilerName) (hcompiler : split c.compilerName = .ok compiler)
    (hfree : Free placeholders c.compilerOptions) (hoptions : split c.compilerOptions = .ok options)
    (hsource : Free placeholders source.text) (hexe : Free placeholders exe.text) (m : Machine) :
    ((Compilation.run c source exe).run m).2.calls = m.calls ++
      [⟨(templateWords c.compileCommand).flatMap (wordsOf compiler options source exe),
        c.compileTimeout, none⟩] := by
  refine calls_run_of_words ?_ m
  split_ifs with hproduces
  · exact words_of_isTemplate htemplate hname hcompiler hfree hoptions hsource hexe
  · rw [words_of_isTemplate htemplate hname hcompiler hfree hoptions hsource hsource]
    refine congrArg _ (List.flatMap_congr fun w hw => wordsOf_congr ?_)
    rintro rfl
    exact hproduces (producesExecutable_of_mem hw)

end Compilation

/-! ### The command of a test -/

namespace Work

/-- What is filled into the command of a test. -/
def testPlaceholders : List String :=
  ["__EXE_NAME__", "__TEST_NAME__", "__SOURCE_NAME__", "__PORT__"]

lemma arePlaceholders_test : ArePlaceholders testPlaceholders where
  ne_empty := by decide
  plain := by
    have hplain : testPlaceholders.all fun name => name.toList.all isSafe := by decide
    simpa using hplain
  nodup := by decide
  apart := by decide

/-- The word that a word of the command stands for. -/
def testWordOf (executable source name : String) (port : Int) (w : String) : String :=
  ([("__EXE_NAME__", executable), ("__TEST_NAME__", name), ("__SOURCE_NAME__", source),
    ("__PORT__", toString port)].lookup w).getD w

variable {c : Config} {executable source name w : String} {test : Test} {port : Int}

lemma testWordOf_of_notMem (h : w ∉ testPlaceholders) :
    testWordOf executable source name port w = w := by
  rw [testWordOf, lookup_of_notMem h]
  rfl

/-- The words of the command, with everything in it that is filled in: one for each. -/
lemma testWords_of_isTemplate (htemplate : IsTemplate testPlaceholders c.testCommand)
    (hexecutable : Free testPlaceholders executable) (hsource : Free testPlaceholders source)
    (htest : test.IsReadable) : testWords c executable source test port
      = .ok ((templateWords c.testCommand).map (testWordOf executable source test.name port)) := by
  have hunderscore : ∀ name ∈ testPlaceholders, '_' ∈ name.toList := by decide
  have hwords : Command.substitute c.testCommand
      [("__EXE_NAME__", quoteWord executable), ("__TEST_NAME__", test.name),
        ("__SOURCE_NAME__", quoteWord source), ("__PORT__", toString port)]
      = .ok ((templateWords c.testCommand).flatMap fun w =>
          [testWordOf executable source test.name port w]) := by
    refine substitute_of_isTemplate arePlaceholders_test htemplate ?_ ?_ fun w hw => ?_
    · simp only [List.forall_mem_cons]
      exact ⟨hexecutable.quoteWord arePlaceholders_test,
        free_of_notMem hunderscore test.underscore_notMem_name,
        hsource.quoteWord arePlaceholders_test,
        free_of_notMem hunderscore (underscore_notMem_toString_int port), List.forall_mem_nil _⟩
    · simp only [List.forall_mem_cons]
      exact ⟨split_quoteWord _, split_of_isSafe test.name_ne_empty test.isSafe_name,
        split_quoteWord _, split_of_isSafe (toString_int_ne_empty port) (isSafe_toString_int port),
        List.forall_mem_nil _⟩
    · rw [testWordOf_of_notMem hw]
  rw [testWords_of_written (Test.written_of_isReadable htest), hwords, List.map_eq_flatMap]
  rfl

instance (test : Test) : Decidable test.IsReadable :=
  inferInstanceAs (Decidable (test.index < _))

/-- A test is started with the words of its command, if its name can be written. -/
lemma calls_runTest (htemplate : IsTemplate testPlaceholders c.testCommand)
    (hexecutable : Free testPlaceholders executable) (hsource : Free testPlaceholders source)
    (extra : List (String × String)) (b : Bench) :
    ((runTest c executable source test extra).run b).2.machine.calls = b.machine.calls ++
      if test.IsReadable then
        [⟨(templateWords c.testCommand).map (testWordOf executable source test.name b.port),
          c.testTimeout, some (withVariables b.machine.environment extra)⟩]
      else [] := by
  rw [run_runTest]
  split_ifs with htest
  · rw [testWords_of_isTemplate htemplate hexecutable hsource htest]
    dsimp only
    rw [run_onMachine]
    dsimp only
    rw [Host.KeepsCalls.calls_bind fun e => .outcomeOf test e, Host.calls_start]
  · cases hwords : testWords c executable source test b.port with
    | error f => exact (List.append_nil _).symm
    | ok argv => exact absurd (isReadable_of_testWords hwords) htest

end Work

/-! ### All commands -/

/-- A command whose template is written in placeholders and plain words is run with one argument for
each of them, in order: plain words and paths are given as they are, whatever characters a path has,
and so are the name of the test and the port. The name and the options of the compiler give the
words that they split into. -/
theorem commands_are_run_word_by_word (c : Config) :
    (∀ (source exe : Path) (compiler options : List String) (m : Host.Machine),
      IsTemplate Compilation.placeholders c.compileCommand →
      Free Compilation.placeholders c.compilerName → split c.compilerName = .ok compiler →
      Free Compilation.placeholders c.compilerOptions → split c.compilerOptions = .ok options →
      Free Compilation.placeholders source.text → Free Compilation.placeholders exe.text →
      ((Compilation.run c source exe).run m).2.calls = m.calls ++
        [⟨(templateWords c.compileCommand).flatMap
            (Compilation.wordsOf compiler options source exe), c.compileTimeout, none⟩]) ∧
    ∀ (executable source : String) (test : Test) (extra : List (String × String)) (b : Bench),
      IsTemplate Work.testPlaceholders c.testCommand → Free Work.testPlaceholders executable →
      Free Work.testPlaceholders source →
      ((Work.runTest c executable source test extra).run b).2.machine.calls = b.machine.calls ++
        if test.IsReadable then
          [⟨(templateWords c.testCommand).map
              (Work.testWordOf executable source test.name b.port), c.testTimeout,
            some (Work.withVariables b.machine.environment extra)⟩]
        else [] := by
  constructor
  · intro source exe compiler options m htemplate hname hcompiler hfree hoptions hsource hexe
    exact Compilation.calls_run htemplate hname hcompiler hfree hoptions hsource hexe m
  · intro executable source test extra b htemplate hexecutable hsource
    exact Work.calls_runTest htemplate hexecutable hsource extra b

/-- Two blanks, a tab and an empty list of options make no argument; a path with blanks, quotes, a
dollar sign, a backslash and a line feed is one. -/
theorem commands_are_run_word_by_word_quotes :
    ∃ (c : Config) (source exe : Path) (test : Test),
      c.compileCommand = "cc  __COMPILER_OPTIONS__\t__COMPILER_NAME__ __SOURCE_NAME__" ∧
      c.testCommand = " __TEST_NAME__ __PORT__ x=1 __EXE_NAME__ " ∧
      source.text = "/a b/$it's\\\n\"1\".c" ∧ c.compilerName = "gcc '-x c'" ∧
      (∀ m, ((Compilation.run c source exe).run m).2.calls
        = m.calls ++ [⟨["cc", "gcc", "-x c", source.text], c.compileTimeout, none⟩]) ∧
      ∀ b, b.port = -5 → ((Work.runTest c source.text exe.text test []).run b).2.machine.calls
        = b.machine.calls
          ++ [⟨["p1", "-5", "x=1", source.text], c.testTimeout, some b.machine.environment⟩] := by
  let c : Config := ((Config.default.set .compileCommand
    "cc  __COMPILER_OPTIONS__\t__COMPILER_NAME__ __SOURCE_NAME__").set .testCommand
    " __TEST_NAME__ __PORT__ x=1 __EXE_NAME__ ").set .compilerName "gcc '-x c'"
  let source : Path := .ofText "/a b/$it's\\\n\"1\".c"
  let exe : Path := .ofText "/e"
  let test : Test := ⟨.positive, 1, Nat.one_pos⟩
  have hsource : source.text = "/a b/$it's\\\n\"1\".c" := by decide
  refine ⟨c, source, exe, test, rfl, rfl, hsource, rfl, fun m => ?_, fun b hport => ?_⟩
  · rw [(commands_are_run_word_by_word c).1 source exe ["gcc", "-x c"] [] m (by decide)
      (by decide) (by decide) (by decide) (by decide)
      (by decide) (by decide)]
    have hwords : (templateWords c.compileCommand).flatMap
        (Compilation.wordsOf ["gcc", "-x c"] [] source exe)
          = ["cc", "gcc", "-x c", source.text] := by
      decide
    rw [hwords]
  · have hreadable : test.IsReadable := Test.isReadable_one _
    rw [(commands_are_run_word_by_word c).2 source.text exe.text test [] b (by decide)
      (by decide) (by decide), if_pos hreadable, hport]
    have hwords : (templateWords c.testCommand).map
        (Work.testWordOf source.text exe.text test.name (-5))
          = ["p1", "-5", "x=1", source.text] := by
      decide
    rw [hwords]
    rfl

end VariantRepair
