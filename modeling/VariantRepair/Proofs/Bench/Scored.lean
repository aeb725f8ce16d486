import Mathlib.Tactic.Ring
import VariantRepair.Proofs.CommandLine.Archived
import VariantRepair.Proofs.Number.Exact

/-!
# The score of an evaluation

The fitness is summed up test by test, and the greatest fitness is computed from the numbers of
tests. In exact arithmetic, where nothing is rounded, the one reaches the other just when every test
is passed.
-/

namespace VariantRepair

variable {K : Type} [CommRing K] [LinearOrder K] {w : K}

/-! ### The sum over the tests -/

/-- What the tests that are passed add to a score that there is already. -/
lemma foldl_fitness (rows : List (String × Bool)) (w score : K) :
    rows.foldl (fun score o =>
        if o.2 then score + (if o.1.startsWith "p" then 1 else w) else score) score
      = score + rows.countP (fun o => o.2 && o.1.startsWith "p")
        + w * rows.countP fun o => o.2 && !o.1.startsWith "p" := by
  induction rows generalizing score with
  | nil => simp
  | cons o rows ih =>
    obtain ⟨name, passed⟩ := o
    rw [List.foldl_cons, ih, List.countP_cons, List.countP_cons]
    cases passed with
    | false => simp
    | true =>
      cases hletter : name.startsWith "p" with
      | false =>
        simp only [if_true, Bool.false_eq_true, if_false, Bool.and_false, Bool.not_false,
          Bool.true_and, add_zero, Nat.cast_add, Nat.cast_one]
        ring
      | true =>
        simp only [if_true, Bool.false_eq_true, if_false, Bool.and_true, Bool.not_true,
          Bool.and_false, add_zero, Nat.cast_add, Nat.cast_one]
        ring

lemma Test.startsWith_name (t : Test) : t.name.startsWith "p" = t.isPositive := by
  obtain ⟨polarity, index, hindex⟩ := t
  have hname : (Test.mk polarity index hindex).name.toList
      = polarity.letter.toList ++ (toString index).toList := String.toList_append
  rw [Bool.eq_iff_iff, String.startsWith_string_iff, hname]
  cases polarity with
  | positive => exact iff_of_true (List.prefix_append _ _) rfl
  | negative => exact iff_of_false (by simp [Polarity.letter]) Bool.false_ne_true

lemma Polarity.char_injective : Function.Injective Polarity.char := by
  intro p q h
  cases p <;> cases q <;> first | rfl | exact absurd h (by decide)

/-- Tests are told apart by their names. -/
lemma Test.name_injective : Function.Injective Test.name := by
  intro t t' h
  have hchars := congrArg String.toList h
  rw [name_eq, name_eq, String.toList_ofList, String.toList_ofList, List.cons.injEq] at hchars
  obtain ⟨hletter, hdigits⟩ := hchars
  have hindex := congrArg (Nat.ofDigitChars 10 · 0) hdigits
  rw [Nat.ofDigitChars_ten_toDigits, Nat.ofDigitChars_ten_toDigits] at hindex
  obtain ⟨p, i, hi⟩ := t
  obtain ⟨q, j, hj⟩ := t'
  obtain rfl : i = j := hindex
  obtain rfl : p = q := Polarity.char_injective hletter
  rfl

/-- How many tests of a polarity are passed. -/
def passedCount (polarity : Polarity) (outcomes : List (Test × Outcome)) : Nat :=
  outcomes.countP fun o => o.2 == .passed && o.1.polarity == polarity

/-- Which tests of an evaluation are passed, by their names. -/
def Evaluation.passes (e : Evaluation) : List (String × Bool) :=
  e.outcomes.map fun o => (o.1.name, o.2 == .passed)

/-- The fitness counts the tests that are passed, each negative one by its weight. -/
lemma Evaluation.fitnessOf_passes (e : Evaluation) (w : K) :
    fitnessOf e.passes w
      = passedCount .positive e.outcomes + w * passedCount .negative e.outcomes := by
  have hfold := foldl_fitness e.passes w 0
  have hpositive : e.passes.countP (fun o => o.2 && o.1.startsWith "p")
      = passedCount .positive e.outcomes := by
    rw [Evaluation.passes, List.countP_map, passedCount]
    refine List.countP_congr fun o _ => ?_
    simp [Test.startsWith_name, Test.isPositive]
  have hnegative : e.passes.countP (fun o => o.2 && !o.1.startsWith "p")
      = passedCount .negative e.outcomes := by
    rw [Evaluation.passes, List.countP_map, passedCount]
    refine List.countP_congr fun o _ => ?_
    cases hpolarity : o.1.polarity <;> simp [Test.startsWith_name, Test.isPositive, hpolarity]
  rw [hpositive, hnegative, zero_add] at hfold
  exact hfold

/-- Without a test that is passed the fitness is zero, in any arithmetic. -/
lemma fitnessOf_of_none_passed {W : Type} [Weight W] {rows : List (String × Bool)}
    (h : ∀ o ∈ rows, o.2 = false) (w : W) : fitnessOf rows w = 0 := by
  rw [fitnessOf]
  generalize (0 : W) = score
  induction rows with
  | nil => rfl
  | cons o rows ih =>
    obtain ⟨ho, hrows⟩ := List.forall_mem_cons.mp h
    rw [List.foldl_cons, ho, if_neg Bool.false_ne_true, ih hrows]

/-! ### The greatest sum -/

lemma Test.countP_all (positives negatives : Int) (polarity : Polarity) :
    (all positives negatives).countP (fun t => t.polarity == polarity)
      = match polarity with
        | .positive => positives.toNat
        | .negative => negatives.toNat := by
  have hupTo (p : Polarity) (count : Int) :
      (upTo p count).countP (fun t => t.polarity == polarity)
        = if p = polarity then count.toNat else 0 := by
    rw [upTo, List.countP_map]
    split_ifs with h
    · subst h
      simp [Function.comp_def]
    · simp [Function.comp_def, h]
  rw [all, List.countP_append, hupTo, hupTo]
  cases polarity <;> simp

section Counts

variable {outcomes : List (Test × Outcome)} {tests : List Test} {polarity : Polarity}

/-- At most all tests of a polarity are passed, and all of them are if none has another outcome. -/
lemma passedCount_le (hkeys : outcomes.map Prod.fst = tests) (polarity : Polarity) :
    passedCount polarity outcomes ≤ tests.countP (fun t => t.polarity == polarity) ∧
      (passedCount polarity outcomes = tests.countP (fun t => t.polarity == polarity)
        ↔ ∀ o ∈ outcomes, o.1.polarity = polarity → o.2 = .passed) := by
  have hcount : tests.countP (fun t => t.polarity == polarity)
      = (outcomes.filter fun o => o.1.polarity == polarity).length := by
    rw [← hkeys, List.countP_map, List.countP_eq_length_filter]
    rfl
  have hpassed : passedCount polarity outcomes
      = (outcomes.filter fun o => o.1.polarity == polarity).countP (·.2 == .passed) :=
    List.countP_filter.symm
  rw [hcount, hpassed]
  refine ⟨List.countP_le_length, List.countP_eq_length.trans ?_⟩
  simp only [List.mem_filter, beq_iff_eq, and_imp]

end Counts

lemma greatestFitnessOf_eq (positives negatives w : K) :
    greatestFitnessOf positives negatives w = positives + w * negatives := rfl

section Ordered

variable [IsStrictOrderedRing K] {e : Evaluation} {positives negatives : Int}
  (hkeys : e.outcomes.map Prod.fst = Test.all positives negatives)
  (hpositives : 0 ≤ positives) (hnegatives : 0 ≤ negatives) (hw : 0 < w)

include hkeys hpositives hnegatives hw

/-- The fitness is at most the greatest one, and reaches it just when all tests are passed. -/
lemma Evaluation.fitnessOf_le :
    fitnessOf e.passes w ≤ greatestFitnessOf (positives : K) negatives w ∧
      (fitnessOf e.passes w = greatestFitnessOf (positives : K) negatives w
        ↔ ∀ o ∈ e.outcomes, o.2 = .passed) := by
  obtain ⟨hle, heq⟩ := passedCount_le hkeys .positive
  obtain ⟨hle', heq'⟩ := passedCount_le hkeys .negative
  rw [Test.countP_all] at hle heq hle' heq'
  dsimp only at hle heq hle' heq'
  have hcast {n : Int} (hn : 0 ≤ n) : (n : K) = (n.toNat : K) := by
    rw [← Int.cast_natCast, Int.toNat_of_nonneg hn]
  rw [e.fitnessOf_passes, greatestFitnessOf_eq, hcast hpositives, hcast hnegatives]
  have hfirst : (passedCount .positive e.outcomes : K) ≤ positives.toNat := Nat.cast_le.mpr hle
  have hsecond : w * (passedCount .negative e.outcomes : K) ≤ w * negatives.toNat :=
    mul_le_mul_of_nonneg_left (Nat.cast_le.mpr hle') hw.le
  refine ⟨add_le_add hfirst hsecond, ?_⟩
  rw [add_eq_add_iff_eq_and_eq hfirst hsecond, mul_right_inj' hw.ne', Nat.cast_inj, Nat.cast_inj,
    heq, heq']
  constructor
  · rintro ⟨hpositive, hnegative⟩ o ho
    cases hpolarity : o.1.polarity with
    | positive => exact hpositive o ho hpolarity
    | negative => exact hnegative o ho hpolarity
  · exact fun h => ⟨fun o ho _ => h o ho, fun o ho _ => h o ho⟩

end Ordered

/-! ### Evaluations -/

namespace Work

variable {c : Config} {b b' : Bench} {e : Evaluation} {output : Option String}

/-- What an evaluation that was run says of its score. -/
lemma scores_of_run_evaluate (h : (evaluate c output).run b = (.ok e, b')) :
    e.fitness = fitnessOf e.passes c.negativeTestWeight ∧
      e.maxFitness = Evaluation.greatestFitness c.posTests c.negTests c.negativeTestWeight := by
  obtain ⟨name, -, h⟩ := of_run_reading_bind h
  obtain ⟨success, compiled, -, h⟩ := exists_run_of_run_bind h
  obtain ⟨shown, -, h⟩ := of_run_reading_bind h
  obtain ⟨outcomes, tested, -, h⟩ := exists_run_of_run_bind h
  obtain ⟨v, b₁, -, h⟩ := exists_run_of_run_bind h
  split at h
  · split_ifs at h
    · obtain ⟨⟨⟩, m, -, hend⟩ := of_run_onMachine_bind h
      cases hend
      exact ⟨rfl, rfl⟩
    · cases h
      exact ⟨rfl, rfl⟩
  · cases h
    exact ⟨rfl, rfl⟩

/-- Every test of what could not be compiled fails. -/
lemma AnswersAll.eq_failed {k : Compiled} {tests : List Test} {outcomes : List (Test × Outcome)}
    (h : AnswersAll c k tests b outcomes b') (hk : k.success = false) :
    ∀ o ∈ outcomes, o.2 = .failed := by
  induction h with
  | nil => exact fun o ho => absurd ho List.not_mem_nil
  | cons hfirst hrest ih =>
    refine List.forall_mem_cons.mpr ⟨?_, ih⟩
    cases hfirst with
    | unsuccessful => rfl
    | known hsuccess => exact absurd (hk.symm.trans hsuccess) Bool.false_ne_true
    | fresh hsuccess => exact absurd (hk.symm.trans hsuccess) Bool.false_ne_true

end Work

end VariantRepair
