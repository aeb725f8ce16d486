import Mathlib.Tactic.Common
import VariantRepair.Proofs.Bench.PathWeights

/-!
# Numbers that are no atoms

What a test leaves as coverage is not checked against the atoms of the program: a number that is no
atom gets a weight by the paths like any other. It can be drawn then, and the edit that would change
it is refused.
-/

namespace VariantRepair

namespace Work.Probes

variable {c : Config} {b : Bench} (t : Probes c b)

/-! ### Numbers that tests make suspect -/

/-- A number that the tests make suspect: negative tests visit it, and the weight that it gets for
that is positive. -/
def Suspect (a : Int) : Prop :=
  Visited t.machine c.tests .negative a ∧
    (Visited t.machine c.tests .positive a ∧ 0 < c.positivePathWeight ∨
      ¬ Visited t.machine c.tests .positive a ∧ 0 < c.negativePathWeight)

/-- The variant with the weights that the texts of the tests amount to. -/
def weighed : Variant Float :=
  { t.variant with localization := ⟨t.weights⟩ }

lemma suspect_iff {a : Int} : t.Suspect a ↔ ∃ w, (a, w) ∈ t.weighed.weighted := by
  simp only [Variant.mem_weighted, weighed, mem_weights, Suspect]
  constructor
  · rintro ⟨hnegative, ⟨hpositive, hpos⟩ | ⟨hpositive, hpos⟩⟩
    · exact ⟨_, ⟨hnegative, .inl ⟨hpositive, rfl⟩⟩, hpos⟩
    · exact ⟨_, ⟨hnegative, .inr ⟨hpositive, rfl⟩⟩, hpos⟩
  · rintro ⟨w, ⟨hnegative, ⟨hpositive, rfl⟩ | ⟨hpositive, rfl⟩⟩, hpos⟩
    · exact ⟨hnegative, .inl ⟨hpositive, hpos⟩⟩
    · exact ⟨hnegative, .inr ⟨hpositive, hpos⟩⟩

lemma inUnit_weighed (hc : c.check = .ok c) : t.weighed.localization.InUnit := by
  have hnegative : Weight.inUnit c.negativePathWeight = true :=
    Config.inUnit_of_check hc (p := ("negative_path_weight", _)) (by simp [Config.unitFields])
  have hpositive : Weight.inUnit c.positivePathWeight = true :=
    Config.inUnit_of_check hc (p := ("positive_path_weight", _)) (by simp [Config.unitFields])
  rintro ⟨a, w⟩ hmem
  obtain ⟨-, ⟨-, rfl⟩ | ⟨-, rfl⟩⟩ := t.mem_weights.mp hmem
  · exact hpositive
  · exact hnegative

/-- Every number that is suspect is the one that is drawn first by some fraction. -/
lemma exists_fraction_of_suspect (hc : c.check = .ok c) {a : Int} (ha : t.Suspect a) (u : ℚ) :
    ∃ x : ℚ, (0 ≤ x ∧ x < 1) ∧ ∀ (G : Type) (dice : Chance.Dice G ℚ) (g : G),
      (dice.fraction g).1 = x →
        Variant.drawAtom dice ((t.weighed.mapWeights Number.exact).candidates u) g
          = (.ok a, (dice.fraction g).2) := by
  obtain ⟨w, hw⟩ := t.suspect_iff.mp ha
  refine Variant.exists_fraction (w := Number.exact w) ?_
  rw [Variant.weighted_mapWeights Number.keepsSign_exact (t.inUnit_weighed hc)]
  exact List.mem_map_of_mem hw

end Work.Probes

/-! ### What becomes of them -/

open Work in
/-- Weights by the paths, whatever numbers the tests leave. The numbers with a positive weight are
those that the tests make suspect, atoms of the program or not. Each of them can be drawn: in exact
arithmetic some fraction makes every draw that starts with it draw an edit that changes the number.
An edit that is drawn is made if it changes an atom. If it does not, it is refused for that, nothing
is changed, and the number is one that the tests make suspect. -/
theorem localize_keeps_strays {c : Config} {b b' : Bench} {v : Variant Float}
    (hc : c.check = .ok c) (hscheme : c.faultScheme = "path") (hv : b.altered = .ofVariant v)
    (h : (localize c).run b = (.ok (), b')) :
    Nonempty (Probes c b) ∧ ∀ t : Probes c b, ∃ v' : Variant Float,
      b'.altered = .ofVariant v' ∧ v'.program = v.program ∧
      (∀ a, (∃ w, (a, w) ∈ v'.weighted) ↔ t.Suspect a) ∧
      (∀ a, t.Suspect a → 1 ≤ v.size → ∃ x : ℚ, (0 ≤ x ∧ x < 1) ∧
        ∀ (G : Type) (dice : Chance.Dice G ℚ) (weights : ℚ × ℚ × ℚ) (g : G),
          (dice.fraction g).1 = x →
          (0 < weights.1 ∨ 0 < weights.2.1 ∨ 0 < weights.2.2) →
          0 ≤ (dice.fraction (dice.fraction g).2).1 → (dice.fraction (dice.fraction g).2).1 < 1 →
          ∃ e, (Variant.drawEdit dice (v'.mapWeights Number.exact)
            (Number.exact c.untouchedWeight) weights g).1 = .ok e ∧ e.target = a) ∧
      ∀ (G : Type) (dice : Chance.Dice G Float) (weights : Float × Float × Float) (g : G)
        (e : Edit), (∀ n g, 0 < n → (dice.below n g).1 < n) →
        (Variant.drawEdit dice v' c.untouchedWeight weights g).1 = .ok e →
        (1 ≤ e.target ∧ e.target ≤ v.size → ∃ v'',
          (Altered.apply c.untouchedWeight e).run b'.altered = (.ok (), .ofVariant v'')) ∧
        (¬ (1 ≤ e.target ∧ e.target ≤ v.size) → t.Suspect e.target ∧
          (Altered.apply c.untouchedWeight e).run b'.altered
            = (.error (invalidAtom (.int e.target) v.size), b'.altered)) := by
  refine ⟨nonempty_probes_of_run_localize hscheme hv h, fun t => ?_⟩
  have hsame : t.variant = v := congrArg Altered.variant (t.altered_eq.symm.trans hv)
  have hprogram : t.weighed.program = v.program := congrArg (·.program) hsame
  have hsize : t.weighed.size = v.size := congrArg (·.size) hsame
  have hlocalized : b'.altered = .ofVariant t.weighed := t.altered_of_run_localize h
  refine ⟨t.weighed, hlocalized, hprogram, fun a => t.suspect_iff.symm, fun a ha hatoms => ?_,
    fun G dice weights g e hbelow he => ?_⟩
  · obtain ⟨x, hx, hdraws⟩ := t.exists_fraction_of_suspect hc ha (Number.exact c.untouchedWeight)
    refine ⟨x, hx, fun G dice weights g hfirst hweights hzero hone => ?_⟩
    obtain ⟨e, he, htarget, -⟩ := Variant.exists_drawEdit_of_drawAtom (hsize.symm ▸ hatoms) hweights
      hzero hone (hdraws G dice g hfirst)
    exact ⟨e, he, htarget⟩
  · obtain ⟨hchange, hother⟩ := Variant.of_drawEdit_eq_ok hbelow he
    have hrun : (Altered.apply c.untouchedWeight e).run b'.altered
        = Altered.settled t.weighed (t.weighed.apply c.untouchedWeight e) := by
      rw [hlocalized, Altered.run_apply]
    -- the atom that is copied or exchanged always is one, so all depends on the target
    rw [hrun, ← hsize]
    refine ⟨fun hatom => ?_, fun hatom => ⟨?_, ?_⟩⟩
    · rw [Variant.apply_of_fits (Edit.fits_iff.mpr ⟨hatom, hother⟩), Altered.settled]
      exact ⟨_, rfl⟩
    · exact t.suspect_iff.mpr (hchange.mem_weighted_or_isAtom.resolve_right hatom)
    · rw [Variant.apply_of_target_not_atom hatom, Altered.settled, hlocalized]

/-- How seven is refused where there are two atoms. -/
lemma invalidAtom_seven : invalidAtom (.int 7) (2 : Nat) = .repair (.invalidAtom "7" "2") := by
  have hseven : (Value.int 7).IsWritable := by
    rw [Value.IsWritable]
    decide +kernel
  have htwo : 2 < Number.tenTo Number.digitLimit := by decide +kernel
  have hdisplay : (Value.int 7).display = "7" ∧ toString 2 = "2" := by decide
  rw [invalidAtom_eq hseven htwo, hdisplay.1, hdisplay.2]

/-- The only test leaves the number seven, where there are two atoms. -/
lemma Work.exists_probes_seven :
    ∃ (t : Probes (idleConfig 0) (idleBench ["7"])) (b' : Bench),
      (localize (idleConfig 0)).run (idleBench ["7"]) = (.ok (), b') ∧
      t.weighed.size = 2 ∧ t.weighed.weighted = [(7, 1.0)] := by
  obtain ⟨t, hsize, hreply, -, hcan⟩ := exists_probes_idle (.inl rfl) ["7"]
  obtain ⟨b', hlocalize⟩ := t.exists_run_localize_iff.mpr hcan
  have hvisits : visitsOf t.machine (idleConfig 0).tests
      = [(⟨.negative, 1, Nat.one_pos⟩, [7])] := by
    simp only [visitsOf, covered, hreply]
    decide
  have hweights : t.weights = [(7, 1.0)] := by
    have hvisited : (visitedBy (!·.isPositive)
        [(⟨.negative, 1, Nat.one_pos⟩, [7])]).eraseDups = [7] := rfl
    rw [Probes.weights, hvisits, pathWeights, hvisited, List.mergeSort_singleton]
    rfl
  have hpos : (0 : Float) < 1.0 := by decide
  refine ⟨t, b', hlocalize, hsize, ?_⟩
  rw [Variant.weighted, Localization.positive, Probes.weighed, hweights, Localization.sorted,
    List.mergeSort_singleton]
  exact List.filter_cons_of_pos (decide_eq_true hpos)

/-- Seven is suspect where there are two atoms: some draw draws it, and each edit that is drawn and
changes it is refused. -/
theorem localize_keeps_strays_seven :
    ∃ (t : Work.Probes (Work.idleConfig 0) (Work.idleBench ["7"])) (b' : Bench)
      (v' : Variant Float), (Work.localize (Work.idleConfig 0)).run (Work.idleBench ["7"]) = (.ok (), b') ∧
      b'.altered = .ofVariant v' ∧ v'.size = 2 ∧ t.Suspect 7 ∧
      (∃ x : ℚ, 0 ≤ x ∧ x < 1 ∧ ∃ e, (Variant.drawEdit ⟨fun g => (x, g), fun n g => (n - 1, g)⟩
        (v'.mapWeights Number.exact) (Number.exact (Work.idleConfig 0).untouchedWeight) (0, 0, 1)
          ()).1 = .ok e ∧ e.target = 7) ∧
      ∀ e, (Variant.drawEdit ⟨fun g => (0.5, g), fun n g => (n - 1, g)⟩ v'
        (Work.idleConfig 0).untouchedWeight (1, 1, 1) ()).1 = .ok e → e.target = 7 →
          (Altered.apply (Work.idleConfig 0).untouchedWeight e).run b'.altered
            = (.error (.repair (.invalidAtom "7" "2")), b'.altered) := by
  obtain ⟨t, b', hlocalize, hsize, hseven⟩ := Work.exists_probes_seven
  have hsuspect : t.Suspect 7 := t.suspect_iff.mpr ⟨1.0, hseven ▸ List.mem_singleton_self _⟩
  obtain ⟨-, hlocalized⟩ := localize_keeps_strays (Work.check_idleConfig (.inl rfl)) t.scheme
    t.altered_eq hlocalize
  obtain ⟨v', hv', hprogram, -, hdrawn, happlied⟩ := hlocalized t
  have hsize' : v'.size = 2 := by
    rw [← hsize, Variant.size, hprogram]
    rfl
  refine ⟨t, b', v', hlocalize, hv', hsize', hsuspect, ?_, fun e he htarget => ?_⟩
  · obtain ⟨x, ⟨hzero, hone⟩, hdraw⟩ := hdrawn 7 hsuspect (hsize.ge.trans' one_le_two)
    exact ⟨x, hzero, hone,
      hdraw Unit ⟨fun g => (x, g), fun n g => (n - 1, g)⟩ (0, 0, 1) () rfl (by simp) hzero hone⟩
  · obtain ⟨-, hrefused⟩ :=
      happlied Unit _ (1, 1, 1) () e (fun n g hn => Nat.sub_lt hn Nat.one_pos) he
    change t.variant.size = 2 at hsize
    rw [htarget, hsize] at hrefused
    rw [(hrefused (by decide)).2, invalidAtom_seven]

/-- The only number with a weight is no atom, and an edit is drawn that would delete it. -/
theorem random_edit_is_refused :
    ∃ (b' : Bench) (v' : Variant Float), (Work.idleConfig 0).check = .ok (Work.idleConfig 0) ∧
      (Work.localize (Work.idleConfig 0)).run (Work.idleBench ["7"]) = (.ok (), b') ∧
      b'.altered = .ofVariant v' ∧ v'.size = 2 ∧ v'.weighted = [(7, 1.0)] ∧
      (Variant.drawEdit ⟨fun g => (0.5, g), fun n g => (n - 1, g)⟩ v'
        (Work.idleConfig 0).untouchedWeight (1, 0, 0) ()).1 = .ok (.delete 7) ∧
      (Altered.apply (Work.idleConfig 0).untouchedWeight (.delete 7)).run b'.altered
        = (.error (.repair (.invalidAtom "7" "2")), b'.altered) := by
  obtain ⟨t, b', hlocalize, hsize, hseven⟩ := Work.exists_probes_seven
  have hmem : (7, 1.0) ∈ t.weighed.weighted := hseven ▸ List.mem_singleton_self _
  have hatom : Variant.drawAtom ⟨fun g => (0.5, g), fun n g => (n - 1, g)⟩
      (t.weighed.candidates (Work.idleConfig 0).untouchedWeight) () = (.ok 7, ()) := by
    rw [Variant.candidates_of_mem_weighted hmem, hseven]
    rfl
  have hkind : Chance.Dice.case ⟨fun g : Unit => (0.5, g), fun n g => (n - 1, g)⟩
      (Variant.kindWeights ((1 : Float), 0, 0)) () = (.ok 0, ()) := by decide +kernel
  have hsome : t.weighed.size ≠ 0 := hsize.trans_ne two_ne_zero
  have hstray : ¬ (1 ≤ (Edit.delete 7).target ∧ (Edit.delete 7).target ≤ t.weighed.size) := by
    rw [hsize]
    decide
  have hlocalized : b'.altered = .ofVariant t.weighed := t.altered_of_run_localize hlocalize
  refine ⟨b', t.weighed, Work.check_idleConfig (.inl rfl), hlocalize, hlocalized, hsize, hseven, ?_,
    ?_⟩
  · rw [Variant.drawEdit, if_neg (by decide +kernel), if_neg hsome]
    exact Variant.drawFrom_eq_ok_iff.mpr ⟨7, (), 0, (), hatom, hkind, rfl⟩
  · have hrefused := Variant.apply_of_target_not_atom hstray (Work.idleConfig 0).untouchedWeight
    rw [hsize] at hrefused
    rw [hlocalized, Altered.run_apply, hrefused, Edit.target, invalidAtom_seven, Altered.settled]

end VariantRepair
