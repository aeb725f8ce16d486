import Mathlib.Data.List.Nodup
import Mathlib.Data.List.Sort
import Mathlib.Tactic.Common
import VariantRepair.Localization.Basic
import VariantRepair.Localization.FaultRows

/-!
# What is done to weights

Weights follow the atoms when these are renumbered, and are made from the paths that tests take.
-/

/-!
## Renumbering of a localization

What the weights are after atoms have been dropped or inserted: each operation is described by the
weight that it leaves to every id. No weight is ever stored for an id outside of the program.
-/

namespace VariantRepair.Localization

variable {W : Type}

/-! ### Weights by id -/

@[simp] lemma get?_mk_nil (i : Int) : (Localization.mk ([] : List (Int × W))).get? i = none := rfl

lemma get?_mk_cons (p : Int × W) (ps : List (Int × W)) (i : Int) :
    (Localization.mk (p :: ps)).get? i
      = if p.1 = i then some p.2 else (Localization.mk ps).get? i := by
  by_cases h : p.1 = i <;> simp [get?, h]

lemma get?_place (atom : Int) (w : W) (ps : List (Int × W)) (i : Int) :
    (Localization.mk (place atom w ps)).get? i
      = if i = atom then some w else (Localization.mk ps).get? i := by
  induction ps with
  | nil =>
    simp only [place, get?_mk_cons, eq_comm (a := i)]
  | cons p ps ih =>
    obtain ⟨a, v⟩ := p
    by_cases h : atom = a
    · subst h
      simp only [place, if_true, get?_mk_cons, eq_comm (a := i)]
      split_ifs <;> rfl
    · simp only [place, h, if_false, get?_mk_cons, ih]
      split_ifs <;> first | rfl | omega

lemma get?_set (l : Localization W) (atom : Int) (w : W) (i : Int) :
    (l.set atom w).get? i = if i = atom then some w else l.get? i :=
  get?_place atom w l.pairs i

/-- Dropping an atom lets every id at or above it show the weight of the next one. -/
lemma get?_remove (l : Localization W) (atom i : Int) :
    (l.remove atom).get? i = l.get? (if i < atom then i else i + 1) := by
  obtain ⟨ps⟩ := l
  simp only [remove]
  induction ps with
  | nil => rfl
  | cons p ps ih =>
    rw [List.filterMap_cons]
    rcases Int.lt_trichotomy p.1 atom with h | h | h
    · simp only [h, if_true, get?_mk_cons, ih]
      split_ifs <;> first | rfl | omega
    · simp only [h, Int.lt_irrefl, if_false, get?_mk_cons, ih]
      split_ifs <;> first | rfl | omega
    · simp only [h, Int.lt_asymm h, if_true, if_false, get?_mk_cons, ih]
      split_ifs <;> first | rfl | omega

lemma get?_shiftUp (l : Localization W) (atom i : Int) :
    (l.shiftUp atom).get? i
      = if i ≤ atom then l.get? i else if i = atom + 1 then none else l.get? (i - 1) := by
  obtain ⟨ps⟩ := l
  simp only [shiftUp]
  induction ps with
  | nil => simp
  | cons p ps ih =>
    rw [List.map_cons]
    by_cases h : atom < p.1
    · simp only [h, if_true, get?_mk_cons, ih]
      split_ifs <;> first | rfl | omega
    · simp only [h, if_false, get?_mk_cons, ih]
      split_ifs <;> first | rfl | omega

/-- Inserting an atom leaves the weights at or below its place and moves those above it. -/
lemma get?_insertAfter (l : Localization W) (atom : Int) (w : W) (i : Int) :
    (l.insertAfter atom w).get? i
      = if i ≤ atom then l.get? i else if i = atom + 1 then some w else l.get? (i - 1) := by
  rw [insertAfter, get?_set, get?_shiftUp]
  split_ifs <;> first | rfl | omega

/-! ### Ids within the program -/

/-- Every id that has a weight is an atom of a program with `n` atoms. -/
def LiesIn (l : Localization W) (n : Nat) : Prop :=
  ∀ p ∈ l.pairs, 1 ≤ p.1 ∧ p.1 ≤ n

lemma mem_place {atom : Int} {w : W} {ps : List (Int × W)} {q : Int × W}
    (h : q ∈ place atom w ps) : q = (atom, w) ∨ q ∈ ps := by
  induction ps with
  | nil => simpa [place] using h
  | cons p ps ih =>
    rw [place] at h
    split_ifs at h with hp
    · rcases List.mem_cons.mp h with rfl | h
      · exact Or.inl rfl
      · exact Or.inr (List.mem_cons_of_mem _ h)
    · rcases List.mem_cons.mp h with rfl | h
      · exact Or.inr List.mem_cons_self
      · exact (ih h).imp_right (List.mem_cons_of_mem _)

lemma LiesIn.set {l : Localization W} {n : Nat} (h : l.LiesIn n) {atom : Int} (h₁ : 1 ≤ atom)
    (hn : atom ≤ n) (w : W) : (l.set atom w).LiesIn n := by
  intro p hp
  rcases mem_place hp with rfl | hp
  · exact ⟨h₁, hn⟩
  · exact h p hp

lemma LiesIn.remove {l : Localization W} {n : Nat} (h : l.LiesIn (n + 1)) {atom : Int}
    (h₁ : 1 ≤ atom) (hn : atom ≤ n + 1) : (l.remove atom).LiesIn n := by
  intro p hp
  obtain ⟨q, hq, heq⟩ := List.mem_filterMap.mp hp
  have hq := h q hq
  split_ifs at heq with hlt hgt <;> cases heq
  · exact ⟨hq.1, by omega⟩
  · constructor <;> simp only <;> omega

lemma LiesIn.insertAfter {l : Localization W} {n : Nat} (h : l.LiesIn n) {atom : Int}
    (h₁ : 1 ≤ atom) (hn : atom ≤ n) (w : W) : (l.insertAfter atom w).LiesIn (n + 1) := by
  have hshift : (l.shiftUp atom).LiesIn (n + 1) := by
    intro p hp
    obtain ⟨q, hq, rfl⟩ := List.mem_map.mp hp
    obtain ⟨hq₁, hqn⟩ := h q hq
    split_ifs with hlt
    · exact ⟨Int.le_add_one hq₁, by exact_mod_cast Int.add_le_add_right hqn 1⟩
    · exact ⟨hq₁, Int.le_add_one hqn⟩
  exact hshift.set (by omega) (by omega) w

end VariantRepair.Localization

/-!
## Weights by paths

The weights that paths give to atoms are a matter of sets: an atom has a weight if a failing test
visits it, and which one it has is decided by whether a passing test visits it too. In which order
the atoms were visited, and how often, makes no difference.
-/

namespace VariantRepair

variable {W : Type}

lemma nodup_eraseDups (as : List Int) : as.eraseDups.Nodup := by
  cases as with
  | nil => exact List.nodup_nil
  | cons a as =>
    rw [List.eraseDups_cons, List.nodup_cons, List.mem_eraseDups]
    exact ⟨by simp, nodup_eraseDups _⟩
termination_by as.length
decreasing_by
  have hle := List.length_filter_le (fun b => !b == a) as
  rw [List.length_cons]
  omega

namespace Localization

lemma place_of_notMem {a : Int} {w : W} {ps : List (Int × W)} (h : a ∉ ps.map (·.1)) :
    place a w ps = ps ++ [(a, w)] := by
  induction ps with
  | nil => rfl
  | cons p ps ih =>
    rw [List.map_cons, List.mem_cons, not_or] at h
    rw [place, if_neg h.1, ih h.2, List.cons_append]

/-- Where no atom comes twice, each keeps the weight that it is given. -/
lemma pairs_ofList {ps : List (Int × W)} (h : (ps.map (·.1)).Nodup) : (ofList ps).pairs = ps := by
  have hfold : ∀ (ps qs : List (Int × W)), ((qs ++ ps).map (·.1)).Nodup →
      (ps.foldl (fun l p => l.set p.1 p.2) ⟨qs⟩ : Localization W).pairs = qs ++ ps := by
    intro ps
    induction ps with
    | nil => exact fun qs _ => (List.append_nil qs).symm
    | cons p ps ih =>
      intro qs hnodup
      have hassoc : qs ++ p :: ps = qs ++ [(p.1, p.2)] ++ ps := by simp
      have hnew : p.1 ∉ qs.map (·.1) := by
        rw [List.map_append, List.map_cons] at hnodup
        exact fun hmem => (List.nodup_append.mp hnodup).2.2 _ hmem _ List.mem_cons_self rfl
      rw [List.foldl_cons, set, place_of_notMem hnew, hassoc]
      exact ih _ (hassoc ▸ hnodup)
  exact hfold ps [] h

end Localization

section PathWeights

variable {failing passing : List Int} {onlyFailing onBoth : W} {a : Int} {w : W}

/-- The atoms of the weights come in strict order. -/
lemma pairwise_pathWeights (failing passing : List Int) (onlyFailing onBoth : W) :
    (pathWeights failing passing onlyFailing onBoth).Pairwise (·.1 < ·.1) := by
  have hle : (failing.eraseDups.mergeSort (· ≤ ·)).Pairwise (· ≤ ·) :=
    List.pairwise_mergeSort' (· ≤ ·) failing.eraseDups
  have hne : (failing.eraseDups.mergeSort (· ≤ ·)).Pairwise (· ≠ ·) :=
    (nodup_eraseDups failing).perm (List.mergeSort_perm _ _).symm
  rw [pathWeights, List.pairwise_map]
  exact (hle.and hne).imp fun h => Int.lt_iff_le_and_ne.mpr h

lemma mem_pathWeights : (a, w) ∈ pathWeights failing passing onlyFailing onBoth ↔
    a ∈ failing ∧ (a ∈ passing ∧ w = onBoth ∨ a ∉ passing ∧ w = onlyFailing) := by
  have hweight : (if passing.contains a then onBoth else onlyFailing) = w ↔
      a ∈ passing ∧ w = onBoth ∨ a ∉ passing ∧ w = onlyFailing := by
    by_cases ha : a ∈ passing
    · simp [ha, eq_comm]
    · simp [ha, eq_comm]
  rw [pathWeights, List.mem_map, ← hweight]
  constructor
  · rintro ⟨a', ha', heq⟩
    obtain ⟨rfl, hw⟩ := Prod.mk.inj heq
    exact ⟨List.mem_eraseDups.mp (List.mem_mergeSort.mp ha'), hw⟩
  · rintro ⟨ha, hw⟩
    exact ⟨a, List.mem_mergeSort.mpr (List.mem_eraseDups.mpr ha), congrArg (a, ·) hw⟩

lemma pairs_ofList_pathWeights (failing passing : List Int) (onlyFailing onBoth : W) :
    (Localization.ofList (pathWeights failing passing onlyFailing onBoth)).pairs
      = pathWeights failing passing onlyFailing onBoth := by
  refine Localization.pairs_ofList (List.pairwise_map.mpr ?_)
  exact (pairwise_pathWeights failing passing onlyFailing onBoth).imp Int.ne_of_lt

end PathWeights

end VariantRepair
