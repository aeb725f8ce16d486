import Mathlib.Data.List.Nodup
import Mathlib.Data.List.Sort
import Mathlib.Tactic.Common
import VariantRepair.Bench.Localize
import VariantRepair.Proofs.Localization.Renumbering
import VariantRepair.Proofs.Number.Exact

/-!
# Greatest weights

Weights that come one after the other raise what an atom has: in the end each atom to which some
weight came has the greatest of them. In which order they came, and how often, makes no difference
up to the sign of a zero. So it is with the weights that the rows of a fault file give to the atoms
of their lines.
-/

namespace VariantRepair

/-! ### Localizations without duplicates -/

namespace Localization

variable {W : Type} {l l' : Localization W} {a : Int} {w : W}

/-- No atom is stored twice. -/
def Nodup (l : Localization W) : Prop := (l.pairs.map (·.1)).Nodup

lemma map_fst_place_of_mem {ps : List (Int × W)} (h : a ∈ ps.map (·.1)) :
    (place a w ps).map (·.1) = ps.map (·.1) := by
  induction ps with
  | nil => cases h
  | cons p ps ih =>
    rw [place]
    split_ifs with hp
    · rw [List.map_cons, List.map_cons, hp]
    · have hmem : a ∈ ps.map (·.1) := (List.mem_cons.mp h).resolve_left hp
      rw [List.map_cons, List.map_cons, ih hmem]

lemma nodup_empty : (∅ : Localization W).Nodup := List.nodup_nil

lemma Nodup.set (h : l.Nodup) (a : Int) (w : W) : (l.set a w).Nodup := by
  rw [Nodup, Localization.set]
  by_cases ha : a ∈ l.pairs.map (·.1)
  · rw [map_fst_place_of_mem ha]
    exact h
  · rw [place_of_notMem ha, List.map_append, List.map_singleton]
    exact List.nodup_append.mpr ⟨h, List.nodup_singleton a, fun b hb c hc hbc => by
      obtain rfl := List.mem_singleton.mp hc
      exact ha (hbc ▸ hb)⟩

/-- An atom has the weight that is stored for it. -/
lemma Nodup.mem_iff (h : l.Nodup) : (a, w) ∈ l.pairs ↔ l.get? a = some w := by
  obtain ⟨ps⟩ := l
  induction ps with
  | nil => simp
  | cons p ps ih =>
    obtain ⟨b, v⟩ := p
    obtain ⟨hb, hps⟩ := List.nodup_cons.mp h
    rw [List.mem_cons, get?_mk_cons, ih hps]
    by_cases hab : b = a
    · subst hab
      have hnone : (Localization.mk ps).get? b ≠ some w := by
        rw [Ne, ← ih hps]
        exact fun hmem => hb (List.mem_map_of_mem (f := (·.1)) hmem)
      simp [hnone, eq_comm]
    · have hne : (a, w) ≠ (b, v) := fun heq => hab (Prod.mk.inj heq).1.symm
      simp [hab, hne]

lemma Nodup.mem_map_fst_iff (h : l.Nodup) : a ∈ l.pairs.map (·.1) ↔ ∃ w, l.get? a = some w := by
  rw [List.mem_map]
  constructor
  · rintro ⟨⟨b, w⟩, hmem, rfl⟩
    exact ⟨w, h.mem_iff.mp hmem⟩
  · rintro ⟨w, hw⟩
    exact ⟨(a, w), h.mem_iff.mpr hw, rfl⟩

lemma pairwise_sorted (l : Localization W) : (l.sorted.map (·.1)).Pairwise (· ≤ ·) := by
  have hle : l.sorted.Pairwise fun p q => decide (p.1 ≤ q.1) = true :=
    List.pairwise_mergeSort (fun p q r => by simp only [decide_eq_true_eq]; exact Int.le_trans)
      (fun p q => by simp only [Bool.or_eq_true, decide_eq_true_eq]; exact Int.le_total p.1 q.1) _
  rw [List.pairwise_map]
  exact hle.imp of_decide_eq_true

/-- Localizations of the same atoms show them in the same order. -/
lemma map_fst_sorted_eq (h : l.Nodup) (h' : l'.Nodup)
    (hatoms : ∀ a, (∃ w, l.get? a = some w) ↔ ∃ w, l'.get? a = some w) :
    l.sorted.map (·.1) = l'.sorted.map (·.1) := by
  have hperm : (l.pairs.map (·.1)).Perm (l'.pairs.map (·.1)) :=
    (List.perm_ext_iff_of_nodup h h').mpr fun a => by
      rw [h.mem_map_fst_iff, h'.mem_map_fst_iff, hatoms]
  refine List.Perm.eq_of_pairwise (fun _ _ _ _ => Int.le_antisymm) l.pairwise_sorted
    l'.pairwise_sorted ?_
  exact (((List.mergeSort_perm _ _).map _).trans hperm).trans ((List.mergeSort_perm _ _).map _).symm

lemma fst_eq_of_mem_zip {ps qs : List (Int × W)} {p q : Int × W}
    (h : ps.map (·.1) = qs.map (·.1)) (hmem : (p, q) ∈ ps.zip qs) : p.1 = q.1 := by
  induction ps generalizing qs with
  | nil => cases hmem
  | cons p' ps ih =>
    cases qs with
    | nil => cases hmem
    | cons q' qs =>
      obtain ⟨hhead, htail⟩ := List.cons.inj h
      obtain heq | hmem := List.mem_cons.mp hmem
      · obtain ⟨rfl, rfl⟩ := Prod.mk.inj heq
        exact hhead
      · exact ih htail hmem

/-- Two localizations are equal when they give equal weights to the same atoms. -/
lemma equal_of_get? {l l' : Localization Float} (h : l.Nodup) (h' : l'.Nodup)
    (hatoms : ∀ a, (∃ w, l.get? a = some w) ↔ ∃ w, l'.get? a = some w)
    (hweights : ∀ a w w', l.get? a = some w → l'.get? a = some w' → (w == w') = true) :
    l.equal l' = true := by
  have hkeys := map_fst_sorted_eq h h' hatoms
  have hlength : l.pairs.length = l'.pairs.length := by
    have hlength := congrArg List.length hkeys
    simpa [sorted] using hlength
  rw [equal, Bool.and_eq_true, beq_iff_eq, List.all_eq_true]
  refine ⟨hlength, fun ⟨p, q⟩ hmem => ?_⟩
  have hfst := fst_eq_of_mem_zip hkeys hmem
  obtain ⟨hp, hq⟩ := List.of_mem_zip hmem
  have hp : l.get? p.1 = some p.2 := h.mem_iff.mp (List.mem_mergeSort.mp hp)
  have hq : l'.get? q.1 = some q.2 := h'.mem_iff.mp (List.mem_mergeSort.mp hq)
  rw [Bool.and_eq_true, beq_iff_eq]
  exact ⟨hfst, hweights p.1 p.2 q.2 hp (hfst ▸ hq)⟩

end Localization

/-! ### Weights that are raised -/

namespace Work

variable {l l' : Localization Float} {named named' : List (Int × Float)} {a : Int} {w : Float}

lemma get?_raise (l : Localization Float) (a : Int) (w : Float) (i : Int) :
    (raise l a w).get? i =
      if i = a then some (if w < l.getD a 0.0 then l.getD a 0.0 else w) else l.get? i :=
  l.get?_set a _ i

/-- What is stored when weights have come to atoms: each atom to which some have come has one of
them, and none of them is greater. -/
structure HoldsGreatest (named : List (Int × Float)) (l : Localization Float) : Prop where
  nodup : l.Nodup
  stored : ∀ a, (∃ w, l.get? a = some w) ↔ ∃ w, (a, w) ∈ named
  mem : ∀ a w, l.get? a = some w → (a, w) ∈ named
  le : ∀ a w, l.get? a = some w → ∀ w', (a, w') ∈ named → w' ≤ w

namespace HoldsGreatest

lemma nil : HoldsGreatest [] ∅ where
  nodup := Localization.nodup_empty
  stored _ := iff_of_false (fun ⟨_, h⟩ => nomatch h) (fun ⟨_, h⟩ => nomatch h)
  mem _ _ h := nomatch h
  le _ _ h := nomatch h

section Weights

variable (hnamed : ∀ p ∈ named, Weight.inUnit p.2 = true)

include hnamed

/-- A weight that comes to an atom is stored, unless a greater one is there. -/
lemma get?_raise_cases (h : HoldsGreatest named l) (hw : Weight.inUnit w = true) :
    (∃ old, l.get? a = some old ∧ w ≤ old ∧ (raise l a w).get? a = some old) ∨
      (raise l a w).get? a = some w ∧ ∀ w', (a, w') ∈ named → w' ≤ w := by
  rw [get?_raise, if_pos rfl, Localization.getD]
  cases hold : l.get? a with
  | none =>
    refine .inr ⟨by rw [Option.getD_none, if_neg (Number.not_lt_zero hw)], fun w' hw' => ?_⟩
    obtain ⟨v, hv⟩ := (h.stored a).mpr ⟨w', hw'⟩
    rw [hold] at hv
    cases hv
  | some old =>
    have hunit : Weight.inUnit old = true := hnamed (a, old) (h.mem a old hold)
    rw [Option.getD_some]
    by_cases hlt : w < old
    · exact .inl ⟨old, rfl, Number.le_of_lt hw hunit hlt, by rw [if_pos hlt]⟩
    · refine .inr ⟨by rw [if_neg hlt], fun w' hw' => ?_⟩
      exact Number.le_trans (hnamed (a, w') hw') hunit hw (h.le a old hold w' hw')
        (Number.le_of_not_lt hw hunit hlt)

/-- One more weight raises what its atom has. -/
lemma raise (h : HoldsGreatest named l) (hw : Weight.inUnit w = true) :
    HoldsGreatest (named ++ [(a, w)]) (raise l a w) where
  nodup := h.nodup.set a _
  stored i := by
    by_cases hi : i = a
    · rw [get?_raise, if_pos hi, hi]
      exact iff_of_true ⟨_, rfl⟩ ⟨w, List.mem_append_right _ (List.mem_singleton_self _)⟩
    · rw [get?_raise, if_neg hi, h.stored]
      simp [hi]
  mem i v hv := by
    by_cases hi : i = a
    · subst hi
      obtain ⟨old, hold, -, hnew⟩ | ⟨hnew, -⟩ := h.get?_raise_cases hnamed hw
      · obtain rfl := Option.some.inj (hnew.symm.trans hv)
        exact List.mem_append_left _ (h.mem i _ hold)
      · obtain rfl := Option.some.inj (hnew.symm.trans hv)
        exact List.mem_append_right _ (List.mem_singleton_self _)
    · rw [get?_raise, if_neg hi] at hv
      exact List.mem_append_left _ (h.mem i v hv)
  le i v hv v' hv' := by
    rw [List.mem_append, List.mem_singleton] at hv'
    by_cases hi : i = a
    · subst hi
      obtain ⟨old, hold, hle, hnew⟩ | ⟨hnew, hall⟩ := h.get?_raise_cases hnamed hw
      · obtain rfl := Option.some.inj (hnew.symm.trans hv)
        obtain hv' | hv' := hv'
        · exact h.le i _ hold v' hv'
        · obtain rfl := (Prod.mk.inj hv').2
          exact hle
      · obtain rfl := Option.some.inj (hnew.symm.trans hv)
        obtain hv' | hv' := hv'
        · exact hall v' hv'
        · obtain rfl := (Prod.mk.inj hv').2
          exact Number.le_refl hw
    · rw [get?_raise, if_neg hi] at hv
      obtain hv' | hv' := hv'
      · exact h.le i v hv v' hv'
      · exact absurd (Prod.mk.inj hv').1 hi

/-- What is stored depends on which weights have come to an atom, and on nothing else. -/
lemma equal (h : HoldsGreatest named l) (h' : HoldsGreatest named' l')
    (hsame : ∀ p, p ∈ named ↔ p ∈ named') : l.equal l' = true := by
  refine Localization.equal_of_get? h.nodup h'.nodup (fun a => ?_) fun a w w' hw hw' => ?_
  · rw [h.stored, h'.stored]
    exact exists_congr fun w => hsame (a, w)
  · have hmem := h.mem a w hw
    have hmem' := (hsame _).mpr (h'.mem a w' hw')
    exact Number.beq_of_le (hnamed (a, w) hmem) (hnamed (a, w') hmem')
      (h'.le a w' hw' w ((hsame _).mp hmem)) (h.le a w hw w' hmem')

end Weights

/-- Weights that come in turn. -/
lemma foldl_raise (h : HoldsGreatest named l)
    (hall : ∀ p ∈ named ++ named', Weight.inUnit p.2 = true) :
    HoldsGreatest (named ++ named') (named'.foldl (fun l p => Work.raise l p.1 p.2) l) := by
  induction named' generalizing named l with
  | nil =>
    rw [List.append_nil]
    exact h
  | cons p named' ih =>
    obtain ⟨hnamed, hp, -⟩ := (List.forall_mem_append.mp hall).imp_right List.forall_mem_cons.mp
    have hassoc : named ++ p :: named' = named ++ [(p.1, p.2)] ++ named' := by simp
    rw [List.foldl_cons, hassoc]
    exact ih (h.raise hnamed hp) (hassoc ▸ hall)

end HoldsGreatest

/-! ### Rows -/

variable {rows : List (Int × Float)}

/-- The weights of a row go to the atoms of its line. -/
lemma raiseRow_ofVariant (v : Variant Float) (l : Localization Float) (row : Int × Float) :
    raiseRow (.ofVariant v) l row
      = .ok ((v.program.atomsAtLine row.1).foldl (fun l atom => raise l atom row.2) l) := by
  have hatoms : (Altered.ofVariant v).atomsAtLine (.int row.1)
      = .ok ((v.program.atomsAtLine row.1).map .int) := rfl
  have hwhole : ((v.program.atomsAtLine row.1).map .int).filterMap Value.whole?
      = v.program.atomsAtLine row.1 := by
    rw [List.filterMap_map]
    exact List.filterMap_some
  rw [raiseRow, hatoms]
  dsimp only [bind, Except.bind]
  rw [hwhole]
  rfl

/-- The weights that rows give to the atoms of a program, in turn. -/
def given (p : Program) (rows : List (Int × Float)) : List (Int × Float) :=
  rows.flatMap fun row => (p.atomsAtLine row.1).map fun a => (a, row.2)

lemma mem_given {p : Program} :
    (a, w) ∈ given p rows ↔ ∃ line, (line, w) ∈ rows ∧ a ∈ p.atomsAtLine line := by
  simp [given]

lemma rowWeights_ofVariant (v : Variant Float) (rows : List (Int × Float)) :
    rowWeights (.ofVariant v) rows
      = .ok ((given v.program rows).foldl (fun l p => raise l p.1 p.2) ∅) := by
  have hfold : ∀ (rows : List (Int × Float)) (l : Localization Float),
      rows.foldlM (raiseRow (.ofVariant v)) l
        = .ok ((given v.program rows).foldl (fun l p => raise l p.1 p.2) l) := by
    intro rows
    induction rows with
    | nil => exact fun l => rfl
    | cons row rows ih =>
      intro l
      rw [List.foldlM_cons, raiseRow_ofVariant, given, List.flatMap_cons, List.foldl_append,
        List.foldl_map]
      exact ih _
  exact hfold rows ∅

lemma inUnit_given (p : Program) (hrows : ∀ row ∈ rows, Weight.inUnit row.2 = true) :
    ∀ q ∈ given p rows, Weight.inUnit q.2 = true := by
  rintro ⟨a, w⟩ hq
  obtain ⟨line, hmem, -⟩ := mem_given.mp hq
  exact hrows (line, w) hmem

/-- Each atom that a row weighs has the greatest of its weights. -/
lemma holdsGreatest_given (p : Program) (hrows : ∀ row ∈ rows, Weight.inUnit row.2 = true) :
    HoldsGreatest (given p rows)
      ((given p rows).foldl (fun l p => raise l p.1 p.2) ∅) :=
  HoldsGreatest.nil.foldl_raise (inUnit_given p hrows)

end Work

end VariantRepair
