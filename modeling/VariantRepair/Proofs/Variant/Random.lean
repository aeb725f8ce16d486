import Mathlib.Algebra.Order.Field.Basic
import Mathlib.Tactic.Linarith
import VariantRepair.Variant.Random
import VariantRepair.Proofs.Localization.Choice
import VariantRepair.Proofs.Localization.Renumbering
import VariantRepair.Proofs.Variant.Refused

/-!
# What random edits change

The atom that a random edit changes is one that the weights allow, and the atom that it copies or
exchanges is any. Whatever the arithmetic, an edit that is drawn is of this kind; in exact
arithmetic one is drawn whenever there is an atom and some kind of edit has a positive weight.
-/

namespace VariantRepair

/-! ### The parts of an edit -/

namespace Edit

/-- The atom that an edit changes. -/
def target : Edit → Int
  | delete a => a
  | append d _ => d
  | swap a _ => a

/-- The atom that an edit copies or exchanges with the one it changes. -/
def other? : Edit → Option Int
  | delete _ => none
  | append _ s => some s
  | swap _ b => some b

/-- The weight of the kind of an edit; `weights` are those of deleting, appending and swapping. -/
def kindWeight {W : Type} (weights : W × W × W) : Edit → W
  | delete _ => weights.1
  | append .. => weights.2.1
  | swap .. => weights.2.2

/-- The edit of the kind with a number: deleting, appending or swapping. -/
def ofKind (atom other : Int) : Nat → Edit
  | 0 => delete atom
  | 1 => append atom other
  | _ => swap atom other

lemma target_ofKind (atom other : Int) (kind : Nat) : (ofKind atom other kind).target = atom := by
  rw [ofKind.eq_def]
  split <;> rfl

lemma eq_of_mem_other?_ofKind {atom other a : Int} {kind : Nat}
    (h : a ∈ (ofKind atom other kind).other?) : a = other := by
  rw [ofKind.eq_def] at h
  split at h
  · cases h
  · exact (Option.some.inj h).symm
  · exact (Option.some.inj h).symm

lemma fits_iff {n : Nat} {e : Edit} :
    e.Fits n ↔ (1 ≤ e.target ∧ e.target ≤ n) ∧ ∀ a ∈ e.other?, 1 ≤ a ∧ a ≤ n := by
  cases e <;> simp [target, other?]

end Edit

/-! ### Atoms that may be changed -/

/-- The weight of an atom is one that is stored for it, or the default. -/
lemma Localization.getD_eq_or_mem {W : Type} (l : Localization W) (atom : Int) (default : W) :
    l.getD atom default = default ∨ (atom, l.getD atom default) ∈ l.pairs := by
  rw [getD, get?]
  cases hfind : l.pairs.find? fun p => p.1 == atom with
  | none => exact .inl rfl
  | some p =>
    have hatom := List.find?_some (p := fun p : Int × W => p.1 == atom) hfind
    obtain rfl : p.1 = atom := beq_iff_eq.mp hatom
    exact .inr (List.mem_of_find?_eq_some hfind)

namespace Variant

lemma mem_atomIds {n : Nat} {a : Int} : a ∈ atomIds n ↔ 1 ≤ a ∧ a ≤ n := by
  simp only [atomIds, List.mem_map, List.mem_range, Int.toNat_natCast]
  constructor
  · rintro ⟨i, hi, rfl⟩
    omega
  · intro h
    exact ⟨(a - 1).toNat, by omega, by omega⟩

lemma mem_allWeighted {W : Type} {v : Variant W} {untouched : W} {a : Int} {w : W} :
    (a, w) ∈ v.allWeighted untouched ↔
      (1 ≤ a ∧ a ≤ v.size) ∧ w = v.localization.getD a untouched := by
  rw [allWeighted, Localization.full, List.mem_map, ← mem_atomIds]
  constructor
  · rintro ⟨b, hb, heq⟩
    cases heq
    exact ⟨hb, rfl⟩
  · rintro ⟨ha, rfl⟩
    exact ⟨a, ha, rfl⟩

/-- An edit that would change what is no atom is refused for that, whatever it copies or
exchanges. -/
lemma apply_of_target_not_atom {W : Type} {v : Variant W} {e : Edit}
    (h : ¬ (1 ≤ e.target ∧ e.target ≤ v.size)) (untouched : W) :
    v.apply untouched e = .error (invalidAtom (.int e.target) v.size) := by
  have hcheck : v.checkAtom (.int e.target) = .error (invalidAtom (.int e.target) v.size) := by
    refine checkAtom_of_not_isAtomOf ?_
    rintro ⟨a, ha, hatom⟩
    cases ha
    exact h hatom
  cases e with
  | delete a =>
    change v.checkAtom (.int a) = _ at hcheck
    rw [apply, delete, hcheck]
    rfl
  | append d s =>
    change v.checkAtom (.int d) = _ at hcheck
    rw [apply, append, hcheck]
    rfl
  | swap a b =>
    change v.checkAtom (.int a) = _ at hcheck
    rw [apply, swap, hcheck]
    rfl

section Targets

variable {W : Type} [Weight W] {v : Variant W} {untouched : W} {a : Int} {w : W}

/-- An atom that a random edit may change: one with a positive weight. If there is none, it is one
that has a positive weight when atoms without any get the default, and if there is none even then,
it is any atom. -/
inductive MayChange (v : Variant W) (untouched : W) (a : Int) : Prop
  | weighted {w : W} (h : (a, w) ∈ v.weighted)
  | unweighted {w : W} (hnone : v.weighted = []) (h : (a, w) ∈ v.allWeighted untouched)
      (hpos : 0 < w)
  | any (hnone : v.weighted = []) (hzero : ∀ p ∈ v.allWeighted untouched, ¬ 0 < p.2)
      (h : 1 ≤ a ∧ a ≤ v.size)

lemma mem_weighted : (a, w) ∈ v.weighted ↔ (a, w) ∈ v.localization.pairs ∧ 0 < w := by
  rw [weighted, Localization.positive, List.mem_filter, Localization.sorted, List.mem_mergeSort,
    decide_eq_true_eq]

lemma of_mem_evened {entries : List (Int × W)} (h : (a, w) ∈ evened entries) :
    (a, w) ∈ entries ∨ (∀ p ∈ entries, ¬ 0 < p.2) ∧ ∃ w', (a, w') ∈ entries := by
  rw [evened] at h
  split_ifs at h with hany
  · exact .inl h
  · obtain ⟨⟨b, w'⟩, hmem, heq⟩ := List.mem_map.mp h
    cases heq
    refine .inr ⟨fun p hp hpos => hany ?_, w', hmem⟩
    exact List.any_eq_true.mpr ⟨p, hp, decide_eq_true hpos⟩

/-- The atoms to choose from are those that may be changed. -/
lemma mayChange_of_mem_candidates (h : (a, w) ∈ v.candidates untouched) (hpos : 0 < w) :
    v.MayChange untouched a := by
  by_cases hnone : v.weighted = []
  · rw [candidates, if_pos (List.isEmpty_iff.mpr hnone)] at h
    rcases of_mem_evened h with hmem | ⟨hzero, w', hmem⟩
    · exact .unweighted hnone hmem hpos
    · exact .any hnone hzero (mem_allWeighted.mp hmem).1
  · rw [candidates, if_neg (mt List.isEmpty_iff.mp hnone)] at h
    rcases of_mem_evened h with hmem | ⟨hzero, w', hmem⟩
    · exact .weighted hmem
    · exact absurd (mem_weighted.mp hmem).2 (hzero _ hmem)

/-- What may be changed has a positive weight or is an atom. -/
lemma MayChange.mem_weighted_or_isAtom (h : v.MayChange untouched a) :
    (∃ w, (a, w) ∈ v.weighted) ∨ 1 ≤ a ∧ a ≤ v.size := by
  cases h with
  | weighted h => exact .inl ⟨_, h⟩
  | unweighted hnone h hpos => exact .inr (mem_allWeighted.mp h).1
  | any hnone hzero h => exact .inr h

/-- Where the ids of weights are atoms, only atoms may be changed. -/
lemma MayChange.isAtom (h : v.MayChange untouched a) (hlies : v.localization.LiesIn v.size) :
    1 ≤ a ∧ a ≤ v.size := by
  rcases h.mem_weighted_or_isAtom with ⟨w, h⟩ | h
  · exact hlies _ (mem_weighted.mp h).1
  · exact h

/-- If some weight is positive, the atoms to choose from are those with such a weight. -/
lemma candidates_of_mem_weighted (h : (a, w) ∈ v.weighted) :
    v.candidates untouched = v.weighted := by
  have hsome : v.weighted.isEmpty = false := List.isEmpty_eq_false_iff.mpr (List.ne_nil_of_mem h)
  have hpos : v.weighted.any (fun e => decide (0 < e.2)) = true :=
    List.any_eq_true.mpr ⟨(a, w), h, decide_eq_true (mem_weighted.mp h).2⟩
  rw [candidates, hsome, if_neg Bool.false_ne_true, evened, if_pos hpos]

end Targets

/-! ### The same weights in another arithmetic -/

end Variant

section Read

variable {V W : Type} {f : V → W}

/-- The localization with its weights read in another arithmetic. -/
def Localization.mapWeights (f : V → W) (l : Localization V) : Localization W :=
  ⟨l.pairs.map fun p => (p.1, f p.2)⟩

/-- The variant with its weights read in another arithmetic. -/
def Variant.mapWeights (f : V → W) (v : Variant V) : Variant W where
  program := v.program
  localization := v.localization.mapWeights f
  history := v.history
  ownSuffix := v.ownSuffix
  compiled := v.compiled

lemma Localization.getD_mapWeights (l : Localization V) (atom : Int) (default : V) :
    (l.mapWeights f).getD atom (f default) = f (l.getD atom default) := by
  have hget : (l.mapWeights f).get? atom = (l.get? atom).map f := by
    rw [get?, get?, mapWeights, List.find?_map, Option.map_map, Option.map_map]
    rfl
  rw [getD, getD, hget, Option.getD_map]

lemma Localization.sorted_mapWeights (l : Localization V) :
    (l.mapWeights f).sorted = l.sorted.map fun p => (p.1, f p.2) := by
  rw [sorted, sorted, mapWeights]
  exact (List.map_mergeSort (f := fun p : Int × V => (p.1, f p.2)) fun _ _ _ _ => rfl).symm

namespace Variant

variable {v : Variant V} {untouched : V} {a : Int}

lemma allWeighted_mapWeights :
    (v.mapWeights f).allWeighted (f untouched)
      = (v.allWeighted untouched).map fun p => (p.1, f p.2) := by
  rw [allWeighted, allWeighted, Localization.full, Localization.full, List.map_map]
  refine List.map_congr_left fun a _ => ?_
  exact congrArg (a, ·) (Localization.getD_mapWeights _ a untouched)

variable [Weight V] [Weight W]

lemma weighted_mapWeights (hf : Weight.KeepsSign f) (hunit : v.localization.InUnit) :
    (v.mapWeights f).weighted = v.weighted.map fun p => (p.1, f p.2) := by
  rw [weighted, weighted, Localization.positive, Localization.positive, mapWeights,
    Localization.sorted_mapWeights, List.filter_map]
  congr 1
  refine List.filter_congr fun p hp => ?_
  have hmem : p ∈ v.localization.pairs := List.mem_mergeSort.mp hp
  exact decide_eq_decide.mpr (hf.pos_iff (hunit p hmem))

/-- The atoms that may be changed are the same when the weights are read in an arithmetic that keeps
their signs. -/
lemma mayChange_of_mapWeights (hf : Weight.KeepsSign f) (hunit : v.localization.InUnit)
    (hu : Weight.inUnit untouched = true) (h : (v.mapWeights f).MayChange (f untouched) a) :
    v.MayChange untouched a := by
  have hnone : (v.mapWeights f).weighted = [] → v.weighted = [] := by
    rw [weighted_mapWeights hf hunit]
    exact List.map_eq_nil_iff.mp
  have hall : ∀ p ∈ v.allWeighted untouched, Weight.inUnit p.2 = true := by
    rintro ⟨b, w⟩ hp
    rw [(mem_allWeighted.mp hp).2]
    exact hunit.getD hu b
  cases h with
  | weighted h =>
    rw [weighted_mapWeights hf hunit] at h
    obtain ⟨p, hp, heq⟩ := List.mem_map.mp h
    cases heq
    exact .weighted hp
  | unweighted hw h hpos =>
    rw [allWeighted_mapWeights] at h
    obtain ⟨p, hp, heq⟩ := List.mem_map.mp h
    cases heq
    exact .unweighted (hnone hw) hp ((hf.pos_iff (hall p hp)).mp hpos)
  | any hw hzero h =>
    refine .any (hnone hw) (fun p hp hpos => ?_) h
    rw [allWeighted_mapWeights] at hzero
    exact hzero _ (List.mem_map_of_mem hp) ((hf.pos_iff (hall p hp)).mpr hpos)

end Variant

end Read

namespace Variant

/-! ### Edits that are drawn -/

section Drawn

variable {G W : Type} [Weight W] {dice : Chance.Dice G W} {v : Variant W} {untouched : W}
  {weights : W × W × W} {g : G} {e : Edit}

lemma drawAtom_eq {entries : List (Int × W)} {total : W} (h : choiceTotal entries = .ok total) :
    drawAtom dice entries g
      = ((chooseAt entries (0 + total * (dice.fraction g).1)).map (·.1), (dice.fraction g).2) := by
  rw [drawAtom, h]
  rfl

/-- An atom that is drawn has a positive weight. -/
lemma of_drawAtom_eq_ok {entries : List (Int × W)} {atom : Int} {g' : G}
    (h : drawAtom dice entries g = (.ok atom, g')) : ∃ w, (atom, w) ∈ entries ∧ 0 < w := by
  cases htotal : choiceTotal entries with
  | error f =>
    rw [drawAtom, htotal] at h
    cases h
  | ok total =>
    rw [drawAtom_eq htotal] at h
    obtain ⟨hchosen, -⟩ := Prod.mk.inj h
    cases hat : chooseAt entries (0 + total * (dice.fraction g).1) with
    | error f =>
      rw [hat] at hchosen
      cases hchosen
    | ok p =>
      rw [hat] at hchosen
      obtain rfl := Except.ok.inj hchosen
      exact ⟨p.2, of_chooseAt_eq_ok hat⟩

/-- An edit is drawn when its atom and its kind are. -/
lemma drawFrom_eq_ok_iff {size : Nat} {entries : List (Int × W)} {kinds : List W} :
    (drawFrom dice size entries kinds g).1 = .ok e ↔
      ∃ atom g' kind g'', drawAtom dice entries g = (.ok atom, g') ∧
        dice.case kinds g' = (.ok kind, g'') ∧
        e = .ofKind atom ((dice.below size g'').1 + 1) kind := by
  rw [drawFrom]
  rcases drawAtom dice entries g with ⟨f | atom, g'⟩
  · simp
  · rcases hcase : dice.case kinds g' with ⟨f | kind, g''⟩
    · simp [hcase]
    · rcases kind with _ | _ | kind <;> simp [hcase, Edit.ofKind, eq_comm]

/-- Whatever the weights, an edit that is drawn changes an atom that may be changed, and the atom
that it copies or exchanges with that one is any. -/
lemma of_drawEdit_eq_ok (hbelow : ∀ n g, 0 < n → (dice.below n g).1 < n)
    (h : (drawEdit dice v untouched weights g).1 = .ok e) :
    v.MayChange untouched e.target ∧ ∀ a ∈ e.other?, 1 ≤ a ∧ a ≤ v.size := by
  rw [drawEdit] at h
  split_ifs at h with hnone hsize
  obtain ⟨atom, g', kind, g'', hatom, -, rfl⟩ := drawFrom_eq_ok_iff.mp h
  rw [Edit.target_ofKind]
  refine ⟨?_, fun a ha => ?_⟩
  · obtain ⟨w, hmem, hpos⟩ := of_drawAtom_eq_ok hatom
    exact mayChange_of_mem_candidates hmem hpos
  · obtain rfl := Edit.eq_of_mem_other?_ofKind ha
    have hlt := hbelow v.size g'' (Nat.pos_of_ne_zero hsize)
    omega

end Drawn

end Variant

/-! ### Kinds by their weights -/

namespace Chance.Dice

variable {G K : Type} [CommRing K] [LinearOrder K] {ws : List K} {w w' sum point : K}

lemma getLast?_runningSums (sum : K) (ws : List K) :
    (runningSums sum ws).getLast?.getD sum = sum + ws.sum := by
  induction ws generalizing sum with
  | nil => simp [runningSums]
  | cons w ws ih =>
    rw [runningSums, List.getLast?_cons, Option.getD_some, ih, List.sum_cons, add_assoc]

lemma caseAt_cons {s : K} {sums : List K} (h : sums ≠ []) (point : K) :
    caseAt (s :: sums) point = if point < s then 0 else caseAt sums point + 1 := by
  rw [caseAt, List.dropLast_cons_of_ne_nil h, List.takeWhile_cons]
  by_cases hlt : point < s <;> simp [hlt, caseAt]

/-- A point below the sum lies in a case with a positive weight. -/
lemma exists_caseAt [IsStrictOrderedRing K] (hsum : sum ≤ point) (hpoint : point < sum + ws.sum) :
    ∃ w, ws[caseAt (runningSums sum ws) point]? = some w ∧ 0 < w := by
  induction ws generalizing sum with
  | nil =>
    rw [List.sum_nil, add_zero] at hpoint
    exact absurd hpoint hsum.not_gt
  | cons w ws ih =>
    rw [List.sum_cons, ← add_assoc] at hpoint
    cases ws with
    | nil =>
      rw [List.sum_nil, add_zero] at hpoint
      exact ⟨w, rfl, by linarith⟩
    | cons w' ws =>
      have hne : runningSums (sum + w) (w' :: ws) ≠ [] := List.cons_ne_nil _ _
      rw [runningSums, caseAt_cons hne]
      split_ifs with hlt
      · exact ⟨w, rfl, by linarith⟩
      · rw [List.getElem?_cons_succ]
        exact ih (not_lt.mp hlt) hpoint

/-- A case with a positive weight is drawn if the sum of the weights is positive. -/
lemma exists_case [IsStrictOrderedRing K] {dice : Dice G K} {g : G} (hsum : 0 < ws.sum)
    (hzero : 0 ≤ (dice.fraction g).1) (hone : (dice.fraction g).1 < 1) :
    ∃ k w, dice.case ws g = (.ok k, (dice.fraction g).2) ∧ ws[k]? = some w ∧ 0 < w := by
  have htotal : (runningSums 0 ws).getLast?.getD 0 + 0 = ws.sum := by
    rw [getLast?_runningSums, zero_add, add_zero]
  have hpoint : (dice.fraction g).1 * ws.sum < 0 + ws.sum := by
    rw [zero_add]
    exact mul_lt_of_lt_one_left hsum hone
  obtain ⟨w, hget, hpos⟩ := exists_caseAt (mul_nonneg hzero hsum.le) hpoint
  refine ⟨_, w, ?_, hget, hpos⟩
  rw [case]
  dsimp only
  rw [htotal]
  rw [if_neg hsum.not_ge]
  rfl

end Chance.Dice

/-! ### Drawing in exact arithmetic -/

namespace Variant

variable {G K : Type} [CommRing K] [LinearOrder K] {dice : Chance.Dice G K} {v : Variant K}
  {untouched : K} {weights : K × K × K} {g : G} {entries : List (Int × K)}

/-- A kind that is drawn has a positive weight of its own. -/
lemma kindWeight_pos {kind : Nat} {w : K} (atom other : Int)
    (h : (kindWeights weights)[kind]? = some w) (hpos : 0 < w) :
    0 < (Edit.ofKind atom other kind).kindWeight weights := by
  have hclamp : ∀ x : K, Weight.clamp x = w → 0 < x := by
    rintro x rfl
    rw [Weight.clamp_eq] at hpos
    exact (lt_max_iff.mp hpos).resolve_right (lt_irrefl 0)
  rcases kind with _ | _ | _ | kind
  · exact hclamp _ (Option.some.inj h)
  · exact hclamp _ (Option.some.inj h)
  · exact hclamp _ (Option.some.inj h)
  · cases h

variable [IsStrictOrderedRing K]

lemma sum_kindWeights_pos (h : 0 < weights.1 ∨ 0 < weights.2.1 ∨ 0 < weights.2.2) :
    0 < (kindWeights weights).sum := by
  obtain ⟨d, a, s⟩ := weights
  simp only [kindWeights, List.map_cons, List.map_nil, Weight.clamp_eq, List.sum_cons,
    List.sum_nil, add_zero]
  have hd := le_max_right d 0
  have ha := le_max_right a 0
  have hs := le_max_right s 0
  rcases h with h | h | h
  · linarith [le_max_left d 0]
  · linarith [le_max_left a 0]
  · linarith [le_max_left s 0]

lemma evened_nonneg (h : ∀ e ∈ entries, 0 ≤ e.2) : ∀ e ∈ evened entries, 0 ≤ e.2 := by
  intro e he
  rw [evened] at he
  split_ifs at he
  · exact h e he
  · obtain ⟨p, -, rfl⟩ := List.mem_map.mp he
    exact zero_le_one

lemma exists_pos_evened (h : entries ≠ []) : ∃ e ∈ evened entries, 0 < e.2 := by
  rw [evened]
  split_ifs with hany
  · obtain ⟨e, he, hpos⟩ := List.any_eq_true.mp hany
    exact ⟨e, he, of_decide_eq_true hpos⟩
  · obtain ⟨e, he⟩ := List.exists_mem_of_ne_nil _ h
    exact ⟨(e.1, 1), List.mem_map_of_mem he, zero_lt_one⟩

lemma candidates_nonneg (hstored : ∀ p ∈ v.localization.pairs, 0 ≤ p.2) (hu : 0 ≤ untouched) :
    ∀ e ∈ v.candidates untouched, 0 ≤ e.2 := by
  refine evened_nonneg fun e he => ?_
  split_ifs at he
  · rw [(mem_allWeighted.mp he).2]
    rcases v.localization.getD_eq_or_mem e.1 untouched with heq | hmem
    · rwa [heq]
    · exact hstored _ hmem
  · exact hstored e (mem_weighted.mp he).1

lemma exists_pos_candidates (hsize : 1 ≤ v.size) : ∃ e ∈ v.candidates untouched, 0 < e.2 := by
  refine exists_pos_evened ?_
  split_ifs with hnone
  · exact List.ne_nil_of_mem (mem_allWeighted.mpr ⟨⟨le_rfl, by omega⟩, rfl⟩)
  · exact mt List.isEmpty_iff.mpr hnone

/-- An atom is drawn from weights that are not negative and not all zero. -/
lemma exists_drawAtom (hnonneg : ∀ e ∈ entries, 0 ≤ e.2) (hpos : ∃ e ∈ entries, 0 < e.2) :
    ∃ atom, drawAtom dice entries g = (.ok atom, (dice.fraction g).2) := by
  obtain ⟨e, he, hpos⟩ := hpos
  have hsum : 0 < (entries.map (·.2)).sum := by
    refine hpos.trans_le (List.single_le_sum (fun w hw => ?_) _ (List.mem_map_of_mem he))
    obtain ⟨p, hp, rfl⟩ := List.mem_map.mp hw
    exact hnonneg p hp
  obtain ⟨e', hchosen⟩ := exists_chooseAt he hpos
    (0 + (entries.map (·.2)).sum * (dice.fraction g).1)
  rw [drawAtom_eq (choiceTotal_of_pos hsum), hchosen]
  exact ⟨e'.1, rfl⟩

section Fractions

variable (hsize : 1 ≤ v.size) (hweights : 0 < weights.1 ∨ 0 < weights.2.1 ∨ 0 < weights.2.2)
  (hzero : 0 ≤ (dice.fraction (dice.fraction g).2).1)
  (hone : (dice.fraction (dice.fraction g).2).1 < 1)

include hsize hweights hzero hone

/-- When the atom is drawn and some kind of edit has a positive weight, an edit of such a kind is
drawn that changes the atom. -/
lemma exists_drawEdit_of_drawAtom {atom : Int}
    (hatom : drawAtom dice (v.candidates untouched) g = (.ok atom, (dice.fraction g).2)) :
    ∃ e, (drawEdit dice v untouched weights g).1 = .ok e ∧ e.target = atom ∧
      0 < e.kindWeight weights := by
  have hsum := sum_kindWeights_pos hweights
  obtain ⟨kind, w, hkind, hget, hpos⟩ := Chance.Dice.exists_case hsum hzero hone
  refine ⟨.ofKind atom ((dice.below v.size (dice.fraction (dice.fraction g).2).2).1 + 1) kind, ?_,
    Edit.target_ofKind _ _ _, kindWeight_pos atom _ hget hpos⟩
  rw [drawEdit, Weight.sum_eq, if_neg hsum.not_ge, if_neg (Nat.pos_iff_ne_zero.mp hsize)]
  exact drawFrom_eq_ok_iff.mpr ⟨atom, _, kind, _, hatom, hkind, rfl⟩

/-- Where there is an atom and some kind of edit has a positive weight, an edit is drawn, and it is
of such a kind. The first fraction may be any number. -/
lemma exists_drawEdit (hstored : ∀ p ∈ v.localization.pairs, 0 ≤ p.2) (hu : 0 ≤ untouched) :
    ∃ e, (drawEdit dice v untouched weights g).1 = .ok e ∧ 0 < e.kindWeight weights := by
  obtain ⟨atom, hatom⟩ : ∃ atom, drawAtom dice (v.candidates untouched) g
      = (.ok atom, (dice.fraction g).2) :=
    exists_drawAtom (candidates_nonneg hstored hu) (exists_pos_candidates hsize)
  obtain ⟨e, he, -, hkind⟩ := exists_drawEdit_of_drawAtom hsize hweights hzero hone hatom
  exact ⟨e, he, hkind⟩

end Fractions

/-- Each of the ids with a positive weight is the one that is drawn first by some fraction. -/
lemma exists_fraction {v : Variant ℚ} {untouched w : ℚ} {a : Int} (h : (a, w) ∈ v.weighted) :
    ∃ x : ℚ, (0 ≤ x ∧ x < 1) ∧ ∀ (G : Type) (dice : Chance.Dice G ℚ) (g : G),
      (dice.fraction g).1 = x →
        drawAtom dice (v.candidates untouched) g = (.ok a, (dice.fraction g).2) := by
  have hnonneg : ∀ e ∈ v.weighted, 0 ≤ e.2 := fun e he => (mem_weighted.mp he).2.le
  obtain ⟨u, hu, hlt, hchosen⟩ := exists_point hnonneg h (mem_weighted.mp h).2
  have hsum := hu.trans_lt hlt
  refine ⟨u / (v.weighted.map (·.2)).sum, ⟨div_nonneg hu hsum.le, (div_lt_one hsum).mpr hlt⟩, ?_⟩
  intro G dice g hx
  rw [candidates_of_mem_weighted h, drawAtom_eq (choiceTotal_of_pos hsum), hx,
    mul_div_cancel₀ _ hsum.ne', zero_add, hchosen]
  rfl

end Variant

end VariantRepair
