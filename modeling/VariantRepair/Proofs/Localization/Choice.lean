import Mathlib.Algebra.Order.BigOperators.Group.List
import Mathlib.Tactic.Linarith
import VariantRepair.Localization.Choice
import VariantRepair.Proofs.Number.Exact

/-!
# Choice by weight

The running sums of the weights cut the interval from zero to their total into pieces, one for each
entry and as long as its weight. In exact arithmetic a point of the interval chooses the entry in
whose piece it lies, and no point whatever chooses an entry without a positive weight.
-/

namespace VariantRepair

/-! ### Entries with a positive weight -/

section Entries

variable {α W : Type} [Weight W] {entries : List (α × W)} {e : α × W} {point sum u : W}

lemma reaching?_cons (point sum : W) (e : α × W) (entries : List (α × W)) :
    reaching? point sum (e :: entries)
      = if point ≤ sum + e.2 ∧ 0 < e.2 then some e else reaching? point (sum + e.2) entries := rfl

lemma of_reaching?_eq_some (h : reaching? point sum entries = some e) : e ∈ entries ∧ 0 < e.2 := by
  induction entries generalizing sum with
  | nil => cases h
  | cons e' entries ih =>
    rw [reaching?_cons] at h
    split_ifs at h with hreached
    · obtain rfl := Option.some.inj h
      exact ⟨List.mem_cons_self, hreached.2⟩
    · obtain ⟨hmem, hpos⟩ := ih h
      exact ⟨List.mem_cons_of_mem _ hmem, hpos⟩

lemma of_lastPositive?_eq_some (h : lastPositive? entries = some e) : e ∈ entries ∧ 0 < e.2 :=
  ⟨List.mem_reverse.mp (List.mem_of_find?_eq_some h),
    of_decide_eq_true (List.find?_some (p := fun e : α × W => decide (0 < e.2)) h)⟩

lemma lastPositive?_ne_none (he : e ∈ entries) (hpos : 0 < e.2) : lastPositive? entries ≠ none := by
  intro h
  exact absurd (decide_eq_true hpos)
    (List.find?_eq_none.mp h e (List.mem_reverse.mpr he))

/-- What a point chooses is an entry with a positive weight. -/
lemma of_chooseAt_eq_ok (h : chooseAt entries u = .ok e) : e ∈ entries ∧ 0 < e.2 := by
  rw [chooseAt] at h
  cases hreached : reaching? u 0 entries with
  | some e' =>
    rw [hreached] at h
    obtain rfl := Except.ok.inj h
    exact of_reaching?_eq_some hreached
  | none =>
    rw [hreached] at h
    cases hlast : lastPositive? entries with
    | some e' =>
      rw [hlast] at h
      obtain rfl := Except.ok.inj h
      exact of_lastPositive?_eq_some hlast
    | none =>
      rw [hlast] at h
      cases h

/-- Where some entry has a positive weight, every point chooses one. -/
lemma exists_chooseAt (he : e ∈ entries) (hpos : 0 < e.2) (u : W) :
    ∃ e', chooseAt entries u = .ok e' := by
  rw [chooseAt]
  cases reaching? u 0 entries with
  | some e' => exact ⟨e', rfl⟩
  | none =>
    obtain ⟨e', hlast⟩ := Option.ne_none_iff_exists'.mp (lastPositive?_ne_none he hpos)
    exact ⟨e', by rw [hlast]⟩

end Entries

variable {α K : Type} [CommRing K] [LinearOrder K] {entries : List (α × K)} {e e' : α × K}
  {point sum u : K} {i j : Nat}

/-! ### Running sums -/

/-- The sum of the weights before a position. -/
def sumBefore (entries : List (α × K)) (i : Nat) : K :=
  ((entries.take i).map (·.2)).sum

@[simp] lemma sumBefore_zero (entries : List (α × K)) : sumBefore entries 0 = 0 := rfl

lemma sumBefore_of_length_le (h : entries.length ≤ i) :
    sumBefore entries i = (entries.map (·.2)).sum := by
  rw [sumBefore, List.take_of_length_le h]

lemma sumBefore_succ (h : entries[i]? = some e) :
    sumBefore entries (i + 1) = sumBefore entries i + e.2 := by
  rw [sumBefore, List.take_add_one, h, Option.toList_some, List.map_append, List.sum_append,
    List.map_singleton, List.sum_singleton, sumBefore]

lemma sumBefore_cons_succ (e : α × K) (entries : List (α × K)) (i : Nat) :
    sumBefore (e :: entries) (i + 1) = e.2 + sumBefore entries i := by
  rw [sumBefore, List.take_succ_cons, List.map_cons, List.sum_cons, sumBefore]

/-- The search stops at the first entry with a positive weight whose running sum reaches the
point. -/
lemma reaching?_of_first (hget : entries[i]? = some e) (hpos : 0 < e.2)
    (hreached : point ≤ sum + sumBefore entries (i + 1))
    (hfirst : ∀ j < i, ∀ e', entries[j]? = some e' → 0 < e'.2 →
      sum + sumBefore entries (j + 1) < point) :
    reaching? point sum entries = some e := by
  induction entries generalizing sum i with
  | nil => simp at hget
  | cons e₀ entries ih =>
    rw [reaching?_cons]
    cases i with
    | zero =>
      obtain rfl := Option.some.inj hget
      refine if_pos ⟨?_, hpos⟩
      simpa [sumBefore] using hreached
    | succ i =>
      have hnot : ¬ (point ≤ sum + e₀.2 ∧ 0 < e₀.2) := by
        rintro ⟨hle, hpos₀⟩
        have hlt := hfirst 0 (Nat.succ_pos i) e₀ rfl hpos₀
        rw [sumBefore_cons_succ, sumBefore_zero, add_zero] at hlt
        exact hlt.not_ge hle
      rw [if_neg hnot]
      rw [sumBefore_cons_succ, ← add_assoc] at hreached
      refine ih hget hreached fun j hj e' hget' hpos' => ?_
      have hlt := hfirst (j + 1) (Nat.succ_lt_succ hj) e' hget' hpos'
      rwa [sumBefore_cons_succ, ← add_assoc] at hlt

/-- Between a sum that is below a bound and a total that is not, there is the entry whose weight
makes the running sum pass the bound. -/
lemma exists_crossing {p : K → Prop} [DecidablePred p] (hzero : ¬ p 0)
    (htotal : p (entries.map (·.2)).sum) :
    ∃ i e, entries[i]? = some e ∧ ¬ p (sumBefore entries i) ∧ p (sumBefore entries (i + 1)) := by
  have hex : ∃ n, p (sumBefore entries n) := by
    refine ⟨entries.length, ?_⟩
    rwa [sumBefore_of_length_le le_rfl]
  cases hn : Nat.find hex with
  | zero =>
    have hspec := Nat.find_spec hex
    rw [hn, sumBefore_zero] at hspec
    exact absurd hspec hzero
  | succ i =>
    have hspec := Nat.find_spec hex
    have hmin : ¬ p (sumBefore entries i) := Nat.find_min hex (by omega)
    have hlt : i < entries.length := by
      by_contra hge
      rw [sumBefore_of_length_le (Nat.not_lt.mp hge)] at hmin
      exact hmin htotal
    exact ⟨i, entries[i], List.getElem?_eq_getElem hlt, hmin, by rwa [hn] at hspec⟩

variable [IsStrictOrderedRing K]

/-- The running sums of weights that are not negative do not go down. -/
lemma sumBefore_mono (hnonneg : ∀ e ∈ entries, 0 ≤ e.2) (h : i ≤ j) :
    sumBefore entries i ≤ sumBefore entries j := by
  refine List.Sublist.sum_le_sum ((List.take_sublist_take_left h).map _) fun w hw => ?_
  obtain ⟨e, he, rfl⟩ := List.mem_map.mp hw
  exact hnonneg e (List.mem_of_mem_take he)

lemma sumBefore_le (hnonneg : ∀ e ∈ entries, 0 ≤ e.2) (i : Nat) :
    sumBefore entries i ≤ (entries.map (·.2)).sum := by
  rcases Nat.le_total i entries.length with h | h
  · rw [← sumBefore_of_length_le le_rfl]
    exact sumBefore_mono hnonneg h
  · rw [sumBefore_of_length_le h]

/-! ### Positive sums -/

lemma exists_pos_of_sum_pos (h : 0 < (entries.map (·.2)).sum) : ∃ e ∈ entries, 0 < e.2 := by
  refine List.exists_lt_of_sum_lt (fun _ => 0) Prod.snd ?_
  rw [List.sum_map_zero]
  exact h

/-- Weights with a positive sum can be chosen from. -/
lemma choiceTotal_of_pos (h : 0 < (entries.map (·.2)).sum) :
    choiceTotal entries = .ok (entries.map (·.2)).sum := by
  have hne : entries.isEmpty = false := by
    obtain ⟨e, he, -⟩ := exists_pos_of_sum_pos h
    exact List.isEmpty_eq_false_iff.mpr (List.ne_nil_of_mem he)
  rw [choiceTotal, hne, if_neg Bool.false_ne_true]
  dsimp only
  rw [Weight.sum_eq]
  exact if_neg h.not_ge

/-! ### The pieces of the interval -/

/-- A point falls to the entry at a position: the entry has a positive weight, and the point lies
above the sum of the weights before it and not above that sum with its own. Zero, which is above no
sum, falls to the first entry that has a positive weight. -/
structure FallsTo (entries : List (α × K)) (u : K) (i : Nat) (e : α × K) : Prop where
  get? : entries[i]? = some e
  pos : 0 < e.2
  above : sumBefore entries i < u ∨ u = 0 ∧ ∀ e ∈ entries.take i, e.2 = 0
  le : u ≤ sumBefore entries (i + 1)

namespace FallsTo

/-- Before the entry that a point falls to, no entry with a positive weight reaches the point. -/
lemma sum_lt (hnonneg : ∀ e ∈ entries, 0 ≤ e.2) (h : FallsTo entries u i e) (hj : j < i)
    (hget : entries[j]? = some e') (hpos : 0 < e'.2) : sumBefore entries (j + 1) < u := by
  rcases h.above with hlt | ⟨-, hzero⟩
  · exact (sumBefore_mono hnonneg hj).trans_lt hlt
  · have hmem : e' ∈ entries.take i := by
      refine List.mem_of_getElem? (i := j) ?_
      rw [List.getElem?_take_of_lt hj, hget]
    exact absurd (hzero e' hmem) hpos.ne'

/-- A point chooses the entry that it falls to. -/
lemma chooseAt_eq (hnonneg : ∀ e ∈ entries, 0 ≤ e.2) (h : FallsTo entries u i e) :
    chooseAt entries u = .ok e := by
  have hreached : reaching? u 0 entries = some e := by
    refine reaching?_of_first h.get? h.pos ?_ fun j hj e' hget hpos => ?_
    · rw [zero_add]
      exact h.le
    · rw [zero_add]
      exact h.sum_lt hnonneg hj hget hpos
  rw [chooseAt, hreached]

/-- A point falls to one position only. -/
lemma position_eq (hnonneg : ∀ e ∈ entries, 0 ≤ e.2) (h : FallsTo entries u i e)
    (h' : FallsTo entries u j e') : i = j := by
  rcases Nat.lt_trichotomy i j with hlt | heq | hgt
  · exact absurd h.le (h'.sum_lt hnonneg hlt h.get? h.pos).not_ge
  · exact heq
  · exact absurd h'.le (h.sum_lt hnonneg hgt h'.get? h'.pos).not_ge

end FallsTo

/-- Every point from zero to the total falls to an entry. -/
lemma exists_fallsTo (hnonneg : ∀ e ∈ entries, 0 ≤ e.2) (htotal : 0 < (entries.map (·.2)).sum)
    (hu : 0 ≤ u) (hle : u ≤ (entries.map (·.2)).sum) : ∃ i e, FallsTo entries u i e := by
  rcases hu.eq_or_lt with rfl | hpos
  · obtain ⟨i, e, hget, hbefore, hafter⟩ :=
      exists_crossing (p := fun s : K => 0 < s) (lt_irrefl 0) htotal
    have hsucc := sumBefore_succ hget
    refine ⟨i, e, hget, by linarith, .inr ⟨rfl, ?_⟩, hafter.le⟩
    have hzero : ((entries.take i).map (·.2)).sum = 0 := by
      refine le_antisymm (not_lt.mp hbefore) (List.sum_nonneg fun w hw => ?_)
      obtain ⟨e, he, rfl⟩ := List.mem_map.mp hw
      exact hnonneg e (List.mem_of_mem_take he)
    intro e' he'
    refine List.all_zero_of_le_zero_le_of_sum_eq_zero (fun w hw => ?_) hzero
      (List.mem_map_of_mem he')
    obtain ⟨e, he, rfl⟩ := List.mem_map.mp hw
    exact hnonneg e (List.mem_of_mem_take he)
  · obtain ⟨i, e, hget, hbefore, hafter⟩ :=
      exists_crossing (p := fun s : K => u ≤ s) hpos.not_ge hle
    have hsucc := sumBefore_succ hget
    have hlt := not_le.mp hbefore
    exact ⟨i, e, hget, by linarith, .inl hlt, hafter⟩

/-- Each entry with a positive weight is chosen at some point of the interval. -/
lemma exists_point {entries : List (α × ℚ)} {e : α × ℚ} (hnonneg : ∀ e ∈ entries, 0 ≤ e.2)
    (he : e ∈ entries) (hpos : 0 < e.2) :
    ∃ u, 0 ≤ u ∧ u < (entries.map (·.2)).sum ∧ chooseAt entries u = .ok e := by
  obtain ⟨i, hget⟩ := List.mem_iff_getElem?.mp he
  have hsucc := sumBefore_succ hget
  have hstart := sumBefore_mono hnonneg (Nat.zero_le i)
  have hend := sumBefore_le hnonneg (i + 1)
  rw [sumBefore_zero] at hstart
  have hfalls : FallsTo entries (sumBefore entries i + e.2 / 2) i e :=
    ⟨hget, hpos, .inl (by linarith), by linarith⟩
  exact ⟨_, by linarith, by linarith, hfalls.chooseAt_eq hnonneg⟩

/-! ### The choice -/

/-- Entries whose weights have a positive sum can be chosen from, and whatever the point, what it
chooses is an entry with a positive weight, also when it is beyond the sum or some weights are
negative. If no weight is negative, a point from zero to the sum chooses the entry that it falls to,
which is the only one; and the points that choose an entry, if no other is equal to it, are those of
a piece of the interval that is as long as its weight. -/
theorem choice_is_proportional (entries : List (α × K))
    (htotal : 0 < Weight.sum (entries.map (·.2))) :
    choiceTotal entries = .ok (Weight.sum (entries.map (·.2))) ∧
    (∀ u, ∃ e ∈ entries, 0 < e.2 ∧ chooseAt entries u = .ok e) ∧
    ((∀ e ∈ entries, 0 ≤ e.2) →
      (∀ u, 0 ≤ u → u ≤ Weight.sum (entries.map (·.2)) →
        ∃ i e, FallsTo entries u i e ∧ chooseAt entries u = .ok e ∧
          ∀ j e', FallsTo entries u j e' → j = i) ∧
      ∀ i e, entries[i]? = some e →
        0 ≤ sumBefore entries i ∧ sumBefore entries i + e.2 = sumBefore entries (i + 1) ∧
        sumBefore entries (i + 1) ≤ Weight.sum (entries.map (·.2)) ∧
        ((∀ j, entries[j]? = some e → j = i) → ∀ u, 0 < u → u ≤ Weight.sum (entries.map (·.2)) →
          (chooseAt entries u = .ok e ↔
            sumBefore entries i < u ∧ u ≤ sumBefore entries (i + 1)))) := by
  rw [Weight.sum_eq] at htotal ⊢
  obtain ⟨e₀, he₀, hpos₀⟩ := exists_pos_of_sum_pos htotal
  refine ⟨choiceTotal_of_pos htotal, fun u => ?_, fun hnonneg => ⟨?_, ?_⟩⟩
  · obtain ⟨e, he⟩ := exists_chooseAt he₀ hpos₀ u
    obtain ⟨hmem, hpos⟩ := of_chooseAt_eq_ok he
    exact ⟨e, hmem, hpos, he⟩
  · intro u hu hle
    obtain ⟨i, e, h⟩ := exists_fallsTo hnonneg htotal hu hle
    exact ⟨i, e, h, h.chooseAt_eq hnonneg, fun j e' h' => h'.position_eq hnonneg h⟩
  · intro i e hget
    have hsucc := sumBefore_succ hget
    have hstart := sumBefore_mono hnonneg (Nat.zero_le i)
    refine ⟨hstart, hsucc.symm, sumBefore_le hnonneg _, fun honly u hu hle => ?_⟩
    constructor
    · intro hchosen
      obtain ⟨j, e', h⟩ := exists_fallsTo hnonneg htotal hu.le hle
      obtain rfl : e' = e := Except.ok.inj ((h.chooseAt_eq hnonneg).symm.trans hchosen)
      obtain rfl : j = i := honly j h.get?
      exact ⟨h.above.resolve_right fun hzero => hu.ne' hzero.1, h.le⟩
    · rintro ⟨hlt, hle⟩
      have h : FallsTo entries u i e := ⟨hget, by linarith, .inl hlt, hle⟩
      exact h.chooseAt_eq hnonneg

/-- An atom of weight one behind an atom without a weight, and an atom of weight two behind another:
the first has the points up to one, the second those from there to three. -/
theorem choice_is_proportional_pairs :
    0 < Weight.sum ([((1 : Int), (0 : ℚ)), (2, 1), (3, 0), (4, 2)].map (·.2)) ∧
    (∀ e ∈ [((1 : Int), (0 : ℚ)), (2, 1), (3, 0), (4, 2)], 0 ≤ e.2) ∧
    chooseAt [((1 : Int), (0 : ℚ)), (2, 1), (3, 0), (4, 2)] 0 = .ok (2, 1) ∧
    ∀ u : ℚ, 0 < u → u ≤ 3 →
      (chooseAt [((1 : Int), (0 : ℚ)), (2, 1), (3, 0), (4, 2)] u = .ok (2, 1) ↔ u ≤ 1) ∧
      (chooseAt [((1 : Int), (0 : ℚ)), (2, 1), (3, 0), (4, 2)] u = .ok (4, 2) ↔ 1 < u) := by
  have hpos : 0 < Weight.sum ([((1 : Int), (0 : ℚ)), (2, 1), (3, 0), (4, 2)].map (·.2)) := by
    decide +kernel
  have hnonneg : ∀ e ∈ [((1 : Int), (0 : ℚ)), (2, 1), (3, 0), (4, 2)], 0 ≤ e.2 := by
    decide +kernel
  have htotal : Weight.sum ([((1 : Int), (0 : ℚ)), (2, 1), (3, 0), (4, 2)].map (·.2)) = 3 := by
    decide +kernel
  obtain ⟨-, -, hpieces⟩ := choice_is_proportional _ hpos
  obtain ⟨hfalls, hpiece⟩ := hpieces hnonneg
  rw [htotal] at hfalls hpiece
  refine ⟨hpos, hnonneg, ?_, fun u hu hle => ⟨?_, ?_⟩⟩
  · obtain ⟨i, e, hi, hchosen, honly⟩ := hfalls 0 le_rfl (by norm_num)
    obtain rfl : 1 = i :=
      honly 1 (2, 1) ⟨rfl, by norm_num, .inr ⟨rfl, by simp⟩, by simp [sumBefore]⟩
    rw [hchosen, ← Option.some.inj hi.get?]
  · have honly : ∀ j, [((1 : Int), (0 : ℚ)), (2, 1), (3, 0), (4, 2)][j]? =
        some ((2 : Int), (1 : ℚ)) → j = 1 := by
      rintro (_ | _ | _ | _ | j) <;> simp
    rw [(hpiece 1 (2, 1) rfl).2.2.2 honly u hu hle]
    simp [sumBefore, hu]
  · have honly : ∀ j, [((1 : Int), (0 : ℚ)), (2, 1), (3, 0), (4, 2)][j]? =
        some ((4 : Int), (2 : ℚ)) → j = 3 := by
      rintro (_ | _ | _ | _ | j) <;> simp
    rw [(hpiece 3 (4, 2) rfl).2.2.2 honly u hu hle]
    norm_num [sumBefore, hle]

end VariantRepair
