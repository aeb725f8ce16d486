import Mathlib.Logic.Equiv.Basic
import VariantRepair.Proofs.Localization.Renumbering
import VariantRepair.Proofs.Variant.Edit

/-!
# Lines and weights stay side by side

A program of lines keeps its lines in one list and their weights under ids in another place, and an
edit renumbers the two by different rules. Seen from outside they are one list of rows, a line and
its weight each, and every edit acts on the rows as it would on a plain list of pairs.
-/

namespace VariantRepair

variable {W : Type}

/-! ### Plain lists of rows -/

/-- What an edit does to a plain list of rows: a deleted row disappears, a copy of a row comes right
behind another row, and two rows exchange their lines while the weights stay in their places. -/
def Edit.onRows (rows : List (String × W)) : Edit → List (String × W)
  | .delete a => rows.take (a.toNat - 1) ++ rows.drop a.toNat
  | .append d s => rows.take d.toNat ++ rows[s.toNat - 1]?.toList ++ rows.drop d.toNat
  | .swap a b => rows.mapIdx fun k row =>
      ((rows[Equiv.swap (a.toNat - 1) (b.toNat - 1) k]?.getD row).1, row.2)

/-- The rows after edits made in turn; there are none if an edit names a row that is not there when
its turn comes. -/
def rowsAfter (rows : List (String × W)) : List Edit → Option (List (String × W))
  | [] => some rows
  | e :: es => if e.Fits rows.length then rowsAfter (e.onRows rows) es else none

lemma rowsAfter_cons_eq_some {rows rows' : List (String × W)} {e : Edit} {es : List Edit}
    (h : rowsAfter rows (e :: es) = some rows') :
    e.Fits rows.length ∧ rowsAfter (e.onRows rows) es = some rows' := by
  rw [rowsAfter] at h
  split_ifs at h with hfits
  exact ⟨hfits, h⟩

/-- Edits that can all be made can be made up to any of them. -/
lemma rowsAfter_isSome_of_isPrefix {rows rows' : List (String × W)} {es pre : List Edit}
    (h : rowsAfter rows es = some rows') (hpre : pre <+: es) :
    ∃ mid, rowsAfter rows pre = some mid := by
  induction pre generalizing rows es with
  | nil => exact ⟨rows, rfl⟩
  | cons e pre ih =>
    obtain ⟨rest, rfl⟩ := hpre
    obtain ⟨hfits, hrest⟩ := rowsAfter_cons_eq_some h
    obtain ⟨mid, hmid⟩ := ih hrest (List.prefix_append pre rest)
    exact ⟨mid, by rw [rowsAfter, if_pos hfits, hmid]⟩

/-! ### The rows of a program -/

/-- Lines, each with the weight that its id has. -/
def lineRows (ls : List String) (l : Localization W) (untouched : W) : List (String × W) :=
  ls.mapIdx fun k line => (line, l.getD (k + 1) untouched)

@[simp] lemma length_lineRows (ls : List String) (l : Localization W) (untouched : W) :
    (lineRows ls l untouched).length = ls.length := by simp [lineRows]

lemma getElem?_lineRows (ls : List String) (l : Localization W) (untouched : W) (k : Nat) :
    (lineRows ls l untouched)[k]? = ls[k]?.map fun line => (line, l.getD (k + 1) untouched) := by
  simp [lineRows]

@[simp] lemma map_fst_lineRows (ls : List String) (l : Localization W) (untouched : W) :
    (lineRows ls l untouched).map (·.1) = ls := by
  apply List.ext_getElem?
  intro j
  rw [List.getElem?_map, getElem?_lineRows, Option.map_map]
  exact Option.map_id'

/-- The rows that a deletion leaves, by position. -/
lemma getElem?_onRows_delete (rows : List (String × W)) (k j : Nat) :
    ((Edit.delete (k + 1)).onRows rows)[j]? = if j < k then rows[j]? else rows[j + 1]? := by
  have hk : ((k : Int) + 1).toNat = k + 1 := by omega
  rw [Edit.onRows, hk, Nat.add_sub_cancel, ← List.eraseIdx_eq_take_drop_succ,
    List.getElem?_eraseIdx]

/-- The rows behind an insertion, by position. -/
lemma getElem?_onRows_append {rows : List (String × W)} {d s : Nat} (hd : d < rows.length)
    (hs : s < rows.length) (j : Nat) :
    ((Edit.append (d + 1) (s + 1)).onRows rows)[j]?
      = if j ≤ d then rows[j]? else if j = d + 1 then rows[s]? else rows[j - 1]? := by
  have hdn : ((d : Int) + 1).toNat = d + 1 := by omega
  have hsn : ((s : Int) + 1).toNat = s + 1 := by omega
  have hlen : (rows.take (d + 1)).length = d + 1 := by
    rw [List.length_take]
    omega
  rw [Edit.onRows, hdn, hsn, Nat.add_sub_cancel, List.getElem?_eq_getElem hs, List.append_assoc]
  rcases Nat.lt_trichotomy j (d + 1) with h | rfl | h
  · rw [if_pos (by omega), List.getElem?_append_left (by omega), List.getElem?_take_of_lt h]
  · rw [if_neg (by omega), if_pos rfl, List.getElem?_append_right (by omega), hlen]
    simp
  · rw [if_neg (by omega), if_neg (by omega), List.getElem?_append_right (by omega), hlen,
      List.getElem?_append_right (by simp; omega), List.getElem?_drop]
    congr 1
    simp
    omega

/-! ### An edit on lines and weights is an edit on rows -/

/-- Dropping a line and renumbering the weights drops a row. -/
lemma lineRows_delete (ls : List String) (k : Nat) (l : Localization W) (untouched : W) :
    lineRows (Program.Lines.delete ls (k + 1)) (l.remove (k + 1)) untouched
      = (Edit.delete (k + 1)).onRows (lineRows ls l untouched) := by
  apply List.ext_getElem?
  intro j
  rw [getElem?_onRows_delete, getElem?_lineRows, getElem?_lineRows, getElem?_lineRows,
    Program.Lines.delete, Nat.add_sub_cancel, List.getElem?_eraseIdx, Localization.getD,
    Localization.get?_remove]
  by_cases hj : j < k
  · rw [if_pos hj, if_pos hj, if_pos (by omega)]
    rfl
  · rw [if_neg hj, if_neg hj, if_neg (by omega)]
    rfl

/-- Putting a copy of a line behind another and giving it the same weight copies a row. -/
lemma lineRows_append {ls : List String} {d s : Nat} (hd : d < ls.length) (hs : s < ls.length)
    (l : Localization W) (untouched : W) :
    lineRows (Program.Lines.append ls (d + 1) (s + 1))
        (l.insertAfter (d + 1) (l.getD (s + 1) untouched)) untouched
      = (Edit.append (d + 1) (s + 1)).onRows (lineRows ls l untouched) := by
  apply List.ext_getElem?
  intro j
  rw [getElem?_onRows_append (by simpa using hd) (by simpa using hs), getElem?_lineRows,
    Program.Lines.append, Nat.add_sub_cancel, Localization.getD, Localization.get?_insertAfter]
  rcases Nat.lt_trichotomy j (d + 1) with h | rfl | h
  · have hw : (j : Int) + 1 ≤ d + 1 := by omega
    rw [List.getElem?_insertIdx_of_lt h, if_pos hw, if_pos (by omega), getElem?_lineRows]
    rfl
  · have hw : ¬ ((d + 1 : Nat) : Int) + 1 ≤ d + 1 := by omega
    have hnew : ((d + 1 : Nat) : Int) + 1 = d + 1 + 1 := by omega
    rw [List.getElem?_insertIdx_self, if_pos (Nat.succ_le_of_lt hd), if_neg hw, if_pos hnew,
      if_neg (by omega), if_pos rfl, getElem?_lineRows, List.getD_eq_getElem?_getD,
      List.getElem?_eq_getElem hs]
    rfl
  · obtain ⟨i, rfl⟩ : ∃ i, j = i + 1 := ⟨j - 1, by omega⟩
    have hw : ¬ ((i + 1 : Nat) : Int) + 1 ≤ d + 1 := by omega
    have hold : ¬ ((i + 1 : Nat) : Int) + 1 = d + 1 + 1 := by omega
    rw [List.getElem?_insertIdx_of_gt h, if_neg hw, if_neg hold, if_neg (by omega),
      if_neg (by omega), getElem?_lineRows, Nat.add_sub_cancel]
    simp [Localization.getD]

lemma getElem?_linesSwap {ls : List String} {a b : Nat} (ha : a < ls.length) (hb : b < ls.length)
    (j : Nat) : (Program.Lines.swap ls (a + 1) (b + 1))[j]? = ls[Equiv.swap a b j]? := by
  rw [Program.Lines.swap, Nat.add_sub_cancel, Nat.add_sub_cancel, List.getElem?_set,
    List.getElem?_set, List.length_set, List.getD_eq_getElem?_getD, List.getD_eq_getElem?_getD,
    List.getElem?_eq_getElem ha, List.getElem?_eq_getElem hb]
  by_cases hjb : b = j
  · subst hjb
    rw [if_pos rfl, if_pos hb, Equiv.swap_apply_right, List.getElem?_eq_getElem ha]
    rfl
  · by_cases hja : a = j
    · subst hja
      rw [if_neg hjb, if_pos rfl, if_pos ha, Equiv.swap_apply_left, List.getElem?_eq_getElem hb]
      rfl
    · rw [if_neg hjb, if_neg hja, Equiv.swap_apply_of_ne_of_ne (Ne.symm hja) (Ne.symm hjb)]

lemma linesSwap_self {ls : List String} {a : Nat} (ha : a < ls.length) :
    Program.Lines.swap ls (a + 1) (a + 1) = ls := by
  apply List.ext_getElem?
  intro j
  rw [getElem?_linesSwap ha ha, Equiv.swap_self]
  rfl

/-- Exchanging two lines leaves every weight in its place. -/
lemma lineRows_swap {ls : List String} {a b : Nat} (ha : a < ls.length) (hb : b < ls.length)
    (l : Localization W) (untouched : W) :
    lineRows (Program.Lines.swap ls (a + 1) (b + 1)) l untouched
      = (Edit.swap (a + 1) (b + 1)).onRows (lineRows ls l untouched) := by
  have han : ((a : Int) + 1).toNat - 1 = a := by omega
  have hbn : ((b : Int) + 1).toNat - 1 = b := by omega
  apply List.ext_getElem?
  intro j
  rw [getElem?_lineRows, getElem?_linesSwap ha hb, Edit.onRows, List.getElem?_mapIdx,
    getElem?_lineRows, getElem?_lineRows, han, hbn]
  by_cases hj : j < ls.length
  · have hswap : Equiv.swap a b j < ls.length := by
      rw [Equiv.swap_apply_def]
      split_ifs <;> assumption
    rw [List.getElem?_eq_getElem hj, List.getElem?_eq_getElem hswap]
    rfl
  · have hswap : ls.length ≤ Equiv.swap a b j := by
      rw [Equiv.swap_apply_of_ne_of_ne (by omega) (by omega)]
      omega
    rw [List.getElem?_eq_none hswap, List.getElem?_eq_none (by omega : ls.length ≤ j)]
    rfl

/-! ### Runs -/

/-- A variant of lines that shows some rows, and has no weight for an id outside of them. -/
def Variant.HasRows (v : Variant W) (untouched : W) (rows : List (String × W)) : Prop :=
  ∃ ls, v.program = .lines ls ∧ rows = lineRows ls v.localization untouched ∧
    v.localization.LiesIn ls.length

namespace Variant.HasRows

variable {v : Variant W} {untouched : W} {rows : List (String × W)}

lemma size_eq (h : v.HasRows untouched rows) : v.size = rows.length := by
  obtain ⟨ls, hp, rfl, -⟩ := h
  simp [Variant.size, hp, Program.size]

lemma backend_eq (h : v.HasRows untouched rows) : v.backend = .lines := by
  obtain ⟨ls, hp, -⟩ := h
  simp [Variant.backend, hp, Program.backend]

lemma program_eq (h : v.HasRows untouched rows) : v.program = .lines (rows.map (·.1)) := by
  obtain ⟨ls, hp, rfl, -⟩ := h
  rw [hp, map_fst_lineRows]

lemma within (h : v.HasRows untouched rows) : v.localization.LiesIn rows.length := by
  obtain ⟨ls, -, rfl, hl⟩ := h
  rwa [length_lineRows]

/-- The weights of all atoms are those of the rows. -/
lemma allWeighted_eq (h : v.HasRows untouched rows) :
    v.allWeighted untouched = rows.mapIdx fun k row => ((k : Int) + 1, row.2) := by
  obtain ⟨ls, hp, rfl, -⟩ := h
  apply List.ext_getElem?
  intro j
  rw [List.getElem?_mapIdx, getElem?_lineRows, Variant.allWeighted, Localization.full, atomIds,
    Variant.size, hp, Program.size, Int.toNat_natCast, List.map_map, List.getElem?_map]
  by_cases hj : j < ls.length
  · rw [List.getElem?_range hj, List.getElem?_eq_getElem hj]
    rfl
  · rw [List.getElem?_eq_none (by simpa using hj), List.getElem?_eq_none (by simpa using hj)]
    rfl

lemma delete {k : Nat} (h : v.HasRows untouched rows) (hk : k < rows.length) :
    (v.edited untouched (.delete (k + 1))).HasRows untouched
      ((Edit.delete (k + 1)).onRows rows) := by
  have hb := h.backend_eq
  obtain ⟨ls, hp, rfl, hl⟩ := h
  rw [length_lineRows] at hk
  refine ⟨Program.Lines.delete ls (k + 1), ?_, ?_, ?_⟩
  · simp [Variant.edited, Program.edited, hp, Program.delete]
  · simp [Variant.edited, Localization.edited, hb, Backend.renumbering, lineRows_delete]
  · have hlen : (Program.Lines.delete ls (k + 1)).length + 1 = ls.length := by
      rw [Program.Lines.delete, Nat.add_sub_cancel, List.length_eraseIdx_of_lt hk]
      omega
    simp only [Variant.edited, Localization.edited, hb, Backend.renumbering]
    rw [← hlen] at hl
    exact hl.remove (by omega) (by omega)

lemma append {d s : Nat} (h : v.HasRows untouched rows) (hd : d < rows.length)
    (hs : s < rows.length) :
    (v.edited untouched (.append (d + 1) (s + 1))).HasRows untouched
      ((Edit.append (d + 1) (s + 1)).onRows rows) := by
  have hb := h.backend_eq
  obtain ⟨ls, hp, rfl, hl⟩ := h
  rw [length_lineRows] at hd hs
  refine ⟨Program.Lines.append ls (d + 1) (s + 1), ?_, ?_, ?_⟩
  · simp [Variant.edited, Program.edited, hp, Program.append]
  · simp [Variant.edited, Localization.edited, hb, Backend.renumbering, lineRows_append hd hs]
  · have hlen : (Program.Lines.append ls (d + 1) (s + 1)).length = ls.length + 1 := by
      rw [Program.Lines.append, List.length_insertIdx_of_le_length (by omega)]
    simp only [Variant.edited, Localization.edited, hb, Backend.renumbering, hlen]
    exact hl.insertAfter (by omega) (by omega) _

lemma swap {a b : Nat} (h : v.HasRows untouched rows) (ha : a < rows.length)
    (hb : b < rows.length) :
    (v.edited untouched (.swap (a + 1) (b + 1))).HasRows untouched
      ((Edit.swap (a + 1) (b + 1)).onRows rows) := by
  obtain ⟨ls, hp, rfl, hl⟩ := h
  rw [length_lineRows] at ha hb
  refine ⟨Program.Lines.swap ls (a + 1) (b + 1), ?_, ?_, ?_⟩
  · simp only [Variant.edited, Program.edited, hp, Program.swap, Int.toNat_natCast_add_one]
    split_ifs with hab
    · obtain rfl : a = b := by omega
      rw [linesSwap_self ha]
    · rfl
  · simp [Variant.edited, Localization.edited, lineRows_swap ha hb]
  · have hlen : (Program.Lines.swap ls (a + 1) (b + 1)).length = ls.length := by
      simp [Program.Lines.swap]
    rwa [hlen]

/-- An edit whose atoms exist takes the rows to what it makes of a plain list. -/
lemma edited {e : Edit} (h : v.HasRows untouched rows) (he : e.Fits rows.length) :
    (v.edited untouched e).HasRows untouched (e.onRows rows) := by
  cases e with
  | delete a =>
    obtain ⟨k, rfl, hk⟩ := exists_position (Edit.fits_delete.mp he)
    exact h.delete hk
  | append d s =>
    obtain ⟨hd, hs⟩ := Edit.fits_append.mp he
    obtain ⟨i, rfl, hi⟩ := exists_position hd
    obtain ⟨j, rfl, hj⟩ := exists_position hs
    exact h.append hi hj
  | swap a b =>
    obtain ⟨ha, hb⟩ := Edit.fits_swap.mp he
    obtain ⟨i, rfl, hi⟩ := exists_position ha
    obtain ⟨j, rfl, hj⟩ := exists_position hb
    exact h.swap hi hj

/-- A run of edits takes the rows to what the edits make of a plain list. -/
lemma run {v : Variant Float} {untouched : Float} {rows rows' : List (String × Float)}
    {es : List Edit} (h : v.HasRows untouched rows) (hes : rowsAfter rows es = some rows') :
    ∃ v', (Altered.applyAll untouched es).run (.ofVariant v) = (.ok (), .ofVariant v') ∧
      v'.HasRows untouched rows' := by
  induction es generalizing v rows with
  | nil =>
    cases hes
    exact ⟨v, rfl, h⟩
  | cons e es ih =>
    obtain ⟨hfits, hrest⟩ := rowsAfter_cons_eq_some hes
    rw [Altered.run_applyAll_cons (h.size_eq ▸ hfits)]
    exact ih (h.edited hfits) hrest

end Variant.HasRows

lemma Value.item_list {items : List Value} {k : Nat} {v : Value} (hk : items[k]? = some v)
    (hlimit : (k : Int) < positionLimit) : (Value.list items).item (.int k) = .ok v := by
  obtain ⟨hlt, -⟩ := List.getElem?_eq_some_iff.mp hk
  have hrange : ¬ ((k : Int) < -positionLimit ∨ positionLimit ≤ k) := by omega
  have hplace : place? items.length k = some k := by
    have hneg : ¬ (k : Int) < 0 := by omega
    simp [place?, hneg, hlt]
  simp [item, atPosition, whole?, hrange, hplace, hk]

/-- Each line can be asked for by its id, as far as the machine counts. -/
lemma Altered.line_ofVariant {v : Variant Float} {ls : List String} (hp : v.program = .lines ls)
    {k : Nat} {text : String} (hk : ls[k]? = some text) (hlimit : (k : Int) < Value.positionLimit) :
    (ofVariant v).line (.int (k + 1)) = .ok (.str text) := by
  have hminus : (Value.int (k + 1)).minusOne = .ok (.int k) := by simp [Value.minusOne]
  have hitem : (Value.list (ls.map .str)).item (.int k) = .ok (.str text) :=
    Value.item_list (by rw [List.getElem?_map, hk, Option.map_some]) hlimit
  rw [← hitem, line, show (ofVariant v).variant.program = .lines ls from hp]
  simp only [hminus]
  rfl

/-- Edits on the lines of a text act as on a plain list of lines with their weights. Whatever
weights the atoms have at first, after each of the edits the lines, the weights of all atoms, and
the number of atoms are those of the list, and only atoms of the program have a weight. -/
theorem edits_act_on_rows (text : String) (l : Localization Float) (untouched : Float)
    (es pre : List Edit) (hl : l.LiesIn (Program.Lines.ofText text).length)
    (hes : (rowsAfter (lineRows (Program.Lines.ofText text) l untouched) es).isSome)
    (hpre : pre <+: es) :
    ∃ rows a, rowsAfter (lineRows (Program.Lines.ofText text) l untouched) pre = some rows ∧
      (do
        Altered.readText text
        Altered.setLocalization l
        Altered.applyAll untouched pre : Altered.Alteration Unit).run (.ofVariant (.empty .lines))
        = (.ok (), a) ∧
      a.variant.program = .lines (rows.map (·.1)) ∧
      (∀ (k : Nat) (row : String × Float), rows[k]? = some row → (k : Int) < Value.positionLimit →
        a.line (.int (k + 1)) = .ok (.str row.1)) ∧
      a.allWeighted untouched = .ok (rows.mapIdx fun k row => ((k : Int) + 1, row.2)) ∧
      a.size = .ok rows.length ∧
      a.variant.localization.LiesIn rows.length := by
  obtain ⟨last, hlast⟩ := Option.isSome_iff_exists.mp hes
  obtain ⟨rows, hrows⟩ := rowsAfter_isSome_of_isPrefix hlast hpre
  let v : Variant Float :=
    { program := .lines (Program.Lines.ofText text), localization := l, history := []
      ownSuffix := none, compiled := none }
  have hv : v.HasRows untouched (lineRows (Program.Lines.ofText text) l untouched) :=
    ⟨Program.Lines.ofText text, rfl, rfl, hl⟩
  obtain ⟨v', hrun, hv'⟩ := hv.run hrows
  refine ⟨rows, .ofVariant v', hrows, ?_, hv'.program_eq, ?_, ?_, ?_, hv'.within⟩
  · rw [← hrun]
    rfl
  · intro k row hk hlimit
    exact Altered.line_ofVariant hv'.program_eq (by rw [List.getElem?_map, hk]; rfl) hlimit
  · rw [← hv'.allWeighted_eq]
    rfl
  · rw [← hv'.size_eq]
    rfl

/-- Six lines of which the second and the fourth have a weight of their own: the last one is copied
behind the first, two lines are exchanged, and the first one is dropped twice. -/
theorem edits_act_on_rows_six :
    ∃ a, (do
        Altered.readText "a\nb\n\nd\ne\nf\n"
        Altered.setLocalization ⟨[(2, 0.5), (4, 1.0)]⟩
        Altered.applyAll 0.25 [.append 1 6, .swap 7 4, .delete 1, .delete 1] :
          Altered.Alteration Unit).run (.ofVariant (.empty .lines)) = (.ok (), a) ∧
      a.variant.program = .lines ["b", "f", "d", "e", ""] ∧
      a.allWeighted 0.25 = .ok [(1, 0.5), (2, 0.25), (3, 1.0), (4, 0.25), (5, 0.25)] ∧
      a.size = .ok 5 ∧
      a.variant.localization.LiesIn 5 := by
  have hrows : rowsAfter (lineRows (Program.Lines.ofText "a\nb\n\nd\ne\nf\n")
      ⟨[(2, 0.5), (4, 1.0)]⟩ 0.25) [.append 1 6, .swap 7 4, .delete 1, .delete 1]
      = some [("b", 0.5), ("f", 0.25), ("d", 1.0), ("e", 0.25), ("", (0.25 : Float))] := by rfl
  have hlen : (Program.Lines.ofText "a\nb\n\nd\ne\nf\n").length = 6 := by decide +kernel
  obtain ⟨rows, a, hrows', hrun, hp, -, hw, hsize, hl⟩ :=
    edits_act_on_rows "a\nb\n\nd\ne\nf\n" ⟨[(2, 0.5), (4, 1.0)]⟩ 0.25
      [.append 1 6, .swap 7 4, .delete 1, .delete 1] [.append 1 6, .swap 7 4, .delete 1, .delete 1]
      (by simp [Localization.LiesIn, hlen]) (by rw [hrows]; rfl) (List.prefix_refl _)
  obtain rfl := Option.some.inj (hrows.symm.trans hrows')
  exact ⟨a, hrun, hp, hw, hsize, hl⟩

end VariantRepair
