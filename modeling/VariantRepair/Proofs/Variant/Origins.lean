import Mathlib.Data.List.GetD
import Mathlib.Data.List.InsertIdx
import Mathlib.Tactic.Common
import VariantRepair.Proofs.Program.Slots
import VariantRepair.Proofs.Variant.History
import VariantRepair.Proofs.Variant.Rows

/-!
# Where the lines of a program come from

Deletions and insertions number the lines of a program anew, while the lines of the text that it
was read from keep their numbers. So every atom holds some line of the text, but the atom that is
given for a line of the text is the one with its number now, and in general it holds another line.
It holds the line itself where nothing has been changed in front of it. A module in contrast keeps
the lines that its atoms had in the text, whatever is done to it.
-/

namespace VariantRepair

variable {W : Type}

/-! ### Positions in the text -/

/-- What an edit does to a list of positions: it drops, copies and exchanges them as lines. -/
def Edit.onOrigins (os : List Nat) : Edit → List Nat
  | .delete a => os.eraseIdx (a.toNat - 1)
  | .append d s => os.insertIdx d.toNat (os.getD (s.toNat - 1) 0)
  | .swap a b =>
    if a = b then os
    else (os.set (a.toNat - 1) (os.getD (b.toNat - 1) 0)).set (b.toNat - 1)
      (os.getD (a.toNat - 1) 0)

/-- The positions that lines had among `n` lines before edits were made in turn. -/
def originsAfter (n : Nat) (es : List Edit) : List Nat :=
  es.foldl Edit.onOrigins (List.range n)

section Origins

variable {os : List Nat} {e : Edit}

lemma getD_mem {k : Nat} (h : k < os.length) : os.getD k 0 ∈ os := by
  rw [List.getD_eq_getElem _ _ h]
  exact List.getElem_mem h

/-- Edits bring in no other positions. -/
lemma Edit.mem_of_mem_onOrigins (h : e.Fits os.length) {o : Nat} (ho : o ∈ e.onOrigins os) :
    o ∈ os := by
  cases e with
  | delete a => exact List.mem_of_mem_eraseIdx ho
  | append d s =>
    obtain ⟨-, hs⟩ := Edit.fits_append.mp h
    rcases List.eq_or_mem_of_mem_insertIdx ho with rfl | ho
    · exact getD_mem (by omega)
    · exact ho
  | swap a b =>
    obtain ⟨ha, hb⟩ := Edit.fits_swap.mp h
    rw [onOrigins] at ho
    split_ifs at ho
    · exact ho
    · rcases List.mem_or_eq_of_mem_set ho with ho | rfl
      · rcases List.mem_or_eq_of_mem_set ho with ho | rfl
        · exact ho
        · exact getD_mem (by omega)
      · exact getD_mem (by omega)

/-- An edit of lines that are given by their positions is the edit of the positions. -/
lemma Program.edited_lines_map (f : Nat → String) (h : e.Fits os.length) :
    (lines (os.map f)).edited e = lines ((e.onOrigins os).map f) := by
  have hline {k : Nat} (hk : k < os.length) : (os.map f).getD k "" = f (os.getD k 0) := by
    rw [List.getD_eq_getElem _ _ hk, List.getD_eq_getElem _ _ (by rwa [List.length_map]),
      List.getElem_map]
  cases e with
  | delete a => rw [edited, delete, Lines.delete, Edit.onOrigins, List.eraseIdx_map]
  | append d s =>
    obtain ⟨-, hs⟩ := Edit.fits_append.mp h
    rw [edited, append, Lines.append, Edit.onOrigins, hline (by omega), List.map_insertIdx]
  | swap a b =>
    obtain ⟨ha, hb⟩ := Edit.fits_swap.mp h
    rw [edited, Edit.onOrigins]
    split_ifs
    · rfl
    · rw [swap, Lines.swap, hline (by omega), hline (by omega), List.map_set, List.map_set]

/-- An edit stands behind a position if all that it changes does. -/
def Edit.Behind (k : Nat) : Edit → Prop
  | .delete a => k + 1 < a
  | .append d _ => k < d
  | .swap a b => k + 1 < a ∧ k + 1 < b

instance (k : Nat) (e : Edit) : Decidable (e.Behind k) := by
  cases e <;> rw [Edit.Behind] <;> infer_instance

lemma Edit.getElem?_onOrigins_of_behind {k : Nat} (h : e.Behind k) :
    (e.onOrigins os)[k]? = os[k]? := by
  cases e with
  | delete a =>
    rw [Behind] at h
    rw [onOrigins, List.getElem?_eraseIdx_of_lt (by omega)]
  | append d s =>
    rw [Behind] at h
    rw [onOrigins, List.getElem?_insertIdx_of_lt (by omega)]
  | swap a b =>
    rw [Behind] at h
    rw [onOrigins]
    split_ifs
    · rfl
    · rw [List.getElem?_set_ne (by omega), List.getElem?_set_ne (by omega)]

/-- What stands in front of all edits keeps its position. -/
lemma getElem?_originsAfter_of_behind {n k : Nat} {es : List Edit} (h : ∀ e ∈ es, e.Behind k) :
    (originsAfter n es)[k]? = (List.range n)[k]? := by
  rw [originsAfter]
  generalize List.range n = os
  induction es generalizing os with
  | nil => rfl
  | cons e es ih =>
    rw [List.foldl_cons, ih fun e' he' => h e' (List.mem_cons_of_mem e he'),
      Edit.getElem?_onOrigins_of_behind (h e List.mem_cons_self)]

end Origins

/-! ### The lines of a variant -/

/-- A variant that has come from lines by the edits that it has noted: each line that it has is the
one at the position that the edits leave there. -/
structure Variant.StemsFrom (ls : List String) (v : Variant W) : Prop where
  program_eq : v.program = .lines ((originsAfter ls.length v.history).map (ls.getD · ""))
  lt_length : ∀ o ∈ originsAfter ls.length v.history, o < ls.length

namespace Variant.StemsFrom

variable {ls : List String} {v : Variant W}

lemma start (v : Variant W) (ls : List String) : (v.restart (.lines ls)).StemsFrom ls where
  program_eq := by
    refine congrArg Program.lines (List.ext_getElem? fun k => ?_)
    change ls[k]? = ((List.range ls.length).map (ls.getD · ""))[k]?
    by_cases hk : k < ls.length
    · rw [List.getElem?_map, List.getElem?_range hk, Option.map_some, List.getD_eq_getElem _ _ hk,
        List.getElem?_eq_getElem hk]
    · rw [List.getElem?_eq_none (by omega), List.getElem?_eq_none (by simpa using hk)]
  lt_length _ ho := List.mem_range.mp ho

lemma size_eq (h : v.StemsFrom ls) : v.size = (originsAfter ls.length v.history).length := by
  rw [Variant.size, h.program_eq, Program.size, List.length_map]

lemma edited (h : v.StemsFrom ls) {untouched : W} {e : Edit} (he : e.Fits v.size) :
    (v.edited untouched e).StemsFrom ls := by
  rcases e.noted_cases with hnoted | hnoted
  · rwa [Variant.edited_eq_self hnoted]
  · rw [h.size_eq] at he
    have hafter : originsAfter ls.length (v.edited untouched e).history
        = e.onOrigins (originsAfter ls.length v.history) := by
      rw [Variant.edited, hnoted, originsAfter, originsAfter, List.foldl_append]
      rfl
    constructor
    · rw [hafter, ← Program.edited_lines_map _ he, ← h.program_eq]
      rfl
    · rw [hafter]
      exact fun o ho => h.lt_length o (Edit.mem_of_mem_onOrigins he ho)

/-- Each line is the one of the text at its position. -/
lemma exists_line {v : Variant Float} (h : v.StemsFrom ls) {k o : Nat}
    (hk : (originsAfter ls.length v.history)[k]? = some o) :
    ∃ line, ls[o]? = some line ∧ ((k : Int) < Value.positionLimit →
      (Altered.ofVariant v).line (.int (k + 1)) = .ok (.str line)) := by
  have ho : o < ls.length := h.lt_length o (List.mem_of_getElem? hk)
  refine ⟨ls[o], List.getElem?_eq_getElem ho, Altered.line_ofVariant h.program_eq ?_⟩
  rw [List.getElem?_map, hk, Option.map_some, List.getD_eq_getElem _ _ ho]

lemma atomsAtLine_eq {v : Variant Float} (h : v.StemsFrom ls) (n : Int) :
    (Altered.ofVariant v).atomsAtLine (.int n)
      = .ok (if 1 ≤ n ∧ n ≤ (originsAfter ls.length v.history).length then [.int n] else []) := by
  have hatoms : (Altered.ofVariant v).atomsAtLine (.int n)
      = .ok ((v.program.atomsAtLine n).map .int) := rfl
  rw [hatoms, h.program_eq, Program.atomsAtLine, List.length_map]
  split_ifs <;> rfl

end Variant.StemsFrom

/-- The atoms that are given for the line at a position hold what the text has there. -/
def Altered.KeepsLine (a : Altered) (ls : List String) (k : Nat) : Prop :=
  ∀ atoms, a.atomsAtLine (.int (k + 1)) = .ok atoms → ∀ atom ∈ atoms,
    ∃ line, ls[k]? = some line ∧ a.line atom = .ok (.str line)

/-- A line is kept if and only if the line that stands in its place now has the same text, which it
has of course if it is the line itself. -/
lemma Variant.StemsFrom.keepsLine_iff {ls : List String} {v : Variant Float} (h : v.StemsFrom ls)
    {k : Nat} (hlimit : (k : Int) < Value.positionLimit) :
    (Altered.ofVariant v).KeepsLine ls k
      ↔ ∀ o, (originsAfter ls.length v.history)[k]? = some o → ls[o]? = ls[k]? := by
  constructor
  · intro hkeeps o ho
    obtain ⟨hlt, -⟩ := List.getElem?_eq_some_iff.mp ho
    obtain ⟨line, hline, hheld⟩ := h.exists_line ho
    have hatoms := h.atomsAtLine_eq (k + 1)
    rw [if_pos ⟨by omega, by omega⟩] at hatoms
    obtain ⟨line', hline', hheld'⟩ := hkeeps _ hatoms _ (List.mem_singleton_self _)
    obtain rfl := Value.str.inj (Except.ok.inj ((hheld hlimit).symm.trans hheld'))
    rw [hline, hline']
  · intro hsame atoms hatoms atom hatom
    rw [h.atomsAtLine_eq] at hatoms
    cases hatoms
    split_ifs at hatom with hrange
    · obtain rfl := List.mem_singleton.mp hatom
      have hlt : k < (originsAfter ls.length v.history).length := by omega
      have ho := List.getElem?_eq_getElem hlt
      obtain ⟨line, hline, hheld⟩ := h.exists_line ho
      exact ⟨line, (hsame _ ho) ▸ hline, hheld hlimit⟩
    · exact absurd hatom List.not_mem_nil

/-- Whatever is attempted on the lines of a text, each atom holds a line of the text, and the edits
that are noted tell which one. The atom that is given for a line of the text is the one with that
number. So it holds that very line where all edits are behind it; otherwise it does so only if the
line that has come into its place has the same text. -/
theorem atoms_hold_lines (text : String) (untouched : Float) (ts : List Attempt) :
    ∃ (a : Altered) (es : List Edit),
      (do
        Altered.readText text
        attemptAll untouched ts : Altered.Alteration Unit).run (.ofVariant (.empty .lines))
        = (.ok (), a) ∧
      a.history = .ok es ∧
      a.size = .ok (originsAfter (Program.Lines.ofText text).length es).length ∧
      (∀ n : Int, a.atomsAtLine (.int n) = .ok
        (if 1 ≤ n ∧ n ≤ (originsAfter (Program.Lines.ofText text).length es).length then [.int n]
          else [])) ∧
      (∀ k o : Nat, (originsAfter (Program.Lines.ofText text).length es)[k]? = some o →
        (k : Int) < Value.positionLimit → ∃ line, (Program.Lines.ofText text)[o]? = some line ∧
          a.line (.int (k + 1)) = .ok (.str line)) ∧
      (∀ k : Nat, (k : Int) < Value.positionLimit →
        (a.KeepsLine (Program.Lines.ofText text) k ↔
          ∀ o, (originsAfter (Program.Lines.ofText text).length es)[k]? = some o →
            (Program.Lines.ofText text)[o]? = (Program.Lines.ofText text)[k]?)) ∧
      ∀ k : Nat, (k : Int) < Value.positionLimit → (∀ e ∈ es, e.Behind k) →
        a.KeepsLine (Program.Lines.ofText text) k := by
  let ls := Program.Lines.ofText text
  have hread : (Altered.readText text).run (.ofVariant (.empty .lines))
      = (.ok (), .ofVariant ((Variant.empty .lines).restart (.lines ls))) :=
    Altered.run_readText text (.empty .lines)
  obtain ⟨v, hrun, hv⟩ := exists_run_attemptAll untouched
    (P := fun _ v => v.StemsFrom ls) (fun _ _ h => h) (fun _ _ _ h he => h.edited he) (n := 0) ts
    (Variant.StemsFrom.start (.empty .lines) ls)
  have hkeeps (k : Nat) (hlimit : (k : Int) < Value.positionLimit) := hv.keepsLine_iff hlimit
  refine ⟨.ofVariant v, v.history, ?_, rfl, ?_, hv.atomsAtLine_eq, fun k o ho hlimit => ?_, hkeeps,
    fun k hlimit hbehind => (hkeeps k hlimit).mpr fun o ho => ?_⟩
  · rw [run_bind_of_ok hread, hrun]
  · rw [Altered.size_ofVariant, hv.size_eq]
  · obtain ⟨line, hline, hheld⟩ := hv.exists_line ho
    exact ⟨line, hline, hheld hlimit⟩
  · rw [getElem?_originsAfter_of_behind hbehind] at ho
    obtain ⟨hlt, hk⟩ := List.getElem?_eq_some_iff.mp ho
    rw [List.getElem_range] at hk
    rw [hk]

/-- Of two lines the first is deleted. The atom that is given for the first line of the text now
holds the second one. -/
theorem atom_holds_other_line :
    ∃ a : Altered, (do
        Altered.readText "a\nb\n"
        attemptAll 0 [.delete (.int 1)] : Altered.Alteration Unit).run (.ofVariant (.empty .lines))
        = (.ok (), a) ∧
      a.atomsAtLine (.int 1) = .ok [.int 1] ∧ a.line (.int 1) = .ok (.str "b") ∧
      (Program.Lines.ofText "a\nb\n")[0]? = some "a" ∧
      ¬ a.KeepsLine (Program.Lines.ofText "a\nb\n") 0 := by
  have hfirst : (Program.Lines.ofText "a\nb\n")[0]? = some "a" := by decide +kernel
  refine ⟨_, rfl, rfl, rfl, hfirst, fun hkeeps => ?_⟩
  obtain ⟨line, hline, hheld⟩ := hkeeps [.int 1] rfl (.int 1) List.mem_cons_self
  rw [hfirst] at hline
  cases hline
  have hsame : Value.str "b" = .str "a" := Except.ok.inj hheld
  exact absurd (Value.str.inj hsame) (by decide)

/-! ### Modules -/

namespace Program.SlotModule

lemma spans_edited (m : SlotModule) (e : Edit) : (m.edited e).spans = m.spans := by
  cases e with
  | swap a b =>
    rw [edited]
    split_ifs <;> rfl
  | _ => rfl

lemma atomsAtLine_congr {m m' : SlotModule} (h : m'.spans = m.spans) (line : Int) :
    m'.atomsAtLine line = m.atomsAtLine line := by
  rw [atomsAtLine, atomsAtLine, h]

lemma atomsAtLine_ofVariant {v : Variant Float} {m : SlotModule} (h : v.program = .module m)
    (line : Int) : (Altered.ofVariant v).atomsAtLine (.int line)
      = .ok ((m.atomsAtLine line).map fun k : Nat => .int k) := by
  change Except.ok ((v.program.atomsAtLine line).map Value.int) = _
  rw [h, Program.atomsAtLine, List.map_map]
  rfl

end Program.SlotModule

/-- Whatever is attempted on a module, it has as many atoms as before, with the lines that they had
in the text. -/
lemma exists_run_attemptAll_module (untouched : Float) {v : Variant Float}
    {m : Program.SlotModule} (hm : v.program = .module m) (ts : List Attempt) :
    ∃ v' m', (attemptAll untouched ts).run (.ofVariant v) = (.ok (), .ofVariant v') ∧
      v'.program = .module m' ∧ m'.spans = m.spans ∧ m'.size = m.size := by
  let SameSpans (v' : Variant Float) : Prop :=
    ∃ m', v'.program = .module m' ∧ m'.spans = m.spans ∧ m'.size = m.size
  have hedited (v' : Variant Float) (e : Edit) (h : SameSpans v') :
      SameSpans (v'.edited untouched e) := by
    obtain ⟨m', hm', hspans, hsize⟩ := h
    refine ⟨m'.edited e, ?_, ?_, ?_⟩
    · rw [Variant.edited, hm', Program.SlotModule.program_edited]
    · rw [Program.SlotModule.spans_edited, hspans]
    · rw [(m'.sameFrame_edited e).size_eq, hsize]
  obtain ⟨v', hrun, m', h⟩ := exists_run_attemptAll untouched (P := fun _ => SameSpans)
    (fun _ _ h => h) (fun _ v' e h _ => hedited v' e h) (n := 0) ts ⟨m, hm, rfl, rfl⟩
  exact ⟨v', m', hrun, h⟩

/-- Whatever is attempted on a module, its atoms are given for the same lines as before. -/
theorem module_keeps_lines {v : Variant Float} (hpython : v.backend = .python) (untouched : Float)
    (ts : List Attempt) :
    ∃ v', (attemptAll untouched ts).run (.ofVariant v) = (.ok (), .ofVariant v') ∧
      ∀ n : Int, (Altered.ofVariant v').atomsAtLine (.int n)
        = (Altered.ofVariant v).atomsAtLine (.int n) := by
  obtain ⟨m, hm⟩ : ∃ m, v.program = .module m := by
    cases hp : v.program with
    | lines ls =>
      rw [Variant.backend, hp] at hpython
      cases hpython
    | module m => exact ⟨m, rfl⟩
  obtain ⟨v', m', hrun, hm', hspans, -⟩ := exists_run_attemptAll_module untouched hm ts
  refine ⟨v', hrun, fun n => ?_⟩
  rw [Program.SlotModule.atomsAtLine_ofVariant hm', Program.SlotModule.atomsAtLine_ofVariant hm,
    Program.SlotModule.atomsAtLine_congr hspans]

end VariantRepair
