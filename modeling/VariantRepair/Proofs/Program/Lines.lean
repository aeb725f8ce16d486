import Mathlib.Data.List.InsertIdx
import Mathlib.Tactic.Common
import VariantRepair.Proofs.Path
import VariantRepair.Proofs.Program.Slots
import VariantRepair.Proofs.Variant.History

/-!
# Lines and their text

A text is cut at its line feeds and nowhere else, and the text of lines has a line feed behind each
of them. So reading a text and writing its lines gives the text again, up to a line feed at its
end, and writing lines that hold no line feed and reading them gives the lines again. Edits of a
program that was read never bring a line feed into a line.
-/

namespace VariantRepair

/-! ### Texts that end in a line feed -/

namespace Text

/-- The text with a line feed at its end, unless it has one or is empty. -/
def ended (s : String) : String :=
  if s = "" ∨ s.toList.getLast? = some '\n' then s else s ++ "\n"

lemma cutLines_eq_splitOn (cs : List Char) : cutLines cs = cs.splitOn '\n' := by
  induction cs with
  | nil => rfl
  | cons c cs ih =>
    rw [cutLines, List.splitOn_cons_eq_if_modifyHead, ih]
    by_cases hc : c = '\n'
    · simp [hc]
    · cases hcut : cs.splitOn '\n' with
      | nil => exact absurd hcut (List.splitOn_ne_nil _ cs)
      | cons l ls => simp [hc]

lemma notMem_of_mem_cutLines {cs l : List Char} (h : l ∈ cutLines cs) : '\n' ∉ l := by
  rw [cutLines_eq_splitOn] at h
  exact Path.notMem_of_mem_splitOn h

/-- Pieces that are joined, as pieces with something behind each of them but the last. -/
lemma intercalate_concat {α : Type} (sep : List α) (ls : List (List α)) (l : List α) :
    sep.intercalate (ls ++ [l]) = ls.flatMap (· ++ sep) ++ l := by
  induction ls with
  | nil => simp
  | cons l' ls ih =>
    cases ls with
    | nil => simp
    | cons l'' ls =>
      rw [List.cons_append, List.cons_append, List.intercalate_cons_cons, ← List.cons_append, ih,
        List.flatMap_cons (x := l'), List.append_assoc, List.append_assoc, List.append_assoc]

/-- A text is cut into lines that end in a line feed and a rest that does not. -/
lemma exists_cutLines_eq (cs : List Char) :
    ∃ ls l, cutLines cs = ls ++ [l] ∧ cs = ls.flatMap (· ++ ['\n']) ++ l ∧ '\n' ∉ l := by
  have hne : cutLines cs ≠ [] := by
    rw [cutLines_eq_splitOn]
    exact List.splitOn_ne_nil _ cs
  have hcut := (List.dropLast_append_getLast hne).symm
  refine ⟨_, _, hcut, ?_, ?_⟩
  · rw [← intercalate_concat, ← hcut, cutLines_eq_splitOn, List.intercalate_splitOn]
  · exact notMem_of_mem_cutLines (List.getLast_mem hne)

/-- Lines without line feeds are read from the text that has a line feed behind each. -/
lemma cutLines_flatMap {ls : List (List Char)} (h : ∀ l ∈ ls, '\n' ∉ l) :
    cutLines (ls.flatMap (· ++ ['\n'])) = ls ++ [[]] := by
  have hjoin := intercalate_concat ['\n'] ls []
  rw [List.append_nil] at hjoin
  rw [cutLines_eq_splitOn, ← hjoin]
  refine List.splitOn_intercalate _ (fun l hl => ?_) (List.append_ne_nil_of_right_ne_nil _ nofun)
  rcases List.mem_append.mp hl with hl | hl
  · exact h l hl
  · obtain rfl := List.mem_singleton.mp hl
    exact List.not_mem_nil

end Text

namespace Program

namespace Lines

lemma toList_text (ls : List String) :
    (text ls).toList = (ls.map String.toList).flatMap (· ++ ['\n']) := by
  rw [text, String.toList_join, List.flatMap_map, List.flatMap_map]
  simp only [String.toList_append]
  rfl

/-- The lines of a text, by the pieces that it is cut into. -/
lemma ofText_eq {s : String} {ls : List (List Char)} {l : List Char}
    (h : Text.cutLines s.toList = ls ++ [l]) :
    ofText s = (if l = [] then ls else ls ++ [l]).map String.ofList := by
  have hempty : String.ofList l = "" ↔ l = [] := by
    rw [← String.toList_inj, String.toList_ofList]
    rfl
  rw [ofText, h, List.map_append, List.map_singleton, List.getLast?_concat, List.dropLast_concat]
  by_cases hl : l = []
  · simp [hl]
  · simp [hl, hempty]

/-- What is read from a text has that text, with a line feed at its end. -/
theorem text_ofText (s : String) : text (ofText s) = Text.ended s := by
  obtain ⟨ls, l, hcut, hs, hl⟩ := Text.exists_cutLines_eq s.toList
  rw [← String.toList_inj, toList_text, ofText_eq hcut, List.map_map]
  have hid : String.toList ∘ String.ofList = id := funext fun _ => String.toList_ofList
  rw [hid, List.map_id]
  by_cases hempty : l = []
  · have hended : s = "" ∨ s.toList.getLast? = some '\n' := by
      rw [hempty, List.append_nil] at hs
      rcases ls.eq_nil_or_concat with rfl | ⟨ls', l', rfl⟩
      · exact .inl (String.toList_inj.mp hs)
      · refine .inr ?_
        rw [hs, List.concat_eq_append, List.flatMap_append, List.flatMap_singleton,
          ← List.append_assoc, List.getLast?_concat]
    rw [if_pos hempty, Text.ended, if_pos hended, hs, hempty, List.append_nil]
  · have hended : ¬ (s = "" ∨ s.toList.getLast? = some '\n') := by
      rintro (rfl | hlast)
      · exact hempty (List.append_eq_nil_iff.mp hs.symm).2
      · rw [hs, List.getLast?_append_of_ne_nil _ hempty] at hlast
        exact hl (List.mem_of_getLast? hlast)
    rw [if_neg hempty, Text.ended, if_neg hended, String.toList_append, hs, List.flatMap_append,
      List.flatMap_singleton, List.append_assoc]
    rfl

lemma notMem_of_mem_ofText {s l : String} (h : l ∈ ofText s) : '\n' ∉ l.toList := by
  obtain ⟨ls, rest, hcut, -⟩ := Text.exists_cutLines_eq s.toList
  rw [ofText_eq hcut, List.mem_map] at h
  obtain ⟨cs, hcs, rfl⟩ := h
  rw [String.toList_ofList]
  refine Text.notMem_of_mem_cutLines (?_ : cs ∈ Text.cutLines s.toList)
  rw [hcut]
  split_ifs at hcs
  · exact List.mem_append_left _ hcs
  · exact hcs

/-- Lines without line feeds are read back from their text. -/
theorem ofText_text {ls : List String} (h : ∀ l ∈ ls, '\n' ∉ l.toList) : ofText (text ls) = ls := by
  have hcut : Text.cutLines (text ls).toList = ls.map String.toList ++ [[]] := by
    rw [toList_text]
    refine Text.cutLines_flatMap fun cs hcs => ?_
    obtain ⟨l, hl, rfl⟩ := List.mem_map.mp hcs
    exact h l hl
  have hid : String.ofList ∘ String.toList = id := funext fun _ => String.ofList_toList
  rw [ofText_eq hcut, if_pos rfl, List.map_map, hid, List.map_id]

end Lines

variable {p : Program}

/-- No line of the program holds a line feed. -/
def IsCut : Program → Prop
  | lines ls => ∀ l ∈ ls, '\n' ∉ l.toList
  | module _ => True

lemma isCut_read {b : Backend} {text : String} (h : read b text = .ok p) : p.IsCut := by
  cases b with
  | lines =>
    cases h
    exact fun l hl => Lines.notMem_of_mem_ofText hl
  | python =>
    rw [read] at h
    cases hread : SlotModule.read text with
    | error f =>
      rw [hread] at h
      cases h
    | ok m =>
      rw [hread] at h
      cases h
      trivial

/-- Every line of an edited program was a line before, or is empty. -/
lemma IsCut.edited (h : p.IsCut) (e : Edit) : (p.edited e).IsCut := by
  cases p with
  | module m =>
    rw [SlotModule.program_edited]
    trivial
  | lines ls =>
    have hline (k : Nat) : '\n' ∉ (ls.getD k "").toList := by
      rw [List.getD_eq_getElem?_getD]
      cases hk : ls[k]? with
      | none => exact List.not_mem_nil
      | some l => exact h l (List.mem_of_getElem? hk)
    cases e with
    | delete a => exact fun l hl => h l (List.mem_of_mem_eraseIdx hl)
    | append d s =>
      intro l hl
      rcases List.eq_or_mem_of_mem_insertIdx hl with rfl | hl
      · exact hline _
      · exact h l hl
    | swap a b =>
      rw [Program.edited]
      split_ifs
      · exact h
      · intro l hl
        rcases List.mem_or_eq_of_mem_set hl with hl | rfl
        · rcases List.mem_or_eq_of_mem_set hl with hl | rfl
          · exact h l hl
          · exact hline _
        · exact hline _

end Program

/-! ### Variants that were read and edited -/

section Reached

variable {untouched : Float} {a : Altered}

/-- What is done to a variant leaves its lines without line feeds, and lines stay lines. -/
lemma Making.isCut_make (x : Making) {v : Variant Float} (h : v.program.IsCut) :
    ∃ v', ((x.make untouched).run (.ofVariant v)).2 = .ofVariant v' ∧ v'.program.IsCut := by
  obtain ⟨v', hmade, hmakes⟩ := x.exists_makes untouched v
  refine ⟨v', hmade, ?_⟩
  cases hmakes with
  | read hread => exact Program.isCut_read hread
  | edited t e hfits => exact h.edited e
  | failed | named | weighed | compiled => exact h

lemma Altered.Reached.exists_isCut (h : a.Reached untouched) :
    ∃ v, a = .ofVariant v ∧ v.program.IsCut := by
  induction h with
  | fresh b =>
    refine ⟨_, rfl, ?_⟩
    cases b with
    | lines => exact nofun
    | python => trivial
  | step h x ih =>
    obtain ⟨v, rfl, hv⟩ := ih
    exact x.isCut_make hv

/-- A variant of lines that was reached has lines without line feeds, and their text. -/
lemma Altered.Reached.exists_lines (h : a.Reached untouched)
    (hlines : a.variant.backend = .lines) :
    ∃ v ls, a = .ofVariant v ∧ v.program = .lines ls ∧ (∀ l ∈ ls, '\n' ∉ l.toList) ∧
      a.text = .ok (Program.Lines.text ls) := by
  obtain ⟨v, rfl, hcut⟩ := h.exists_isCut
  cases hp : v.program with
  | module m =>
    have hbackend : v.program.backend = .lines := hlines
    rw [hp] at hbackend
    cases hbackend
  | lines ls =>
    rw [hp] at hcut
    refine ⟨v, ls, rfl, hp, hcut, ?_⟩
    rw [Altered.text_ofVariant, hp]
    rfl

/-- A variant of lines takes the lines of every text. -/
lemma Altered.run_readText_lines {v : Variant Float} (hlines : v.backend = .lines) (s : String) :
    (readText s).run (.ofVariant v)
      = (.ok (), .ofVariant (v.restart (.lines (Program.Lines.ofText s)))) := by
  rw [run_readText, Variant.readText, hlines]
  rfl

/-- Lines and texts correspond. Whatever has been done to a variant of lines, it reads every text
and then has that text, with a line feed at its end if it had none and was not empty. And of what
edits have made of the lines none holds a line feed, so that the lines are read back from their
text, and two variants with the same text have the same lines. -/
theorem lines_match_texts (h : a.Reached untouched) (hlines : a.variant.backend = .lines) :
    (∀ s, ∃ a', (Altered.readText s).run a = (.ok (), a') ∧ a'.text = .ok (Text.ended s)) ∧
      ∃ ls s, a.variant.program = .lines ls ∧ (∀ l ∈ ls, '\n' ∉ l.toList) ∧ a.text = .ok s ∧
        (∃ a', (Altered.readText s).run a = (.ok (), a') ∧ a'.variant.program = .lines ls) ∧
        ∀ (untouched' : Float) (a' : Altered), a'.Reached untouched' →
          a'.variant.backend = .lines → a'.text = .ok s → a'.variant.program = .lines ls := by
  obtain ⟨v, ls, rfl, hp, hcut, htext⟩ := h.exists_lines hlines
  have hread := Altered.run_readText_lines hlines
  refine ⟨fun s => ⟨_, hread s, ?_⟩, ls, _, hp, hcut, htext, ⟨_, hread _, ?_⟩, ?_⟩
  · rw [Altered.text_ofVariant]
    exact congrArg Except.ok (Program.Lines.text_ofText s)
  · exact congrArg Program.lines (Program.Lines.ofText_text hcut)
  · intro untouched' a' h' hlines' htext'
    obtain ⟨v', ls', rfl, hp', hcut', hown⟩ := h'.exists_lines hlines'
    have hsame : Program.Lines.text ls' = Program.Lines.text ls :=
      Except.ok.inj (hown.symm.trans htext')
    rw [Altered.ofVariant, hp', ← Program.Lines.ofText_text hcut', hsame,
      Program.Lines.ofText_text hcut]

/-- Three lines, of which the first holds other line breaks and the others are empty: the first one
is dropped, and an attempt on a line that is not there fails. The two empty lines that are left are
read back from two line feeds, and a text without a line feed at its end gets one. -/
theorem lines_match_texts_empty :
    ∃ a a₁ a₂ : Altered, a.Reached 0 ∧ a.variant.program = .lines ["", ""] ∧
      a.text = .ok "\n\n" ∧ (Altered.readText "\n\n").run a = (.ok (), a₁) ∧
      a₁.variant.program = .lines ["", ""] ∧
      (Altered.readText "\n\r").run a = (.ok (), a₂) ∧ a₂.text = .ok "\n\r\n" := by
  have hreached : Altered.Reached 0 _ :=
    (((Altered.Reached.fresh .lines).step (.read "a\r\x0bb\u2028\n\n\n")).step
      (.attempt (.delete (.int 1)))).step (.attempt (.swap (.int 3) (.int 1)))
  obtain ⟨hreads, ls, s, hls, -, htext, ⟨a₁, hrun, ha₁⟩, -⟩ := lines_match_texts hreached rfl
  obtain rfl : ls = ["", ""] := Program.lines.inj (hls.symm.trans (by rfl))
  obtain rfl : s = "\n\n" := Except.ok.inj (htext.symm.trans (by rfl))
  obtain ⟨a₂, hrun₂, ha₂⟩ := hreads "\n\r"
  have hended : Text.ended "\n\r" = "\n\r\n" := by decide +kernel
  rw [hended] at ha₂
  exact ⟨_, a₁, a₂, hreached, hls, htext, hrun, ha₁, hrun₂, ha₂⟩

end Reached

end VariantRepair
