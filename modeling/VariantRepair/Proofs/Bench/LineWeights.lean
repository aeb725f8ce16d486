import Mathlib.Tactic.Common
import VariantRepair.Proofs.Bench.Localized
import VariantRepair.Proofs.Program.Slots

/-!
# Weights by lines

The weights of a program that was read from a text, by the lines of a fault file: each atom that
covers a line of some row has the greatest weight of the rows whose lines it covers, and no other
atom has any. So it makes no difference in which order the rows stand and how often, what is
commented, and which lines are named that no atom covers.
-/

namespace VariantRepair

open Host VariantRepair.Language

/-! ### The lines of atoms -/

/-- The lines of a text that the atoms of its program cover: an atom of a text of lines covers that
line, and an atom of a module the lines from the first to the last one of its statement, which is
one of the simple statements behind the header. -/
inductive Covers (source : String) : Backend → Int → Int → Prop
  | line {k : Nat} (h : k < (Program.Lines.ofText source).length) :
      Covers source .lines (k + 1) (k + 1)
  | statement {ss rest : List (Stmt Located)} {header : List Located} {k : Nat} {s : Located}
      {line : Int} (hread : readModule source = .ok ss)
      (hheader : Program.SlotModule.HasHeader true ss header rest)
      (hleaf : (blockLeaves rest)[k]? = some s) (hfirst : s.first ≤ line) (hlast : line ≤ s.last) :
      Covers source .python (k + 1) line

namespace Program

variable {source : String} {backend : Backend} {p : Program} {a line : Int}

lemma SlotModule.mem_atomsAtLine_iff {m : SlotModule} {n : Nat} : n ∈ m.atomsAtLine line ↔
    ∃ k span, m.spans[k]? = some span ∧ n = k + 1 ∧ span.1 ≤ line ∧ line ≤ span.2 := by
  rw [atomsAtLine, List.mem_map]
  constructor
  · rintro ⟨⟨span, n⟩, hmem, rfl⟩
    obtain ⟨hmem, hcovers⟩ := List.mem_filter.mp hmem
    obtain ⟨hone, hspan⟩ := List.mem_zipIdx_iff_le_and_getElem?_sub.mp hmem
    obtain ⟨hfirst, hlast⟩ := (Bool.and_eq_true _ _).mp hcovers
    exact ⟨n - 1, span, hspan, (Nat.sub_add_cancel hone).symm, of_decide_eq_true hfirst,
      of_decide_eq_true hlast⟩
  · rintro ⟨k, span, hspan, rfl, hfirst, hlast⟩
    refine ⟨(span, k + 1), List.mem_filter.mpr ⟨?_, ?_⟩, rfl⟩
    · exact List.mem_zipIdx_iff_le_and_getElem?_sub.mpr ⟨Nat.le_add_left 1 k, hspan⟩
    · exact (Bool.and_eq_true _ _).mpr ⟨decide_eq_true hfirst, decide_eq_true hlast⟩

/-- The atoms of a line are those that cover it, in a program as it was read. -/
lemma mem_atomsAtLine_iff (h : read backend source = .ok p) :
    a ∈ p.atomsAtLine line ↔ Covers source backend a line := by
  cases backend with
  | lines =>
    cases h
    rw [atomsAtLine]
    constructor
    · intro ha
      split_ifs at ha with hline
      · obtain rfl := List.mem_singleton.mp ha
        obtain ⟨k, rfl, hk⟩ := exists_position hline
        exact .line hk
      · cases ha
    · rintro ⟨hk⟩
      rw [if_pos (by omega)]
      exact List.mem_singleton_self _
  | python =>
    rw [read, SlotModule.read] at h
    cases hread : readModule source with
    | error f =>
      rw [hread] at h
      cases h
    | ok ss =>
      rw [hread] at h
      cases h
      obtain ⟨header, hheader, -⟩ := SlotModule.exists_hasHeader true ss
      have hspans : (SlotModule.ofStatements ss).spans
          = (blockLeaves (SlotModule.splitHeader true ss).2).map fun s => (s.first, s.last) := rfl
      rw [atomsAtLine, List.mem_map]
      constructor
      · rintro ⟨n, hn, rfl⟩
        obtain ⟨k, span, hspan, rfl, hfirst, hlast⟩ := SlotModule.mem_atomsAtLine_iff.mp hn
        rw [hspans, List.getElem?_map, Option.map_eq_some_iff] at hspan
        obtain ⟨s, hleaf, rfl⟩ := hspan
        exact .statement hread hheader hleaf hfirst hlast
      · intro hcovers
        cases hcovers with
        | @statement ss' rest header' k s line hread' hheader' hleaf hfirst hlast =>
          obtain rfl : ss = ss' := Except.ok.inj (hread.symm.trans hread')
          obtain ⟨-, rfl⟩ := hheader.unique hheader'
          refine ⟨k + 1, SlotModule.mem_atomsAtLine_iff.mpr
            ⟨k, (s.first, s.last), ?_, rfl, hfirst, hlast⟩, rfl⟩
          rw [hspans, List.getElem?_map, hleaf]
          rfl

end Program

namespace Work

variable {c : Config} {b : Bench} {v : Variant Float} {source faults : String}
  {rows : List (Int × Float)} {a : Int} {w : Float}

/-! ### The scheme -/

/-- The path to the directory itself leads to no file. -/
lemma eq_directory_of_find_dot {t : FileTree} {directory place : Place} {e : Entry}
    (h : t.find directory "." = .ok (place, e)) : e = .directory := by
  have hpieces : Path.pieces "." = ["."] := by decide +kernel
  obtain ⟨hlocate, hget⟩ := FileTree.find_eq_ok_iff.mp h
  rw [FileTree.locate, if_neg (by decide +kernel), if_neg (by decide +kernel),
    if_neg (by decide +kernel), hpieces, FileTree.follow] at hlocate
  split at hlocate
  · cases hlocate
  · cases hlocate
  · next hdirectory =>
    rw [if_pos (.inr rfl)] at hlocate
    obtain rfl : directory = place := Except.ok.inj hlocate
    exact Option.some.inj (hget.symm.trans hdirectory)

/-- A fault file that is read has a name. -/
lemma faultFile_ne_empty {path text : String} {m m' : Machine}
    (h : (readText (Path.ofText path).text).run m = (.ok text, m')) : path ≠ "" := by
  rintro rfl
  have hdot : (Path.ofText "").text = "." := by decide +kernel
  rw [hdot] at h
  obtain ⟨content, m₁, hcontent, -⟩ := exists_run_of_run_bind h
  obtain ⟨-, place, hfind⟩ := find_of_run_readContent hcontent
  cases eq_directory_of_find_dot hfind

/-- A row of a fault file says that a line has a weight. -/
def NamesLine (faults : String) (line : Int) (w : Float) : Prop :=
  ∃ row ∈ rowTexts (Text.lines faults), SaysRow row (line, w)

/-- The weights of a variant are computed by the lines of a fault file: the variant holds the
program of a text as it was read, and the fault file is read. -/
structure GoesByLines (c : Config) (b : Bench) (v : Variant Float) (source faults : String) :
    Prop where
  scheme : c.faultScheme = "line"
  altered_eq : b.altered = .ofVariant v
  program : Program.read v.backend source = .ok v.program
  text : (readText (Path.ofText c.faultFile).text).run b.machine = (.ok faults, b.machine)
  rows : ∃ rows m, (readFaultFile c.faultFile).run b.machine = (.ok rows, m)

lemma goesByLines_of_hasText (hscheme : c.faultScheme = "line") (hv : b.altered = .ofVariant v)
    (hprogram : Program.read v.backend source = .ok v.program)
    (hfile : b.machine.HasText (Path.ofText c.faultFile).text faults)
    (hrows : faultRows (Path.ofText c.faultFile).text faults = .ok rows) :
    GoesByLines c b v source (Text.asRead faults) where
  scheme := hscheme
  altered_eq := hv
  program := hprogram
  text := hfile.run_readText
  rows := ⟨rows, b.machine, by rw [run_readFaultFile hfile, hrows]⟩

namespace GoesByLines

variable (h : GoesByLines c b v source faults)

include h

/-- The rows that are read are those of the text, and their weights are computed. -/
lemma exists_rows : ∃ rows, (∀ line w, (line, w) ∈ rows ↔ NamesLine faults line w) ∧
    (∀ row ∈ rows, Weight.inUnit row.2 = true) ∧
    (localization c).run b
      = (.ok ((given v.program rows).foldl (fun l p => raise l p.1 p.2) ∅), b) := by
  obtain ⟨rows, m, haccepted⟩ := h.rows
  have hread := run_readFaultFile_of_read h.text
  obtain ⟨hrows, rfl⟩ := Prod.mk.inj (hread.symm.trans haccepted)
  have hforall := faultRows_eq_ok_iff.mp hrows
  have hread : (onMachine (readFaultFile c.faultFile)).run b = (.ok rows, b) :=
    run_onMachine_of_ok haccepted
  refine ⟨rows, fun line w => mem_iff_of_forall₂ hforall, inUnit_of_forall₂ hforall, ?_⟩
  rw [localization_of_line h.scheme, lineLocalization,
    if_neg (by simpa using faultFile_ne_empty h.text), run_bind_of_ok hread, run_reading,
    h.altered_eq, rowWeights_ofVariant]

lemma mem_given_iff (hrows : ∀ line w, (line, w) ∈ rows ↔ NamesLine faults line w) :
    (a, w) ∈ given v.program rows ↔
      ∃ line, NamesLine faults line w ∧ Covers source v.backend a line := by
  simp only [mem_given, hrows, Program.mem_atomsAtLine_iff h.program]

end GoesByLines

/-- The weights of a program that was read from a text can always be computed by the lines of a
fault file that is read. An atom has a weight exactly when it covers a line that some row names, and
then it is the greatest of the weights that rows give to lines that it covers, zero among them. And
for the same text every other fault file that gives the same weights to the lines that atoms cover,
in whatever order and how often, and with whatever comments and further lines, has an equal
result. -/
theorem localize_by_lines (h : GoesByLines c b v source faults) :
    ∃ l b', (localize c).run b = (.ok (), b') ∧
      b'.altered = .ofVariant { v with localization := l } ∧ l.Nodup ∧
      (∀ a, (∃ w, l.get? a = some w) ↔
        ∃ line w, NamesLine faults line w ∧ Covers source v.backend a line) ∧
      (∀ a w, l.get? a = some w →
        (∃ line, NamesLine faults line w ∧ Covers source v.backend a line) ∧
        ∀ line w', NamesLine faults line w' → Covers source v.backend a line → w' ≤ w) ∧
      ∀ (c₂ : Config) (b₂ b₂' : Bench) (v₂ : Variant Float) (faults₂ : String),
        GoesByLines c₂ b₂ v₂ source faults₂ → v₂.backend = v.backend →
        (∀ a line w, Covers source v.backend a line →
          (NamesLine faults₂ line w ↔ NamesLine faults line w)) →
        (localize c₂).run b₂ = (.ok (), b₂') →
        l.equal b₂'.altered.variant.localization = true := by
  obtain ⟨rows, hrows, hunit, hrun⟩ := h.exists_rows
  obtain ⟨m, hlocalize⟩ := run_localize_of_ok h.altered_eq hrun
  have hgreatest := holdsGreatest_given v.program hunit
  refine ⟨_, _, hlocalize, rfl, hgreatest.nodup, fun a => ?_, fun a w hw => ⟨?_, ?_⟩, ?_⟩
  · rw [hgreatest.stored]
    simp only [h.mem_given_iff hrows]
    exact exists_comm
  · exact (h.mem_given_iff hrows).mp (hgreatest.mem a w hw)
  · intro line w' hnames hcovers
    exact hgreatest.le a w hw w' ((h.mem_given_iff hrows).mpr ⟨line, hnames, hcovers⟩)
  · intro c₂ b₂ b₂' v₂ faults₂ h₂ hbackend hsame hlocalize₂
    obtain ⟨rows₂, hrows₂, hunit₂, hrun₂⟩ := h₂.exists_rows
    obtain ⟨m₂, hlocalize'⟩ := run_localize_of_ok h₂.altered_eq hrun₂
    rw [hlocalize₂] at hlocalize'
    obtain rfl := (Prod.mk.inj hlocalize').2
    refine hgreatest.equal (inUnit_given v.program hunit) (holdsGreatest_given v₂.program hunit₂)
      fun p => ?_
    rw [h.mem_given_iff hrows, h₂.mem_given_iff hrows₂, hbackend]
    exact exists_congr fun line => and_congr_left fun hcovers => (hsame _ line _ hcovers).symm

/-- A list that goes over two lines, with another statement behind it: the list has the greatest
weight of the rows for both lines, the other statement that of the row for its own. -/
theorem localize_by_lines_list :
    ∃ (c : Config) (b b' : Bench) (v : Variant Float) (l : Localization Float),
      GoesByLines c b v "x = [1,\n2]; y = 3\n" "2,0.25\n1 0.5 # c\n\n9\n" ∧
      (localize c).run b = (.ok (), b') ∧ b'.altered = .ofVariant { v with localization := l } ∧
      l.get? 1 = some 0.5 ∧ l.get? 2 = some 0.25 ∧ l.get? 3 = none := by
  let faults := "2,0.25\n1 0.5 # c\n\n9\n"
  let c : Config := (Config.default.set .faultScheme "line").set .faultFile "f"
  have hsource := readModule_of_isSome "x = [1,\n2]; y = 3\n" (by simp) (by decide +kernel)
  generalize hss : Option.getD _ _ = ss at hsource
  let m := Program.SlotModule.ofStatements ss
  let v : Variant Float := (Variant.empty .python).restart (.module m)
  let b : Bench :=
    { machine := .ofText faults, cache := none, stats := .zero, port := 0, altered := .ofVariant v }
  have hprogram : Program.read .python "x = [1,\n2]; y = 3\n" = .ok (.module m) := by
    rw [Program.read, Program.SlotModule.read, hsource]
    rfl
  have hfaults : (faultRows "f" faults).toOption = some [(2, 0.25), (1, 0.5), (9, 1.0)] := by
    decide +kernel
  have hrows : faultRows "f" faults = .ok [(2, 0.25), (1, 0.5), (9, 1.0)] := by
    cases hread : faultRows "f" faults with
    | ok rows =>
      rw [hread] at hfaults
      exact congrArg Except.ok (Option.some.inj hfaults)
    | error f =>
      rw [hread] at hfaults
      cases hfaults
  have hpath : (Path.ofText "f").text = "f" := by decide +kernel
  have hasRead : Text.asRead faults = faults := Text.asRead_eq_self_iff.mpr (by decide +kernel)
  have hlines : GoesByLines c b v "x = [1,\n2]; y = 3\n" faults :=
    hasRead ▸ goesByLines_of_hasText rfl rfl hprogram (Machine.hasText_ofText faults)
      (hpath ▸ hrows)
  obtain ⟨named, hnamed, hlist⟩ : ∃ named, given v.program [(2, 0.25), (1, 0.5), (9, 1.0)] = named ∧
      named = [(1, 0.25), (2, 0.25), (1, 0.5)] := by
    subst hss
    exact ⟨_, rfl, by decide +kernel⟩
  have hgives (a : Int) (w : Float) : (∃ line, NamesLine faults line w ∧
      Covers "x = [1,\n2]; y = 3\n" v.backend a line) ↔ (a, w) ∈ named := by
    rw [← hnamed]
    exact (hlines.mem_given_iff fun line w =>
      mem_iff_of_forall₂ (faultRows_eq_ok_iff.mp hrows)).symm
  obtain ⟨l, b', hrun, hb', -, hstored, hgreatest, -⟩ := localize_by_lines hlines
  have hstores {a : Int} {w : Float} (hmem : (a, w) ∈ named)
      (htop : ∀ p ∈ named, p.1 = a → w ≤ p.2 → p.2 = w) : l.get? a = some w := by
    obtain ⟨line, hline⟩ := (hgives a w).mpr hmem
    obtain ⟨w', hw'⟩ := (hstored a).mpr ⟨line, w, hline⟩
    obtain ⟨hnames, hle⟩ := hgreatest a w' hw'
    obtain rfl : w' = w := htop (a, w') ((hgives a w').mp hnames) rfl (hle line w hline.1 hline.2)
    exact hw'
  refine ⟨c, b, b', v, l, hlines, hrun, hb',
    hstores (by simp [hlist]) (by rw [hlist]; decide +kernel),
    hstores (by simp [hlist]) (by rw [hlist]; decide +kernel), ?_⟩
  cases hthird : l.get? 3 with
  | none => rfl
  | some w =>
    have hmem := (hgives 3 w).mp (hgreatest 3 w hthird).1
    simp [hlist] at hmem

end Work

end VariantRepair
