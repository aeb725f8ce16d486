import VariantRepair.Proofs.Language.Grown
import VariantRepair.Proofs.Program.Slots
import VariantRepair.Proofs.Variant.History

/-!
# The trees that are rendered

Whatever is attempted on a module, the tree that is rendered for it has no gaps, with probes and
without. It is the tree in which each simple statement behind the header is replaced by what its
slot holds, with nothing added but a statement in each of the blocks that had to get one.
-/

namespace VariantRepair

open VariantRepair.Language

/-- An edit acts on the slots as it is noted: an exchange of an atom with itself does nothing to
them. -/
lemma slotsAfter_append_noted (S : Nat → List Simple) (es : List Edit) (e : Edit) :
    slotsAfter S (es ++ e.noted) = e.onSlots (slotsAfter S es) := by
  rcases e.noted_cases with hnoted | hnoted
  · have hsame (S : Nat → List Simple) : e.onSlots S = S := by
      cases e with
      | swap a b =>
        obtain rfl : a = b := by
          by_contra hne
          rw [Edit.noted, if_neg hne] at hnoted
          exact List.cons_ne_nil _ _ hnoted
        rw [Edit.onSlots, Equiv.swap_self]
        rfl
      | _ => exact absurd hnoted (List.cons_ne_nil _ _)
    rw [hnoted, hsame, List.append_nil]
  · rw [hnoted, slotsAfter, List.foldl_append, ← slotsAfter]
    rfl

namespace Program.SlotModule

/-- A variant holds a module that came of another one by the edits that it has noted. -/
def LeadsTo (v : Variant Float) (m : SlotModule) (v' : Variant Float) : Prop :=
  ∃ m' es, v'.program = .module m' ∧ v'.history = v.history ++ es ∧ m.SameFrame m' ∧
    m'.slot = slotsAfter m.slot es

lemma LeadsTo.edited {v v' : Variant Float} {m : SlotModule} (h : LeadsTo v m v')
    (untouched : Float) {e : Edit} (he : e.Fits v'.size) :
    LeadsTo v m (v'.edited untouched e) := by
  obtain ⟨m', es, hv', hhistory, hframe, hslot⟩ := h
  rw [Variant.size, hv'] at he
  refine ⟨m'.edited e, es ++ e.noted, ?_, ?_, hframe.trans (m'.sameFrame_edited e), ?_⟩
  · rw [Variant.edited, hv', program_edited]
  · rw [Variant.edited, hhistory, List.append_assoc]
  · rw [slot_edited he, hslot, slotsAfter_append_noted]

/-- Attempts on a module act on what its slots hold, as the edits do that are noted. -/
lemma exists_run_attempts (untouched : Float) {v : Variant Float} {m : SlotModule}
    (ts : List Attempt) (hv : v.program = .module m) :
    ∃ v', (attemptAll untouched ts).run (.ofVariant v) = (.ok (), .ofVariant v') ∧
      LeadsTo v m v' :=
  exists_run_attemptAll untouched (P := fun _ => LeadsTo v m) (fun _ _ h => h)
    (fun _ _ _ h he => h.edited untouched he) (n := 0) ts
    ⟨m, [], hv, (List.append_nil _).symm, .refl m, rfl⟩

/-- The variant that holds a module as it was read. -/
def loaded (statements : List (Stmt Located)) : Variant Float :=
  (Variant.empty .python).restart (.module (ofStatements statements))

lemma run_readText_of_read {text : String} {statements : List (Stmt Located)}
    (h : readModule text = .ok statements) :
    (Altered.readText text).run (.ofVariant (.empty .python))
      = (.ok (), .ofVariant (loaded statements)) := by
  have hload : (Variant.empty .python).readText text = .ok (loaded statements) := by
    change ((((readModule text).map ofStatements).map Program.module).mapError
      Failure.ofSource).map _ = _
    rw [h]
    rfl
  rw [Altered.run_readText, hload, Altered.settled]

/-- The variant and the module after a text was read and attempts were made on it. -/
lemma run_readText_attemptAll {text : String} {statements : List (Stmt Located)}
    (untouched : Float) (ts : List Attempt) (hread : readModule text = .ok statements) :
    ∃ v m, (do
        Altered.readText text
        attemptAll untouched ts : Altered.Alteration Unit).run (.ofVariant (.empty .python))
        = (.ok (), .ofVariant v) ∧
      v.program = .module m ∧ (ofStatements statements).SameFrame m ∧
      m.slot = slotsAfter (ofStatements statements).slot v.history := by
  obtain ⟨v, hrun, m, es, hp, hhistory, hframe, hslot⟩ :=
    exists_run_attempts untouched (v := loaded statements) ts rfl
  obtain rfl : v.history = es := hhistory
  exact ⟨v, m, by rw [run_bind_of_ok (run_readText_of_read hread), hrun], hp, hframe, hslot⟩

/-! ### The trees of a module -/

lemma probedText_ofVariant {v : Variant Float} {m : SlotModule} (h : v.program = .module m) :
    (Altered.ofVariant v).probedText = m.probedText.mapError .ofPrinting := by
  obtain ⟨program, localization, history, ownSuffix, compiled⟩ := v
  obtain rfl : program = .module m := h
  rfl

lemma probedText_ofVariant_lines {v : Variant Float} {ls : List String}
    (h : v.program = .lines ls) :
    (Altered.ofVariant v).probedText
      = .error ((Altered.ofVariant v).unimplemented "instrumented_source") := by
  obtain ⟨program, localization, history, ownSuffix, compiled⟩ := v
  obtain rfl : program = .lines ls := h
  rfl

/-- Only a module has a text with probes. -/
lemma exists_module_of_probedText {v : Variant Float} {text : String}
    (h : (Altered.ofVariant v).probedText = .ok text) :
    ∃ m, v.program = .module m ∧ m.probedText = .ok text := by
  cases hp : v.program with
  | lines ls =>
    rw [probedText_ofVariant_lines hp] at h
    cases h
  | module m =>
    rw [probedText_ofVariant hp] at h
    cases hprobed : m.probedText with
    | error f =>
      rw [hprobed] at h
      cases h
    | ok text' =>
      rw [hprobed] at h
      cases h
      exact ⟨m, rfl, hprobed⟩

/-- The tree with probes of a module that was read and edited since. -/
lemma probedTree_eq {m : SlotModule} {statements rest : List (Stmt Located)}
    {header : List Located} {S : Nat → List Simple}
    (hheader : HasHeader true statements header rest)
    (hframe : (ofStatements statements).SameFrame m) (hslot : m.slot = S) :
    m.probedTree = header.map (fun s => .leaf s.statement) ++ probePrologue ++
      fillBlock (replaceBlock (fun k => probe k :: S k) 1 rest).1 := by
  obtain ⟨hm, ht⟩ := hframe.eq_of_hasHeader hheader
  rw [probedTree, hm, ht, hslot, replaceBlock_eq, List.map_map]
  rfl

/-- The prologue of the probes has no gaps. -/
lemma fullBlock_probePrologue : FullBlock probePrologue := by
  simp [probePrologue, noteAtom, FullBlock, Stmt.IsFull]

/-- Neither has a header. -/
lemma fullBlock_header (header : List Located) :
    FullBlock (header.map fun s => Stmt.leaf s.statement) := by
  rw [← Function.comp_def Stmt.leaf, ← List.map_map]
  exact fullBlock_map_leaf _

end Program.SlotModule

open Program.SlotModule in
/-- Whatever is attempted on a module, the trees that its texts are printed from have no gaps, and
they are the least such trees: the header, the prologue of the probes if there are probes, and the
tree in which the `k`-th simple statement is replaced by what the `k`-th slot holds, behind its
probe if there are probes, with a statement that does nothing in each block that must not be empty
and in no other place. Where there is no such block, nothing is added. -/
theorem rendered_trees_have_no_gaps (text : String) (statements : List (Stmt Located))
    (untouched : Float) (hread : readModule text = .ok statements) :
    ∃ header rest, HasHeader true statements header rest ∧
      ∀ ts : List Attempt, ∃ a m S, (do
          Altered.readText text
          attemptAll untouched ts : Altered.Alteration Unit).run (.ofVariant (.empty .python))
          = (.ok (), a) ∧
        S = slotsAfter (ownSlots ((blockLeaves rest).map (·.statement))) a.variant.history ∧
        a.variant.program = .module m ∧
        a.text = (treeText m.tree).mapError .ofPrinting ∧
        a.probedText = (treeText m.probedTree).mapError .ofPrinting ∧
        Fills (header.map (fun s => .leaf s.statement) ++ (replaceBlock S 1 rest).1) m.tree ∧
        Fills (header.map (fun s => .leaf s.statement) ++ Program.probePrologue ++
          (replaceBlock (fun k => Program.probe k :: S k) 1 rest).1) m.probedTree := by
  obtain ⟨header, hheader, -⟩ := exists_hasHeader true statements
  refine ⟨header, (splitHeader true statements).2, hheader, fun ts => ?_⟩
  obtain ⟨v, m, hrun, hp, hframe, hslot⟩ := run_readText_attemptAll untouched ts hread
  rw [slot_ofStatements] at hslot
  refine ⟨.ofVariant v, m, _, hrun, rfl, hp, ?_, probedText_ofVariant hp, ?_, ?_⟩
  · rw [Altered.text_ofVariant, hp]
    rfl
  · rw [tree_eq hheader hframe hslot, ← fillBlock_append_of_full (fullBlock_header header)]
    exact fills_fillBlock _
  · have hfull : FullBlock (header.map (fun s => Stmt.leaf s.statement) ++ Program.probePrologue) :=
      fullBlock_append.mpr ⟨fullBlock_header header, fullBlock_probePrologue⟩
    rw [probedTree_eq hheader hframe hslot, ← fillBlock_append_of_full hfull]
    exact fills_fillBlock _

open Program.SlotModule in
/-- All statements are deleted, and one attempt fails: both blocks of the try statement get a
statement, and only the branch that may be empty stays so. -/
theorem rendered_trees_have_no_gaps_try :
    ∃ a, (do
        Altered.readText "try:\n  f()\nfinally:\n  if x:\n    g()\n  else:\n    h()\n"
        attemptAll 0 [.delete (.int 1), .delete (.str "x"), .delete (.int 2), .delete (.int 3)] :
          Altered.Alteration Unit).run (.ofVariant (.empty .python)) = (.ok (), a) ∧
      a.text = .ok "try:\n    pass\nfinally:\n    if x:\n        pass\n" := by
  have hread := readModule_of_isSome
    "try:\n  f()\nfinally:\n  if x:\n    g()\n  else:\n    h()\n"
    (by simp) (by decide +kernel)
  generalize hss : Option.getD _ _ = ss at hread
  obtain ⟨header, rest, hheader, hattempts⟩ := rendered_trees_have_no_gaps _ ss 0 hread
  obtain ⟨a, m, S, hrun, rfl, hp, htext, -⟩ := hattempts
    [.delete (.int 1), .delete (.str "x"), .delete (.int 2), .delete (.int 3)]
  refine ⟨a, hrun, ?_⟩
  rw [run_bind_of_ok (run_readText_of_read hread)] at hrun
  obtain rfl : Prod.snd _ = a := congrArg Prod.snd hrun
  subst hss
  decide +kernel

end VariantRepair
