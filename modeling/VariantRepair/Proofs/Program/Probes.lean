import VariantRepair.Proofs.Language.Filled
import VariantRepair.Proofs.Program.Rendered

/-!
# Where the probes stand

A module with probes is the module without them, but for one probe before each slot. No body is left
empty by what the probes stand before, so nothing has to be filled there; when the probes are taken
out again, the same bodies are empty as in the module itself, and they are filled in the same way.
-/

namespace VariantRepair

open VariantRepair.Language

/-- An edit moves and copies statements and makes no new ones. -/
lemma Edit.mem_onSlots {S : Nat → List Simple} {e : Edit} {s : Simple} {k : Nat}
    (h : s ∈ e.onSlots S k) : ∃ j, s ∈ S j := by
  cases e with
  | delete a =>
    rw [onSlots, Function.update_apply] at h
    split_ifs at h
    · exact absurd h List.not_mem_nil
    · exact ⟨k, h⟩
  | append d source =>
    rw [onSlots, Function.update_apply] at h
    split_ifs at h
    · exact (List.mem_append.mp h).elim (fun hd => ⟨_, hd⟩) fun hs => ⟨_, hs⟩
    · exact ⟨k, h⟩
  | swap a b => exact ⟨_, h⟩

/-- What the slots hold after edits is what they held before them. -/
lemma mem_slotsAfter {S : Nat → List Simple} {es : List Edit} {s : Simple} {k : Nat}
    (h : s ∈ slotsAfter S es k) : ∃ j, s ∈ S j := by
  induction es generalizing S with
  | nil => exact ⟨k, h⟩
  | cons e es ih =>
    obtain ⟨j, hj⟩ := ih (S := e.onSlots S) h
    exact Edit.mem_onSlots hj

lemma mem_of_mem_ownSlots {statements : List Simple} {s : Simple} {k : Nat}
    (h : s ∈ ownSlots statements k) : s ∈ statements := by
  cases k with
  | zero => exact absurd h List.not_mem_nil
  | succ k => exact List.mem_of_getElem? (Option.mem_toList.mp h)

namespace Program.SlotModule

/-! ### Telling probes from other statements -/

/-- The number of the probe that a statement is, if it is one. -/
def probeNumber? : Simple → Option Nat
  | .expr (.call (.name id) [.constant (.int k)] []) => if id = probeName then some k else none
  | _ => none

/-- The statement that has the number of a probe is that probe. -/
lemma probeNumber?_eq_some_iff {s : Simple} {k : Nat} : probeNumber? s = some k ↔ s = probe k := by
  constructor
  · intro h
    rw [probeNumber?.eq_def] at h
    split at h
    · split_ifs at h with hid
      obtain rfl := hid
      obtain rfl : _ = k := Option.some.inj h
      rfl
    · exact absurd h (Option.some_ne_none k).symm
  · rintro rfl
    rw [probe, probeNumber?, if_pos rfl]

@[simp] lemma probeNumber?_probe (k : Nat) : probeNumber? (probe k) = some k :=
  probeNumber?_eq_some_iff.mpr rfl

/-- The statements without the probes that are among them. -/
def withoutProbes (ss : List (Stmt Simple)) : List (Stmt Simple) :=
  expandBlock (fun s => if (probeNumber? s).isSome then [] else [s]) ss

/-- No probe is among the statements of any slot. -/
def ProbeFree (S : Nat → List Simple) : Prop :=
  ∀ k, ∀ s ∈ S k, probeNumber? s = none

namespace ProbeFree

variable {S : Nat → List Simple}

/-- Edits on a module that has no probes put none into its slots. -/
lemma slotsAfter_ownSlots {ss : List Simple} (h : ∀ s ∈ ss, probeNumber? s = none)
    (es : List Edit) : ProbeFree (slotsAfter (ownSlots ss) es) := by
  intro k s hs
  obtain ⟨j, hj⟩ := mem_slotsAfter hs
  exact h s (mem_of_mem_ownSlots hj)

lemma filterMap_eq_nil (h : ProbeFree S) (k : Nat) : (S k).filterMap probeNumber? = [] :=
  List.filterMap_eq_nil_iff.mpr (h k)

/-- With a probe before each slot, the probes are in the order of the slots. -/
lemma filterMap_flatMap (h : ProbeFree S) (ks : List Nat) :
    (ks.flatMap fun k => probe k :: S k).filterMap probeNumber? = ks := by
  induction ks with
  | nil => rfl
  | cons k ks ih =>
    rw [List.flatMap_cons, List.filterMap_append, ih, List.filterMap_cons, probeNumber?_probe,
      h.filterMap_eq_nil k, List.singleton_append]

/-- Without its probe, a slot holds what it held. -/
lemma flatMap_probe (h : ProbeFree S) (k : Nat) :
    (probe k :: S k).flatMap (fun s => if (probeNumber? s).isSome then [] else [s]) = S k := by
  have hslot : (S k).flatMap (fun s => if (probeNumber? s).isSome then [] else [s])
      = (S k).flatMap fun s => [s] :=
    List.flatMap_congr fun s hs => by rw [h k s hs, Option.isSome_none, if_neg Bool.false_ne_true]
  rw [List.flatMap_cons, hslot, List.flatMap_singleton', probeNumber?_probe, Option.isSome_some,
    if_pos rfl, List.nil_append]

/-- The probes of the tree, in the order in which they stand there. -/
lemma probes_replaceBlock (h : ProbeFree S) (rest : List (Stmt Located)) :
    (blockLeaves (replaceBlock (fun k => probe k :: S k) 1 rest).1).filterMap probeNumber?
      = List.range' 1 (blockLeaves rest).length := by
  rw [replaceBlock_eq, blockLeaves_expand, blockLeaves_number, h.filterMap_flatMap]

/-- Taking the probes out leaves the tree without them. -/
lemma withoutProbes_replaceBlock (h : ProbeFree S) (rest : List (Stmt Located)) :
    withoutProbes (replaceBlock (fun k => probe k :: S k) 1 rest).1
      = (replaceBlock S 1 rest).1 := by
  rw [withoutProbes, replaceBlock_eq, replaceBlock_eq, expandBlock_expand]
  exact congrArg (expandBlock · _) (funext h.flatMap_probe)

end ProbeFree

/-- A tree with a probe for each of its slots has no gaps. -/
lemma fullBlock_replaceBlock_probe {rest : List (Stmt Located)} (h : FullBlock rest)
    (S : Nat → List Simple) : FullBlock (replaceBlock (fun k => probe k :: S k) 1 rest).1 := by
  rw [replaceBlock_eq]
  exact fullBlock_expand (fun _ => List.cons_ne_nil _ _) ((fullBlock_number 1 rest).mpr h)

end Program.SlotModule

open Program.SlotModule in
/-- Whatever is attempted on a module that has no probes of its own, the tree with probes is the
header, the prologue of the probes, and the tree in which the `k`-th simple statement is replaced by
the `k`-th probe and, right behind it, what the `k`-th slot holds. So the probes of all atoms stand
there once each and in order. Taking them out and filling the bodies that are left empty gives what
stands behind the header in the tree without probes. -/
theorem probes_stand_before_slots (text : String) (statements : List (Stmt Located))
    (untouched : Float) (hread : readModule text = .ok statements)
    (hfree : ∀ s ∈ blockLeaves statements, probeNumber? s.statement = none) :
    ∃ header rest, HasHeader true statements header rest ∧
      ∀ ts : List Attempt, ∃ a m S probed body, (do
          Altered.readText text
          attemptAll untouched ts : Altered.Alteration Unit).run (.ofVariant (.empty .python))
          = (.ok (), a) ∧
        S = slotsAfter (ownSlots ((blockLeaves rest).map (·.statement))) a.variant.history ∧
        a.variant.program = .module m ∧
        a.text = (treeText m.tree).mapError .ofPrinting ∧
        a.probedText = (treeText m.probedTree).mapError .ofPrinting ∧
        a.size = .ok (blockLeaves rest).length ∧
        m.probedTree
          = header.map (fun s => .leaf s.statement) ++ Program.probePrologue ++ probed ∧
        probed = (replaceBlock (fun k => Program.probe k :: S k) 1 rest).1 ∧
        (blockLeaves probed).filterMap probeNumber?
          = List.range' 1 (blockLeaves rest).length ∧
        m.tree = header.map (fun s => .leaf s.statement) ++ body ∧
        fillBlock (withoutProbes probed) = body := by
  obtain ⟨header, hheader, -⟩ := exists_hasHeader true statements
  refine ⟨header, (splitHeader true statements).2, hheader, fun ts => ?_⟩
  obtain ⟨v, m, hrun, hp, hframe, hslot⟩ := run_readText_attemptAll untouched ts hread
  rw [slot_ofStatements] at hslot
  have hfull : FullBlock (splitHeader true statements).2 := by
    have hall := fullBlock_of_readModule hread
    rw [hheader.whole] at hall
    exact (fullBlock_append.mp hall).2
  have hown : ∀ s ∈ (blockLeaves (splitHeader true statements).2).map (·.statement),
      probeNumber? s = none := by
    intro s hs
    obtain ⟨located, hlocated, rfl⟩ := List.mem_map.mp hs
    refine hfree located ?_
    rw [hheader.whole, blockLeaves_append]
    exact List.mem_append_right _ hlocated
  have hslots := ProbeFree.slotsAfter_ownSlots hown v.history
  obtain ⟨S, hS⟩ : ∃ S, S = slotsAfter (ownSlots
    ((blockLeaves (splitHeader true statements).2).map (·.statement))) v.history := ⟨_, rfl⟩
  rw [← hS] at hslot hslots
  refine ⟨.ofVariant v, m, S, _, _, hrun, hS, hp, ?_, probedText_ofVariant hp, ?_, ?_, rfl,
    hslots.probes_replaceBlock _, tree_eq hheader hframe hslot, ?_⟩
  · rw [Altered.text_ofVariant, hp]
    rfl
  · rw [Altered.size_ofVariant, Variant.size, hp, Program.size, hframe.size_eq, size_ofStatements]
  · rw [probedTree_eq hheader hframe hslot,
      fillBlock_of_full (fullBlock_replaceBlock_probe hfull _)]
  · rw [hslots.withoutProbes_replaceBlock]

open Program.SlotModule in
/-- One branch of a statement is emptied and the other grows: with probes the first one holds its
probe, and without them it is filled. -/
theorem probes_stand_before_slots_if :
    ∃ a header probed, (do
        Altered.readText "\"d\"\nif x:\n  f()\nelse:\n  g()\nh()\n"
        attemptAll 0 [.append (.int 2) (.int 3), .delete (.int 1), .delete (.int 4)] :
          Altered.Alteration Unit).run (.ofVariant (.empty .python)) = (.ok (), a) ∧
      a.size = .ok 3 ∧
      a.text = .ok "\"\"\"d\"\"\"\nif x:\n    pass\nelse:\n    g()\n    h()\nh()\n" ∧
      a.probedText = (treeText (header ++ Program.probePrologue ++ probed)).mapError .ofPrinting ∧
      treeText header = .ok "\"\"\"d\"\"\"\n" ∧
      treeText probed = .ok ("if x:\n    __repair_probe__(1)\nelse:\n    __repair_probe__(2)\n" ++
        "    g()\n    h()\n__repair_probe__(3)\nh()\n") := by
  have hread := readModule_of_isSome "\"d\"\nif x:\n  f()\nelse:\n  g()\nh()\n"
    (by simp) (by decide +kernel)
  generalize hss : Option.getD _ _ = ss at hread
  have hfree : ∀ s ∈ blockLeaves ss, probeNumber? s.statement = none := by
    subst hss
    decide +kernel
  obtain ⟨header, rest, hheader, hattempts⟩ := probes_stand_before_slots _ ss 0 hread hfree
  obtain ⟨header', hheader', hsplit⟩ := exists_hasHeader true ss
  obtain ⟨rfl, rfl⟩ := hheader.unique hheader'
  obtain ⟨a, m, S, probed, body, hrun, rfl, -, -, hprobedText, -, hprobedTree, rfl, -, -, -⟩ :=
    hattempts [.append (.int 2) (.int 3), .delete (.int 1), .delete (.int 4)]
  have hleaves : header.map (fun s => Stmt.leaf s.statement)
      = (splitHeader true ss).1.map .leaf := by
    rw [hsplit, List.map_map]
    rfl
  rw [hleaves] at hprobedTree
  refine ⟨a, _, _, hrun, ?_, ?_, by rw [hprobedText, hprobedTree], ?_, ?_⟩
  all_goals
    rw [run_bind_of_ok (run_readText_of_read hread)] at hrun
    obtain rfl : Prod.snd _ = a := congrArg Prod.snd hrun
    subst hss
    decide +kernel

/-! ### The text of probes -/

namespace Program

/-- What a probe writes to the coverage file has a text. -/
lemma exists_print_formatted :
    ∃ s, (Expr.formatted [.value (.name "atom_id") none none, .literal [10]]).print false .test
      = .ok s := by
  have hinner : innerText "atom_id" = .ok "atom_id" := by
    rw [innerText, if_neg (by simp), if_neg (by simp)]
  have hparts : printParts [.value (.name "atom_id") none none, .literal [10]]
      = (do
        let s ← innerText "atom_id"
        return [⟨Text.points ("\x7b" ++ s ++ "") ++ [] ++ [125], false⟩,
          ⟨doubleBraces [10], true⟩]) := by
    rw [printParts, Expr.print]
    rfl
  rw [Expr.print, hparts, hinner]
  exact ⟨_, rfl⟩

lemma exists_print_noteAtom (depth : Nat) : ∃ cs, noteAtom.print depth = .ok cs := by
  obtain ⟨s, hs⟩ := exists_print_formatted
  rw [noteAtom, Stmt.print, printBlock, Stmt.print, Simple.print, Expr.print, printItems, hs]
  exact ⟨_, rfl⟩

/-- The prologue of the probes has a text. -/
lemma exists_printBlock_probePrologue : ∃ cs, printBlock 0 probePrologue = .ok cs := by
  obtain ⟨note, hnote⟩ := exists_print_noteAtom 2
  have hif : ∃ cs, (Stmt.if (.name "path") [noteAtom] []).print 1 = .ok cs := by
    rw [Stmt.print, printBlock, hnote]
    exact ⟨_, rfl⟩
  obtain ⟨branch, hbranch⟩ := hif
  have hsuite : ∃ cs, printSuite 1 [.leaf (.assign [.name "path"] coveragePath),
      .if (.name "path") [noteAtom] []] = .ok cs := by
    rw [printSuite, printBlock, hbranch]
    exact ⟨_, rfl⟩
  obtain ⟨suite, hsuite⟩ := hsuite
  rw [probePrologue, printBlock, printBlock, Stmt.print.eq_2, hsuite]
  exact ⟨_, rfl⟩

lemma printBlock_append (depth : Nat) (ss ss' : List (Stmt Simple)) :
    printBlock depth (ss ++ ss') = (do
      let cs ← printBlock depth ss
      return cs ++ (← printBlock depth ss')) := by
  induction ss with
  | nil =>
    rw [List.nil_append, printBlock]
    cases printBlock depth ss' <;> rfl
  | cons s ss ih =>
    rw [List.cons_append, printBlock, printBlock, ih]
    cases s.print depth <;> cases printBlock depth ss <;> cases printBlock depth ss' <;>
      simp [bind, Except.bind, pure, Except.pure]

/-- A module without a header has a text with probes if what stands behind their prologue has
one. -/
lemma SlotModule.exists_probedText {m : SlotModule} {cs : List String} (hheader : m.header = [])
    (h : printBlock 0 (fillBlock (expandBlock (fun k => probe k :: m.slot k) m.template))
      = .ok cs) : ∃ text, m.probedText = .ok text := by
  obtain ⟨prologue, hprologue⟩ := exists_printBlock_probePrologue
  let body := fillBlock (expandBlock (fun k => probe k :: m.slot k) m.template)
  have htree : m.probedTree = probePrologue ++ body := by
    rw [probedTree, hheader]
    rfl
  have hsuite : printSuite 0 (probePrologue ++ body) = .ok (prologue ++ cs) := by
    -- the prologue starts with an import, which documents nothing
    have hsame : printSuite 0 (probePrologue ++ body) = printBlock 0 (probePrologue ++ body) := rfl
    rw [hsame, printBlock_append, hprologue, h]
    rfl
  have hmodule : ∃ text, printModule (probePrologue ++ body) = .ok text := by
    rw [printModule, hsuite]
    dsimp only [bind, Except.bind]
    split <;> exact ⟨_, rfl⟩
  obtain ⟨text, htext⟩ := hmodule
  rw [probedText, htree, treeText, if_neg (by simp [probePrologue]), htext]
  exact ⟨_, rfl⟩

end Program

end VariantRepair
