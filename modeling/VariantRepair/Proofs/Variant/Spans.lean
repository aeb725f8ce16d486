import Mathlib.Algebra.Order.BigOperators.Group.List
import Mathlib.Algebra.Order.Group.Nat
import Mathlib.Data.List.Chain
import Mathlib.Tactic.Common
import VariantRepair.Proofs.Bench.LineWeights
import VariantRepair.Proofs.Language.Filled
import VariantRepair.Proofs.Program.Rendered
import VariantRepair.Proofs.Variant.Origins

/-!
# Atoms and the lines of a text

The order in which simple statements stand in a text, and the atoms that are given for its lines.
-/

/-!
## Leaves in the order of their lines

A tree keeps the lines of its simple statements only. If its statements can be placed on lines as
they stand in a text, each behind the one before it and within the statement around it, then its
leaves follow each other on these lines, however deep they are nested.
-/

namespace VariantRepair.Language

variable {α : Type}

/-! ### The lists of a statement -/

/-- The statements in a handler. -/
def Handler.body : Handler α → List (Stmt α)
  | .mk _ _ body => body

/-- The statements in a case. -/
def Case.body : Case α → List (Stmt α)
  | .mk _ _ body => body

/-- The lists of statements in a statement, in the order of its fields; a handler and a case have
one each. -/
def Stmt.lists : Stmt α → List (List (Stmt α))
  | .leaf _ => []
  | .function _ _ _ _ _ body | .classDef _ _ _ _ body | .with _ _ body => [body]
  | .for _ _ _ body orelse | .while _ body orelse | .if _ body orelse => [body, orelse]
  | .try _ body handlers orelse final => body :: handlers.map Handler.body ++ [orelse, final]
  | .match _ cases => cases.map Case.body

lemma handlerLeaves_eq (hs : List (Handler α)) :
    handlerLeaves hs = blockLeaves (hs.map Handler.body).flatten := by
  induction hs with
  | nil => rfl
  | cons h hs ih =>
    cases h
    rw [handlerLeaves, List.map_cons, List.flatten_cons, blockLeaves_append, ih, Handler.body]

lemma caseLeaves_eq (cs : List (Case α)) :
    caseLeaves cs = blockLeaves (cs.map Case.body).flatten := by
  induction cs with
  | nil => rfl
  | cons c cs ih =>
    cases c
    rw [caseLeaves, List.map_cons, List.flatten_cons, blockLeaves_append, ih, Case.body]

/-- The leaves of a compound statement are those of its lists, one list after the other. -/
lemma Stmt.leaves_of_lists {s : Stmt α} (h : s.lists ≠ []) :
    s.leaves = blockLeaves s.lists.flatten := by
  cases s with
  | leaf a => exact absurd rfl h
  | «function» | classDef | «with» => simp [leaves, lists]
  | «for» | «while» | «if» => simp [leaves, lists]
  | «try» => simp [leaves, lists, handlerLeaves_eq]
  | «match» => rw [leaves, lists, caseLeaves_eq]

/-! ### Places -/

/-- A statement with the first and the last of its lines. -/
structure Placed where
  statement : Stmt Located
  first : Nat
  last : Nat

namespace Placed

/-- The second statement begins on the last line of the first one or behind it. -/
def Before (t t' : Placed) : Prop :=
  t.last ≤ t'.first

/-- The statement lies within lines. -/
@[mk_iff] structure Within (first last : Nat) (t : Placed) : Prop where
  first_le : first ≤ t.first
  le_last : t.last ≤ last

end Placed

/-- A statement that is placed on lines: the statements of each of its lists follow each other, all
of them lie within its own lines, and the lists follow each other in the order of its fields. A
simple statement has its own lines. -/
inductive Stmt.LiesOn : Stmt Located → Nat → Nat → Prop
  | leaf {s : Located} (hle : s.first ≤ s.last) : LiesOn (.leaf s) s.first s.last
  | compound {s : Stmt Located} {first last : Nat} (bs : List (List Placed)) (hne : bs ≠ [])
      (hlists : s.lists = bs.map (·.map Placed.statement)) (hle : first ≤ last)
      (hfollow : ∀ b ∈ bs, b.IsChain Placed.Before)
      (hwithin : ∀ b ∈ bs, ∀ t ∈ b, t.Within first last)
      (hfields : bs.Pairwise fun b b' => ∀ t ∈ b, ∀ t' ∈ b', t.Before t')
      (hnested : ∀ b ∈ bs, ∀ t ∈ b, LiesOn t.statement t.first t.last) :
      LiesOn s first last

/-- The statements of a list can be placed on lines such that they follow each other. -/
def InSourceOrder (ss : List (Stmt Located)) : Prop :=
  ∃ ts : List Placed, ss = ts.map Placed.statement ∧ ts.IsChain Placed.Before ∧
    ∀ t ∈ ts, t.statement.LiesOn t.first t.last

lemma Stmt.exists_leaf {s : Stmt α} (hlists : s.lists = []) (hleaves : s.leaves ≠ []) :
    ∃ a, s = .leaf a := by
  cases s with
  | leaf a => exact ⟨a, rfl⟩
  | «match» subject cases =>
    rw [leaves, List.map_eq_nil_iff.mp hlists] at hleaves
    exact absurd rfl hleaves
  | _ => cases hlists

/-- The number of lists in a statement, and the lines of its leaves. -/
def Stmt.outline (s : Stmt Located) : Nat × List (Nat × Nat) :=
  (s.lists.length, s.leaves.map fun x => (x.first, x.last))

/-- A statement without lists that has a leaf is placed on the lines of that leaf. -/
lemma Stmt.liesOn_of_outline {s : Stmt Located} {first last : Nat}
    (h : s.outline = (0, [(first, last)])) (hle : first ≤ last) : s.LiesOn first last := by
  obtain ⟨hlists, hlines⟩ := Prod.mk.inj h
  obtain ⟨x, hleaves, hx⟩ := List.map_eq_singleton_iff.mp hlines
  obtain ⟨rfl, rfl⟩ := Prod.mk.inj hx
  obtain ⟨y, rfl⟩ :=
    exists_leaf (List.length_eq_zero_iff.mp hlists) (hleaves ▸ List.cons_ne_nil x [])
  obtain rfl : y = x := List.singleton_inj.mp hleaves
  exact .leaf hle

/-! ### Leaves on lines -/

/-- Simple statements that follow each other within lines. -/
structure RunWithin (first last : Nat) (xs : List Located) : Prop where
  within : ∀ x ∈ xs, first ≤ x.first ∧ x.first ≤ x.last ∧ x.last ≤ last
  pairwise : xs.Pairwise fun x y => x.last ≤ y.first

lemma RunWithin.mono {first last first' last' : Nat} {xs : List Located}
    (h : RunWithin first last xs) (hfirst : first' ≤ first) (hlast : last ≤ last') :
    RunWithin first' last' xs where
  within x hx := by
    obtain ⟨hbegins, hle, hends⟩ := h.within x hx
    exact ⟨hfirst.trans hbegins, hle, hends.trans hlast⟩
  pairwise := h.pairwise

/-- What follows a line can be put behind what ends on it. -/
lemma RunWithin.append {first middle last : Nat} {xs ys : List Located}
    (hxs : RunWithin first middle xs) (hys : RunWithin middle last ys) (hfirst : first ≤ middle)
    (hlast : middle ≤ last) : RunWithin first last (xs ++ ys) where
  within x hx := by
    obtain hx | hx := List.mem_append.mp hx
    · exact (hxs.mono le_rfl hlast).within x hx
    · exact (hys.mono hfirst le_rfl).within x hx
  pairwise := by
    refine List.pairwise_append.mpr ⟨hxs.pairwise, hys.pairwise, fun x hx y hy => ?_⟩
    exact (hxs.within x hx).2.2.trans (hys.within y hy).1

lemma Stmt.LiesOn.le {s : Stmt Located} {first last : Nat} (h : s.LiesOn first last) :
    first ≤ last := by
  cases h with
  | leaf hle => exact hle
  | compound _ _ _ hle => exact hle

/-- Where each statement ends before the next one begins, it ends before all that come later: the
lines of a statement do not go back. -/
lemma pairwise_of_follow {ts : List Placed} (hle : ∀ t ∈ ts, t.first ≤ t.last)
    (h : ts.IsChain Placed.Before) : ts.Pairwise Placed.Before := by
  induction ts with
  | nil => exact .nil
  | cons t ts ih =>
    have hle' : ∀ t' ∈ ts, t'.first ≤ t'.last := fun t' ht' => hle t' (List.mem_cons_of_mem _ ht')
    have hts : ts.Pairwise Placed.Before := ih hle' h.tail
    refine List.pairwise_cons.mpr ⟨fun t' ht' => ?_, hts⟩
    cases ts with
    | nil => exact absurd ht' List.not_mem_nil
    | cons next ts =>
      have hnext : t.last ≤ next.first := (List.isChain_cons_cons.mp h).1
      obtain rfl | ht' := List.mem_cons.mp ht'
      · exact hnext
      · have hlater : next.last ≤ t'.first := (List.pairwise_cons.mp hts).1 t' ht'
        exact hnext.trans ((hle' next List.mem_cons_self).trans hlater)

/-- The leaves of statements that follow each other do so as well. -/
lemma runWithin_blockLeaves {first last : Nat} {ts : List Placed} (h : ts.Pairwise Placed.Before)
    (hle : ∀ t ∈ ts, t.first ≤ t.last) (hwithin : ∀ t ∈ ts, t.Within first last)
    (hleaves : ∀ t ∈ ts, RunWithin t.first t.last t.statement.leaves) :
    RunWithin first last (blockLeaves (ts.map Placed.statement)) := by
  induction ts generalizing first with
  | nil => exact ⟨nofun, .nil⟩
  | cons t ts ih =>
    obtain ⟨hbefore, hts⟩ := List.pairwise_cons.mp h
    have ht : t ∈ t :: ts := List.mem_cons_self
    have hlater : RunWithin t.last last (blockLeaves (ts.map Placed.statement)) :=
      ih hts (fun t' ht' => hle t' (List.mem_cons_of_mem _ ht'))
        (fun t' ht' => ⟨hbefore t' ht', (hwithin t' (List.mem_cons_of_mem _ ht')).le_last⟩)
        fun t' ht' => hleaves t' (List.mem_cons_of_mem _ ht')
    rw [List.map_cons, blockLeaves]
    exact ((hleaves t ht).mono (hwithin t ht).first_le le_rfl).append hlater
      ((hwithin t ht).first_le.trans (hle t ht)) (hwithin t ht).le_last

/-- The leaves of a statement follow each other on its lines. The induction is on how the statement
is placed; its lists, one behind the other, are one list of statements that follow each other. -/
lemma Stmt.LiesOn.runWithin {s : Stmt Located} {first last : Nat} (h : s.LiesOn first last) :
    RunWithin first last s.leaves := by
  induction h with
  | @leaf s hle =>
    refine ⟨fun x hx => ?_, List.pairwise_singleton _ s⟩
    obtain rfl := List.mem_singleton.mp hx
    exact ⟨le_rfl, hle, le_rfl⟩
  | @compound s first last bs hne hlists hle hfollow hwithin hfields hnested ih =>
    have hsome : s.lists ≠ [] := by rwa [hlists, ne_eq, List.map_eq_nil_iff]
    have hplaced (t : Placed) (ht : t ∈ bs.flatten) : ∃ b ∈ bs, t ∈ b := List.mem_flatten.mp ht
    have hflat : bs.flatten.Pairwise Placed.Before :=
      List.pairwise_flatten.mpr ⟨fun b hb =>
        pairwise_of_follow (fun t ht => (hnested b hb t ht).le) (hfollow b hb), hfields⟩
    rw [leaves_of_lists hsome, hlists, ← List.map_flatten]
    refine runWithin_blockLeaves hflat (fun t ht => ?_) (fun t ht => ?_) fun t ht => ?_
    all_goals obtain ⟨b, hb, ht⟩ := hplaced t ht
    · exact (hnested b hb t ht).le
    · exact hwithin b hb t ht
    · exact ih b hb t ht

/-- The leaves of a list in source order follow each other within some lines. -/
lemma InSourceOrder.exists_runWithin {ss : List (Stmt Located)} (h : InSourceOrder ss) :
    ∃ last, RunWithin 0 last (blockLeaves ss) := by
  obtain ⟨ts, rfl, hfollow, hliesOn⟩ := h
  have hle (t : Placed) (ht : t ∈ ts) : t.first ≤ t.last := (hliesOn t ht).le
  have hends (t : Placed) (ht : t ∈ ts) : t.last ≤ (ts.map Placed.last).sum :=
    List.le_sum_of_mem (List.mem_map_of_mem ht)
  exact ⟨_, runWithin_blockLeaves (pairwise_of_follow hle hfollow) hle
    (fun t ht => ⟨Nat.zero_le _, hends t ht⟩) fun t ht => (hliesOn t ht).runWithin⟩

end VariantRepair.Language

/-!
## The atoms of a line

The atoms of a module that stands in source order have lines that do not go back, from one atom to
the next. So the atoms that cover a line have consecutive numbers, and since edits leave the lines
of atoms alone, these are the same atoms for as long as the module is edited.
-/

namespace VariantRepair

open VariantRepair.Language

/-- A list of numbers that go up and leave out none in between is a run of numbers. -/
lemma exists_eq_range' {ns : List Nat} (hup : ns.Pairwise (· < ·))
    (hbetween : ∀ i ∈ ns, ∀ k ∈ ns, ∀ j, i < j → j < k → j ∈ ns) :
    ∃ first count, ns = List.range' first count := by
  induction ns with
  | nil => exact ⟨0, 0, rfl⟩
  | cons n ns ih =>
    obtain ⟨hn, hns⟩ := List.pairwise_cons.mp hup
    have hrest : ∀ i ∈ ns, ∀ k ∈ ns, ∀ j, i < j → j < k → j ∈ ns := fun i hi k hk j hij hjk => by
      obtain rfl | hj := List.mem_cons.mp
        (hbetween i (List.mem_cons_of_mem n hi) k (List.mem_cons_of_mem n hk) j hij hjk)
      · exact absurd (hn i hi) (by omega)
      · exact hj
    obtain ⟨first, count, rfl⟩ := ih hns hrest
    cases count with
    | zero => exact ⟨n, 1, rfl⟩
    | succ count =>
      have hfirst : first ∈ List.range' first (count + 1) := by simp
      have hlt : n < first := hn first hfirst
      obtain rfl : first = n + 1 := by
        by_contra hgap
        have hmem := hbetween n List.mem_cons_self first (List.mem_cons_of_mem n hfirst) (n + 1)
          (by omega) (by omega)
        obtain h | h := List.mem_cons.mp hmem
        · omega
        · have := (List.mem_range'_1.mp h).1
          omega
      exact ⟨n, count + 2, rfl⟩

namespace Program.SlotModule

variable {m : SlotModule}

/-- No atom ends before it begins, and none begins before the one in front of it ends. -/
structure SpansFollow (m : SlotModule) : Prop where
  le : ∀ span ∈ m.spans, span.1 ≤ span.2
  pairwise : m.spans.Pairwise fun span next => span.2 ≤ next.1

lemma SpansFollow.le_of_lt (h : m.SpansFollow) {i k : Nat} {span later : Nat × Nat}
    (hi : m.spans[i]? = some span) (hk : m.spans[k]? = some later) (hik : i < k) :
    span.2 ≤ later.1 := by
  obtain ⟨hilt, rfl⟩ := List.getElem?_eq_some_iff.mp hi
  obtain ⟨hklt, rfl⟩ := List.getElem?_eq_some_iff.mp hk
  exact List.pairwise_iff_getElem.mp h.pairwise i k hilt hklt hik

lemma pairwise_atomsAtLine (m : SlotModule) (line : Int) :
    (m.atomsAtLine line).Pairwise (· < ·) := by
  have hsub : List.Sublist (m.atomsAtLine line) ((m.spans.zipIdx 1).map (·.2)) :=
    List.filter_sublist.map _
  rw [List.zipIdx_map_snd] at hsub
  exact List.Pairwise.sublist hsub List.pairwise_lt_range'

/-- The atoms of a line are a run of numbers: what stands between two atoms that cover the line
begins and ends on it. -/
lemma SpansFollow.exists_atomsAtLine_eq (h : m.SpansFollow) (line : Int) :
    ∃ first count, m.atomsAtLine line = List.range' first count := by
  refine exists_eq_range' (m.pairwise_atomsAtLine line) fun i hi k hk j hij hjk => ?_
  rw [mem_atomsAtLine_iff] at hi hk ⊢
  obtain ⟨i, span, hspan, rfl, -, hends⟩ := hi
  obtain ⟨k, later, hlater, rfl, hbegins, -⟩ := hk
  obtain ⟨hk, -⟩ := List.getElem?_eq_some_iff.mp hlater
  obtain ⟨j, rfl⟩ : ∃ j', j = j' + 1 := ⟨j - 1, by omega⟩
  have hmiddle : m.spans[j]? = some m.spans[j] := List.getElem?_eq_getElem (by omega)
  have hbehind : span.2 ≤ m.spans[j].1 := h.le_of_lt hspan hmiddle (by omega)
  have hbefore : m.spans[j].2 ≤ later.1 := h.le_of_lt hmiddle hlater (by omega)
  have hle : m.spans[j].1 ≤ m.spans[j].2 := h.le _ (List.mem_of_getElem? hmiddle)
  exact ⟨j, m.spans[j], hmiddle, rfl, by omega, by omega⟩

lemma spansFollow_ofStatements {ss : List (Stmt Located)} (h : InSourceOrder ss) :
    (ofStatements ss).SpansFollow := by
  obtain ⟨header, hheader, -⟩ := exists_hasHeader true ss
  obtain ⟨last, hrun⟩ := h.exists_runWithin
  rw [hheader.whole, blockLeaves_append] at hrun
  have hspans : (ofStatements ss).spans
      = (blockLeaves (splitHeader true ss).2).map fun s => (s.first, s.last) := rfl
  constructor
  · intro span hspan
    rw [hspans] at hspan
    obtain ⟨x, hx, rfl⟩ := List.mem_map.mp hspan
    exact (hrun.within x (List.mem_append_right _ hx)).2.1
  · rw [hspans]
    exact List.pairwise_map.mpr (List.pairwise_append.mp hrun.pairwise).2.1

end Program.SlotModule

open Program.SlotModule in
/-- In a module whose statements follow each other in the text, nested ones within the lines of
the statement around them, the lines of the atoms do not go back, whatever is attempted on it. So
for each line the atoms that are given are a run of consecutive numbers, they are the atoms that
covered it in the text and no others, and they are the same before and after. -/
theorem line_atoms_are_consecutive {text : String} {ss : List (Stmt Located)} (untouched : Float)
    (ts : List Attempt) (hread : readModule text = .ok ss) (horder : InSourceOrder ss) :
    ∃ v v' m,
      (Altered.readText text).run (.ofVariant (.empty .python)) = (.ok (), .ofVariant v) ∧
      (attemptAll untouched ts).run (.ofVariant v) = (.ok (), .ofVariant v') ∧
      v'.program = .module m ∧ m.spans.length = m.size ∧
      (∀ k span, m.spans[k]? = some span → span.1 ≤ span.2 ∧
        ∀ next, m.spans[k + 1]? = some next → span.2 ≤ next.1) ∧
      ∀ line : Int, ∃ first count,
        (Altered.ofVariant v').atomsAtLine (.int line)
          = .ok ((List.range' first count).map fun k : Nat => .int k) ∧
        (Altered.ofVariant v).atomsAtLine (.int line)
          = (Altered.ofVariant v').atomsAtLine (.int line) ∧
        ∀ k : Nat, k ∈ List.range' first count ↔ Covers text .python k line := by
  obtain ⟨v', m, hrun, hp, hspans, hsize⟩ :=
    exists_run_attemptAll_module untouched (v := loaded ss) rfl ts
  have hfollow := spansFollow_ofStatements horder
  refine ⟨loaded ss, v', m, run_readText_of_read hread, hrun, hp, ?_, fun k span hk => ?_,
    fun line => ?_⟩
  · rw [hspans, hsize]
    simp [ofStatements, size]
  · rw [hspans] at hk ⊢
    exact ⟨hfollow.le span (List.mem_of_getElem? hk), fun next hnext =>
      hfollow.le_of_lt hk hnext (Nat.lt_succ_self k)⟩
  · obtain ⟨first, count, hrange⟩ := hfollow.exists_atomsAtLine_eq line
    have hprogram : Program.read .python text = .ok (.module (ofStatements ss)) := by
      rw [Program.read, Program.SlotModule.read, hread]
      rfl
    refine ⟨first, count, ?_, ?_, fun k => ?_⟩
    · rw [atomsAtLine_ofVariant hp, atomsAtLine_congr hspans, hrange]
    · rw [atomsAtLine_ofVariant hp, atomsAtLine_congr hspans]
      exact atomsAtLine_ofVariant rfl line
    · rw [← Program.mem_atomsAtLine_iff hprogram, Program.atomsAtLine, hrange]
      simp

open Program.SlotModule in
/-- A try statement with a statement in each of its parts, one of them over two lines: on the line
that two statements share, both are given for it, also after one of them was exchanged with another
one and the other one was deleted. -/
theorem line_atoms_are_consecutive_try :
    ∃ ss v v', readModule ("\"d\"\ntry:\n  x = [1,\n    2]; y = 3\nexcept E:\n  z = 4\nelse:\n" ++
        "  w = 5\nfinally:\n  f()\n") = .ok ss ∧ InSourceOrder ss ∧
      (Altered.readText ("\"d\"\ntry:\n  x = [1,\n    2]; y = 3\nexcept E:\n  z = 4\nelse:\n" ++
        "  w = 5\nfinally:\n  f()\n")).run (.ofVariant (.empty .python))
        = (.ok (), .ofVariant v) ∧
      (attemptAll 0 [.swap (.int 1) (.int 5), .delete (.int 2)]).run (.ofVariant v)
        = (.ok (), .ofVariant v') ∧
      (Altered.ofVariant v').atomsAtLine (.int 4) = .ok [.int 1, .int 2] := by
  have hread := readModule_of_isSome
    ("\"d\"\ntry:\n  x = [1,\n    2]; y = 3\nexcept E:\n  z = 4\nelse:\n" ++
      "  w = 5\nfinally:\n  f()\n") (by simp) (by decide +kernel)
  generalize hss : Option.getD _ _ = ss at hread
  have hline : (ofStatements ss).atomsAtLine 4 = [1, 2] := by
    subst hss
    decide +kernel
  have houtline : ss.map (fun s => (s.outline, s.lists.map (·.map Stmt.outline)))
      = [((0, [(1, 1)]), []), ((4, [(3, 4), (4, 4), (6, 6), (8, 8), (10, 10)]),
          [[(0, [(3, 4)]), (0, [(4, 4)])], [(0, [(6, 6)])], [(0, [(8, 8)])], [(0, [(10, 10)])]])]
      := by
    subst hss
    decide +kernel
  have horder : InSourceOrder ss := by
    simp only [List.map_eq_cons_iff, List.map_eq_nil_iff, Prod.mk.injEq] at houtline
    obtain ⟨d, _, rfl, ⟨hd, -⟩, t, _, rfl, ⟨-, ht⟩, rfl⟩ := houtline
    obtain ⟨_, _, hlists, ⟨x, _, rfl, hx, y, _, rfl, hy, rfl⟩, _, _, rfl, ⟨z, _, rfl, hz, rfl⟩,
      _, _, rfl, ⟨w, _, rfl, hw, rfl⟩, _, _, rfl, ⟨f, _, rfl, hf, rfl⟩, rfl⟩ := ht
    have htry : t.LiesOn 2 10 := by
      refine .compound [[⟨x, 3, 4⟩, ⟨y, 4, 4⟩], [⟨z, 6, 6⟩], [⟨w, 8, 8⟩], [⟨f, 10, 10⟩]]
        (by simp) hlists (by decide) ?_ ?_ ?_ ?_
      · simp [Placed.Before]
      · simp [Placed.within_iff]
      · simp [Placed.Before]
      · simpa using ⟨⟨Stmt.liesOn_of_outline hx (by decide), Stmt.liesOn_of_outline hy (by decide)⟩,
          Stmt.liesOn_of_outline hz (by decide), Stmt.liesOn_of_outline hw (by decide),
          Stmt.liesOn_of_outline hf (by decide)⟩
    refine ⟨[⟨d, 1, 1⟩, ⟨t, 2, 10⟩], rfl, ?_, ?_⟩
    · simp [Placed.Before]
    · simpa using ⟨Stmt.liesOn_of_outline hd (by decide), htry⟩
  obtain ⟨v, v', m, hload, hrun, -, -, -, hatoms⟩ :=
    line_atoms_are_consecutive 0 [.swap (.int 1) (.int 5), .delete (.int 2)] hread horder
  obtain ⟨first, count, -, hsame, -⟩ := hatoms 4
  have hloaded : Altered.ofVariant v = .ofVariant (loaded ss) :=
    (Prod.mk.inj (hload.symm.trans (run_readText_of_read hread))).2
  refine ⟨ss, v, v', hread, horder, hload, hrun, ?_⟩
  rw [← hsame, hloaded, atomsAtLine_ofVariant (m := ofStatements ss) rfl, hline]
  rfl

end VariantRepair
