import Mathlib.Tactic.Common
import VariantRepair.Proofs.Language.Filled

/-!
# The least tree without gaps

A tree grows when some of its empty blocks get a single statement that does nothing. Filling lets a
tree grow no more than it has to: the filled tree is full, and any full tree that the tree can grow
into grows out of the filled one.
-/

namespace VariantRepair.Language

/-! ### Growing -/

/-- An empty block gets a statement that does nothing, or the statements change as `grows` says. -/
def Gains (grows : Prop) (ss ts : List (Stmt Simple)) : Prop :=
  grows ∨ ss = [] ∧ ts = [.leaf .pass]

mutual

/-- The second statement is the first one in which some of the empty blocks have got a statement
that does nothing. -/
def Stmt.Grows : Stmt Simple → Stmt Simple → Prop
  | .leaf a, t => t = .leaf a
  | .function isAsync decorators id params returns body, t =>
    ∃ body', t = .function isAsync decorators id params returns body' ∧
      Gains (BlockGrows body body') body body'
  | .classDef decorators id bases keywords body, t =>
    ∃ body', t = .classDef decorators id bases keywords body' ∧
      Gains (BlockGrows body body') body body'
  | .for isAsync target iterable body orelse, t =>
    ∃ body' orelse', t = .for isAsync target iterable body' orelse' ∧
      Gains (BlockGrows body body') body body' ∧ Gains (BlockGrows orelse orelse') orelse orelse'
  | .while test body orelse, t =>
    ∃ body' orelse', t = .while test body' orelse' ∧
      Gains (BlockGrows body body') body body' ∧ Gains (BlockGrows orelse orelse') orelse orelse'
  | .if test body orelse, t =>
    ∃ body' orelse', t = .if test body' orelse' ∧
      Gains (BlockGrows body body') body body' ∧ Gains (BlockGrows orelse orelse') orelse orelse'
  | .with isAsync items body, t =>
    ∃ body', t = .with isAsync items body' ∧ Gains (BlockGrows body body') body body'
  | .try isStar body handlers orelse final, t =>
    ∃ body' handlers' orelse' final', t = .try isStar body' handlers' orelse' final' ∧
      Gains (BlockGrows body body') body body' ∧ HandlersGrow handlers handlers' ∧
      Gains (BlockGrows orelse orelse') orelse orelse' ∧
      Gains (BlockGrows final final') final final'
  | .match subject cases, t => ∃ cases', t = .match subject cases' ∧ CasesGrow cases cases'
termination_by structural s => s

/-- The statements grow one by one; none is added to the list itself. -/
def BlockGrows : List (Stmt Simple) → List (Stmt Simple) → Prop
  | [], ts => ts = []
  | s :: ss, ts => ∃ t ts', ts = t :: ts' ∧ s.Grows t ∧ BlockGrows ss ts'

/-- The bodies of the handlers grow. -/
def HandlersGrow : List (Handler Simple) → List (Handler Simple) → Prop
  | [], gs => gs = []
  | .mk type id body :: hs, gs =>
    ∃ body' gs', gs = .mk type id body' :: gs' ∧ Gains (BlockGrows body body') body body' ∧
      HandlersGrow hs gs'

/-- The bodies of the cases grow. -/
def CasesGrow : List (Case Simple) → List (Case Simple) → Prop
  | [], ds => ds = []
  | .mk pattern guard body :: cs, ds =>
    ∃ body' ds', ds = .mk pattern guard body' :: ds' ∧ Gains (BlockGrows body body') body body' ∧
      CasesGrow cs ds'

end

/-- A block of a compound statement becomes another one. -/
abbrev BodyGrows (ss ts : List (Stmt Simple)) : Prop :=
  Gains (BlockGrows ss ts) ss ts

mutual

/-- A tree may stay as it is. -/
lemma Stmt.Grows.refl (s : Stmt Simple) : s.Grows s := by
  match s with
  | .leaf a => rfl
  | .function .. | .classDef .. | .with .. => exact ⟨_, rfl, .inl (.refl _)⟩
  | .for .. | .while .. | .if .. => exact ⟨_, _, rfl, .inl (.refl _), .inl (.refl _)⟩
  | .try .. =>
    exact ⟨_, _, _, _, rfl, .inl (.refl _), .refl _, .inl (.refl _), .inl (.refl _)⟩
  | .match .. => exact ⟨_, rfl, .refl _⟩

lemma BlockGrows.refl (ss : List (Stmt Simple)) : BlockGrows ss ss := by
  match ss with
  | [] => rfl
  | s :: ss => exact ⟨s, ss, rfl, .refl s, .refl ss⟩

lemma HandlersGrow.refl (hs : List (Handler Simple)) : HandlersGrow hs hs := by
  match hs with
  | [] => rfl
  | .mk type id body :: hs => exact ⟨body, hs, rfl, .inl (.refl body), .refl hs⟩

lemma CasesGrow.refl (cs : List (Case Simple)) : CasesGrow cs cs := by
  match cs with
  | [] => rfl
  | .mk pattern guard body :: cs => exact ⟨body, cs, rfl, .inl (.refl body), .refl cs⟩

end

/-! ### Filling -/

/-- A body that must not be empty is filled no more than it has to be. -/
lemma gains_orPass_of_full {ss ts : List (Stmt Simple)} (h : BodyGrows ss ts) (hne : ts ≠ [])
    (hfilled : BlockGrows ss ts → BlockGrows (fillBlock ss) ts) :
    BodyGrows (orPass (fillBlock ss)) ts := by
  rcases h with hgrows | ⟨rfl, rfl⟩
  · cases ss with
    | nil => exact absurd hgrows hne
    | cons s ss => exact .inl (hfilled hgrows)
  · exact .inl (.refl _)

/-- A body that may be empty is left so. -/
lemma gains_fillBlock_of_full {ss ts : List (Stmt Simple)} (h : BodyGrows ss ts)
    (hfilled : BlockGrows ss ts → BlockGrows (fillBlock ss) ts) : BodyGrows (fillBlock ss) ts := by
  rcases h with hgrows | ⟨rfl, rfl⟩
  · exact .inl (hfilled hgrows)
  · exact .inr ⟨rfl, rfl⟩

lemma bodyGrows_orPass {ss : List (Stmt Simple)} (h : BlockGrows ss (fillBlock ss)) :
    BodyGrows ss (orPass (fillBlock ss)) := by
  cases ss with
  | nil => exact .inr ⟨rfl, rfl⟩
  | cons s ss => exact .inl h

lemma bodyGrows_orPassUnless {ss : List (Stmt Simple)} (hasHandlers : Bool)
    (h : BlockGrows ss (fillBlock ss)) :
    BodyGrows ss (orPassUnless hasHandlers (fillBlock ss)) := by
  cases hasHandlers with
  | true => exact .inl h
  | false => exact bodyGrows_orPass h

mutual

/-- Filling only adds to empty blocks. -/
lemma Stmt.grows_fill (s : Stmt Simple) : s.Grows s.fill := by
  match s with
  | .leaf a => rfl
  | .function .. | .classDef .. | .with .. => exact ⟨_, rfl, bodyGrows_orPass (blockGrows_fill _)⟩
  | .for .. | .while .. | .if .. =>
    exact ⟨_, _, rfl, bodyGrows_orPass (blockGrows_fill _), .inl (blockGrows_fill _)⟩
  | .try .. =>
    exact ⟨_, _, _, _, rfl, bodyGrows_orPass (blockGrows_fill _), handlersGrow_fill _,
      .inl (blockGrows_fill _), bodyGrows_orPassUnless _ (blockGrows_fill _)⟩
  | .match .. => exact ⟨_, rfl, casesGrow_fill _⟩

lemma blockGrows_fill (ss : List (Stmt Simple)) : BlockGrows ss (fillBlock ss) := by
  match ss with
  | [] => rfl
  | s :: ss => exact ⟨s.fill, fillBlock ss, rfl, Stmt.grows_fill s, blockGrows_fill ss⟩

lemma handlersGrow_fill (hs : List (Handler Simple)) : HandlersGrow hs (fillHandlers hs) := by
  match hs with
  | [] => rfl
  | .mk type id body :: hs =>
    exact ⟨_, _, rfl, bodyGrows_orPass (blockGrows_fill body), handlersGrow_fill hs⟩

lemma casesGrow_fill (cs : List (Case Simple)) : CasesGrow cs (fillCases cs) := by
  match cs with
  | [] => rfl
  | .mk pattern guard body :: cs =>
    exact ⟨_, _, rfl, bodyGrows_orPass (blockGrows_fill body), casesGrow_fill cs⟩

end

/-- Where there are no handlers, the last block must not be empty, and else it is left as it is. -/
lemma gains_orPassUnless_of_full {hs gs : List (Handler Simple)} {ss ts : List (Stmt Simple)}
    (hhandlers : HandlersGrow hs gs) (h : BodyGrows ss ts) (hsome : gs = [] → ts ≠ [])
    (hfilled : BlockGrows ss ts → BlockGrows (fillBlock ss) ts) :
    BodyGrows (orPassUnless (!hs.isEmpty) (fillBlock ss)) ts := by
  cases hs with
  | nil => exact gains_orPass_of_full h (hsome hhandlers) hfilled
  | cons g hs => exact gains_fillBlock_of_full h hfilled

mutual

/-- What a statement grows into, if it is full, is what the filled statement grows into. -/
lemma Stmt.grows_of_isFull {s t : Stmt Simple} (h : s.Grows t) (ht : t.IsFull) :
    s.fill.Grows t := by
  match s with
  | .leaf a => exact h
  | .function .. | .classDef .. | .with .. =>
    obtain ⟨body', rfl, hbody⟩ := h
    obtain ⟨hne, hfull⟩ := ht
    exact ⟨body', rfl, gains_orPass_of_full hbody hne fun hb => blockGrows_of_full hb hfull⟩
  | .for .. | .while .. | .if .. =>
    obtain ⟨body', orelse', rfl, hbody, horelse⟩ := h
    obtain ⟨⟨hne, hbodyFull⟩, horelseFull⟩ := ht
    exact ⟨body', orelse', rfl,
      gains_orPass_of_full hbody hne fun hb => blockGrows_of_full hb hbodyFull,
      gains_fillBlock_of_full horelse fun hb => blockGrows_of_full hb horelseFull⟩
  | .try .. =>
    obtain ⟨body', handlers', orelse', final', rfl, hbody, hhandlers, horelse, hfinal⟩ := h
    obtain ⟨⟨hne, hbodyFull⟩, hhandlersFull, horelseFull, hfinalFull, hsome⟩ := ht
    exact ⟨body', handlers', orelse', final', rfl,
      gains_orPass_of_full hbody hne fun hb => blockGrows_of_full hb hbodyFull,
      handlersGrow_of_full hhandlers hhandlersFull,
      gains_fillBlock_of_full horelse fun hb => blockGrows_of_full hb horelseFull,
      gains_orPassUnless_of_full hhandlers hfinal hsome
        fun hb => blockGrows_of_full hb hfinalFull⟩
  | .match .. =>
    obtain ⟨cases', rfl, hcases⟩ := h
    exact ⟨cases', rfl, casesGrow_of_full hcases ht⟩

lemma blockGrows_of_full {ss ts : List (Stmt Simple)} (h : BlockGrows ss ts)
    (hts : FullBlock ts) : BlockGrows (fillBlock ss) ts := by
  match ss with
  | [] => exact h
  | s :: ss =>
    obtain ⟨t, ts', rfl, hs, hss⟩ := h
    exact ⟨t, ts', rfl, Stmt.grows_of_isFull hs hts.1, blockGrows_of_full hss hts.2⟩

lemma handlersGrow_of_full {hs gs : List (Handler Simple)} (h : HandlersGrow hs gs)
    (hgs : FullHandlers gs) : HandlersGrow (fillHandlers hs) gs := by
  match hs with
  | [] => exact h
  | .mk type id body :: hs =>
    obtain ⟨body', gs', rfl, hbody, hhs⟩ := h
    obtain ⟨⟨hne, hfull⟩, hrest⟩ := hgs
    exact ⟨body', gs', rfl,
      gains_orPass_of_full hbody hne fun hb => blockGrows_of_full hb hfull,
      handlersGrow_of_full hhs hrest⟩

lemma casesGrow_of_full {cs ds : List (Case Simple)} (h : CasesGrow cs ds)
    (hds : FullCases ds) : CasesGrow (fillCases cs) ds := by
  match cs with
  | [] => exact h
  | .mk pattern guard body :: cs =>
    obtain ⟨body', ds', rfl, hbody, hcs⟩ := h
    obtain ⟨⟨hne, hfull⟩, hrest⟩ := hds
    exact ⟨body', ds', rfl,
      gains_orPass_of_full hbody hne fun hb => blockGrows_of_full hb hfull,
      casesGrow_of_full hcs hrest⟩

end

/-- The second tree is the first one with its gaps filled and with nothing else added: it is full,
every full tree that the first one grows into grows out of it, and a tree without gaps is left as it
is. -/
structure Fills (ss ts : List (Stmt Simple)) : Prop where
  grows : BlockGrows ss ts
  full : FullBlock ts
  least : ∀ us, BlockGrows ss us → FullBlock us → BlockGrows ts us
  same : FullBlock ss → ts = ss

/-- Filling gives the least full tree that a tree grows into. -/
lemma fills_fillBlock (ss : List (Stmt Simple)) : Fills ss (fillBlock ss) where
  grows := blockGrows_fill ss
  full := fullBlock_fill ss
  least _ hgrows hfull := blockGrows_of_full hgrows hfull
  same := fillBlock_of_full

lemma fillBlock_append (ss ts : List (Stmt Simple)) :
    fillBlock (ss ++ ts) = fillBlock ss ++ fillBlock ts := by
  induction ss with
  | nil => rfl
  | cons s ss ih => rw [List.cons_append, fillBlock, fillBlock, ih, List.cons_append]

/-- What stands before a tree and has no gaps is left as it is. -/
lemma fillBlock_append_of_full {ss : List (Stmt Simple)} (h : FullBlock ss)
    (ts : List (Stmt Simple)) : fillBlock (ss ++ ts) = ss ++ fillBlock ts := by
  rw [fillBlock_append, fillBlock_of_full h]

end VariantRepair.Language
