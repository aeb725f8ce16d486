import Mathlib.Tactic.Common
import VariantRepair.Language.Parser.Module
import VariantRepair.Proofs.Language.Filled

/-!
# Parsed trees are full

What the parser reads as a body is never empty, and a try statement that it reads has handlers or a
last block. So the tree of a module that was read has nothing to fill.
-/

namespace VariantRepair.Language

variable {α β : Type}

/-! ### What a step of reading gives -/

namespace Parse

/-- Whatever the step reads satisfies `P`. -/
def Yields (p : Parse α) (P : α → Prop) : Prop :=
  ∀ s a s', p s = some (a, s') → P a

variable {P : α → Prop} {Q : β → Prop}

lemma yields_fail : (fail : Parse α).Yields P := by
  intro s a s' h
  cases h

lemma yields_pure {a : α} (h : P a) : (pure a : Parse α).Yields P := by
  intro s a' s' h'
  cases h'
  exact h

/-- A sequence gives what its second step gives for anything that the first one may read. -/
lemma Yields.bind {p : Parse β} {f : β → Parse α} (hp : p.Yields Q)
    (hf : ∀ b, Q b → (f b).Yields P) : Yields (p >>= f) P := by
  intro s a s' h
  cases hb : p s with
  | none =>
    have hnone : (p >>= f) s = none := by simp [Bind.bind, StateT.bind, hb]
    exact absurd (hnone.symm.trans h) (by simp)
  | some r =>
    have hsome : (p >>= f) s = f r.1 r.2 := by simp [Bind.bind, StateT.bind, hb]
    exact hf r.1 (hp s r.1 r.2 hb) r.2 a s' (hsome.symm.trans h)

lemma yields_any (p : Parse β) : p.Yields fun _ => True := fun _ _ _ _ => trivial

lemma yields_bind {p : Parse β} {f : β → Parse α} (hf : ∀ b, (f b).Yields P) :
    Yields (p >>= f) P :=
  (yields_any p).bind fun b _ => hf b

lemma yields_fail_bind {f : β → Parse α} : Yields (fail >>= f) P :=
  Yields.bind yields_fail fun _ h => False.elim h

end Parse

open Parse

/-- A block that holds statements, all of them full. -/
def IsBody (ss : List (Stmt α)) : Prop :=
  ss ≠ [] ∧ FullBlock ss

lemma isBody_singleton {s : Stmt α} (h : s.IsFull) : IsBody [s] :=
  ⟨List.cons_ne_nil _ _, h, trivial⟩

lemma isBody_append {ss ts : List (Stmt α)} (hs : IsBody ss) (ht : IsBody ts) :
    IsBody (ss ++ ts) :=
  ⟨List.append_ne_nil_of_left_ne_nil hs.1 ts, fullBlock_append.mpr ⟨hs.2, ht.2⟩⟩

lemma isBody_map_leaf {as : List α} (h : as ≠ []) : IsBody (as.map Stmt.leaf) :=
  ⟨by simpa using h, fullBlock_map_leaf as⟩

/-- A line of simple statements holds at least one. -/
lemma simpleLine_yields (fuel : Nat) : (simpleLine fuel).Yields (· ≠ []) := by
  cases fuel with
  | zero => exact yields_fail
  | succ fuel =>
    rw [simpleLine]
    refine yields_bind fun s => yields_bind fun more => ?_
    split_ifs
    · refine yields_bind fun done => ?_
      split_ifs
      · exact yields_pure (List.cons_ne_nil _ _)
      · exact yields_bind fun ss => yields_pure (List.cons_ne_nil _ _)
    · exact yields_bind fun _ => yields_pure (List.cons_ne_nil _ _)

/-- With so much fuel, the parts of a module that are read are full. -/
structure ReadsFull (fuel : Nat) : Prop where
  block : (block fuel).Yields IsBody
  statements : (statements fuel).Yields IsBody
  statement : (statement fuel).Yields IsBody
  functionDef : ∀ ds, (functionDef ds fuel).Yields Stmt.IsFull
  classDef : ∀ ds, (classDef ds fuel).Yields Stmt.IsFull
  forLoop : ∀ isAsync, (forLoop isAsync fuel).Yields Stmt.IsFull
  withBlock : ∀ isAsync, (withBlock isAsync fuel).Yields Stmt.IsFull
  ifTail : (ifTail fuel).Yields Stmt.IsFull
  elseBlock : (elseBlock fuel).Yields FullBlock
  tryBlock : (tryBlock fuel).Yields Stmt.IsFull
  tryHandlers : ∀ isStar, (tryHandlers isStar fuel).Yields FullHandlers
  matchCases : (matchCases fuel).Yields FullCases

namespace ReadsFull

variable {fuel : Nat}

lemma block_succ (h : ReadsFull fuel) : (Language.block (fuel + 1)).Yields IsBody := by
  rw [Language.block]
  refine yields_bind fun _ => yields_bind fun onNewLine => ?_
  split_ifs
  · refine yields_bind fun _ => h.statements.bind fun ss hss => yields_bind fun _ => ?_
    exact yields_pure hss
  · exact (simpleLine_yields fuel).bind fun ss hss => yields_pure (isBody_map_leaf hss)

lemma statements_succ (h : ReadsFull fuel) : (Language.statements (fuel + 1)).Yields IsBody := by
  rw [Language.statements]
  refine h.statement.bind fun ss hss => yields_bind fun _ => yields_bind fun _ => ?_
  split_ifs
  · exact yields_pure hss
  · exact h.statements.bind fun ts hts => yields_pure (isBody_append hss hts)

lemma functionDef_succ (h : ReadsFull fuel) (ds : List Expr) :
    (Language.functionDef ds (fuel + 1)).Yields Stmt.IsFull := by
  rw [Language.functionDef]
  refine yields_bind fun isAsync => yields_bind fun _ => yields_bind fun id =>
    yields_bind fun _ => yields_bind fun params => yields_bind fun hasReturns => ?_
  have hbody (returns : Option Expr) :
      Yields (do return .function isAsync ds id params returns (← Language.block fuel))
        Stmt.IsFull :=
    h.block.bind fun body hbody => yields_pure hbody
  dsimp only
  split_ifs
  · exact yields_bind fun _ => yields_bind fun returns => hbody returns
  · exact yields_bind fun returns => hbody returns

lemma classDef_succ (h : ReadsFull fuel) (ds : List Expr) :
    (Language.classDef ds (fuel + 1)).Yields Stmt.IsFull := by
  rw [Language.classDef]
  refine yields_bind fun _ => yields_bind fun id => yields_bind fun hasArguments => ?_
  have hbody (args : List Expr × List (Option String × Expr)) :
      Yields (do return .classDef ds id args.1 args.2 (← Language.block fuel)) Stmt.IsFull :=
    h.block.bind fun body hbody => yields_pure hbody
  dsimp only
  split_ifs
  · exact yields_bind fun args => hbody args
  · exact yields_bind fun args => hbody args

lemma forLoop_succ (h : ReadsFull fuel) (isAsync : Bool) :
    (Language.forLoop isAsync (fuel + 1)).Yields Stmt.IsFull := by
  rw [Language.forLoop]
  refine yields_bind fun _ => yields_bind fun target => yields_bind fun _ =>
    yields_bind fun iterable => ?_
  exact h.block.bind fun body hbody => h.elseBlock.bind fun orelse horelse =>
    yields_pure ⟨hbody, horelse⟩

lemma withBlock_succ (h : ReadsFull fuel) (isAsync : Bool) :
    (Language.withBlock isAsync (fuel + 1)).Yields Stmt.IsFull := by
  rw [Language.withBlock]
  refine yields_bind fun _ => yields_bind fun items => ?_
  exact h.block.bind fun body hbody => yields_pure hbody

lemma ifTail_succ (h : ReadsFull fuel) : (Language.ifTail (fuel + 1)).Yields Stmt.IsFull := by
  rw [Language.ifTail]
  refine yields_bind fun test => h.block.bind fun body hbody => yields_bind fun isElif => ?_
  split_ifs
  · exact h.ifTail.bind fun s hs => yields_pure ⟨hbody, hs, trivial⟩
  · exact h.elseBlock.bind fun orelse horelse => yields_pure ⟨hbody, horelse⟩

lemma elseBlock_succ (h : ReadsFull fuel) :
    (Language.elseBlock (fuel + 1)).Yields FullBlock := by
  rw [Language.elseBlock]
  refine yields_bind fun hasElse => ?_
  split_ifs
  · exact fun s ss s' hss => (h.block s ss s' hss).2
  · exact yields_pure trivial

lemma tryBlock_succ (h : ReadsFull fuel) : (Language.tryBlock (fuel + 1)).Yields Stmt.IsFull := by
  rw [Language.tryBlock]
  refine yields_bind fun _ => h.block.bind fun body hbody => yields_bind fun isExcept =>
    yields_bind fun next => (h.tryHandlers _).bind fun handlers hhandlers => ?_
  generalize (isExcept && next == .op "*") = isStar
  -- a try statement that has neither handlers nor a last block is refused at its end
  have hend {orelse final : List (Stmt Located)} (horelse : FullBlock orelse)
      (hfinal : FullBlock final) :
      Yields (do
          if handlers.isEmpty && final.isEmpty then fail
          return .try isStar body handlers orelse final) Stmt.IsFull := by
    dsimp only
    split_ifs with hempty
    · exact yields_fail_bind
    · refine yields_pure ⟨hbody, hhandlers, horelse, hfinal, ?_⟩
      rintro rfl rfl
      exact hempty rfl
  have hnone : Yields (pure ([] : List (Stmt Located))) FullBlock := yields_pure trivial
  have hrest {orelse : List (Stmt Located)} (horelse : FullBlock orelse) :
      Yields (do
          let final ← if ← takesWord "finally" then Language.block fuel else pure []
          if handlers.isEmpty && final.isEmpty then fail
          return .try isStar body handlers orelse final) Stmt.IsFull := by
    refine yields_bind fun hasFinal => ?_
    dsimp only
    split_ifs
    · exact h.block.bind fun final hfinal => hend horelse hfinal.2
    · exact hnone.bind fun final hfinal => hend horelse hfinal
  dsimp only
  split_ifs
  · exact hnone.bind fun orelse horelse => hrest horelse
  · exact h.elseBlock.bind fun orelse horelse => hrest horelse

lemma tryHandlers_succ (h : ReadsFull fuel) (isStar : Bool) :
    (Language.tryHandlers isStar (fuel + 1)).Yields FullHandlers := by
  rw [Language.tryHandlers]
  have hbody (type : Option Expr) (id : Option String) :
      Yields (do
          let body ← Language.block fuel
          return .mk type id body :: (← Language.tryHandlers isStar fuel)) FullHandlers :=
    h.block.bind fun body hbody => (h.tryHandlers isStar).bind fun hs hhs =>
      yields_pure ⟨hbody, hhs⟩
  have hname (type : Option Expr) :
      Yields (do
          let id ← if type.isSome then asName else pure none
          let body ← Language.block fuel
          return .mk type id body :: (← Language.tryHandlers isStar fuel)) FullHandlers := by
    dsimp only
    split_ifs
    · exact yields_bind fun id => hbody type id
    · exact yields_bind fun id => hbody type id
  refine yields_bind fun isNext => ?_
  split_ifs
  · refine yields_bind fun hasStar => ?_
    dsimp only
    split_ifs
    · exact yields_fail_bind
    · refine yields_bind fun hasColon => ?_
      split_ifs
      · exact yields_bind fun type => hname type
      · exact yields_bind fun _ => yields_bind fun type => hname type
  · exact yields_pure trivial

lemma matchCases_succ (h : ReadsFull fuel) :
    (Language.matchCases (fuel + 1)).Yields FullCases := by
  rw [Language.matchCases]
  refine yields_bind fun _ => yields_bind fun p => yields_bind fun hasGuard => ?_
  have hbody (guard : Option Expr) :
      Yields (do
          let body ← Language.block fuel
          let c := Case.mk p guard body
          if ← isNext .dedent then return [c] else return c :: (← Language.matchCases fuel))
        FullCases := by
    refine h.block.bind fun body hbody => yields_bind fun isLast => ?_
    split_ifs
    · exact yields_pure ⟨hbody, trivial⟩
    · exact h.matchCases.bind fun cs hcs => yields_pure ⟨hbody, hcs⟩
  dsimp only
  split_ifs
  · exact yields_bind fun _ => yields_bind fun guard => hbody guard
  · exact yields_bind fun guard => hbody guard

lemma statement_succ (h : ReadsFull fuel) : (Language.statement (fuel + 1)).Yields IsBody := by
  have hone {p : Parse (Stmt Located)} (hp : p.Yields Stmt.IsFull) :
      Yields (do return [← p]) IsBody :=
    hp.bind fun s hs => yields_pure (isBody_singleton hs)
  have hline : Yields (do return (← simpleLine fuel).map .leaf) IsBody :=
    (simpleLine_yields fuel).bind fun ss hss => yields_pure (isBody_map_leaf hss)
  rw [Language.statement]
  refine yields_bind fun next => ?_
  split
  · refine yields_bind fun ds => yields_bind fun next => ?_
    split
    · exact hone (h.classDef ds)
    · exact hone (h.functionDef ds)
  · exact hone (h.functionDef [])
  · exact hone (h.classDef [])
  · refine yields_bind fun next => ?_
    split
    · exact hone (h.functionDef [])
    · exact yields_bind fun _ => hone (h.forLoop true)
    · exact yields_bind fun _ => hone (h.withBlock true)
    · exact yields_fail
  · exact yields_bind fun _ => hone h.ifTail
  · exact hone (h.forLoop false)
  · refine yields_bind fun _ => yields_bind fun test => h.block.bind fun body hbody => ?_
    exact h.elseBlock.bind fun orelse horelse =>
      yields_pure (isBody_singleton ⟨hbody, horelse⟩)
  · exact hone (h.withBlock false)
  · exact hone h.tryBlock
  · refine yields_bind fun head => ?_
    split
    · refine yields_bind fun _ => h.matchCases.bind fun cases hcases => yields_bind fun _ => ?_
      exact yields_pure (isBody_singleton hcases)
    · exact hline
  · exact hline

lemma zero : ReadsFull 0 where
  block := yields_fail
  statements := yields_fail
  statement := yields_fail
  functionDef _ := yields_fail
  classDef _ := yields_fail
  forLoop _ := yields_fail
  withBlock _ := yields_fail
  ifTail := yields_fail
  elseBlock := yields_fail
  tryBlock := yields_fail
  tryHandlers _ := yields_fail
  matchCases := yields_fail

lemma succ (h : ReadsFull fuel) : ReadsFull (fuel + 1) where
  block := h.block_succ
  statements := h.statements_succ
  statement := h.statement_succ
  functionDef := h.functionDef_succ
  classDef := h.classDef_succ
  forLoop := h.forLoop_succ
  withBlock := h.withBlock_succ
  ifTail := h.ifTail_succ
  elseBlock := h.elseBlock_succ
  tryBlock := h.tryBlock_succ
  tryHandlers := h.tryHandlers_succ
  matchCases := h.matchCases_succ

end ReadsFull

lemma readsFull (fuel : Nat) : ReadsFull fuel := by
  induction fuel with
  | zero => exact .zero
  | succ fuel ih => exact ih.succ

/-! ### Modules -/

lemma fullBlock_of_parseTokens {tokens : List Token} {ss : List (Stmt Located)}
    (h : parseTokens tokens = some ss) : FullBlock ss := by
  obtain ⟨⟨ss', rest⟩, hrun, rfl⟩ := Option.map_eq_some_iff.mp h
  refine (?_ : Yields _ FullBlock) _ ss' rest hrun
  refine yields_bind fun isEmpty => ?_
  split_ifs
  · exact yields_pure trivial
  · exact (readsFull _).statements.bind fun ss hss => yields_bind fun _ => yields_pure hss.2

lemma readModule_of_isSome (text : String) (hnul : text.contains '\x00' = false)
    (h : (lex (Text.unifyNewlines text.toList) >>= parseTokens).isSome) :
    readModule text = .ok ((lex (Text.unifyNewlines text.toList) >>= parseTokens).getD []) := by
  obtain ⟨ss, hss⟩ := Option.isSome_iff_exists.mp h
  rw [readModule, hnul, if_neg Bool.false_ne_true, hss]
  rfl

/-- The tree of a text has no gaps. -/
theorem fullBlock_of_readModule {text : String} {ss : List (Stmt Located)}
    (h : readModule text = .ok ss) : FullBlock ss := by
  rw [readModule] at h
  split_ifs at h
  cases hparsed : lex (Text.unifyNewlines text.toList) >>= parseTokens with
  | none => simp [hparsed] at h
  | some ss' =>
    obtain rfl : ss' = ss := by simpa [hparsed] using h
    obtain ⟨tokens, -, htokens⟩ := Option.bind_eq_some_iff.mp hparsed
    exact fullBlock_of_parseTokens htokens

end VariantRepair.Language
