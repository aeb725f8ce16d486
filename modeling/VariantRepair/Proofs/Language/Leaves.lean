import Mathlib.Tactic.Common
import VariantRepair.Language.Leaves

/-!
# Replacing the leaves of a tree by their numbers

A tree is taken apart by numbering its leaves and put together again by replacing each number. This
is the same as walking through the tree once and counting: the `k`-th leaf on the way is replaced by
what stands at `k`, whatever statements there are around it.
-/

namespace VariantRepair.Language

variable {α β γ : Type}

/-! ### Trees of the same shape -/

mutual

/-- The statement with each leaf changed on its own. -/
def Stmt.map (f : α → β) : Stmt α → Stmt β
  | .leaf a => .leaf (f a)
  | .function isAsync decorators id params returns body =>
    .function isAsync decorators id params returns (mapBlock f body)
  | .classDef decorators id bases keywords body =>
    .classDef decorators id bases keywords (mapBlock f body)
  | .for isAsync target iterable body orelse =>
    .for isAsync target iterable (mapBlock f body) (mapBlock f orelse)
  | .while test body orelse => .while test (mapBlock f body) (mapBlock f orelse)
  | .if test body orelse => .if test (mapBlock f body) (mapBlock f orelse)
  | .with isAsync items body => .with isAsync items (mapBlock f body)
  | .try isStar body handlers orelse final =>
    .try isStar (mapBlock f body) (mapHandlers f handlers) (mapBlock f orelse) (mapBlock f final)
  | .match subject cases => .match subject (mapCases f cases)

/-- The statements with each leaf changed on its own. -/
def mapBlock (f : α → β) : List (Stmt α) → List (Stmt β)
  | [] => []
  | s :: ss => s.map f :: mapBlock f ss

/-- The handlers with each leaf changed on its own. -/
def mapHandlers (f : α → β) : List (Handler α) → List (Handler β)
  | [] => []
  | .mk type id body :: hs => .mk type id (mapBlock f body) :: mapHandlers f hs

/-- The cases with each leaf changed on its own. -/
def mapCases (f : α → β) : List (Case α) → List (Case β)
  | [] => []
  | .mk pattern guard body :: cs => .mk pattern guard (mapBlock f body) :: mapCases f cs

end

@[simp] lemma mapBlock_append (f : α → β) (ss ts : List (Stmt α)) :
    mapBlock f (ss ++ ts) = mapBlock f ss ++ mapBlock f ts := by
  induction ss with
  | nil => rfl
  | cons s ss ih => rw [List.cons_append, mapBlock, mapBlock, ih, List.cons_append]

@[simp] lemma mapBlock_map_leaf (f : α → β) (as : List α) :
    mapBlock f (as.map .leaf) = as.map fun a => .leaf (f a) := by
  induction as with
  | nil => rfl
  | cons a as ih => rw [List.map_cons, mapBlock, ih, List.map_cons, Stmt.map]

mutual

/-- Changing the leaves and then replacing them is replacing them at once. -/
lemma Stmt.expand_map (f : β → List γ) (g : α → β) (s : Stmt α) :
    (s.map g).expand f = s.expand (f ∘ g) := by
  match s with
  | .leaf a => rfl
  | .function .. | .classDef .. | .with .. => simp only [Stmt.map, Stmt.expand, expandBlock_map]
  | .for .. | .while .. | .if .. => simp only [Stmt.map, Stmt.expand, expandBlock_map]
  | .try .. => simp only [Stmt.map, Stmt.expand, expandBlock_map, expandHandlers_map]
  | .match .. => simp only [Stmt.map, Stmt.expand, expandCases_map]

lemma expandBlock_map (f : β → List γ) (g : α → β) (ss : List (Stmt α)) :
    expandBlock f (mapBlock g ss) = expandBlock (f ∘ g) ss := by
  match ss with
  | [] => rfl
  | s :: ss => rw [mapBlock, expandBlock, expandBlock, Stmt.expand_map, expandBlock_map]

lemma expandHandlers_map (f : β → List γ) (g : α → β) (hs : List (Handler α)) :
    expandHandlers f (mapHandlers g hs) = expandHandlers (f ∘ g) hs := by
  match hs with
  | [] => rfl
  | .mk type id body :: hs =>
    rw [mapHandlers, expandHandlers, expandHandlers, expandBlock_map, expandHandlers_map]

lemma expandCases_map (f : β → List γ) (g : α → β) (cs : List (Case α)) :
    expandCases f (mapCases g cs) = expandCases (f ∘ g) cs := by
  match cs with
  | [] => rfl
  | .mk pattern guard body :: cs =>
    rw [mapCases, expandCases, expandCases, expandBlock_map, expandCases_map]

end

mutual

/-- Replacing each leaf by one other changes the leaves and nothing else. -/
lemma Stmt.expand_singleton (f : α → β) (s : Stmt α) :
    s.expand (fun a => [f a]) = [s.map f] := by
  match s with
  | .leaf a => rfl
  | .function .. | .classDef .. | .with .. =>
    simp only [Stmt.map, Stmt.expand, expandBlock_singleton]
  | .for .. | .while .. | .if .. => simp only [Stmt.map, Stmt.expand, expandBlock_singleton]
  | .try .. =>
    simp only [Stmt.map, Stmt.expand, expandBlock_singleton, expandHandlers_singleton]
  | .match .. => simp only [Stmt.map, Stmt.expand, expandCases_singleton]

lemma expandBlock_singleton (f : α → β) (ss : List (Stmt α)) :
    expandBlock (fun a => [f a]) ss = mapBlock f ss := by
  match ss with
  | [] => rfl
  | s :: ss =>
    rw [expandBlock, mapBlock, Stmt.expand_singleton, expandBlock_singleton, List.singleton_append]

lemma expandHandlers_singleton (f : α → β) (hs : List (Handler α)) :
    expandHandlers (fun a => [f a]) hs = mapHandlers f hs := by
  match hs with
  | [] => rfl
  | .mk type id body :: hs =>
    rw [expandHandlers, mapHandlers, expandBlock_singleton, expandHandlers_singleton]

lemma expandCases_singleton (f : α → β) (cs : List (Case α)) :
    expandCases (fun a => [f a]) cs = mapCases f cs := by
  match cs with
  | [] => rfl
  | .mk pattern guard body :: cs =>
    rw [expandCases, mapCases, expandBlock_singleton, expandCases_singleton]

end

/-! ### Counting on the way -/

mutual

/-- The statements that a statement becomes when the leaves on the way through it, counted from `n`
on, are replaced by what `S` holds at their counts, and the count of the next leaf behind it. -/
def Stmt.replaceFrom (S : Nat → List β) (n : Nat) : Stmt α → List (Stmt β) × Nat
  | .leaf _ => ((S n).map .leaf, n + 1)
  | .function isAsync decorators id params returns body =>
    let (body, n) := replaceBlock S n body
    ([.function isAsync decorators id params returns body], n)
  | .classDef decorators id bases keywords body =>
    let (body, n) := replaceBlock S n body
    ([.classDef decorators id bases keywords body], n)
  | .for isAsync target iterable body orelse =>
    let (body, n) := replaceBlock S n body
    let (orelse, n) := replaceBlock S n orelse
    ([.for isAsync target iterable body orelse], n)
  | .while test body orelse =>
    let (body, n) := replaceBlock S n body
    let (orelse, n) := replaceBlock S n orelse
    ([.while test body orelse], n)
  | .if test body orelse =>
    let (body, n) := replaceBlock S n body
    let (orelse, n) := replaceBlock S n orelse
    ([.if test body orelse], n)
  | .with isAsync items body =>
    let (body, n) := replaceBlock S n body
    ([.with isAsync items body], n)
  | .try isStar body handlers orelse final =>
    let (body, n) := replaceBlock S n body
    let (handlers, n) := replaceHandlers S n handlers
    let (orelse, n) := replaceBlock S n orelse
    let (final, n) := replaceBlock S n final
    ([.try isStar body handlers orelse final], n)
  | .match subject cases =>
    let (cases, n) := replaceCases S n cases
    ([.match subject cases], n)

/-- The statements with their leaves replaced by their counts, and the next count. -/
def replaceBlock (S : Nat → List β) (n : Nat) : List (Stmt α) → List (Stmt β) × Nat
  | [] => ([], n)
  | s :: ss =>
    let (s, n) := s.replaceFrom S n
    let (ss, n) := replaceBlock S n ss
    (s ++ ss, n)

/-- The handlers with their leaves replaced by their counts, and the next count. -/
def replaceHandlers (S : Nat → List β) (n : Nat) : List (Handler α) → List (Handler β) × Nat
  | [] => ([], n)
  | .mk type id body :: hs =>
    let (body, n) := replaceBlock S n body
    let (hs, n) := replaceHandlers S n hs
    (.mk type id body :: hs, n)

/-- The cases with their leaves replaced by their counts, and the next count. -/
def replaceCases (S : Nat → List β) (n : Nat) : List (Case α) → List (Case β) × Nat
  | [] => ([], n)
  | .mk pattern guard body :: cs =>
    let (body, n) := replaceBlock S n body
    let (cs, n) := replaceCases S n cs
    (.mk pattern guard body :: cs, n)

end

mutual

/-- Numbering the leaves and replacing the numbers is replacing them on the way. -/
lemma Stmt.replaceFrom_eq (S : Nat → List β) (n : Nat) (s : Stmt α) :
    s.replaceFrom S n = ((s.number n).expand S, n + s.leaves.length) := by
  match s with
  | .leaf a => rfl
  | .function .. | .classDef .. | .with .. =>
    simp only [Stmt.replaceFrom, Stmt.number, Stmt.expand, Stmt.leaves, replaceBlock_eq]
  | .for .. | .while .. | .if .. =>
    simp only [Stmt.replaceFrom, Stmt.number, Stmt.expand, Stmt.leaves, replaceBlock_eq,
      List.length_append, Nat.add_assoc]
  | .try .. =>
    simp only [Stmt.replaceFrom, Stmt.number, Stmt.expand, Stmt.leaves, replaceBlock_eq,
      replaceHandlers_eq, List.length_append, Nat.add_assoc]
  | .match .. =>
    simp only [Stmt.replaceFrom, Stmt.number, Stmt.expand, Stmt.leaves, replaceCases_eq]

lemma replaceBlock_eq (S : Nat → List β) (n : Nat) (ss : List (Stmt α)) :
    replaceBlock S n ss = (expandBlock S (numberBlock n ss), n + (blockLeaves ss).length) := by
  match ss with
  | [] => rfl
  | s :: ss =>
    simp only [replaceBlock, numberBlock, expandBlock, blockLeaves, Stmt.replaceFrom_eq S n s,
      replaceBlock_eq S _ ss, List.length_append, Nat.add_assoc]

lemma replaceHandlers_eq (S : Nat → List β) (n : Nat) (hs : List (Handler α)) :
    replaceHandlers S n hs
      = (expandHandlers S (numberHandlers n hs), n + (handlerLeaves hs).length) := by
  match hs with
  | [] => rfl
  | .mk type id body :: hs =>
    simp only [replaceHandlers, numberHandlers, expandHandlers, handlerLeaves,
      replaceBlock_eq S n body, replaceHandlers_eq S _ hs, List.length_append, Nat.add_assoc]

lemma replaceCases_eq (S : Nat → List β) (n : Nat) (cs : List (Case α)) :
    replaceCases S n cs = (expandCases S (numberCases n cs), n + (caseLeaves cs).length) := by
  match cs with
  | [] => rfl
  | .mk pattern guard body :: cs =>
    simp only [replaceCases, numberCases, expandCases, caseLeaves, replaceBlock_eq S n body,
      replaceCases_eq S _ cs, List.length_append, Nat.add_assoc]

end

/-! ### Each number back at its leaf -/

/-- What `S` holds from `n` on is what `f` gives for the leaves of a list in turn. -/
def HoldsFrom (S : Nat → List β) (f : α → List β) (n : Nat) (as : List α) : Prop :=
  ∀ i a, as[i]? = some a → S (n + i) = f a

lemma holdsFrom_append {S : Nat → List β} {f : α → List β} {n : Nat} {as bs : List α} :
    HoldsFrom S f n (as ++ bs) ↔ HoldsFrom S f n as ∧ HoldsFrom S f (n + as.length) bs := by
  constructor
  · intro h
    constructor
    · intro i a hi
      obtain ⟨hlt, -⟩ := List.getElem?_eq_some_iff.mp hi
      exact h i a (by rw [List.getElem?_append_left hlt, hi])
    · intro i a hi
      rw [Nat.add_assoc]
      exact h (as.length + i) a (by rw [List.getElem?_append_right (by omega),
        Nat.add_sub_cancel_left, hi])
  · rintro ⟨has, hbs⟩ i a hi
    by_cases hlt : i < as.length
    · exact has i a (by rwa [List.getElem?_append_left hlt] at hi)
    · obtain ⟨j, rfl⟩ : ∃ j, i = as.length + j := ⟨i - as.length, by omega⟩
      rw [List.getElem?_append_right (by omega), Nat.add_sub_cancel_left] at hi
      rw [← Nat.add_assoc]
      exact hbs j a hi

mutual

/-- Numbers that hold what their leaves give are replaced as the leaves themselves would be. -/
lemma Stmt.expand_number {S : Nat → List β} {f : α → List β} {n : Nat} (s : Stmt α)
    (h : HoldsFrom S f n s.leaves) : (s.number n).expand S = s.expand f := by
  match s with
  | .leaf a =>
    have ha : S n = f a := h 0 a rfl
    rw [Stmt.number, Stmt.expand, Stmt.expand, ha]
  | .function .. | .classDef .. | .with .. =>
    simp only [Stmt.number, Stmt.expand, expandBlock_number _ h]
  | .for .. | .while .. | .if .. =>
    obtain ⟨hbody, horelse⟩ := holdsFrom_append.mp h
    simp only [Stmt.number, Stmt.expand, expandBlock_number _ hbody, expandBlock_number _ horelse]
  | .try .. =>
    simp only [Stmt.leaves, holdsFrom_append, List.length_append, ← Nat.add_assoc] at h
    obtain ⟨⟨⟨hbody, hhandlers⟩, horelse⟩, hfinal⟩ := h
    simp only [Stmt.number, Stmt.expand, expandBlock_number _ hbody,
      expandHandlers_number _ hhandlers, expandBlock_number _ horelse,
      expandBlock_number _ hfinal]
  | .match .. => simp only [Stmt.number, Stmt.expand, expandCases_number _ h]

lemma expandBlock_number {S : Nat → List β} {f : α → List β} {n : Nat} (ss : List (Stmt α))
    (h : HoldsFrom S f n (blockLeaves ss)) :
    expandBlock S (numberBlock n ss) = expandBlock f ss := by
  match ss with
  | [] => rfl
  | s :: ss =>
    obtain ⟨hs, hss⟩ := holdsFrom_append.mp h
    rw [numberBlock, expandBlock, expandBlock, Stmt.expand_number s hs, expandBlock_number ss hss]

lemma expandHandlers_number {S : Nat → List β} {f : α → List β} {n : Nat} (hs : List (Handler α))
    (h : HoldsFrom S f n (handlerLeaves hs)) :
    expandHandlers S (numberHandlers n hs) = expandHandlers f hs := by
  match hs with
  | [] => rfl
  | .mk type id body :: hs =>
    obtain ⟨hbody, hhs⟩ := holdsFrom_append.mp h
    rw [numberHandlers, expandHandlers, expandHandlers, expandBlock_number body hbody,
      expandHandlers_number hs hhs]

lemma expandCases_number {S : Nat → List β} {f : α → List β} {n : Nat} (cs : List (Case α))
    (h : HoldsFrom S f n (caseLeaves cs)) :
    expandCases S (numberCases n cs) = expandCases f cs := by
  match cs with
  | [] => rfl
  | .mk pattern guard body :: cs =>
    obtain ⟨hbody, hcs⟩ := holdsFrom_append.mp h
    rw [numberCases, expandCases, expandCases, expandBlock_number body hbody,
      expandCases_number cs hcs]

end

end VariantRepair.Language
