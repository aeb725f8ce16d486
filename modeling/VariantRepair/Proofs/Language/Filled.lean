import Mathlib.Tactic.Common
import VariantRepair.Language.Filled
import VariantRepair.Proofs.Language.Leaves

/-!
# Trees that have no gaps

A tree is full if no block of it is empty that must hold a statement, and if no try statement is
without both handlers and a last block. Filling makes any tree full, and leaves full trees alone.
-/

namespace VariantRepair.Language

variable {α β : Type}

mutual

/-- No block in the statement is empty that must not be. -/
def Stmt.IsFull : Stmt α → Prop
  | .leaf _ => True
  | .function _ _ _ _ _ body | .classDef _ _ _ _ body | .with _ _ body =>
    body ≠ [] ∧ FullBlock body
  | .for _ _ _ body orelse | .while _ body orelse | .if _ body orelse =>
    (body ≠ [] ∧ FullBlock body) ∧ FullBlock orelse
  | .try _ body handlers orelse final =>
    (body ≠ [] ∧ FullBlock body) ∧ FullHandlers handlers ∧ FullBlock orelse ∧ FullBlock final ∧
      (handlers = [] → final ≠ [])
  | .match _ cases => FullCases cases

/-- All statements of the list are full; the list itself may be empty. -/
def FullBlock : List (Stmt α) → Prop
  | [] => True
  | s :: ss => s.IsFull ∧ FullBlock ss

/-- All handlers have a body, and it is full. -/
def FullHandlers : List (Handler α) → Prop
  | [] => True
  | .mk _ _ body :: hs => (body ≠ [] ∧ FullBlock body) ∧ FullHandlers hs

/-- All cases have a body, and it is full. -/
def FullCases : List (Case α) → Prop
  | [] => True
  | .mk _ _ body :: cs => (body ≠ [] ∧ FullBlock body) ∧ FullCases cs

end

@[simp] lemma fullBlock_append {ss ts : List (Stmt α)} :
    FullBlock (ss ++ ts) ↔ FullBlock ss ∧ FullBlock ts := by
  induction ss with
  | nil => simp [FullBlock]
  | cons s ss ih => rw [List.cons_append, FullBlock, FullBlock, ih, and_assoc]

@[simp] lemma fullBlock_map_leaf (as : List α) : FullBlock (as.map Stmt.leaf) := by
  induction as with
  | nil => trivial
  | cons a as ih => exact ⟨trivial, ih⟩

/-! ### Changed leaves -/

@[simp] lemma mapBlock_eq_nil {f : α → β} {ss : List (Stmt α)} : mapBlock f ss = [] ↔ ss = [] := by
  cases ss <;> simp [mapBlock]

@[simp] lemma mapHandlers_eq_nil {f : α → β} {hs : List (Handler α)} :
    mapHandlers f hs = [] ↔ hs = [] := by
  cases hs with
  | nil => simp [mapHandlers]
  | cons h hs => cases h; simp [mapHandlers]

mutual

/-- Whether a tree is full is not a matter of its leaves. -/
lemma Stmt.isFull_map {f : α → β} (s : Stmt α) : (s.map f).IsFull ↔ s.IsFull := by
  match s with
  | .leaf a => rfl
  | .function .. | .classDef .. | .with .. =>
    simp only [Stmt.map, Stmt.IsFull, ne_eq, mapBlock_eq_nil, fullBlock_map]
  | .for .. | .while .. | .if .. =>
    simp only [Stmt.map, Stmt.IsFull, ne_eq, mapBlock_eq_nil, fullBlock_map]
  | .try .. =>
    simp only [Stmt.map, Stmt.IsFull, ne_eq, mapBlock_eq_nil, mapHandlers_eq_nil, fullBlock_map,
      fullHandlers_map]
  | .match .. => simp only [Stmt.map, Stmt.IsFull, fullCases_map]

lemma fullBlock_map {f : α → β} (ss : List (Stmt α)) :
    FullBlock (mapBlock f ss) ↔ FullBlock ss := by
  match ss with
  | [] => rfl
  | s :: ss => rw [mapBlock, FullBlock, FullBlock, Stmt.isFull_map s, fullBlock_map ss]

lemma fullHandlers_map {f : α → β} (hs : List (Handler α)) :
    FullHandlers (mapHandlers f hs) ↔ FullHandlers hs := by
  match hs with
  | [] => rfl
  | .mk type id body :: hs =>
    simp only [mapHandlers, FullHandlers, ne_eq, mapBlock_eq_nil, fullBlock_map body,
      fullHandlers_map hs]

lemma fullCases_map {f : α → β} (cs : List (Case α)) :
    FullCases (mapCases f cs) ↔ FullCases cs := by
  match cs with
  | [] => rfl
  | .mk pattern guard body :: cs =>
    simp only [mapCases, FullCases, ne_eq, mapBlock_eq_nil, fullBlock_map body, fullCases_map cs]

end

/-! ### Filling -/

lemma orPass_of_ne_nil {ss : List (Stmt Simple)} (h : ss ≠ []) : orPass ss = ss := by
  cases ss with
  | nil => exact absurd rfl h
  | cons s ss => rfl

lemma orPass_ne_nil (ss : List (Stmt Simple)) : orPass ss ≠ [] := by
  cases ss <;> simp [orPass]

lemma fullBlock_orPass {ss : List (Stmt Simple)} (h : FullBlock ss) : FullBlock (orPass ss) := by
  cases ss with
  | nil => exact ⟨trivial, trivial⟩
  | cons s ss => exact h

mutual

/-- A full statement has nothing to fill. -/
lemma Stmt.fill_of_isFull {s : Stmt Simple} (h : s.IsFull) : s.fill = s := by
  match s, h with
  | .leaf a, _ => rfl
  | .function .., ⟨hne, hbody⟩ | .classDef .., ⟨hne, hbody⟩ | .with .., ⟨hne, hbody⟩ =>
    rw [Stmt.fill, fillBlock_of_full hbody, orPass_of_ne_nil hne]
  | .for .., ⟨⟨hne, hbody⟩, horelse⟩ | .while .., ⟨⟨hne, hbody⟩, horelse⟩
  | .if .., ⟨⟨hne, hbody⟩, horelse⟩ =>
    rw [Stmt.fill, fillBlock_of_full hbody, orPass_of_ne_nil hne, fillBlock_of_full horelse]
  | .try _ _ handlers _ _, ⟨⟨hne, hbody⟩, hhandlers, horelse, hfinal, hsome⟩ =>
    rw [Stmt.fill, fillBlock_of_full hbody, orPass_of_ne_nil hne, fillHandlers_of_full hhandlers,
      fillBlock_of_full horelse, fillBlock_of_full hfinal]
    cases handlers with
    | nil => rw [orPassUnless, if_neg (by simp), orPass_of_ne_nil (hsome rfl)]
    | cons h hs => rfl
  | .match .., hcases => rw [Stmt.fill, fillCases_of_full hcases]

/-- A full block has nothing to fill. -/
lemma fillBlock_of_full {ss : List (Stmt Simple)} (h : FullBlock ss) : fillBlock ss = ss := by
  match ss, h with
  | [], _ => rfl
  | s :: ss, ⟨hs, hss⟩ => rw [fillBlock, Stmt.fill_of_isFull hs, fillBlock_of_full hss]

lemma fillHandlers_of_full {hs : List (Handler Simple)} (h : FullHandlers hs) :
    fillHandlers hs = hs := by
  match hs, h with
  | [], _ => rfl
  | .mk type id body :: hs, ⟨⟨hne, hbody⟩, hhs⟩ =>
    rw [fillHandlers, fillBlock_of_full hbody, orPass_of_ne_nil hne, fillHandlers_of_full hhs]

lemma fillCases_of_full {cs : List (Case Simple)} (h : FullCases cs) : fillCases cs = cs := by
  match cs, h with
  | [], _ => rfl
  | .mk pattern guard body :: cs, ⟨⟨hne, hbody⟩, hcs⟩ =>
    rw [fillCases, fillBlock_of_full hbody, orPass_of_ne_nil hne, fillCases_of_full hcs]

end

mutual

/-- A filled statement is full. -/
lemma Stmt.isFull_fill (s : Stmt Simple) : s.fill.IsFull := by
  match s with
  | .leaf a => trivial
  | .function .. | .classDef .. | .with .. =>
    exact ⟨orPass_ne_nil _, fullBlock_orPass (fullBlock_fill _)⟩
  | .for .. | .while .. | .if .. =>
    exact ⟨⟨orPass_ne_nil _, fullBlock_orPass (fullBlock_fill _)⟩, fullBlock_fill _⟩
  | .try _ _ handlers _ _ =>
    refine ⟨⟨orPass_ne_nil _, fullBlock_orPass (fullBlock_fill _)⟩, fullHandlers_fill handlers,
      fullBlock_fill _, ?_, ?_⟩
    · rw [orPassUnless]
      split_ifs
      · exact fullBlock_fill _
      · exact fullBlock_orPass (fullBlock_fill _)
    · cases handlers with
      | nil => exact fun _ => orPass_ne_nil _
      | cons h hs => cases h; simp [fillHandlers]
  | .match .. => exact fullCases_fill _

/-- A filled block is full. -/
lemma fullBlock_fill (ss : List (Stmt Simple)) : FullBlock (fillBlock ss) := by
  match ss with
  | [] => trivial
  | s :: ss => exact ⟨Stmt.isFull_fill s, fullBlock_fill ss⟩

lemma fullHandlers_fill (hs : List (Handler Simple)) : FullHandlers (fillHandlers hs) := by
  match hs with
  | [] => trivial
  | .mk type id body :: hs =>
    exact ⟨⟨orPass_ne_nil _, fullBlock_orPass (fullBlock_fill body)⟩, fullHandlers_fill hs⟩

lemma fullCases_fill (cs : List (Case Simple)) : FullCases (fillCases cs) := by
  match cs with
  | [] => trivial
  | .mk pattern guard body :: cs =>
    exact ⟨⟨orPass_ne_nil _, fullBlock_orPass (fullBlock_fill body)⟩, fullCases_fill cs⟩

end

end VariantRepair.Language

/-!
## The leaves of a tree whose leaves were replaced

Replacing each leaf by others keeps their order, can be done in one step or in several, and leaves
no gap where every leaf is replaced by one at least. Numbering gives each leaf the number of its
place.
-/

namespace VariantRepair.Language

variable {α β γ : Type}

@[simp] lemma blockLeaves_append (ss ts : List (Stmt α)) :
    blockLeaves (ss ++ ts) = blockLeaves ss ++ blockLeaves ts := by
  induction ss with
  | nil => rfl
  | cons s ss ih => rw [List.cons_append, blockLeaves, blockLeaves, ih, List.append_assoc]

@[simp] lemma blockLeaves_map_leaf (as : List α) : blockLeaves (as.map Stmt.leaf) = as := by
  induction as with
  | nil => rfl
  | cons a as ih => rw [List.map_cons, blockLeaves, ih, Stmt.leaves, List.singleton_append]

@[simp] lemma expandBlock_append (f : α → List β) (ss ts : List (Stmt α)) :
    expandBlock f (ss ++ ts) = expandBlock f ss ++ expandBlock f ts := by
  induction ss with
  | nil => rfl
  | cons s ss ih => rw [List.cons_append, expandBlock, expandBlock, ih, List.append_assoc]

@[simp] lemma expandBlock_map_leaf (f : α → List β) (as : List α) :
    expandBlock f (as.map Stmt.leaf) = (as.flatMap f).map .leaf := by
  induction as with
  | nil => rfl
  | cons a as ih =>
    rw [List.map_cons, expandBlock, ih, Stmt.expand, List.flatMap_cons, List.map_append]

/-! ### Order -/

mutual

/-- What the leaves are replaced by stands in the order of the leaves. -/
lemma Stmt.leaves_expand (f : α → List β) (s : Stmt α) :
    blockLeaves (s.expand f) = s.leaves.flatMap f := by
  match s with
  | .leaf a => rw [Stmt.expand, blockLeaves_map_leaf, Stmt.leaves, List.flatMap_singleton]
  | .function .. | .classDef .. | .with .. =>
    simp only [Stmt.expand, blockLeaves, Stmt.leaves, List.append_nil, blockLeaves_expand]
  | .for .. | .while .. | .if .. =>
    simp only [Stmt.expand, blockLeaves, Stmt.leaves, List.append_nil, blockLeaves_expand,
      List.flatMap_append]
  | .try .. =>
    simp only [Stmt.expand, blockLeaves, Stmt.leaves, List.append_nil, blockLeaves_expand,
      handlerLeaves_expand, List.flatMap_append]
  | .match .. =>
    simp only [Stmt.expand, blockLeaves, Stmt.leaves, List.append_nil, caseLeaves_expand]

lemma blockLeaves_expand (f : α → List β) (ss : List (Stmt α)) :
    blockLeaves (expandBlock f ss) = (blockLeaves ss).flatMap f := by
  match ss with
  | [] => rfl
  | s :: ss =>
    rw [expandBlock, blockLeaves_append, Stmt.leaves_expand, blockLeaves_expand, blockLeaves,
      List.flatMap_append]

lemma handlerLeaves_expand (f : α → List β) (hs : List (Handler α)) :
    handlerLeaves (expandHandlers f hs) = (handlerLeaves hs).flatMap f := by
  match hs with
  | [] => rfl
  | .mk type id body :: hs =>
    rw [expandHandlers, handlerLeaves, blockLeaves_expand, handlerLeaves_expand, handlerLeaves,
      List.flatMap_append]

lemma caseLeaves_expand (f : α → List β) (cs : List (Case α)) :
    caseLeaves (expandCases f cs) = (caseLeaves cs).flatMap f := by
  match cs with
  | [] => rfl
  | .mk pattern guard body :: cs =>
    rw [expandCases, caseLeaves, blockLeaves_expand, caseLeaves_expand, caseLeaves,
      List.flatMap_append]

end

/-! ### Replacing twice -/

mutual

/-- Replacing the leaves, and then those that took their places, is replacing them once. -/
lemma Stmt.expand_expand (f : α → List β) (g : β → List γ) (s : Stmt α) :
    expandBlock g (s.expand f) = s.expand fun a => (f a).flatMap g := by
  match s with
  | .leaf a => rw [Stmt.expand, expandBlock_map_leaf, Stmt.expand]
  | .function .. | .classDef .. | .with .. =>
    simp only [Stmt.expand, expandBlock, List.append_nil, expandBlock_expand]
  | .for .. | .while .. | .if .. =>
    simp only [Stmt.expand, expandBlock, List.append_nil, expandBlock_expand]
  | .try .. =>
    simp only [Stmt.expand, expandBlock, List.append_nil, expandBlock_expand,
      expandHandlers_expand]
  | .match .. => simp only [Stmt.expand, expandBlock, List.append_nil, expandCases_expand]

lemma expandBlock_expand (f : α → List β) (g : β → List γ) (ss : List (Stmt α)) :
    expandBlock g (expandBlock f ss) = expandBlock (fun a => (f a).flatMap g) ss := by
  match ss with
  | [] => rfl
  | s :: ss =>
    rw [expandBlock, expandBlock_append, Stmt.expand_expand, expandBlock_expand, expandBlock]

lemma expandHandlers_expand (f : α → List β) (g : β → List γ) (hs : List (Handler α)) :
    expandHandlers g (expandHandlers f hs) = expandHandlers (fun a => (f a).flatMap g) hs := by
  match hs with
  | [] => rfl
  | .mk type id body :: hs =>
    rw [expandHandlers, expandHandlers, expandBlock_expand, expandHandlers_expand, expandHandlers]

lemma expandCases_expand (f : α → List β) (g : β → List γ) (cs : List (Case α)) :
    expandCases g (expandCases f cs) = expandCases (fun a => (f a).flatMap g) cs := by
  match cs with
  | [] => rfl
  | .mk pattern guard body :: cs =>
    rw [expandCases, expandCases, expandBlock_expand, expandCases_expand, expandCases]

end

/-! ### Trees without gaps -/

/-- A statement that is replaced leaves at least one. -/
lemma Stmt.expand_ne_nil {f : α → List β} (hf : ∀ a, f a ≠ []) (s : Stmt α) :
    s.expand f ≠ [] := by
  cases s with
  | leaf a => simpa only [Stmt.expand, ne_eq, List.map_eq_nil_iff] using hf a
  | _ => exact List.cons_ne_nil _ _

lemma expandBlock_ne_nil {f : α → List β} (hf : ∀ a, f a ≠ []) {ss : List (Stmt α)}
    (h : ss ≠ []) : expandBlock f ss ≠ [] := by
  cases ss with
  | nil => exact absurd rfl h
  | cons s ss => exact List.append_ne_nil_of_left_ne_nil (Stmt.expand_ne_nil hf s) _

lemma expandHandlers_eq_nil {f : α → List β} {hs : List (Handler α)} :
    expandHandlers f hs = [] ↔ hs = [] := by
  cases hs with
  | nil => simp [expandHandlers]
  | cons h hs => cases h; simp [expandHandlers]

mutual

/-- A full tree stays full where no leaf is left out. -/
lemma Stmt.fullBlock_expand_of_isFull {f : α → List β} (hf : ∀ a, f a ≠ []) {s : Stmt α}
    (h : s.IsFull) : FullBlock (s.expand f) := by
  match s, h with
  | .leaf a, _ => exact fullBlock_map_leaf (f a)
  | .function .., ⟨hne, hbody⟩ | .classDef .., ⟨hne, hbody⟩ | .with .., ⟨hne, hbody⟩ =>
    exact ⟨⟨expandBlock_ne_nil hf hne, fullBlock_expand hf hbody⟩, trivial⟩
  | .for .., ⟨⟨hne, hbody⟩, horelse⟩ | .while .., ⟨⟨hne, hbody⟩, horelse⟩
  | .if .., ⟨⟨hne, hbody⟩, horelse⟩ =>
    exact ⟨⟨⟨expandBlock_ne_nil hf hne, fullBlock_expand hf hbody⟩, fullBlock_expand hf horelse⟩,
      trivial⟩
  | .try .., ⟨⟨hne, hbody⟩, hhandlers, horelse, hfinal, hsome⟩ =>
    exact ⟨⟨⟨expandBlock_ne_nil hf hne, fullBlock_expand hf hbody⟩,
      fullHandlers_expand hf hhandlers, fullBlock_expand hf horelse, fullBlock_expand hf hfinal,
      fun hnil => expandBlock_ne_nil hf (hsome (expandHandlers_eq_nil.mp hnil))⟩, trivial⟩
  | .match .., hcases => exact ⟨fullCases_expand hf hcases, trivial⟩

lemma fullBlock_expand {f : α → List β} (hf : ∀ a, f a ≠ []) {ss : List (Stmt α)}
    (h : FullBlock ss) : FullBlock (expandBlock f ss) := by
  match ss, h with
  | [], _ => trivial
  | s :: ss, ⟨hs, hss⟩ =>
    exact fullBlock_append.mpr ⟨Stmt.fullBlock_expand_of_isFull hf hs, fullBlock_expand hf hss⟩

lemma fullHandlers_expand {f : α → List β} (hf : ∀ a, f a ≠ []) {hs : List (Handler α)}
    (h : FullHandlers hs) : FullHandlers (expandHandlers f hs) := by
  match hs, h with
  | [], _ => trivial
  | .mk type id body :: hs, ⟨⟨hne, hbody⟩, hhs⟩ =>
    exact ⟨⟨expandBlock_ne_nil hf hne, fullBlock_expand hf hbody⟩, fullHandlers_expand hf hhs⟩

lemma fullCases_expand {f : α → List β} (hf : ∀ a, f a ≠ []) {cs : List (Case α)}
    (h : FullCases cs) : FullCases (expandCases f cs) := by
  match cs, h with
  | [], _ => trivial
  | .mk pattern guard body :: cs, ⟨⟨hne, hbody⟩, hcs⟩ =>
    exact ⟨⟨expandBlock_ne_nil hf hne, fullBlock_expand hf hbody⟩, fullCases_expand hf hcs⟩

end

/-! ### Numbers -/

/-- Numbering a tree does not make it more or less full. -/
@[simp] lemma fullBlock_number (n : Nat) (ss : List (Stmt α)) :
    FullBlock (numberBlock n ss) ↔ FullBlock ss := by
  have hshape : mapBlock (fun _ => ()) (numberBlock n ss) = mapBlock (fun _ => ()) ss := by
    rw [← expandBlock_singleton, ← expandBlock_singleton]
    exact expandBlock_number ss fun _ _ _ => rfl
  rw [← fullBlock_map (f := fun _ => ()), hshape, fullBlock_map]

mutual

/-- The leaves of a numbered tree are the numbers from the first one on. -/
lemma Stmt.leaves_number (n : Nat) (s : Stmt α) :
    (s.number n).leaves = List.range' n s.leaves.length := by
  match s with
  | .leaf a => rfl
  | .function .. | .classDef .. | .with .. =>
    simp only [Stmt.number, Stmt.leaves, blockLeaves_number]
  | .for .. | .while .. | .if .. =>
    simp only [Stmt.number, Stmt.leaves, blockLeaves_number, List.length_append,
      List.range'_append_1]
  | .try .. =>
    simp only [Stmt.number, Stmt.leaves, blockLeaves_number, handlerLeaves_number,
      List.length_append, List.range'_append_1, Nat.add_assoc]
  | .match .. => simp only [Stmt.number, Stmt.leaves, caseLeaves_number]

lemma blockLeaves_number (n : Nat) (ss : List (Stmt α)) :
    blockLeaves (numberBlock n ss) = List.range' n (blockLeaves ss).length := by
  match ss with
  | [] => rfl
  | s :: ss =>
    rw [numberBlock, blockLeaves, Stmt.leaves_number, blockLeaves_number, List.range'_append_1,
      blockLeaves, List.length_append]

lemma handlerLeaves_number (n : Nat) (hs : List (Handler α)) :
    handlerLeaves (numberHandlers n hs) = List.range' n (handlerLeaves hs).length := by
  match hs with
  | [] => rfl
  | .mk type id body :: hs =>
    rw [numberHandlers, handlerLeaves, blockLeaves_number, handlerLeaves_number,
      List.range'_append_1, handlerLeaves, List.length_append]

lemma caseLeaves_number (n : Nat) (cs : List (Case α)) :
    caseLeaves (numberCases n cs) = List.range' n (caseLeaves cs).length := by
  match cs with
  | [] => rfl
  | .mk pattern guard body :: cs =>
    rw [numberCases, caseLeaves, blockLeaves_number, caseLeaves_number, List.range'_append_1,
      caseLeaves, List.length_append]

end

end VariantRepair.Language
