import VariantRepair.Language.Tree

/-!
The leaves of a tree of statements, in the order in which they stand in the text: the statements of
a list one after the other, and the lists of a compound statement in the order body, handlers, else,
finally. Leaves can be numbered in that order, and each of them can be replaced by any number of
others.
-/

namespace VariantRepair.Language

variable {α β : Type}

/-! ### Leaves -/

mutual

/-- The leaves of a statement, in order. -/
def Stmt.leaves : Stmt α → List α
  | .leaf a => [a]
  | .function _ _ _ _ _ body | .classDef _ _ _ _ body | .with _ _ body => blockLeaves body
  | .for _ _ _ body orelse | .while _ body orelse | .if _ body orelse =>
    blockLeaves body ++ blockLeaves orelse
  | .try _ body handlers orelse final =>
    blockLeaves body ++ handlerLeaves handlers ++ blockLeaves orelse ++ blockLeaves final
  | .match _ cases => caseLeaves cases

/-- The leaves of a list of statements. -/
def blockLeaves : List (Stmt α) → List α
  | [] => []
  | s :: ss => s.leaves ++ blockLeaves ss

/-- The leaves of the handlers of a try statement. -/
def handlerLeaves : List (Handler α) → List α
  | [] => []
  | .mk _ _ body :: hs => blockLeaves body ++ handlerLeaves hs

/-- The leaves of the cases of a match statement. -/
def caseLeaves : List (Case α) → List α
  | [] => []
  | .mk _ _ body :: cs => blockLeaves body ++ caseLeaves cs

end

/-! ### Numbering -/

mutual

/-- The statement with its leaves numbered in order, from `n` on. -/
def Stmt.number (n : Nat) : Stmt α → Stmt Nat
  | .leaf _ => .leaf n
  | .function isAsync decorators id params returns body =>
    .function isAsync decorators id params returns (numberBlock n body)
  | .classDef decorators id bases keywords body =>
    .classDef decorators id bases keywords (numberBlock n body)
  | .for isAsync target iterable body orelse =>
    .for isAsync target iterable (numberBlock n body)
      (numberBlock (n + (blockLeaves body).length) orelse)
  | .while test body orelse =>
    .while test (numberBlock n body) (numberBlock (n + (blockLeaves body).length) orelse)
  | .if test body orelse =>
    .if test (numberBlock n body) (numberBlock (n + (blockLeaves body).length) orelse)
  | .with isAsync items body => .with isAsync items (numberBlock n body)
  | .try isStar body handlers orelse final =>
    let h := n + (blockLeaves body).length
    let e := h + (handlerLeaves handlers).length
    let f := e + (blockLeaves orelse).length
    .try isStar (numberBlock n body) (numberHandlers h handlers) (numberBlock e orelse)
      (numberBlock f final)
  | .match subject cases => .match subject (numberCases n cases)

/-- The statements with their leaves numbered, from `n` on. -/
def numberBlock (n : Nat) : List (Stmt α) → List (Stmt Nat)
  | [] => []
  | s :: ss => s.number n :: numberBlock (n + s.leaves.length) ss

/-- The handlers with their leaves numbered, from `n` on. -/
def numberHandlers (n : Nat) : List (Handler α) → List (Handler Nat)
  | [] => []
  | .mk type id body :: hs =>
    .mk type id (numberBlock n body) :: numberHandlers (n + (blockLeaves body).length) hs

/-- The cases with their leaves numbered, from `n` on. -/
def numberCases (n : Nat) : List (Case α) → List (Case Nat)
  | [] => []
  | .mk pattern guard body :: cs =>
    .mk pattern guard (numberBlock n body) :: numberCases (n + (blockLeaves body).length) cs

end

/-! ### Replacing -/

mutual

/-- The statements that a statement becomes when each leaf `a` is replaced by the leaves `f a`. -/
def Stmt.expand (f : α → List β) : Stmt α → List (Stmt β)
  | .leaf a => (f a).map .leaf
  | .function isAsync decorators id params returns body =>
    [.function isAsync decorators id params returns (expandBlock f body)]
  | .classDef decorators id bases keywords body =>
    [.classDef decorators id bases keywords (expandBlock f body)]
  | .for isAsync target iterable body orelse =>
    [.for isAsync target iterable (expandBlock f body) (expandBlock f orelse)]
  | .while test body orelse => [.while test (expandBlock f body) (expandBlock f orelse)]
  | .if test body orelse => [.if test (expandBlock f body) (expandBlock f orelse)]
  | .with isAsync items body => [.with isAsync items (expandBlock f body)]
  | .try isStar body handlers orelse final =>
    [.try isStar (expandBlock f body) (expandHandlers f handlers) (expandBlock f orelse)
      (expandBlock f final)]
  | .match subject cases => [.match subject (expandCases f cases)]

/-- The statements with each leaf replaced. -/
def expandBlock (f : α → List β) : List (Stmt α) → List (Stmt β)
  | [] => []
  | s :: ss => s.expand f ++ expandBlock f ss

/-- The handlers with each leaf replaced. -/
def expandHandlers (f : α → List β) : List (Handler α) → List (Handler β)
  | [] => []
  | .mk type id body :: hs => .mk type id (expandBlock f body) :: expandHandlers f hs

/-- The cases with each leaf replaced. -/
def expandCases (f : α → List β) : List (Case α) → List (Case β)
  | [] => []
  | .mk pattern guard body :: cs => .mk pattern guard (expandBlock f body) :: expandCases f cs

end

end VariantRepair.Language
