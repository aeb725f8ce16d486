import VariantRepair.Language.Tree

/-!
Trees whose blocks may be empty, made grammatical: an empty body gets a statement that does nothing,
and so does the last block of a try statement that has neither handlers nor that block.
-/

namespace VariantRepair.Language

/-- A block that must not be empty. -/
def orPass : List (Stmt Simple) → List (Stmt Simple)
  | [] => [.leaf .pass]
  | ss => ss

/-- The last block of a try statement: it must not be empty if there are no handlers. -/
def orPassUnless (hasHandlers : Bool) (final : List (Stmt Simple)) : List (Stmt Simple) :=
  if hasHandlers then final else orPass final

mutual

/-- The statement with its empty bodies filled. -/
def Stmt.fill : Stmt Simple → Stmt Simple
  | .leaf s => .leaf s
  | .function isAsync decorators id params returns body =>
    .function isAsync decorators id params returns (orPass (fillBlock body))
  | .classDef decorators id bases keywords body =>
    .classDef decorators id bases keywords (orPass (fillBlock body))
  | .for isAsync target iterable body orelse =>
    .for isAsync target iterable (orPass (fillBlock body)) (fillBlock orelse)
  | .while test body orelse => .while test (orPass (fillBlock body)) (fillBlock orelse)
  | .if test body orelse => .if test (orPass (fillBlock body)) (fillBlock orelse)
  | .with isAsync items body => .with isAsync items (orPass (fillBlock body))
  | .try isStar body handlers orelse final =>
    .try isStar (orPass (fillBlock body)) (fillHandlers handlers) (fillBlock orelse)
      (orPassUnless (!handlers.isEmpty) (fillBlock final))
  | .match subject cases => .match subject (fillCases cases)

/-- The statements with their empty bodies filled; the list itself may stay empty. -/
def fillBlock : List (Stmt Simple) → List (Stmt Simple)
  | [] => []
  | s :: ss => s.fill :: fillBlock ss

/-- The handlers with their empty bodies filled. -/
def fillHandlers : List (Handler Simple) → List (Handler Simple)
  | [] => []
  | .mk type id body :: hs => .mk type id (orPass (fillBlock body)) :: fillHandlers hs

/-- The cases with their empty bodies filled. -/
def fillCases : List (Case Simple) → List (Case Simple)
  | [] => []
  | .mk pattern guard body :: cs => .mk pattern guard (orPass (fillBlock body)) :: fillCases cs

end

end VariantRepair.Language
