/-!
Syntax trees of Python modules: expressions, patterns, simple statements, and compound statements
over any kind of leaf. A parsed module has simple statements as leaves; a numbered one has numbers.
-/

namespace VariantRepair.Language

/-- A constant. Strings are code points, since they may hold surrogates; `marked` says that a string
was written with the mark for Unicode. -/
inductive Constant where
  | none
  | true
  | false
  | ellipsis
  | int (n : Nat)
  | float (x : Float)
  | imaginary (x : Float)
  | str (points : List Nat) (marked : Bool)
  | bytes (bs : List Nat)
deriving Inhabited

inductive BinaryOp where
  | add | sub | mult | matMult | div | mod | shiftLeft | shiftRight | bitOr | bitXor | bitAnd
  | floorDiv | pow
deriving Repr, DecidableEq

inductive UnaryOp where
  | invert | not | plus | minus
deriving Repr, DecidableEq

inductive LogicOp where
  | and | or
deriving Repr, DecidableEq

inductive CompareOp where
  | eq | notEq | lt | ltE | gt | gtE | is | isNot | isIn | notIn
deriving Repr, DecidableEq

/-- How a value in a formatted string is converted first. -/
inductive Conversion where
  | str | repr | ascii
deriving Repr, DecidableEq

mutual

/-- An expression. -/
inductive Expr where
  | constant (c : Constant)
  | name (id : String)
  | member (value : Expr) (id : String)
  | subscript (value index : Expr)
  | slice (lower upper step : Option Expr)
  | starred (value : Expr)
  | call (function : Expr) (arguments : List Expr) (keywords : List (Option String × Expr))
  | unary (op : UnaryOp) (operand : Expr)
  | binary (op : BinaryOp) (left right : Expr)
  | logic (op : LogicOp) (values : List Expr)
  | compare (left : Expr) (rest : List (CompareOp × Expr))
  | conditional (test body orelse : Expr)
  | lambda (params : Params) (body : Expr)
  | named (target : String) (value : Expr)
  | list (items : List Expr)
  | tuple (items : List Expr)
  | set (items : List Expr)
  | dict (items : List (Option Expr × Expr))
  | listComp (element : Expr) (clauses : List Clause)
  | setComp (element : Expr) (clauses : List Clause)
  | dictComp (key value : Expr) (clauses : List Clause)
  | generator (element : Expr) (clauses : List Clause)
  | await (value : Expr)
  | yield (value : Option Expr)
  | yieldFrom (value : Expr)
  | formatted (parts : List Part)

/-- A part of a formatted string: text, or a value with its conversion and format. -/
inductive Part where
  | literal (points : List Nat)
  | value (value : Expr) (conversion : Option Conversion) (format : Option (List Part))

/-- One `for` of a comprehension, with the conditions behind it. -/
inductive Clause where
  | mk (isAsync : Bool) (target iterable : Expr) (conditions : List Expr)

/-- A parameter with its annotation and its default. -/
inductive Param where
  | mk (id : String) (note : Option Expr) (default : Option Expr)

/-- The parameters of a function, by the ways in which they are passed. -/
inductive Params where
  | mk (positional regular : List Param) (rest : Option Param) (keyword : List Param)
      (keywords : Option Param)

end

instance : Inhabited Expr := ⟨.constant .none⟩

/-- A pattern of a match statement. -/
inductive Pattern where
  | value (e : Expr)
  | singleton (c : Constant)
  | sequence (items : List Pattern)
  | mapping (items : List (Expr × Pattern)) (rest : Option String)
  | classOf (cls : Expr) (arguments : List Pattern) (keywords : List (String × Pattern))
  | star (id : Option String)
  | bind (pattern : Option Pattern) (id : Option String)
  | choice (items : List Pattern)
deriving Inhabited

/-- A name with the name that it is imported as. -/
structure Alias where
  id : String
  bound : Option String
deriving Repr, DecidableEq

/-- A statement that holds no others. -/
inductive Simple where
  | expr (e : Expr)
  | assign (targets : List Expr) (value : Expr)
  | augmented (op : BinaryOp) (target value : Expr)
  /-- A target with a type; `bare` says that it is a name without parentheses. -/
  | annotated (target note : Expr) (value : Option Expr) (bare : Bool)
  | delete (targets : List Expr)
  | return (value : Option Expr)
  | raise (exception cause : Option Expr)
  | assert (test : Expr) (message : Option Expr)
  | import (names : List Alias)
  | importFrom (module : Option String) (names : List Alias) (level : Nat)
  | global (names : List String)
  | nonlocal (names : List String)
  | pass
  | break
  | continue
deriving Inhabited

mutual

/-- A statement over leaves. -/
inductive Stmt (α : Type) where
  | leaf (a : α)
  | function (isAsync : Bool) (decorators : List Expr) (id : String) (params : Params)
      (returns : Option Expr) (body : List (Stmt α))
  | classDef (decorators : List Expr) (id : String) (bases : List Expr)
      (keywords : List (Option String × Expr)) (body : List (Stmt α))
  | for (isAsync : Bool) (target iterable : Expr) (body orelse : List (Stmt α))
  | while (test : Expr) (body orelse : List (Stmt α))
  | if (test : Expr) (body orelse : List (Stmt α))
  | with (isAsync : Bool) (items : List (Expr × Option Expr)) (body : List (Stmt α))
  | try (isStar : Bool) (body : List (Stmt α)) (handlers : List (Handler α))
      (orelse final : List (Stmt α))
  | match (subject : Expr) (cases : List (Case α))

/-- A handler of a try statement. -/
inductive Handler (α : Type) where
  | mk (type : Option Expr) (id : Option String) (body : List (Stmt α))

/-- A case of a match statement. -/
inductive Case (α : Type) where
  | mk (pattern : Pattern) (guard : Option Expr) (body : List (Stmt α))

end

instance {α : Type} [Inhabited α] : Inhabited (Stmt α) := ⟨.leaf default⟩

/-- A simple statement with the first and the last of its lines. -/
structure Located where
  statement : Simple
  first : Nat
  last : Nat

end VariantRepair.Language
