import VariantRepair.Language.Parser.Expr

/-!
Reading simple statements.
-/

namespace VariantRepair.Language

open Parse

/-- The operators of assignments that compute. -/
def augmentedOps : List (String × BinaryOp) :=
  [("+=", .add), ("-=", .sub), ("*=", .mult), ("@=", .matMult), ("/=", .div), ("%=", .mod),
   ("&=", .bitAnd), ("|=", .bitOr), ("^=", .bitXor), ("<<=", .shiftLeft), (">>=", .shiftRight),
   ("**=", .pow), ("//=", .floorDiv)]

/-- A yield expression, or expressions with commas between them. -/
def rightSide (fuel : Nat) : Parse Expr := do
  if ← isWord "yield" then yieldExpr fuel else starExprs fuel

/-- The targets and the value of an assignment behind its first equality sign. -/
def assignTail (targets : List Expr) : (fuel : Nat) → Parse Simple
  | 0 => fail
  | fuel + 1 => do
    let e ← rightSide fuel
    if ← takesOp "=" then
      if e.isAssignable then assignTail (targets ++ [e]) fuel else fail
    else return .assign targets e

/-- An assignment or an expression. `bare` says that the statement does not begin with a
parenthesis. -/
def expressionStatement (bare : Bool) (fuel : Nat) : Parse Simple := do
  let e ← rightSide fuel
  match ← peek with
  | .op ":" =>
    if !e.isSingle then fail
    needOp ":"
    let note ← exprAt .expression fuel
    let value ← if ← takesOp "=" then pure (some (← rightSide fuel)) else pure none
    let isName := match e with | .name _ => true | _ => false
    return .annotated e note value (bare && isName)
  | .op "=" =>
    if !e.isAssignable then fail
    needOp "="
    assignTail [e] fuel
  | .op s =>
    match augmentedOps.lookup s with
    | some op =>
      if !e.isSingle then fail
      skip
      return .augmented op e (← rightSide fuel)
    | none => return .expr e
  | _ => return .expr e

/-- Names with dots between them. -/
def dottedName : (fuel : Nat) → Parse String
  | 0 => fail
  | fuel + 1 => do
    let id ← ident
    if ← takesOp "." then return id ++ "." ++ (← dottedName fuel) else return id

/-- The name behind `as`, if it comes. -/
def asName : Parse (Option String) := do
  if ← takesWord "as" then return some (← ident) else return none

/-- Modules to import. -/
def importNames : (fuel : Nat) → Parse (List Alias)
  | 0 => fail
  | fuel + 1 => do
    let id ← dottedName fuel
    let bound ← asName
    if ← takesOp "," then return { id, bound } :: (← importNames fuel) else return [{ id, bound }]

/-- Names to import from a module; in parentheses a comma may stand behind the last one. -/
def importedNames (closed : Bool) : (fuel : Nat) → Parse (List Alias)
  | 0 => fail
  | fuel + 1 => do
    let id ← ident
    let bound ← asName
    if ← takesOp "," then
      if closed && (← isOp ")") then return [{ id, bound }]
      else return { id, bound } :: (← importedNames closed fuel)
    else return [{ id, bound }]

/-- The dots before the name of a module. -/
def importLevel : (fuel : Nat) → Parse Nat
  | 0 => fail
  | fuel + 1 => do
    if ← takesOp "." then return 1 + (← importLevel fuel)
    else if ← takesOp "..." then return 3 + (← importLevel fuel)
    else return 0

/-- An import from a module, behind its first word. -/
def importFromTail (fuel : Nat) : Parse Simple := do
  let level ← importLevel fuel
  let module ← if ← isWord "import" then pure none else pure (some (← dottedName fuel))
  if level = 0 ∧ module.isNone then fail
  needWord "import"
  if ← takesOp "*" then return .importFrom module [{ id := "*", bound := none }] level
  else if ← takesOp "(" then
    let names ← importedNames true fuel
    needOp ")"
    return .importFrom module names level
  else return .importFrom module (← importedNames false fuel) level

/-- Names with commas between them. -/
def nameList : (fuel : Nat) → Parse (List String)
  | 0 => fail
  | fuel + 1 => do
    let id ← ident
    if ← takesOp "," then return id :: (← nameList fuel) else return [id]

/-- Does a statement end here? -/
def isStatementEnd : Parse Bool := do
  return (← isNext .newline) || (← isOp ";")

/-- What a delete statement deletes. -/
def deleteTargets : (fuel : Nat) → Parse (List Expr)
  | 0 => fail
  | fuel + 1 => do
    let e ← exprAt .primary fuel
    if !e.isDeletable then fail
    if ← takesOp "," then
      if ← isStatementEnd then return [e] else return e :: (← deleteTargets fuel)
    else if ← isStatementEnd then return [e]
    else fail

/-- A simple statement. -/
def simpleStatement (fuel : Nat) : Parse Simple := do
  match ← peek with
  | .name "pass" =>
    skip
    return .pass
  | .name "break" =>
    skip
    return .break
  | .name "continue" =>
    skip
    return .continue
  | .name "return" =>
    skip
    return .return (← attempt (starExprs fuel))
  | .name "raise" =>
    skip
    match ← attempt (exprAt .expression fuel) with
    | none => return .raise none none
    | some e =>
      if ← takesWord "from" then return .raise (some e) (some (← exprAt .expression fuel))
      else return .raise (some e) none
  | .name "assert" =>
    skip
    let test ← exprAt .expression fuel
    if ← takesOp "," then return .assert test (some (← exprAt .expression fuel))
    else return .assert test none
  | .name "del" =>
    skip
    return .delete (← deleteTargets fuel)
  | .name "import" =>
    skip
    return .import (← importNames fuel)
  | .name "from" =>
    skip
    importFromTail fuel
  | .name "global" =>
    skip
    return .global (← nameList fuel)
  | .name "nonlocal" =>
    skip
    return .nonlocal (← nameList fuel)
  | .op "(" => expressionStatement false fuel
  | _ => expressionStatement true fuel

/-- A simple statement with its lines. -/
def locatedStatement (fuel : Nat) : Parse Located := do
  let first := ((← get).rest.head?.map (·.first)).getD 0
  let statement ← simpleStatement fuel
  return { statement, first, last := (← get).last }

/-- Simple statements on one line, with semicolons between them. -/
def simpleLine : (fuel : Nat) → Parse (List Located)
  | 0 => fail
  | fuel + 1 => do
    let s ← locatedStatement fuel
    if ← takesOp ";" then
      if ← takes .newline then return [s] else return s :: (← simpleLine fuel)
    else
      need .newline
      return [s]

end VariantRepair.Language
