import VariantRepair.Language.Parser.Expr

/-!
Reading the patterns of match statements.
-/

namespace VariantRepair.Language

open Parse

/-- A number, with a sign if `signed`; whether it is imaginary. -/
def patternNumber (signed : Bool) : Parse (Expr × Bool) := do
  let isNegative ← if signed then takesOp "-" else pure false
  match ← peek with
  | .number text =>
    skip
    match numberConstant? text with
    | none => fail
    | some c =>
      let isImaginary := match c with | .imaginary _ => true | _ => false
      let e := Expr.constant c
      return (if isNegative then .unary .minus e else e, isImaginary)
  | _ => fail

/-- A number, or a real number and an imaginary one with a sign between them. -/
def complexNumber : Parse Expr := do
  let (real, isImaginary) ← patternNumber true
  let sign ←
    match ← peek with
    | .op "+" => pure (some BinaryOp.add)
    | .op "-" => pure (some BinaryOp.sub)
    | _ => pure none
  match sign with
  | none => return real
  | some op =>
    skip
    let (imaginary, second) ← patternNumber false
    if isImaginary || !second then fail
    return .binary op real imaginary

/-- A name with at least one member. -/
def memberTail (e : Expr) : (fuel : Nat) → Parse Expr
  | 0 => fail
  | fuel + 1 => do
    if ← takesOp "." then memberTail (.member e (← ident)) fuel else return e

/-- A name that a pattern binds. -/
def captureName : Parse String := do
  let id ← ident
  if id = "_" ∨ (← isOp ".") ∨ (← isOp "(") ∨ (← isOp "=") then fail else return id

/-- A name that a starred pattern binds, or none. -/
def starName : Parse (Option String) := do
  if ← takesWord "_" then return none else return some (← captureName)

mutual

/-- A pattern with the name it is bound to, if any. -/
def pattern : (fuel : Nat) → Parse Pattern
  | 0 => fail
  | fuel + 1 => do
    let first ← closedPattern fuel
    let rest ← choiceTail fuel
    let p := if rest.isEmpty then first else .choice (first :: rest)
    if ← takesWord "as" then return .bind (some p) (some (← captureName)) else return p

/-- Further patterns of a choice. -/
def choiceTail : (fuel : Nat) → Parse (List Pattern)
  | 0 => fail
  | fuel + 1 => do
    if ← takesOp "|" then
      let p ← closedPattern fuel
      return p :: (← choiceTail fuel)
    else return []

/-- A pattern that is no choice. -/
def closedPattern : (fuel : Nat) → Parse Pattern
  | 0 => fail
  | fuel + 1 => do
    match ← peek with
    | .name "None" =>
      skip
      return .singleton .none
    | .name "True" =>
      skip
      return .singleton .true
    | .name "False" =>
      skip
      return .singleton .false
    | .number _ | .op "-" => return .value (← complexNumber)
    | .string _ => return .value (← strings fuel)
    | .name _ => namePattern fuel
    | .op "(" =>
      skip
      if ← takesOp ")" then return .sequence []
      let first ← starPattern fuel
      if ← takesOp "," then return .sequence (first :: (← sequenceItems ")" fuel))
      else
        needOp ")"
        match first with
        | .star _ => fail
        | p => return p
    | .op "[" =>
      skip
      return .sequence (← sequenceItems "]" fuel)
    | .op "\x7b" =>
      skip
      mappingPattern [] fuel
    | _ => fail

/-- A pattern that begins with a name: a binding, a value or a class. -/
def namePattern : (fuel : Nat) → Parse Pattern
  | 0 => fail
  | fuel + 1 => do
    let id ← ident
    let e ← memberTail (.name id) fuel
    if ← takesOp "(" then classPattern e [] [] fuel
    else
      match e with
      | .name _ =>
        if ← isOp "=" then fail
        else return .bind none (if id = "_" then none else some id)
      | e => return .value e

/-- A pattern, or a starred name. -/
def starPattern : (fuel : Nat) → Parse Pattern
  | 0 => fail
  | fuel + 1 => do
    if ← takesOp "*" then return .star (← starName) else pattern fuel

/-- The items of a sequence up to its closing bracket. -/
def sequenceItems (close : String) : (fuel : Nat) → Parse (List Pattern)
  | 0 => fail
  | fuel + 1 => do
    if ← takesOp close then return []
    let p ← starPattern fuel
    if ← takesOp "," then return p :: (← sequenceItems close fuel)
    else
      needOp close
      return [p]

/-- The items of a mapping up to its closing brace; a double star may stand last. -/
def mappingPattern (items : List (Expr × Pattern)) : (fuel : Nat) → Parse Pattern
  | 0 => fail
  | fuel + 1 => do
    if ← takesOp "\x7d" then return .mapping items none
    else if ← takesOp "**" then
      let id ← captureName
      let _ ← takesOp ","
      needOp "\x7d"
      return .mapping items (some id)
    else
      let key ← mappingKey fuel
      needOp ":"
      let p ← pattern fuel
      let items := items ++ [(key, p)]
      if ← takesOp "," then mappingPattern items fuel
      else
        needOp "\x7d"
        return .mapping items none

/-- A key of a mapping pattern: a literal or a name with members. -/
def mappingKey : (fuel : Nat) → Parse Expr
  | 0 => fail
  | fuel + 1 => do
    match ← peek with
    | .name "None" =>
      skip
      return .constant .none
    | .name "True" =>
      skip
      return .constant .true
    | .name "False" =>
      skip
      return .constant .false
    | .number _ | .op "-" => complexNumber
    | .string _ => strings fuel
    | _ =>
      let id ← ident
      match ← memberTail (.name id) fuel with
      | .member e m => return .member e m
      | _ => fail

/-- The arguments of a class pattern: patterns, then names with patterns. -/
def classPattern (cls : Expr) (args : List Pattern) (keywords : List (String × Pattern)) :
    (fuel : Nat) → Parse Pattern
  | 0 => fail
  | fuel + 1 => do
    if ← takesOp ")" then return .classOf cls args keywords
    let comma : Parse Unit := do
      if !(← takesOp ",") then
        if !(← isOp ")") then fail
    if (← peekSecond) == .op "=" then
      let id ← ident
      needOp "="
      let p ← pattern fuel
      comma
      classPattern cls args (keywords ++ [(id, p)]) fuel
    else
      if !keywords.isEmpty then fail
      let p ← pattern fuel
      comma
      classPattern cls (args ++ [p]) keywords fuel

end

/-- The pattern of a case: an open sequence, or a pattern. -/
def casePattern (fuel : Nat) : Parse Pattern := do
  let first ← starPattern fuel
  if ← takesOp "," then return .sequence (first :: (← openItems fuel))
  else
    match first with
    | .star _ => fail
    | p => return p
where
  /-- Further items of an open sequence, if any come. -/
  openItems : (fuel : Nat) → Parse (List Pattern)
    | 0 => fail
    | fuel + 1 => do
      match ← attempt (starPattern fuel) with
      | none => return []
      | some p => if ← takesOp "," then return p :: (← openItems fuel) else return [p]

end VariantRepair.Language
