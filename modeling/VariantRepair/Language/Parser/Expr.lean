import VariantRepair.Language.Input
import VariantRepair.Language.Literal

/-!
Reading expressions. Operators are read by level: the operands of a level are read on the next one.
Every function has a bound on the depth of its calls, which is far above what the tokens need.
-/

namespace VariantRepair.Language

open Parse

/-- The levels of expressions, from the widest to the tightest. -/
inductive Level where
  | expression
  | disjunction
  | conjunction
  | inversion
  | comparison
  | bitOr
  | bitXor
  | bitAnd
  | shift
  | sum
  | term
  | factor
  | power
  | awaited
  | primary
deriving Repr, DecidableEq

/-- The binary operators of a level, and the level of their operands. -/
def Level.binary? : Level → Option (List (String × BinaryOp) × Level)
  | .bitOr => some ([("|", .bitOr)], .bitXor)
  | .bitXor => some ([("^", .bitXor)], .bitAnd)
  | .bitAnd => some ([("&", .bitAnd)], .shift)
  | .shift => some ([("<<", .shiftLeft), (">>", .shiftRight)], .sum)
  | .sum => some ([("+", .add), ("-", .sub)], .term)
  | .term =>
    some ([("*", .mult), ("/", .div), ("//", .floorDiv), ("%", .mod), ("@", .matMult)], .factor)
  | _ => none

/-- The operators of comparisons that are no words. -/
def comparisonOps : List (String × CompareOp) :=
  [("==", .eq), ("!=", .notEq), ("<=", .ltE), ("<", .lt), (">=", .gtE), (">", .gt)]

/-- Take an operator of a comparison, if one comes. -/
def takeComparison : Parse (Option CompareOp) := do
  match ← peek with
  | .op s =>
    match comparisonOps.lookup s with
    | some op =>
      skip
      return some op
    | none => return none
  | .name "in" =>
    skip
    return some .isIn
  | .name "not" =>
    if (← peekSecond) == .name "in" then
      skip
      skip
      return some .notIn
    else return none
  | .name "is" =>
    skip
    return some (if ← takesWord "not" then .isNot else .is)
  | _ => return none

/-- Take a sign or the mark of inversion, if one comes. -/
def takeUnary : Parse (Option UnaryOp) := do
  match ← peek with
  | .op "+" =>
    skip
    return some .plus
  | .op "-" =>
    skip
    return some .minus
  | .op "~" =>
    skip
    return some .invert
  | _ => return none

/-- Does a comprehension begin here? -/
def isClause : Parse Bool := do
  return (← isWord "for") || ((← isWord "async") && (← peekSecond) == .name "for")

/-- Does an assignment within an expression begin here? -/
def isNamed : Parse Bool := do
  match ← peek with
  | .name s => return !keywords.contains s && (← peekSecond) == .op ":="
  | _ => return false

/-- What has been read of the arguments of a call: which kinds may still come. -/
inductive ArgumentPhase where
  | positional
  | keyword
  | mapping
deriving Repr, DecidableEq

/-- The parameters of a function, as they are read one by one. -/
structure ParamList where
  positional : List Param
  regular : List Param
  rest : Option Param
  keyword : List Param
  keywords : Option Param
  /-- Has a star come, so that parameters are passed by name? -/
  named : Bool
  /-- Does a star without a name wait for a parameter? -/
  waiting : Bool
  /-- Has a parameter had a default? -/
  defaulted : Bool
  /-- Has the mark of positional parameters come? -/
  marked : Bool

def ParamList.empty : ParamList :=
  { positional := [], regular := [], rest := none, keyword := [], keywords := none, named := false
    waiting := false, defaulted := false, marked := false }

def ParamList.toParams (p : ParamList) : Params :=
  .mk p.positional p.regular p.rest p.keyword p.keywords

/-- Add a parameter. A parameter without default may not follow one with default. -/
def ParamList.add (p : ParamList) (id : String) (note default : Option Expr) : Option ParamList :=
  let param := Param.mk id note default
  if p.named then some { p with keyword := p.keyword ++ [param], waiting := false }
  else if p.defaulted && default.isNone then none
  else some { p with regular := p.regular ++ [param], defaulted := default.isSome }

/-- Make the parameters so far positional. -/
def ParamList.mark (p : ParamList) : Option ParamList :=
  if p.marked || p.named || p.regular.isEmpty then none
  else some { p with positional := p.regular, regular := [], marked := true }

mutual

/-- An expression of a level. -/
def exprAt (level : Level) : (fuel : Nat) → Parse Expr
  | 0 => fail
  | fuel + 1 =>
    match level with
    | .expression => do
      if ← isWord "lambda" then lambdaExpr fuel
      else
        let body ← exprAt .disjunction fuel
        if ← takesWord "if" then
          let test ← exprAt .disjunction fuel
          needWord "else"
          let orelse ← exprAt .expression fuel
          return .conditional test body orelse
        else return body
    | .disjunction => do
      let first ← exprAt .conjunction fuel
      match ← logicTail "or" .conjunction fuel with
      | [] => return first
      | rest => return .logic .or (first :: rest)
    | .conjunction => do
      let first ← exprAt .inversion fuel
      match ← logicTail "and" .inversion fuel with
      | [] => return first
      | rest => return .logic .and (first :: rest)
    | .inversion => do
      if ← takesWord "not" then return .unary .not (← exprAt .inversion fuel)
      else exprAt .comparison fuel
    | .comparison => do
      let left ← exprAt .bitOr fuel
      match ← compareTail fuel with
      | [] => return left
      | rest => return .compare left rest
    | .factor => do
      match ← takeUnary with
      | some op => return .unary op (← exprAt .factor fuel)
      | none => exprAt .power fuel
    | .power => do
      let base ← exprAt .awaited fuel
      if ← takesOp "**" then return .binary .pow base (← exprAt .factor fuel)
      else return base
    | .awaited => do
      if ← takesWord "await" then return .await (← exprAt .primary fuel)
      else exprAt .primary fuel
    | .primary => do
      let e ← atom fuel
      primaryTail e fuel
    | level =>
      match level.binary? with
      | some (_, next) => do
        let left ← exprAt next fuel
        binaryTail level left fuel
      | none => fail

/-- The operands behind further words of a logical operator. -/
def logicTail (word : String) (next : Level) : (fuel : Nat) → Parse (List Expr)
  | 0 => fail
  | fuel + 1 => do
    if ← takesWord word then
      let e ← exprAt next fuel
      return e :: (← logicTail word next fuel)
    else return []

/-- The operators and operands of a comparison. -/
def compareTail : (fuel : Nat) → Parse (List (CompareOp × Expr))
  | 0 => fail
  | fuel + 1 => do
    match ← takeComparison with
    | some op =>
      let e ← exprAt .bitOr fuel
      return (op, e) :: (← compareTail fuel)
    | none => return []

/-- Binary operators of a level behind a left operand. -/
def binaryTail (level : Level) (left : Expr) : (fuel : Nat) → Parse Expr
  | 0 => fail
  | fuel + 1 => do
    match level.binary?, ← peek with
    | some (ops, next), .op s =>
      match ops.lookup s with
      | some op =>
        skip
        let right ← exprAt next fuel
        binaryTail level (.binary op left right) fuel
      | none => return left
    | _, _ => return left

/-- Members, calls and subscripts behind an expression. -/
def primaryTail (e : Expr) : (fuel : Nat) → Parse Expr
  | 0 => fail
  | fuel + 1 => do
    match ← peek with
    | .op "." =>
      skip
      primaryTail (.member e (← ident)) fuel
    | .op "(" =>
      skip
      let (args, keywords) ← arguments true .positional fuel
      primaryTail (.call e args keywords) fuel
    | .op "[" =>
      skip
      let index ← subscriptIndex fuel
      needOp "]"
      primaryTail (.subscript e index) fuel
    | _ => return e

/-- The arguments of a call up to the closing bracket: first those without name, then names and
stars, then double stars. A comprehension may stand there alone. -/
def arguments (first : Bool) (phase : ArgumentPhase) : (fuel : Nat) →
    Parse (List Expr × List (Option String × Expr))
  | 0 => fail
  | fuel + 1 => do
    if ← takesOp ")" then return ([], [])
    let comma : Parse Unit := do
      if !(← takesOp ",") then
        if !(← isOp ")") then fail
    if ← takesOp "*" then
      if phase = .mapping then fail
      let e ← exprAt .expression fuel
      comma
      let (args, keywords) ← arguments false phase fuel
      return (.starred e :: args, keywords)
    else if ← takesOp "**" then
      let e ← exprAt .expression fuel
      comma
      let (args, keywords) ← arguments false .mapping fuel
      return (args, (none, e) :: keywords)
    else if (← peekSecond) == .op "=" then
      let id ← ident
      needOp "="
      let e ← exprAt .expression fuel
      comma
      let phase := if phase = .mapping then .mapping else ArgumentPhase.keyword
      let (args, keywords) ← arguments false phase fuel
      return (args, (some id, e) :: keywords)
    else
      if phase ≠ .positional then fail
      let e ← namedExpr fuel
      if first && (← isClause) then
        let clauses ← someClauses fuel
        needOp ")"
        return ([.generator e clauses], [])
      comma
      let (args, keywords) ← arguments false phase fuel
      return (e :: args, keywords)

/-- What stands in the brackets of a subscript. -/
def subscriptIndex : (fuel : Nat) → Parse Expr
  | 0 => fail
  | fuel + 1 => do
    let first ← subscriptItem fuel
    let isStarred := match first with | .starred _ => true | _ => false
    if ← takesOp "," then return .tuple (first :: (← subscriptItems fuel))
    else if isStarred then return .tuple [first]
    else return first

/-- Further items of a subscript. -/
def subscriptItems : (fuel : Nat) → Parse (List Expr)
  | 0 => fail
  | fuel + 1 => do
    if ← isOp "]" then return []
    let e ← subscriptItem fuel
    if ← takesOp "," then return e :: (← subscriptItems fuel) else return [e]

/-- An item of a subscript: a slice, a starred expression or an expression. -/
def subscriptItem : (fuel : Nat) → Parse Expr
  | 0 => fail
  | fuel + 1 => do
    if ← takesOp "*" then return .starred (← exprAt .expression fuel)
    else if ← isOp ":" then sliceTail none fuel
    else if ← isNamed then namedExpr fuel
    else
      let e ← exprAt .expression fuel
      if ← isOp ":" then sliceTail (some e) fuel else return e

/-- A slice from its first colon on. -/
def sliceTail (lower : Option Expr) : (fuel : Nat) → Parse Expr
  | 0 => fail
  | fuel + 1 => do
    let bound : Parse (Option Expr) := do
      if (← isOp ":") || (← isOp "]") || (← isOp ",") then return none
      else return some (← exprAt .expression fuel)
    needOp ":"
    let upper ← bound
    let step ← if ← takesOp ":" then bound else pure none
    return .slice lower upper step

/-- An expression that may be an assignment to a name. -/
def namedExpr : (fuel : Nat) → Parse Expr
  | 0 => fail
  | fuel + 1 => do
    if ← isNamed then
      let id ← ident
      needOp ":="
      return .named id (← exprAt .expression fuel)
    else exprAt .expression fuel

/-- An item of a collection: starred, or an expression. -/
def element : (fuel : Nat) → Parse Expr
  | 0 => fail
  | fuel + 1 => do
    if ← takesOp "*" then return .starred (← exprAt .bitOr fuel) else namedExpr fuel

/-- Items up to a closing bracket, with commas between them. -/
def elements (close : String) : (fuel : Nat) → Parse (List Expr)
  | 0 => fail
  | fuel + 1 => do
    if ← takesOp close then return []
    let e ← element fuel
    if ← takesOp "," then return e :: (← elements close fuel)
    else
      needOp close
      return [e]

/-- A starred operand or an expression. -/
def starExpr : (fuel : Nat) → Parse Expr
  | 0 => fail
  | fuel + 1 => do
    if ← takesOp "*" then return .starred (← exprAt .bitOr fuel) else exprAt .expression fuel

/-- Expressions with commas between them: a tuple if a comma comes, else the expression alone. -/
def starExprs : (fuel : Nat) → Parse Expr
  | 0 => fail
  | fuel + 1 => do
    let first ← starExpr fuel
    if ← takesOp "," then return .tuple (first :: (← starExprsTail fuel)) else return first

/-- Further expressions behind a comma, if any come. -/
def starExprsTail : (fuel : Nat) → Parse (List Expr)
  | 0 => fail
  | fuel + 1 => do
    match ← attempt (starExpr fuel) with
    | none => return []
    | some e => if ← takesOp "," then return e :: (← starExprsTail fuel) else return [e]

/-- A yield expression. -/
def yieldExpr : (fuel : Nat) → Parse Expr
  | 0 => fail
  | fuel + 1 => do
    needWord "yield"
    if ← takesWord "from" then return .yieldFrom (← exprAt .expression fuel)
    else return .yield (← attempt (starExprs fuel))

/-- An expression without operators: a name, a constant, or something in brackets. -/
def atom : (fuel : Nat) → Parse Expr
  | 0 => fail
  | fuel + 1 => do
    match ← peek with
    | .name "None" =>
      skip
      return .constant .none
    | .name "True" =>
      skip
      return .constant .true
    | .name "False" =>
      skip
      return .constant .false
    | .name _ => return .name (← ident)
    | .number text =>
      skip
      match numberConstant? text with
      | some c => return .constant c
      | none => fail
    | .string _ => strings fuel
    | .op "..." =>
      skip
      return .constant .ellipsis
    | .op "(" =>
      skip
      parenthesized fuel
    | .op "[" =>
      skip
      if ← takesOp "]" then return .list []
      let e ← element fuel
      if ← isClause then
        let clauses ← someClauses fuel
        needOp "]"
        match e with
        | .starred _ => fail
        | e => return .listComp e clauses
      else if ← takesOp "," then return .list (e :: (← elements "]" fuel))
      else
        needOp "]"
        return .list [e]
    | .op "\x7b" =>
      skip
      braces fuel
    | _ => fail

/-- What stands behind an opening parenthesis: a tuple, a comprehension or a single expression. -/
def parenthesized : (fuel : Nat) → Parse Expr
  | 0 => fail
  | fuel + 1 => do
    if ← takesOp ")" then return .tuple []
    else if ← isWord "yield" then
      let e ← yieldExpr fuel
      needOp ")"
      return e
    else
      let e ← element fuel
      let isStarred := match e with | .starred _ => true | _ => false
      if ← isClause then
        if isStarred then fail
        let clauses ← someClauses fuel
        needOp ")"
        return .generator e clauses
      else if ← takesOp "," then return .tuple (e :: (← elements ")" fuel))
      else
        needOp ")"
        if isStarred then fail else return e

/-- What stands behind an opening brace: a mapping, a set or a comprehension. -/
def braces : (fuel : Nat) → Parse Expr
  | 0 => fail
  | fuel + 1 => do
    if (← isOp "\x7d") || (← isOp "**") then return .dict (← dictItems fuel)
    let mayBeKey := !(← isNamed) && !(← isOp "*")
    let e ← element fuel
    if mayBeKey && (← isOp ":") then
      needOp ":"
      let v ← exprAt .expression fuel
      if ← isClause then
        let clauses ← someClauses fuel
        needOp "\x7d"
        return .dictComp e v clauses
      else if ← takesOp "," then return .dict ((some e, v) :: (← dictItems fuel))
      else
        needOp "\x7d"
        return .dict [(some e, v)]
    else if ← isClause then
      let clauses ← someClauses fuel
      needOp "\x7d"
      match e with
      | .starred _ => fail
      | e => return .setComp e clauses
    else if ← takesOp "," then return .set (e :: (← elements "\x7d" fuel))
    else
      needOp "\x7d"
      return .set [e]

/-- The items of a mapping up to its closing brace. -/
def dictItems : (fuel : Nat) → Parse (List (Option Expr × Expr))
  | 0 => fail
  | fuel + 1 => do
    if ← takesOp "\x7d" then return []
    let item ←
      if ← takesOp "**" then pure (none, ← exprAt .bitOr fuel)
      else do
        let k ← exprAt .expression fuel
        needOp ":"
        let v ← exprAt .expression fuel
        pure (some k, v)
    if ← takesOp "," then return item :: (← dictItems fuel)
    else
      needOp "\x7d"
      return [item]

/-- The clauses of a comprehension; at least one. -/
def someClauses : (fuel : Nat) → Parse (List Clause)
  | 0 => fail
  | fuel + 1 => do
    let isAsync ← takesWord "async"
    needWord "for"
    let target ← starTargets fuel
    needWord "in"
    let iterable ← exprAt .disjunction fuel
    let conditions ← clauseConditions fuel
    let clause := Clause.mk isAsync target iterable conditions
    if ← isClause then return clause :: (← someClauses fuel) else return [clause]

/-- The conditions of a clause. -/
def clauseConditions : (fuel : Nat) → Parse (List Expr)
  | 0 => fail
  | fuel + 1 => do
    if ← takesWord "if" then
      let e ← exprAt .disjunction fuel
      return e :: (← clauseConditions fuel)
    else return []

/-- A target: a name, a member, a subscript or a collection of targets; it may be starred. -/
def starTarget : (fuel : Nat) → Parse Expr
  | 0 => fail
  | fuel + 1 => do
    let isStarred ← takesOp "*"
    let e ← exprAt .primary fuel
    if !e.isTarget then fail
    return if isStarred then .starred e else e

/-- Targets with commas between them. -/
def starTargets : (fuel : Nat) → Parse Expr
  | 0 => fail
  | fuel + 1 => do
    let first ← starTarget fuel
    if ← takesOp "," then return .tuple (first :: (← starTargetsTail fuel)) else return first

/-- Further targets behind a comma, if any come. -/
def starTargetsTail : (fuel : Nat) → Parse (List Expr)
  | 0 => fail
  | fuel + 1 => do
    match ← attempt (starTarget fuel) with
    | none => return []
    | some e => if ← takesOp "," then return e :: (← starTargetsTail fuel) else return [e]

/-- A function without a name. -/
def lambdaExpr : (fuel : Nat) → Parse Expr
  | 0 => fail
  | fuel + 1 => do
    needWord "lambda"
    let params ← parameters false ":" .empty fuel
    return .lambda params (← exprAt .expression fuel)

/-- Parameters up to and with a closing token; with types where `noted`. -/
def parameters (noted : Bool) (close : String) (p : ParamList) : (fuel : Nat) → Parse Params
  | 0 => fail
  | fuel + 1 => do
    if ← takesOp close then
      if p.waiting then fail else return p.toParams
    let note (starred : Bool) : Parse (Option Expr) := do
      if !noted then return none
      else if ← takesOp ":" then
        return some (← if starred then starExpr fuel else exprAt .expression fuel)
      else return none
    let comma : Parse Unit := do
      if !(← takesOp ",") then
        if !(← isOp close) then fail
    if ← takesOp "**" then
      if p.waiting then fail
      let id ← ident
      let n ← note false
      let _ ← takesOp ","
      needOp close
      return { p with keywords := some (.mk id n none) }.toParams
    else if ← takesOp "*" then
      if p.named then fail
      if ← takesOp "," then
        parameters noted close { p with named := true, waiting := true } fuel
      else
        let id ← ident
        let n ← note true
        comma
        parameters noted close { p with named := true, rest := some (.mk id n none) } fuel
    else if ← takesOp "/" then
      match p.mark with
      | none => fail
      | some p =>
        comma
        parameters noted close p fuel
    else
      let id ← ident
      let n ← note false
      let default ← if ← takesOp "=" then pure (some (← exprAt .expression fuel)) else pure none
      match p.add id n default with
      | none => fail
      | some p =>
        comma
        parameters noted close p fuel

/-- String tokens side by side: one string, one sequence of bytes or one formatted string. -/
def strings : (fuel : Nat) → Parse Expr
  | 0 => fail
  | fuel + 1 => do
    let texts ← stringTokens fuel
    let parsed := texts.map StringText.ofToken
    if parsed.all (·.isBytes) then
      match parsed.mapM StringText.bytes? with
      | some bs => return .constant (.bytes bs.flatten)
      | none => fail
    else if parsed.any (·.isBytes) then fail
    else
      let parts ← stringParts parsed fuel
      if parsed.any (·.isFormatted) then return .formatted (joinParts parts [])
      else
        let points := parts.flatMap fun p => match p with | .literal s => s | _ => []
        return .constant (.str points ((parsed.head?.map (·.marked)).getD false))

/-- String tokens side by side. -/
def stringTokens : (fuel : Nat) → Parse (List (List Char))
  | 0 => fail
  | fuel + 1 => do
    match ← peek with
    | .string text =>
      skip
      return text :: (← stringTokens fuel)
    | _ => return []

/-- The parts of strings side by side. -/
def stringParts (texts : List StringText) : (fuel : Nat) → Parse (List Part)
  | 0 => fail
  | fuel + 1 => do
    match texts with
    | [] => return []
    | t :: rest =>
      let parts ←
        if t.isFormatted then do
          let (parts, left) ← formattedParts t.isRaw 0 t.body fuel
          if left.isEmpty then pure parts else fail
        else
          match pieceText false t.isRaw t.body with
          | some points => pure [Part.literal points]
          | none => fail
      return parts ++ (← stringParts rest fuel)

/-- The parts of a formatted string, or of a format within one, and what is left. -/
def formattedParts (isRaw : Bool) (depth : Nat) (cs : List Char) : (fuel : Nat) →
    Parse (List Part × List Char)
  | 0 => fail
  | fuel + 1 => do
    match literalRun isRaw (depth == 0) (cs.length + 1) cs with
    | none => fail
    | some (text, ending, rest) =>
      match pieceText false isRaw text with
      | none => fail
      | some points =>
        let literal := Part.literal points
        if ending = .doubled then
          let (parts, left) ← formattedParts isRaw depth rest fuel
          return (literal :: parts, left)
        else
          match rest with
          | [] => return ([literal], [])
          | c :: more =>
            if c = '\x7d' then return ([literal], rest)
            else
              let (value, rest) ← formattedValue isRaw depth more fuel
              let (parts, left) ← formattedParts isRaw depth rest fuel
              return (literal :: value ++ parts, left)

/-- A value in a formatted string, from behind its opening brace on. With an equality sign the text
of the expression comes before the value. -/
def formattedValue (isRaw : Bool) (depth : Nat) (cs : List Char) : (fuel : Nat) →
    Parse (List Part × List Char)
  | 0 => fail
  | fuel + 1 => do
    if 2 ≤ depth then fail
    match expressionRun none [] (cs.length + 1) cs with
    | none => fail
    | some (text, rest) =>
      if isBlankExpression text then fail
      let e ← embedded text fuel
      let (shown, rest) : List Char × List Char :=
        match rest with
        | '=' :: more =>
          let blanks := more.takeWhile fun c => c == ' ' || ('\t' ≤ c && c ≤ '\r')
          (text ++ '=' :: blanks, more.drop blanks.length)
        | _ => ([], rest)
      let (conversion, rest) ←
        match rest with
        | '!' :: c :: more =>
          match conversion? c with
          | some conversion => pure (some conversion, more)
          | none => fail
        | '!' :: [] => fail
        | rest => pure (none, rest)
      let (format, rest) ←
        match rest with
        | ':' :: more => do
          let (parts, rest) ← formattedParts isRaw (depth + 1) more fuel
          pure (some (joinParts parts []), rest)
        | rest => pure (none, rest)
      match rest with
      | [] => fail
      | c :: rest =>
        if c ≠ '\x7d' then fail
        let conversion :=
          if !shown.isEmpty && format.isNone && conversion.isNone then some .repr else conversion
        return ([.literal (shown.map Char.toNat), .value e conversion format], rest)

/-- An expression that stands in a formatted string, read as if it stood in parentheses. -/
def embedded (text : List Char) : (fuel : Nat) → Parse Expr
  | 0 => fail
  | fuel + 1 => do
    match lex ('(' :: text ++ [')']) with
    | none => fail
    | some tokens =>
      match (starExprs fuel).run { rest := tokens, last := 1 } with
      | some (e, _) => return e
      | none => fail

end

end VariantRepair.Language
