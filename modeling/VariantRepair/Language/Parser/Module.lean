import VariantRepair.Text.Lines
import VariantRepair.Language.Parser.Simple
import VariantRepair.Language.Parser.Pattern

/-!
Reading compound statements, whole modules and their texts, where every line break counts as a line
feed.
-/

namespace VariantRepair.Language

open Parse

/-- An item of a with statement: an expression and the target that it is bound to. -/
def withItem (fuel : Nat) : Parse (Expr × Option Expr) := do
  let e ← exprAt .expression fuel
  if ← takesWord "as" then
    let target ← starTarget fuel
    if (← isOp ",") || (← isOp ")") || (← isOp ":") then return (e, some target) else fail
  else return (e, none)

/-- Items of a with statement with commas between them; in parentheses a comma may stand behind the
last one. -/
def withItems (closed : Bool) : (fuel : Nat) → Parse (List (Expr × Option Expr))
  | 0 => fail
  | fuel + 1 => do
    let item ← withItem fuel
    if ← takesOp "," then
      if closed && (← isOp ")") then return [item] else return item :: (← withItems closed fuel)
    else return [item]

/-- The items of a with statement: in parentheses that its colon follows, or without. -/
def withHead (fuel : Nat) : Parse (List (Expr × Option Expr)) :=
  either
    (do
      needOp "("
      let items ← withItems true fuel
      needOp ")"
      if ← isOp ":" then return items else fail)
    (withItems false fuel)

/-- The subject of a match statement. -/
def matchSubject (fuel : Nat) : Parse Expr := do
  let isStarred ← isOp "*"
  let first ← element fuel
  if ← takesOp "," then return .tuple (first :: (← subjectItems fuel))
  else if isStarred then fail
  else return first
where
  /-- Further items of the subject, if any come. -/
  subjectItems : (fuel : Nat) → Parse (List Expr)
    | 0 => fail
    | fuel + 1 => do
      match ← attempt (element fuel) with
      | none => return []
      | some e => if ← takesOp "," then return e :: (← subjectItems fuel) else return [e]

/-- The head of a match statement, if one begins here: the word is a name in other places. -/
def matchHead (fuel : Nat) : Parse (Option Expr) :=
  attempt do
    needWord "match"
    let subject ← matchSubject fuel
    needOp ":"
    need .newline
    return subject

/-- The decorators before a function or a class. -/
def decorators : (fuel : Nat) → Parse (List Expr)
  | 0 => fail
  | fuel + 1 => do
    if ← takesOp "@" then
      let e ← namedExpr fuel
      need .newline
      return e :: (← decorators fuel)
    else return []

mutual

/-- The statements of a block: indented lines, or simple statements on the same line. -/
def block : (fuel : Nat) → Parse (List (Stmt Located))
  | 0 => fail
  | fuel + 1 => do
    needOp ":"
    if ← takes .newline then
      need .indent
      let ss ← statements fuel
      need .dedent
      return ss
    else return (← simpleLine fuel).map .leaf

/-- Statements up to the end of their block; at least one. -/
def statements : (fuel : Nat) → Parse (List (Stmt Located))
  | 0 => fail
  | fuel + 1 => do
    let ss ← statement fuel
    if (← isNext .dedent) || (← isNext .endMarker) then return ss
    else return ss ++ (← statements fuel)

/-- A compound statement, or a line of simple ones. -/
def statement : (fuel : Nat) → Parse (List (Stmt Located))
  | 0 => fail
  | fuel + 1 => do
    match ← peek with
    | .op "@" =>
      let ds ← decorators fuel
      match ← peek with
      | .name "class" => return [← classDef ds fuel]
      | _ => return [← functionDef ds fuel]
    | .name "def" => return [← functionDef [] fuel]
    | .name "class" => return [← classDef [] fuel]
    | .name "async" =>
      match ← peekSecond with
      | .name "def" => return [← functionDef [] fuel]
      | .name "for" =>
        skip
        return [← forLoop true fuel]
      | .name "with" =>
        skip
        return [← withBlock true fuel]
      | _ => fail
    | .name "if" =>
      skip
      return [← ifTail fuel]
    | .name "for" => return [← forLoop false fuel]
    | .name "while" =>
      skip
      let test ← namedExpr fuel
      let body ← block fuel
      return [.while test body (← elseBlock fuel)]
    | .name "with" => return [← withBlock false fuel]
    | .name "try" => return [← tryBlock fuel]
    | .name "match" =>
      match ← matchHead fuel with
      | some subject =>
        need .indent
        let cases ← matchCases fuel
        need .dedent
        return [.match subject cases]
      | none => return (← simpleLine fuel).map .leaf
    | _ => return (← simpleLine fuel).map .leaf

/-- A function with its decorators. -/
def functionDef (ds : List Expr) : (fuel : Nat) → Parse (Stmt Located)
  | 0 => fail
  | fuel + 1 => do
    let isAsync ← takesWord "async"
    needWord "def"
    let id ← ident
    needOp "("
    let params ← parameters true ")" .empty fuel
    let returns ← if ← takesOp "->" then pure (some (← exprAt .expression fuel)) else pure none
    return .function isAsync ds id params returns (← block fuel)

/-- A class with its decorators. -/
def classDef (ds : List Expr) : (fuel : Nat) → Parse (Stmt Located)
  | 0 => fail
  | fuel + 1 => do
    needWord "class"
    let id ← ident
    let (bases, keywords) ←
      if ← takesOp "(" then arguments false .positional fuel else pure ([], [])
    return .classDef ds id bases keywords (← block fuel)

/-- A for loop. -/
def forLoop (isAsync : Bool) : (fuel : Nat) → Parse (Stmt Located)
  | 0 => fail
  | fuel + 1 => do
    needWord "for"
    let target ← starTargets fuel
    needWord "in"
    let iterable ← starExprs fuel
    let body ← block fuel
    return .for isAsync target iterable body (← elseBlock fuel)

/-- A with statement. -/
def withBlock (isAsync : Bool) : (fuel : Nat) → Parse (Stmt Located)
  | 0 => fail
  | fuel + 1 => do
    needWord "with"
    let items ← withHead fuel
    return .with isAsync items (← block fuel)

/-- An if statement behind its first word; an `elif` is an if statement within the else block. -/
def ifTail : (fuel : Nat) → Parse (Stmt Located)
  | 0 => fail
  | fuel + 1 => do
    let test ← namedExpr fuel
    let body ← block fuel
    if ← takesWord "elif" then return .if test body [← ifTail fuel]
    else return .if test body (← elseBlock fuel)

/-- An else block, if one comes. -/
def elseBlock : (fuel : Nat) → Parse (List (Stmt Located))
  | 0 => fail
  | fuel + 1 => do
    if ← takesWord "else" then block fuel else return []

/-- A try statement: with handlers, with a block that always runs, or with both. -/
def tryBlock : (fuel : Nat) → Parse (Stmt Located)
  | 0 => fail
  | fuel + 1 => do
    needWord "try"
    let body ← block fuel
    let isStar := (← isWord "except") && (← peekSecond) == .op "*"
    let handlers ← tryHandlers isStar fuel
    let orelse ← if handlers.isEmpty then pure [] else elseBlock fuel
    let final ← if ← takesWord "finally" then block fuel else pure []
    if handlers.isEmpty && final.isEmpty then fail
    return .try isStar body handlers orelse final

/-- The handlers of a try statement, which have a star all or none. -/
def tryHandlers (isStar : Bool) : (fuel : Nat) → Parse (List (Handler Located))
  | 0 => fail
  | fuel + 1 => do
    if ← takesWord "except" then
      if (← takesOp "*") != isStar then fail
      let type ←
        if !isStar && (← isOp ":") then pure none else pure (some (← exprAt .expression fuel))
      let id ← if type.isSome then asName else pure none
      let body ← block fuel
      return .mk type id body :: (← tryHandlers isStar fuel)
    else return []

/-- The cases of a match statement; at least one. -/
def matchCases : (fuel : Nat) → Parse (List (Case Located))
  | 0 => fail
  | fuel + 1 => do
    needWord "case"
    let p ← casePattern fuel
    let guard ← if ← takesWord "if" then pure (some (← namedExpr fuel)) else pure none
    let body ← block fuel
    let c := Case.mk p guard body
    if ← isNext .dedent then return [c] else return c :: (← matchCases fuel)

end

/-- A bound on how many tokens a token holds: a string may hold expressions. -/
def Token.weight (t : Token) : Nat :=
  match t.lexeme with
  | .string text => text.length
  | _ => 1

/-- The statements of a module. -/
def parseTokens (tokens : List Token) : Option (List (Stmt Located)) :=
  let input : Input := { rest := tokens, last := 1 }
  let whole : Parse (List (Stmt Located)) := do
    if ← isNext .endMarker then return []
    else
      let weight := tokens.foldl (fun w t => w + t.weight) 0
      let ss ← statements (64 * weight + 256)
      need .endMarker
      return ss
  (whole.run input).map (·.1)

/-! ### Texts -/

/-- Why a text is no module. -/
inductive SourceError where
  /-- The text holds a character that no program may hold. -/
  | nul
  | malformed
deriving Repr, DecidableEq

/-- The statements of a module. -/
def readModule (text : String) : Except SourceError (List (Stmt Located)) :=
  if text.contains '\x00' then .error .nul
  else
    match lex (Text.unifyNewlines text.toList) >>= parseTokens with
    | some statements => .ok statements
    | none => .error .malformed

end VariantRepair.Language
