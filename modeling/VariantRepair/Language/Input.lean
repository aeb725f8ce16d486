import VariantRepair.Text.Normal
import VariantRepair.Language.Token
import VariantRepair.Language.Tree

/-!
Reading from a list of tokens. A step either takes tokens or fails; an alternative starts again
from where the first one started.
-/

namespace VariantRepair.Language

/-- The tokens that are left, and the line on which the last one taken ended. -/
structure Input where
  rest : List Token
  last : Nat

/-- A step of reading. -/
abbrev Parse := StateT Input Option

/-- The words that are no names. -/
def keywords : List String :=
  ["False", "None", "True", "and", "as", "assert", "async", "await", "break", "class", "continue",
   "def", "del", "elif", "else", "except", "finally", "for", "from", "global", "if", "import",
   "in", "is", "lambda", "nonlocal", "not", "or", "pass", "raise", "return", "try", "while",
   "with", "yield"]

namespace Parse

/-- The text fails to be a program. -/
def fail {α : Type} : Parse α := fun _ => none

/-- The next token. -/
def peek : Parse Lexeme := do
  match (← get).rest with
  | t :: _ => return t.lexeme
  | [] => return .endMarker

/-- The token behind the next one. -/
def peekSecond : Parse Lexeme := do
  match (← get).rest with
  | _ :: t :: _ => return t.lexeme
  | _ => return .endMarker

/-- Take a token. -/
def skip : Parse Unit := do
  match (← get).rest with
  | t :: rest => set ({ rest, last := t.last } : Input)
  | [] => fail

/-- Is the next token this one? -/
def isNext (l : Lexeme) : Parse Bool := do
  return (← peek) == l

/-- Take the token if it is this one. -/
def takes (l : Lexeme) : Parse Bool := do
  if ← isNext l then
    skip
    return true
  else return false

/-- Take this token. -/
def need (l : Lexeme) : Parse Unit := do
  if !(← takes l) then fail

def isOp (s : String) : Parse Bool := isNext (.op s)

def takesOp (s : String) : Parse Bool := takes (.op s)

def needOp (s : String) : Parse Unit := need (.op s)

def isWord (s : String) : Parse Bool := isNext (.name s)

def takesWord (s : String) : Parse Bool := takes (.name s)

def needWord (s : String) : Parse Unit := need (.name s)

/-- Take a name, in its composed form. -/
def ident : Parse String := do
  match ← peek with
  | .name s =>
    if keywords.contains s then fail
    else
      skip
      return Text.composedName s
  | _ => fail

/-- The result of a step, or nothing, with nothing taken. -/
def attempt {α : Type} (p : Parse α) : Parse (Option α) := fun s =>
  match p s with
  | some (a, s) => some (some a, s)
  | none => some (none, s)

/-- The result of the first step, or of the second if the first one fails. -/
def either {α : Type} (p q : Parse α) : Parse α := fun s =>
  match p s with
  | some r => some r
  | none => q s

end Parse

/-! ### Targets -/

mutual

/-- May the expression be assigned to? Inside of a collection, items may be starred. -/
def Expr.isTarget : Expr → Bool
  | .name _ | .member .. | .subscript .. => true
  | .tuple items | .list items => Expr.areItems items
  | _ => false

/-- May the expressions be the items of a target? -/
def Expr.areItems : List Expr → Bool
  | [] => true
  | .starred e :: es => e.isTarget && Expr.areItems es
  | e :: es => e.isTarget && Expr.areItems es

/-- May the expression be deleted? -/
def Expr.isDeletable : Expr → Bool
  | .name _ | .member .. | .subscript .. => true
  | .tuple items | .list items => Expr.areDeletable items
  | _ => false

/-- May the expressions be deleted? -/
def Expr.areDeletable : List Expr → Bool
  | [] => true
  | e :: es => e.isDeletable && Expr.areDeletable es

end

/-- May the expression be the left side of an assignment? -/
def Expr.isAssignable : Expr → Bool
  | .starred e => e.isTarget
  | e => e.isTarget

/-- A name, a member or a subscript. -/
def Expr.isSingle : Expr → Bool
  | .name _ | .member .. | .subscript .. => true
  | _ => false

end VariantRepair.Language
