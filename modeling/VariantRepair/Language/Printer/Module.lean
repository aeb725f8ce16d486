import VariantRepair.Language.Printer.Expr

/-!
Statements and modules as text. Each statement is a chunk of text or several: a chunk starts on a
new line, indented by its depth, and only a string that documents a body has line breaks inside.
-/

namespace VariantRepair.Language

/-- Chunks of text, or the reason why there are none. -/
abbrev Chunks := Except PrintError (List String)

/-- An imported name. -/
def Alias.text (a : Alias) : String :=
  match a.bound with
  | none => a.id
  | some bound => a.id ++ " as " ++ bound

/-- Expressions with commas between them. -/
def printCommas (es : List Expr) : Printed :=
  return ", ".intercalate (← printItems false .test es)

/-- The targets of an assignment, an equality sign behind each. -/
def printTargets : List Expr → Printed
  | [] => .ok ""
  | e :: es => do
    let s ← e.print false .tuple
    return s ++ " = " ++ (← printTargets es)

/-- A simple statement as text. -/
def Simple.print : Simple → Printed
  | .expr e => e.print false .yield
  | .assign targets value => do
    let ts ← printTargets targets
    return ts ++ (← value.print false .test)
  | .augmented op target value => do
    let t ← target.print false .test
    return t ++ " " ++ op.text ++ "= " ++ (← value.print false .test)
  | .annotated target note value bare => do
    let t ← target.print false .test
    let isName := match target with
      | .name _ => true
      | _ => false
    let n ← note.print false .test
    return enclosedIf (isName && !bare) t ++ ": " ++ n ++ (← printOption false " = " value)
  | .delete targets => return "del " ++ (← printCommas targets)
  | .return value => return "return" ++ (← printOption false " " value)
  | .raise exception cause => do
    let e ← printOption false " " exception
    return "raise" ++ e ++ (← printOption false " from " cause)
  | .assert test message => do
    let t ← test.print false .test
    return "assert " ++ t ++ (← printOption false ", " message)
  | .import names => .ok ("import " ++ ", ".intercalate (names.map Alias.text))
  | .importFrom module names level =>
    .ok ("from " ++ String.ofList (List.replicate level '.') ++ module.getD "" ++ " import " ++
      ", ".intercalate (names.map Alias.text))
  | .global names => .ok ("global " ++ ", ".intercalate names)
  | .nonlocal names => .ok ("nonlocal " ++ ", ".intercalate names)
  | .pass => .ok "pass"
  | .break => .ok "break"
  | .continue => .ok "continue"

/-- The chunk of a line at a depth. -/
def indented (depth : Nat) (s : String) : String :=
  String.ofList (List.replicate (4 * depth) ' ') ++ s

/-- The string that documents a body: a plain string that stands first in it. -/
def Simple.documentation? : Simple → Option (List Nat × Bool)
  | .expr (.constant (.str points marked)) => some (points, marked)
  | _ => none

/-- A string that documents a body, in triple quotes. -/
def documentationText (points : List Nat) (marked : Bool) : String :=
  (if marked then "u" else "") ++ quotedWith QuoteMark.triple points

/-- The first statement of a body that may be documented. -/
def Simple.printFirst (s : Simple) : Printed :=
  match s.documentation? with
  | some (points, marked) => .ok (documentationText points marked)
  | none => s.print

/-- Decorators, one chunk each. -/
def printDecorators (depth : Nat) : List Expr → Chunks
  | [] => .ok []
  | e :: es => do
    let s ← e.print false .test
    return indented depth ("@" ++ s) :: (← printDecorators depth es)

/-- The head of a class behind its name. -/
def printBases (bases : List Expr) (keywords : List (Option String × Expr)) : Printed := do
  let bs ← printItems false .test bases
  let ks ← printKeywords false keywords
  return enclosedIf (!(bs ++ ks).isEmpty) (", ".intercalate (bs ++ ks))

/-- The items of a with statement. -/
def printWithItems : List (Expr × Option Expr) → Except PrintError (List String)
  | [] => .ok []
  | (e, target) :: rest => do
    let s ← e.print false .test
    let t ← printOption false " as " target
    return (s ++ t) :: (← printWithItems rest)

mutual

/-- A statement as chunks. A function or a class has an empty one before it. -/
def Stmt.print (depth : Nat) : Stmt Simple → Chunks
  | .leaf s => return [indented depth (← s.print)]
  | .function isAsync decorators id params returns body => do
    let ds ← printDecorators depth decorators
    let ps ← params.print false
    let r ← printOption false " -> " returns
    let b ← printSuite (depth + 1) body
    let head := (if isAsync then "async def " else "def ") ++ id ++ "(" ++ ps ++ ")" ++ r ++ ":"
    return "" :: ds ++ indented depth head :: b
  | .classDef decorators id bases keywords body => do
    let ds ← printDecorators depth decorators
    let bs ← printBases bases keywords
    let b ← printSuite (depth + 1) body
    return "" :: ds ++ indented depth ("class " ++ id ++ bs ++ ":") :: b
  | .for isAsync target iterable body orelse => do
    let t ← target.print false .tuple
    let i ← iterable.print false .test
    let b ← printBlock (depth + 1) body
    let e ← printElse depth "else:" orelse
    let head := (if isAsync then "async for " else "for ") ++ t ++ " in " ++ i ++ ":"
    return indented depth head :: b ++ e
  | .while test body orelse => do
    let t ← test.print false .test
    let b ← printBlock (depth + 1) body
    let e ← printElse depth "else:" orelse
    return indented depth ("while " ++ t ++ ":") :: b ++ e
  | .if test body orelse => do
    let t ← test.print false .test
    let b ← printBlock (depth + 1) body
    let e ← printOtherwise depth orelse
    return indented depth ("if " ++ t ++ ":") :: b ++ e
  | .with isAsync items body => do
    let is ← printWithItems items
    let b ← printBlock (depth + 1) body
    let head := (if isAsync then "async with " else "with ") ++ ", ".intercalate is ++ ":"
    return indented depth head :: b
  | .try isStar body handlers orelse final => do
    let b ← printBlock (depth + 1) body
    let hs ← printHandlers depth isStar handlers
    let e ← printElse depth "else:" orelse
    let f ← printElse depth "finally:" final
    return indented depth "try:" :: b ++ hs ++ e ++ f
  | .match subject cases => do
    let s ← subject.print false .test
    let cs ← printCases (depth + 1) cases
    return indented depth ("match " ++ s ++ ":") :: cs

/-- Statements as chunks. -/
def printBlock (depth : Nat) : List (Stmt Simple) → Chunks
  | [] => .ok []
  | s :: ss => do
    let cs ← s.print depth
    return cs ++ (← printBlock depth ss)

/-- The body of a function or of a class, in which a string may come first that documents it. -/
def printSuite (depth : Nat) : List (Stmt Simple) → Chunks
  | [] => .ok []
  | .leaf s :: ss => do
    let c ← s.printFirst
    return indented depth c :: (← printBlock depth ss)
  | s :: ss => do
    let cs ← s.print depth
    return cs ++ (← printBlock depth ss)

/-- A block behind a word of its own, when there is one. -/
def printElse (depth : Nat) (word : String) : List (Stmt Simple) → Chunks
  | [] => .ok []
  | s :: ss => do
    let cs ← s.print (depth + 1)
    return indented depth word :: cs ++ (← printBlock (depth + 1) ss)

/-- What comes when the condition of an if statement does not hold: a single if statement goes on as
a branch of the first one. -/
def printOtherwise (depth : Nat) : List (Stmt Simple) → Chunks
  | [] => .ok []
  | [.if test body orelse] => do
    let t ← test.print false .test
    let b ← printBlock (depth + 1) body
    let e ← printOtherwise depth orelse
    return indented depth ("elif " ++ t ++ ":") :: b ++ e
  | s :: ss => do
    let cs ← s.print (depth + 1)
    return indented depth "else:" :: cs ++ (← printBlock (depth + 1) ss)

/-- The handlers of a try statement. -/
def printHandlers (depth : Nat) (isStar : Bool) : List (Handler Simple) → Chunks
  | [] => .ok []
  | .mk type id body :: rest => do
    let t ← printOption false " " type
    let b ← printBlock (depth + 1) body
    let head := (if isStar then "except*" else "except") ++ t ++
      ((id.map (" as " ++ ·)).getD "") ++ ":"
    return indented depth head :: b ++ (← printHandlers depth isStar rest)

/-- The cases of a match statement. -/
def printCases (depth : Nat) : List (Case Simple) → Chunks
  | [] => .ok []
  | .mk pattern guard body :: rest => do
    let p ← pattern.print .test
    let g ← printOption false " if " guard
    let b ← printBlock (depth + 1) body
    return indented depth ("case " ++ p ++ g ++ ":") :: b ++ (← printCases depth rest)

end

/-- The text of a module, without a line break at its end. Nothing is empty at its start. -/
def printModule (body : List (Stmt Simple)) : Printed := do
  match ← printSuite 0 body with
  | "" :: chunks => return "\n".intercalate chunks
  | chunks => return "\n".intercalate chunks

end VariantRepair.Language
