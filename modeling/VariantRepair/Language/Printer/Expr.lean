import VariantRepair.Number.Written
import VariantRepair.Number.Reading
import VariantRepair.Language.Printer.Quoting

/-!
Expressions as text. Parentheses stand where the place of an expression binds more tightly than the
expression does, and nowhere else.
-/

namespace VariantRepair.Language

/-- Why a tree has no text. -/
inductive PrintError where
  /-- Inside of a formatted string, a backslash would be needed. -/
  | backslash
  /-- An integer has too many decimal digits. -/
  | digits
deriving Repr, DecidableEq

/-- What the error says. -/
def PrintError.message : PrintError → String
  | backslash => "Unable to avoid backslash in f-string expression part"
  | digits => Number.overlongMessage

/-- Text, or the reason why there is none. -/
abbrev Printed := Except PrintError String

/-- How tightly a form of expressions binds, from the loosest to the tightest. -/
inductive Binding where
  | named | tuple | yield | test | or | and | not | compare | bitOr | bitXor | bitAnd | shift
  | arith | term | factor | power | await | atom
deriving Repr, DecidableEq

namespace Binding

/-- The place of the level in the order. -/
def rank : Binding → Nat
  | named => 1
  | tuple => 2
  | yield => 3
  | test => 4
  | or => 5
  | and => 6
  | not => 7
  | compare => 8
  | bitOr => 9
  | bitXor => 10
  | bitAnd => 11
  | shift => 12
  | arith => 13
  | term => 14
  | factor => 15
  | power => 16
  | await => 17
  | atom => 18

/-- The next tighter level; the tightest is its own. -/
def next : Binding → Binding
  | named => tuple
  | tuple => yield
  | yield => test
  | test => or
  | or => and
  | and => not
  | not => compare
  | compare => bitOr
  | bitOr => bitXor
  | bitXor => bitAnd
  | bitAnd => shift
  | shift => arith
  | arith => term
  | term => factor
  | factor => power
  | power => await
  | await => atom
  | atom => atom

end Binding

/-- The sign of an operator. -/
def BinaryOp.text : BinaryOp → String
  | add => "+"
  | sub => "-"
  | mult => "*"
  | matMult => "@"
  | div => "/"
  | mod => "%"
  | shiftLeft => "<<"
  | shiftRight => ">>"
  | bitOr => "|"
  | bitXor => "^"
  | bitAnd => "&"
  | floorDiv => "//"
  | pow => "**"

/-- How tightly an operator binds. -/
def BinaryOp.level : BinaryOp → Binding
  | add | sub => .arith
  | mult | matMult | div | mod | floorDiv => .term
  | shiftLeft | shiftRight => .shift
  | bitOr => .bitOr
  | bitXor => .bitXor
  | bitAnd => .bitAnd
  | pow => .power

/-- The places of the operands: powers group to the right, all else to the left. -/
def BinaryOp.sides (op : BinaryOp) : Binding × Binding :=
  if op = .pow then (op.level.next, op.level) else (op.level, op.level.next)

/-- The sign of an operator, with the blank behind a word. -/
def UnaryOp.text : UnaryOp → String
  | invert => "~"
  | not => "not "
  | plus => "+"
  | minus => "-"

/-- How tightly an operator binds. -/
def UnaryOp.level : UnaryOp → Binding
  | not => .not
  | _ => .factor

/-- The word of an operator. -/
def LogicOp.text : LogicOp → String
  | and => "and"
  | or => "or"

/-- How tightly an operator binds. -/
def LogicOp.level : LogicOp → Binding
  | and => .and
  | or => .or

/-- The sign or the words of a comparison. -/
def CompareOp.text : CompareOp → String
  | eq => "=="
  | notEq => "!="
  | lt => "<"
  | ltE => "<="
  | gt => ">"
  | gtE => ">="
  | is => "is"
  | isNot => "is not"
  | isIn => "in"
  | notIn => "not in"

/-- The letter of a conversion. -/
def Conversion.text : Conversion → String
  | str => "s"
  | repr => "r"
  | ascii => "a"

/-- A real constant: an infinite one is written as a literal that is too large. -/
def realText (layout : Number.Layout) (x : Float) : String :=
  if x.isInf then (if x < 0.0 then "-" else "") ++ "1e309" else Number.renderFloat layout x

/-- A constant as text; `isInner` says that it stands inside of a formatted string. -/
def Constant.print (isInner : Bool) : Constant → Printed
  | none => .ok "None"
  | true => .ok "True"
  | false => .ok "False"
  | ellipsis => .ok "..."
  | int n => if Number.isOverlong n then .error .digits else .ok (toString n)
  | float x => .ok (realText Number.realLayout x)
  | imaginary x => .ok (realText Number.partLayout x ++ "j")
  | str points marked =>
    let text :=
      if isInner then quotedWith QuoteMark.all points else String.ofList (Text.quotePoints points)
    .ok ((if marked then "u" else "") ++ text)
  | bytes bs => .ok (String.ofList (Text.quoteBytes bs))

/-- Text in parentheses if they are needed. -/
def enclosedIf (needed : Bool) (s : String) : String :=
  if needed then "(" ++ s ++ ")" else s

/-- Text in parentheses if the place binds more tightly than the text does. -/
def enclosedAt (place own : Binding) (s : String) : String :=
  enclosedIf (own.rank < place.rank) s

/-- Items with commas between them; a single one has a comma behind it. -/
def itemsText : List String → String
  | [s] => s ++ ","
  | ss => ", ".intercalate ss

/-- Does a point behind the expression need a blank before it, so that no number swallows it? -/
def Expr.needsBlank : Expr → Bool
  | .constant (.int _) | .constant .true | .constant .false => true
  | _ => false

/-- The place in brackets behind a value: a tuple stands there without parentheses. -/
def Expr.indexPlace : Expr → Binding
  | .tuple _ => .tuple
  | _ => .test

/-- Double the braces of plain text. -/
def doubleBraces (points : List Nat) : List Nat :=
  points.flatMap fun n => if n = 123 ∨ n = 125 then [n, n] else [n]

/-- The text of an expression inside of a formatted string, checked and set apart from the brace
before it. -/
def innerText (s : String) : Printed :=
  if s.contains '\\' then .error .backslash
  else if s.startsWith "\x7b" then .ok (" " ++ s)
  else .ok s

mutual

/-- An expression as text, at a place. `isInner` says that it stands inside of a formatted string,
where a backslash may not occur. -/
def Expr.print (isInner : Bool) (place : Binding) : Expr → Printed
  | .constant c => c.print isInner
  | .name id => .ok id
  | .member value id => do
    let s ← value.print isInner .atom
    return s ++ (if value.needsBlank then " ." else ".") ++ id
  | .subscript value index => do
    let s ← value.print isInner .atom
    let i ← index.print isInner index.indexPlace
    return s ++ "[" ++ i ++ "]"
  | .slice lower upper step => do
    let l ← printOption isInner "" lower
    let u ← printOption isInner "" upper
    let s ← printOption isInner ":" step
    return l ++ ":" ++ u ++ s
  | .starred value => return "*" ++ (← value.print isInner .bitOr)
  | .call function arguments keywords => do
    let f ← function.print isInner .atom
    let as ← printItems isInner .test arguments
    let ks ← printKeywords isInner keywords
    return f ++ "(" ++ ", ".intercalate (as ++ ks) ++ ")"
  | .unary op operand => do
    let s ← operand.print isInner op.level
    return enclosedAt place op.level (op.text ++ s)
  | .binary op left right => do
    let l ← left.print isInner op.sides.1
    let r ← right.print isInner op.sides.2
    return enclosedAt place op.level (l ++ " " ++ op.text ++ " " ++ r)
  | .logic op values => do
    let ss ← printRising isInner op.level values
    return enclosedAt place op.level ((" " ++ op.text ++ " ").intercalate ss)
  | .compare left rest => do
    let l ← left.print isInner .bitOr
    let r ← printComparisons isInner rest
    return enclosedAt place .compare (l ++ r)
  | .conditional test body orelse => do
    let b ← body.print isInner .or
    let t ← test.print isInner .or
    let e ← orelse.print isInner .test
    return enclosedAt place .test (b ++ " if " ++ t ++ " else " ++ e)
  | .lambda params body => do
    let ps ← params.print isInner
    let b ← body.print isInner .test
    return enclosedAt place .test
      ("lambda" ++ (if ps.isEmpty then "" else " " ++ ps) ++ ": " ++ b)
  | .named target value => do
    let v ← value.print isInner .atom
    return enclosedAt place .named (target ++ " := " ++ v)
  | .list items => return "[" ++ ", ".intercalate (← printItems isInner .test items) ++ "]"
  | .tuple items => do
    let ss ← printItems isInner .test items
    return enclosedIf (items.isEmpty || Binding.rank .tuple < place.rank) (itemsText ss)
  | .set items => do
    let ss ← printItems isInner .test items
    return if items.isEmpty then "\x7b*()\x7d" else "\x7b" ++ ", ".intercalate ss ++ "\x7d"
  | .dict items => return "\x7b" ++ ", ".intercalate (← printEntries isInner items) ++ "\x7d"
  | .listComp element clauses => do
    let e ← element.print isInner .test
    return "[" ++ e ++ (← printClauses isInner clauses) ++ "]"
  | .setComp element clauses => do
    let e ← element.print isInner .test
    return "\x7b" ++ e ++ (← printClauses isInner clauses) ++ "\x7d"
  | .dictComp key value clauses => do
    let k ← key.print isInner .test
    let v ← value.print isInner .test
    return "\x7b" ++ k ++ ": " ++ v ++ (← printClauses isInner clauses) ++ "\x7d"
  | .generator element clauses => do
    let e ← element.print isInner .test
    return "(" ++ e ++ (← printClauses isInner clauses) ++ ")"
  | .await value => return enclosedAt place .await ("await " ++ (← value.print isInner .atom))
  | .yield none => .ok (enclosedAt place .yield "yield")
  | .yield (some value) =>
    return enclosedAt place .yield ("yield " ++ (← value.print isInner .atom))
  | .yieldFrom value =>
    return enclosedAt place .yield ("yield from " ++ (← value.print isInner .atom))
  | .formatted parts => do
    let texts ← printParts parts
    return "f" ++
      (if isInner then quotedWith QuoteMark.all (texts.flatMap FormattedText.points)
        else quotedParts texts)

/-- Expressions as texts, all at the same place. -/
def printItems (isInner : Bool) (place : Binding) : List Expr → Except PrintError (List String)
  | [] => .ok []
  | e :: es => do
    let s ← e.print isInner place
    return s :: (← printItems isInner place es)

/-- Operands as texts, each at a tighter place than the one before it. -/
def printRising (isInner : Bool) (level : Binding) : List Expr → Except PrintError (List String)
  | [] => .ok []
  | e :: es => do
    let s ← e.print isInner level.next
    return s :: (← printRising isInner level.next es)

/-- An expression that may be left out, behind a mark. -/
def printOption (isInner : Bool) (mark : String) : Option Expr → Printed
  | none => .ok ""
  | some e => return mark ++ (← e.print isInner .test)

/-- Named arguments, and mappings that are spread over arguments. -/
def printKeywords (isInner : Bool) :
    List (Option String × Expr) → Except PrintError (List String)
  | [] => .ok []
  | (id, e) :: rest => do
    let s ← e.print isInner .test
    let head := match id with
      | none => "**"
      | some id => id ++ "="
    return (head ++ s) :: (← printKeywords isInner rest)

/-- The operators and operands of a comparison behind the first operand. -/
def printComparisons (isInner : Bool) : List (CompareOp × Expr) → Printed
  | [] => .ok ""
  | (op, e) :: rest => do
    let s ← e.print isInner .bitOr
    return " " ++ op.text ++ " " ++ s ++ (← printComparisons isInner rest)

/-- The entries of a mapping; one without a key is spread. -/
def printEntries (isInner : Bool) : List (Option Expr × Expr) → Except PrintError (List String)
  | [] => .ok []
  | (none, v) :: rest => do
    let s ← v.print isInner .bitOr
    return ("**" ++ s) :: (← printEntries isInner rest)
  | (some k, v) :: rest => do
    let s ← k.print isInner .test
    let t ← v.print isInner .test
    return (s ++ ": " ++ t) :: (← printEntries isInner rest)

/-- The clauses of a comprehension. -/
def printClauses (isInner : Bool) : List Clause → Printed
  | [] => .ok ""
  | .mk isAsync target iterable conditions :: rest => do
    let t ← target.print isInner .tuple
    let i ← iterable.print isInner .or
    let cs ← printItems isInner .or conditions
    return (if isAsync then " async for " else " for ") ++ t ++ " in " ++ i ++
      String.join (cs.map (" if " ++ ·)) ++ (← printClauses isInner rest)

/-- A parameter with its annotation and its default. -/
def Param.print (isInner : Bool) : Param → Printed
  | .mk id note default => do
    let n ← printOption isInner ": " note
    return id ++ n ++ (← printOption isInner "=" default)

/-- Parameters, each on its own. -/
def printParams (isInner : Bool) : List Param → Except PrintError (List String)
  | [] => .ok []
  | p :: ps => do
    let s ← p.print isInner
    return s :: (← printParams isInner ps)

/-- A parameter that may be left out, behind a mark. -/
def printSpread (isInner : Bool) (mark : String) : Option Param → Except PrintError (List String)
  | none => .ok []
  | some p => return [mark ++ (← p.print isInner)]

/-- All parameters with commas between them. A slash ends those that have no names for a caller, and
a star begins those that have nothing else. -/
def Params.print (isInner : Bool) : Params → Printed
  | .mk positional regular rest keyword keywords => do
    let ps ← printParams isInner positional
    let rs ← printParams isInner regular
    let spread ← printSpread isInner "*" rest
    let ks ← printParams isInner keyword
    let kws ← printSpread isInner "**" keywords
    let slash := if ps.isEmpty then [] else ["/"]
    let star := if spread.isEmpty ∧ !ks.isEmpty then ["*"] else spread
    return ", ".intercalate (ps ++ slash ++ rs ++ star ++ ks ++ kws)

/-- The parts of a formatted string, braces of plain text doubled. -/
def printParts : List Part → Except PrintError (List FormattedText)
  | [] => .ok []
  | .literal points :: rest => return ⟨doubleBraces points, true⟩ :: (← printParts rest)
  | .value value conversion format :: rest => do
    let s ← innerText (← value.print true .or)
    let mark := (conversion.map fun c => "!" ++ c.text).getD ""
    let spec ← printFormat format
    return ⟨Text.points ("\x7b" ++ s ++ mark) ++ spec ++ [125], false⟩ :: (← printParts rest)

/-- The format of a value, behind its colon. -/
def printFormat : Option (List Part) → Except PrintError (List Nat)
  | none => .ok []
  | some parts => return 58 :: (← printParts parts).flatMap FormattedText.points

end

mutual

/-- A pattern as text, at a place. -/
def Pattern.print (place : Binding) : Pattern → Printed
  | .value e => e.print false .test
  | .singleton c => c.print false
  | .sequence items => return "[" ++ ", ".intercalate (← printPatterns .test items) ++ "]"
  | .mapping items rest => do
    let ss ← printPairs items
    let spread := (rest.map fun id => ["**" ++ id]).getD []
    return "\x7b" ++ ", ".intercalate (ss ++ spread) ++ "\x7d"
  | .classOf cls arguments keywords => do
    let c ← cls.print false .atom
    let as ← printPatterns .test arguments
    let ks ← printFields keywords
    return c ++ "(" ++ ", ".intercalate (as ++ ks) ++ ")"
  | .star id => .ok ("*" ++ id.getD "_")
  | .bind none id => .ok (id.getD "_")
  | .bind (some _) none => .ok "_"
  | .bind (some p) (some id) => return enclosedAt place .test ((← p.print .bitOr) ++ " as " ++ id)
  | .choice items =>
    return enclosedAt place .bitOr (" | ".intercalate (← printPatterns .bitXor items))

/-- Patterns as texts, all at the same place. -/
def printPatterns (place : Binding) : List Pattern → Except PrintError (List String)
  | [] => .ok []
  | p :: ps => do
    let s ← p.print place
    return s :: (← printPatterns place ps)

/-- The keys of a mapping with the patterns of their values. -/
def printPairs : List (Expr × Pattern) → Except PrintError (List String)
  | [] => .ok []
  | (k, p) :: rest => do
    let s ← k.print false .test
    let t ← p.print .test
    return (s ++ ": " ++ t) :: (← printPairs rest)

/-- The named fields of a class with their patterns. -/
def printFields : List (String × Pattern) → Except PrintError (List String)
  | [] => .ok []
  | (id, p) :: rest => do
    let t ← p.print .test
    return (id ++ "=" ++ t) :: (← printFields rest)

end

end VariantRepair.Language
