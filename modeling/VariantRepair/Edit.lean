import VariantRepair.Text.Blank
import VariantRepair.Text.Digit
import VariantRepair.Failure

/-!
Edits and their text form. A list of edits such as `d5 a3,7 s2,4` names a variant: the edits
applied in order to the unmodified program build it.
-/

namespace VariantRepair

/-- The kinds of edits. -/
inductive EditKind where
  | delete
  | append
  | swap
deriving Repr, DecidableEq

/-- The letter of a kind. -/
def EditKind.letter : EditKind → String
  | delete => "d"
  | append => "a"
  | swap => "s"

/-- The kind that a text is the letter of. -/
def EditKind.ofText? (s : String) : Option EditKind :=
  if s = "d" then some .delete
  else if s = "a" then some .append
  else if s = "s" then some .swap
  else none

/-- How many atoms an edit of the kind takes. -/
def EditKind.arity : EditKind → Nat
  | delete => 1
  | append | swap => 2

/-- One change of a program. -/
inductive Edit where
  /-- Remove an atom. -/
  | delete (atom : Int)
  /-- Put a copy of the atom `src` behind the atom `dst`. -/
  | append (dst src : Int)
  /-- Exchange two atoms. -/
  | swap (first second : Int)
deriving Repr, DecidableEq

namespace Edit

def kind : Edit → EditKind
  | delete _ => .delete
  | append .. => .append
  | swap .. => .swap

/-- The atoms of an edit, in the order of its text. -/
def atoms : Edit → List Int
  | delete a => [a]
  | append d s => [d, s]
  | swap a b => [a, b]

/-- The letter of a kind and the texts of its atoms. -/
def textOf (letter : String) (atoms : List String) : String :=
  letter ++ ",".intercalate atoms

/-- The text of an edit. -/
def text (e : Edit) : String :=
  textOf e.kind.letter (e.atoms.map toString)

/-- The kind with a letter, when it takes that many atoms. -/
def checkKind (letter : String) (count : Nat) : Except Failure EditKind :=
  match EditKind.ofText? letter with
  | none => .error (.refused (.editOperator (Text.quote letter)))
  | some kind =>
    if kind.arity = count then .ok kind
    else .error (.refused (.editArity letter kind.arity count))

/-- The edit with a letter and atoms. -/
def make (letter : String) (atoms : List Int) : Except Failure Edit := do
  let kind ← checkKind letter atoms.length
  match kind, atoms with
  | .delete, [a] => return delete a
  | .append, [d, s] => return append d s
  | .swap, [a, b] => return swap a b
  | kind, atoms => throw (.refused (.editArity letter kind.arity atoms.length))

/-- A number at the head of a text: digits with blanks around them, and the rest. -/
def number? (cs : List Char) : Option (List Char × List Char) :=
  let cs := cs.dropWhile Text.isBlank
  let ds := cs.takeWhile Text.isDigit
  if ds.isEmpty then none else some (ds, (cs.dropWhile Text.isDigit).dropWhile Text.isBlank)

/-- A closing parenthesis may end the text. -/
def isEnd (cs : List Char) : Bool :=
  cs == [] || cs == [')']

/-- The parts of a text that has the form of an edit: a letter and one or two numbers with a comma
between them; an opening parenthesis may stand before them and a closing one behind. -/
def parts? (s : String) : Option (String × List (List Char)) :=
  match Text.trimChars Text.isBlank s.toList with
  | [] => none
  | c :: cs =>
    let letter := String.singleton c
    if (EditKind.ofText? letter).isNone then none
    else
      let cs := if cs.head? = some '(' then cs.drop 1 else cs
      match number? cs with
      | none => none
      | some (first, rest) =>
        if isEnd rest then some (letter, [first])
        else
          match rest with
          | ',' :: rest =>
            match number? rest with
            | none => none
            | some (second, rest) => if isEnd rest then some (letter, [first, second]) else none
          | _ => none

/-- The numbers that digits write. -/
def readAtoms : List (List Char) → Except Failure (List Int)
  | [] => .ok []
  | ds :: rest =>
    match Number.parseInt (String.ofList ds) with
    | .error e => .error (.refused (.number (.text e)))
    | .ok n => (readAtoms rest).map (n :: ·)

/-- The edit that a text writes. -/
def parse (s : String) : Except Failure Edit :=
  match parts? s with
  | none => .error (.refused (.malformedEdit (Text.quote s)))
  | some (letter, numbers) => readAtoms numbers >>= make letter

/-- The edit that a value writes, by its text. -/
def parseValue (v : Value) : Except Failure Edit :=
  match v.written with
  | .error e => .error (.ofConversion e)
  | .ok s =>
    match parse s with
    | .error (.refused (.malformedEdit _)) => .error (.refused (.malformedEdit v.display))
    | r => r

/-- The edits that a list of words writes. -/
def parseWords : List String → Except Failure (List Edit)
  | [] => .ok []
  | w :: ws => do
    let e ← parse w
    let es ← parseWords ws
    return e :: es

/-- The edits that a text writes, separated by blanks. -/
def parseList (s : String) : Except Failure (List Edit) :=
  parseWords (Text.words s)

/-- The text of a list of edits. -/
def listText (es : List Edit) : String :=
  " ".intercalate (es.map text)

end Edit

end VariantRepair
