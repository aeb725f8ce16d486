import VariantRepair.Text.Quoted
import VariantRepair.Language.Tree

/-!
Quotes for strings that are written with as few escapes as possible: line breaks and tabs may stand
raw, and a string with a line break takes triple quotes.
-/

namespace VariantRepair.Language

/-- A quotation mark. -/
inductive QuoteMark where
  | single | double | tripleDouble | tripleSingle
deriving Repr, DecidableEq

namespace QuoteMark

/-- Every mark, the preferred ones first. -/
def all : List QuoteMark := [single, double, tripleDouble, tripleSingle]

/-- The marks that text with line breaks may stand in. -/
def triple : List QuoteMark := [tripleDouble, tripleSingle]

/-- The quote that the mark consists of, as a code point. -/
def point : QuoteMark → Nat
  | single | tripleSingle => 39
  | double | tripleDouble => 34

/-- How often the mark repeats its quote. -/
def width : QuoteMark → Nat
  | single | double => 1
  | tripleDouble | tripleSingle => 3

/-- The code points of the mark. -/
def points (q : QuoteMark) : List Nat :=
  List.replicate q.width q.point

/-- A text between two marks. -/
def around (q : QuoteMark) (points : List Nat) : String :=
  String.ofList ((q.points ++ points ++ q.points).map Char.ofNat)

end QuoteMark

/-- Does one list stand inside another without gaps? -/
def contains (part : List Nat) : List Nat → Bool
  | [] => part.isEmpty
  | n :: ns => part.isPrefixOf (n :: ns) || contains part ns

/-- One code point of a string: what is printable stands for itself, and so do line feeds and tabs
unless `strict`. -/
def quotedPoint (strict : Bool) (n : Nat) : List Nat :=
  if !strict ∧ (n = 9 ∨ n = 10) then [n]
  else if n = 92 then [92, 92]
  else if Text.isPrintable n then [n]
  else (Text.escapeUnprintable n).map Char.toNat

/-- The text of a string with the marks that it may stand between, best first. When none of `marks`
serves, the text is escaped in full for one quote. -/
def quotedBody (marks : List QuoteMark) (strict : Bool) (points : List Nat) :
    List Nat × List QuoteMark :=
  let body := points.flatMap (quotedPoint strict)
  let able := marks.filter fun q =>
    (q.width == 3 || !body.contains 10) && !contains q.points body
  match able with
  | [] =>
    let quote := Text.chooseQuote points
    let plain : QuoteMark := if quote = 39 then .single else .double
    let mark := (marks.find? fun q => q.point == quote).getD plain
    ((points.flatMap (Text.quotePoint quote)).map Char.toNat, [mark])
  | _ =>
    match body.getLast? with
    | none => ([], able)
    | some last =>
      let sorted := able.filter (·.point ≠ last) ++ able.filter (·.point = last)
      if sorted.head?.any (·.point == last) then (body.dropLast ++ [92, last], sorted)
      else (body, sorted)

/-- A string in the best of some marks. -/
def quotedWith (marks : List QuoteMark) (points : List Nat) : String :=
  let (body, able) := quotedBody marks false points
  (able.head?.getD .single).around body

/-- The text of a part of a formatted string, and whether it is plain text. -/
structure FormattedText where
  points : List Nat
  isPlain : Bool

/-- The bodies of the parts of a formatted string with the marks that are left after all of them:
each part narrows the marks for those behind it, and one that none of them serves chooses anew. -/
def formattedBodies (marks : List QuoteMark) : List FormattedText → List Nat × List QuoteMark
  | [] => ([], marks)
  | part :: parts =>
    let (body, able) := quotedBody marks part.isPlain part.points
    let (bodies, left) := formattedBodies able parts
    (body ++ bodies, left)

/-- A formatted string in quotes, with line breaks and tabs escaped in its plain text. The best of
the marks that are left stands around all parts. -/
def quotedParts (parts : List FormattedText) : String :=
  let (body, marks) := formattedBodies QuoteMark.all parts
  (marks.head?.getD .single).around body

end VariantRepair.Language
