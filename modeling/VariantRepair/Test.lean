import VariantRepair.Text.Blank
import VariantRepair.Text.Digit
import VariantRepair.Failure

/-!
Tests by name: positive ones pass on the unmodified program, negative ones fail. A name is a
letter for the polarity and a number from one on.
-/

namespace VariantRepair

/-- What a test is expected to do on the unmodified program. -/
inductive Polarity where
  | positive
  | negative
deriving Repr, DecidableEq

/-- The letter of a polarity. -/
def Polarity.letter : Polarity → String
  | positive => "p"
  | negative => "n"

/-- The polarity that a text is the letter of. -/
def Polarity.ofText? (s : String) : Option Polarity :=
  if s = "p" then some .positive else if s = "n" then some .negative else none

/-- One test. -/
structure Test where
  polarity : Polarity
  index : Nat
  index_pos : 0 < index
deriving Repr, DecidableEq

namespace Test

/-- The name of a test. -/
def name (t : Test) : String :=
  t.polarity.letter ++ toString t.index

/-- The name of a test, if its index can be written. -/
def written (t : Test) : Except Failure String :=
  if Number.isOverlong t.index then .error (.ofConversion .overlong) else .ok t.name

/-- Is the test expected to pass on the unmodified program? -/
def isPositive (t : Test) : Bool :=
  t.polarity == .positive

/-- The test with a polarity and an index. -/
def make (polarity : Polarity) (index : Int) : Except Failure Test :=
  if h : 0 < index.toNat then .ok { polarity, index := index.toNat, index_pos := h }
  else .error (.refused (.testIndex (toString index)))

/-- The parts of a text that has the form of a test name: a letter, digits, and blanks around. -/
def nameParts? (s : String) : Option (Polarity × List Char) :=
  match Text.trimChars Text.isBlank s.toList with
  | [] => none
  | c :: ds =>
    if ds.isEmpty || !ds.all Text.isDigit then none
    else (Polarity.ofText? (String.singleton c)).map fun p => (p, ds)

/-- The test that a text names. -/
def parse (s : String) : Except Failure Test :=
  match nameParts? s with
  | none => .error (.refused (.testName (Text.quote s)))
  | some (polarity, ds) =>
    match Number.parseInt (String.ofList ds) with
    | .ok n => make polarity n
    | .error e => .error (.refused (.number (.text e)))

/-- The test that a value names, by its text. -/
def parseValue (v : Value) : Except Failure Test :=
  match v.written with
  | .error e => .error (.ofConversion e)
  | .ok s =>
    match parse s with
    | .error (.refused (.testName _)) => .error (.refused (.testName v.display))
    | r => r

/-- Tests `1` to `count` of a polarity. -/
def upTo (polarity : Polarity) (count : Int) : List Test :=
  (List.range count.toNat).map fun i => { polarity, index := i + 1, index_pos := Nat.succ_pos i }

/-- The positive tests up to a number, then the negative ones. -/
def all (positives negatives : Int) : List Test :=
  upTo .positive positives ++ upTo .negative negatives

/-- Tests are ordered by letter, then by index. -/
def le (a b : Test) : Bool :=
  match a.polarity, b.polarity with
  | .negative, .positive => true
  | .positive, .negative => false
  | _, _ => a.index ≤ b.index

end Test

/-- A test whose index is kept as it was given, when it stands for a number from one on. -/
structure LooseTest where
  polarity : Polarity
  index : Value

/-- The loose test with a polarity and an index. -/
def LooseTest.make (letter : Value) (index : Value) : Except Failure LooseTest :=
  match letter with
  | .str s =>
    match Polarity.ofText? s with
    | none => .error (.refused (.testPolarity letter.display))
    | some polarity =>
      match index.toInt with
      | .error e => .error (.ofConversion e)
      | .ok n =>
        if n < 1 then .error (.naming index fun shown => .refused (.testIndex shown))
        else .ok { polarity, index }
  | v =>
    if v.hashable then .error (.naming v fun shown => .refused (.testPolarity shown))
    else .error (.misuse (.unhashable v.typeName))

/-- The name of a loose test, if its index can be written. -/
def LooseTest.name (t : LooseTest) : Except Failure String :=
  match t.index.written with
  | .ok s => .ok (t.polarity.letter ++ s)
  | .error e => .error (.ofConversion e)

end VariantRepair
