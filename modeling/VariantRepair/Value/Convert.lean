import VariantRepair.Number.Reading
import VariantRepair.Value.Display

/-!
Values as numbers: integers, cutting off a fraction, and doubles. Texts are read as numbers. And
values as texts, where integers with too many digits are refused.
-/

namespace VariantRepair

/-- Why a value does not convert to a number or to text. -/
inductive ConversionError where
  /-- The text is no number. -/
  | text (e : Number.NumberError)
  /-- A value of this type is not converted to an integer. -/
  | notWhole (typeName : String)
  /-- A value of this type is not converted to a double. -/
  | notReal (typeName : String)
  /-- The integer is beyond the largest double. -/
  | tooLarge
  /-- The integer is beyond those of the machine. -/
  | wordTooLarge
  /-- An infinity has no integer part. -/
  | infinite
  /-- What is not a number has no integer part. -/
  | notANumber
  /-- An integer has too many digits to be written. -/
  | overlong
deriving Repr, DecidableEq

/-- What the error says. -/
def ConversionError.message : ConversionError → String
  | .text e => e.message
  | .notWhole typeName =>
    "int() argument must be a string, a bytes-like object or a real number, not " ++
      Text.quote typeName
  | .notReal typeName =>
    "float() argument must be a string or a real number, not " ++ Text.quote typeName
  | .tooLarge => "int too large to convert to float"
  | .wordTooLarge => "Python int too large to convert to C int"
  | .infinite => "cannot convert float infinity to integer"
  | .notANumber => "cannot convert float NaN to integer"
  | .overlong => Number.overlongMessage

namespace Value

/-- Bytes as text from which a number is read: each byte beyond ASCII is a character that is in no
number. -/
def byteText (bs : List UInt8) : String :=
  String.ofList (bs.map fun b => if b < 128 then Char.ofNat b.toNat else '\ufffd')

/-- The value as an integer. -/
def toInt : Value → Except ConversionError Int
  | bool b => .ok (if b then 1 else 0)
  | int n => .ok n
  | float x =>
    match Number.truncate? x with
    | some n => .ok n
    | none => .error (if x.isNaN then .notANumber else .infinite)
  | str s => (Number.parseInt s).mapError .text
  | wild points => .error (.text (.notInteger 10 points))
  | bytes bs => (Number.parseInt (byteText bs)).mapError .text
  | v => .error (.notWhole v.typeName)

/-- The value as a double. -/
def toFloat : Value → Except ConversionError Float
  | bool b => .ok (if b then 1 else 0)
  | int n => match Number.ofInt? n with | some x => .ok x | none => .error .tooLarge
  | float x => .ok x
  | str s => (Number.parseFloat s).mapError .text
  | wild points => .error (.text (.notReal points))
  | bytes bs => (Number.parseFloat (byteText bs)).mapError .text
  | v => .error (.notReal v.typeName)

/-! ### Text -/

mutual

/-- Does an integer in the value have too many digits to be written? -/
def isOverlong : Value → Bool
  | int n => Number.isOverlong n
  | list items | tuple items | set items => isOverlongItem items
  | map pairs => isOverlongPair pairs
  | _ => false

/-- Does an integer in some of the items have too many digits? -/
def isOverlongItem : List Value → Bool
  | [] => false
  | v :: vs => isOverlong v || isOverlongItem vs

/-- Does an integer in some of the pairs have too many digits? -/
def isOverlongPair : List (Value × Value) → Bool
  | [] => false
  | (k, v) :: ps => isOverlong k || isOverlong v || isOverlongPair ps

end

/-- The form of a value in messages, if its integers can be written. -/
def shown (v : Value) : Except ConversionError String :=
  if v.isOverlong then .error .overlong else .ok v.display

/-- The value as plain text, if its integers can be written. -/
def written (v : Value) : Except ConversionError String :=
  if v.isOverlong then .error .overlong else .ok v.text

end Value

end VariantRepair
