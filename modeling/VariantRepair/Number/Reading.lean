import VariantRepair.Text.Blank
import VariantRepair.Text.Digit
import VariantRepair.Text.Quoted
import VariantRepair.Number.Binary64

/-!
Reading numbers from text. Blanks around a number are skipped, digits may come from any script,
and a single underscore may stand between two digits.
-/

namespace VariantRepair.Number

open Text

/-- Why a text is no number. -/
inductive NumberError where
  /-- The text, given by its code points, does not have the form of an integer in a base. -/
  | notInteger (base : Nat) (points : List Nat)
  /-- The integer has more digits than are read. -/
  | tooLong (digits : Nat)
  /-- The text, given by its code points, does not have the form of a number with a fraction. -/
  | notReal (points : List Nat)
deriving Repr, DecidableEq

/-- The most digits an integer may have in text. -/
def digitLimit : Nat := 4300

/-- Has an integer more digits than are written? -/
def isOverlong (n : Int) : Bool :=
  decide (tenTo digitLimit ≤ n.natAbs)

/-- What is said of an integer that is not written. -/
def overlongMessage : String :=
  s!"Exceeds the limit ({digitLimit} digits) for integer string conversion; " ++
    "use sys.set_int_max_str_digits() to increase the limit"

/-- What the error says. -/
def NumberError.message : NumberError → String
  | .notInteger base points =>
    s!"invalid literal for int() with base {base}: " ++
      String.ofList ((quotePoints points).take 200)
  | .tooLong digits =>
    s!"Exceeds the limit ({digitLimit} digits) for integer string conversion: " ++
      s!"value has {digits} digits; use sys.set_int_max_str_digits() to increase the limit"
  | .notReal points => "could not convert string to float: " ++ String.ofList (quotePoints points)

/-- The characters a number is read from: digits of any script as ASCII digits, blanks beyond
ASCII as spaces, other characters beyond ASCII as question marks. -/
def plainChar (c : Char) : Char :=
  if c.toNat < 128 then c
  else
    match digitValue? c with
    | some d => Char.ofNat (48 + d)
    | none => if isBlank c then ' ' else '?'

/-- The text as it is read, without the blanks around it. -/
def plainChars (s : String) : List Char :=
  trimChars isAsciiBlank (s.toList.map plainChar)

/-- A leading sign, and the rest. -/
def splitSign : List Char → Bool × List Char
  | '-' :: cs => (true, cs)
  | '+' :: cs => (false, cs)
  | cs => (false, cs)

def isAsciiDigit (c : Char) : Bool :=
  '0' ≤ c && c ≤ '9'

/-- Digits and underscores up to the first other character. None if an underscore does not stand
between two digits; `before` says whether a digit came just before. -/
def digitRun? (before : Bool) : List Char → Option (List Char × List Char)
  | '_' :: cs =>
    if before && (cs.head?.map isAsciiDigit == some true) then digitRun? false cs else none
  | c :: cs =>
    if isAsciiDigit c then (digitRun? true cs).map fun (ds, rest) => (c :: ds, rest)
    else some ([], c :: cs)
  | [] => some ([], [])

/-- Read an integer in base ten. -/
def parseInt (s : String) : Except NumberError Int :=
  let (negative, cs) := splitSign (plainChars s)
  match digitRun? false cs with
  | none => .error (.notInteger 10 (points s))
  | some (ds, rest) =>
    if digitLimit < ds.length then .error (.tooLong ds.length)
    else if ds.isEmpty || !rest.isEmpty then .error (.notInteger 10 (points s))
    else
      let n := digitsValue ds
      .ok (if negative then -(n : Int) else n)

/-- The letter behind the zero in the mark of a base that is a power of two. -/
def baseLetter (base : Nat) : Char :=
  if base = 2 then 'b' else if base = 8 then 'o' else 'x'

/-- Digits without the mark of their base. -/
def dropBaseMark (base : Nat) : List Char → List Char
  | '0' :: c :: ds => if c.toLower == baseLetter base then ds else '0' :: c :: ds
  | ds => ds

/-- Read an integer in base two, eight or sixteen; the mark of the base may stand in front. -/
def parseInBase? (base : Nat) (s : String) : Option Int :=
  let (negative, cs) := splitSign (plainChars s)
  let values := (dropBaseMark base cs).map fun c => (hexValue? c).filter (· < base)
  if values.isEmpty || values.contains none then none
  else
    let n := values.foldl (fun n v => base * n + v.getD 0) 0
    some (if negative then -(n : Int) else n)

/-- The double nearest to `digits * 10 ^ exponent`. Exponents far outside of the range of doubles
are settled by the number of digits. -/
def ofDecimal (negative : Bool) (digits : Nat) (exponent : Int) : Float :=
  let count : Int := (toString digits).length
  if digits = 0 then nearest negative 0 1
  else if 400 < count + exponent then
    Float.ofBits (if negative then 0xFFF0000000000000 else 0x7FF0000000000000)
  else if count + exponent < -400 then nearest negative 0 1
  else
    let (n, d) := scaleTen digits 1 exponent
    nearest negative n d

/-- Remove the underscores of a text; none if one of them does not stand between two digits. -/
def dropUnderscores? (before : Bool) : List Char → Option (List Char)
  | [] => some []
  | '_' :: cs =>
    if before && (cs.head?.map isAsciiDigit == some true) then dropUnderscores? false cs else none
  | c :: cs => (dropUnderscores? (isAsciiDigit c) cs).map (c :: ·)

/-- An exponent part that is the whole of the text, or nothing. -/
def exponentPart? : List Char → Option Int
  | [] => some 0
  | c :: cs =>
    if c = 'e' ∨ c = 'E' then
      let (negative, ds) := splitSign cs
      if ds.isEmpty || !ds.all isAsciiDigit then none
      else
        let n := digitsValue ds
        some (if negative then -(n : Int) else n)
    else none

/-- The double written by digits with an optional point and an optional exponent. -/
def decimal? (negative : Bool) (cs : List Char) : Option Float :=
  let whole := cs.takeWhile isAsciiDigit
  let rest := cs.dropWhile isAsciiDigit
  let (fraction, rest) :=
    match rest with
    | '.' :: more => (more.takeWhile isAsciiDigit, more.dropWhile isAsciiDigit)
    | _ => ([], rest)
  if whole.isEmpty && fraction.isEmpty then none
  else (exponentPart? rest).map fun e =>
    ofDecimal negative (digitsValue (whole ++ fraction)) (e - (fraction.length : Int))

/-- Read a number with a fraction, an infinity or a text for no number. -/
def parseFloat (s : String) : Except NumberError Float :=
  let (negative, cs) := splitSign (plainChars s)
  let word := String.ofList (cs.map Char.toLower)
  if word = "inf" ∨ word = "infinity" then .ok (if negative then -infinity else infinity)
  else if word = "nan" then .ok notANumber
  else
    match (dropUnderscores? false cs).bind (decimal? negative) with
    | some x => .ok x
    | none => .error (.notReal (points s))

end VariantRepair.Number
