import VariantRepair.Text.Digit
import VariantRepair.Text.Surrogate
import VariantRepair.Number.Reading

/-!
What plain scalars mean. A scalar without quotes and tag is null, a truth value, a number or a
time when it has the form of one, else a text. One line feed may stand behind the form.
-/

namespace VariantRepair.Yaml

/-- The kinds of data that a tag names. -/
inductive Kind where
  | null
  | truth
  | whole
  | real
  | time
  | text
  | merge
  | default
  | bytes
  | sequence
  | mapping
  | set
  | ordered
  | pairs
deriving Repr, DecidableEq

/-- The standard tags. -/
def Kind.ofTag? (tag : String) : Option Kind :=
  match tag.dropPrefix? "tag:yaml.org,2002:" with
  | none => none
  | some name =>
    match name.toString with
    | "null" => some .null
    | "bool" => some .truth
    | "int" => some .whole
    | "float" => some .real
    | "timestamp" => some .time
    | "str" => some .text
    | "merge" => some .merge
    | "value" => some .default
    | "binary" => some .bytes
    | "seq" => some .sequence
    | "map" => some .mapping
    | "set" => some .set
    | "omap" => some .ordered
    | "pairs" => some .pairs
    | _ => none

/-! ### Forms -/

def isDigitOrUnderscore (c : Char) : Bool :=
  c.isDigit || c == '_'

/-- Base sixty: groups of one or two digits below sixty, each after a colon, then `stop`. -/
def sixtyGroups (stop : List Char → Bool) : (fuel : Nat) → List Char → Bool
  | 0, _ => false
  | fuel + 1, ':' :: cs =>
    let next (rest : List Char) : Bool := stop rest || sixtyGroups stop fuel rest
    match cs with
    | a :: b :: rest =>
      (a.isDigit && next (b :: rest)) || (('0' ≤ a && a ≤ '5') && b.isDigit && next rest)
    | [a] => a.isDigit && next []
    | [] => false
  | _, _ => false

def dropSign (cs : List Char) : List Char :=
  (Number.splitSign cs).2

/-- The form of an integer: binary, octal, decimal, hexadecimal or in base sixty. -/
def isWholeForm (cs : List Char) : Bool :=
  match dropSign cs with
  | '0' :: 'b' :: ds => !ds.isEmpty && ds.all fun c => c == '0' || c == '1' || c == '_'
  | '0' :: 'x' :: ds =>
    !ds.isEmpty && ds.all fun c => (Text.hexValue? c).isSome || c == '_'
  | ['0'] => true
  | '0' :: ds => ds.all fun c => ('0' ≤ c && c ≤ '7') || c == '_'
  | c :: ds =>
    c.isDigit && (ds.all isDigitOrUnderscore ||
      sixtyGroups List.isEmpty (ds.length + 1) (ds.dropWhile isDigitOrUnderscore))
  | [] => false

/-- An exponent with its sign, or nothing. -/
def isExponentForm : List Char → Bool
  | [] => true
  | e :: s :: ds =>
    (e == 'e' || e == 'E') && (s == '+' || s == '-') && !ds.isEmpty && ds.all Char.isDigit
  | _ => false

/-- Digits behind a point, with an exponent. -/
def isFractionForm (cs : List Char) : Bool :=
  isExponentForm (cs.dropWhile isDigitOrUnderscore)

/-- The form of a number with a fraction. -/
def isRealForm (cs : List Char) : Bool :=
  let body := dropSign cs
  match body with
  | '.' :: rest =>
    let word := String.ofList rest
    (word = "inf" ∨ word = "Inf" ∨ word = "INF") ||
      (body == cs && ((word = "nan" ∨ word = "NaN" ∨ word = "NAN") ||
        ((rest.head?.map Char.isDigit).getD false && isFractionForm rest)))
  | c :: rest =>
    c.isDigit &&
      match rest.dropWhile isDigitOrUnderscore with
      | '.' :: more => isFractionForm more
      | more =>
        sixtyGroups (fun r => r.head? == some '.' && (r.drop 1).all isDigitOrUnderscore)
          (more.length + 1) more
  | [] => false

/-- Numbers between separators, as a time writes them. -/
structure TimeText where
  date : List (List Char)
  clock : List (List Char)
  fraction : List Char
  sign : Option Char
  zone : List (List Char)
  isUniversal : Bool

/-- A number of `least` to `most` digits at the head of the text. -/
def digits? (least most : Nat) (cs : List Char) : Option (List Char × List Char) :=
  let ds := (cs.takeWhile Char.isDigit).take most
  if ds.length < least then none else some (ds, cs.drop ds.length)

def char? (p : Char → Bool) : List Char → Option (Char × List Char)
  | c :: cs => if p c then some (c, cs) else none
  | [] => none

/-- The zone at the end of a time. -/
def zoneForm? (cs : List Char) : Option (Option Char × List (List Char) × Bool) :=
  let body := cs.dropWhile fun c => c == ' ' || c == '\t'
  if cs.isEmpty then some (none, [], false)
  else if body = ['Z'] then some (none, [], true)
  else do
    let (sign, rest) ← char? (fun c => c == '+' || c == '-') body
    let (hour, rest) ← digits? 1 2 rest
    if rest.isEmpty then return (some sign, [hour], true)
    let (_, rest) ← char? (· == ':') rest
    let (minute, rest) ← digits? 2 2 rest
    if rest.isEmpty then return (some sign, [hour, minute], true) else none

/-- The time of day behind a date. -/
def clockForm? (date : List (List Char)) (cs : List Char) : Option TimeText := do
  let rest ←
    match cs with
    | 'T' :: rest | 't' :: rest => some rest
    | _ =>
      let rest := cs.dropWhile fun c => c == ' ' || c == '\t'
      if rest.length < cs.length then some rest else none
  let (hour, rest) ← digits? 1 2 rest
  let (_, rest) ← char? (· == ':') rest
  let (minute, rest) ← digits? 2 2 rest
  let (_, rest) ← char? (· == ':') rest
  let (second, rest) ← digits? 2 2 rest
  let (fraction, rest) :=
    match rest with
    | '.' :: more => (more.takeWhile Char.isDigit, more.dropWhile Char.isDigit)
    | _ => ([], rest)
  let (sign, zone, isUniversal) ← zoneForm? rest
  return { date, clock := [hour, minute, second], fraction, sign, zone, isUniversal }

/-- The form of a date, with or without a time of day; months and days may have one digit. -/
def timeForm? (cs : List Char) : Option TimeText := do
  let (year, rest) ← digits? 4 4 cs
  let (_, rest) ← char? (· == '-') rest
  let (month, rest) ← digits? 1 2 rest
  let (_, rest) ← char? (· == '-') rest
  let (day, rest) ← digits? 1 2 rest
  let date := [year, month, day]
  if rest.isEmpty then
    return { date, clock := [], fraction := [], sign := none, zone := [], isUniversal := false }
  else clockForm? date rest

/-- Is a plain scalar of this form a time? A date alone has to have all its digits. -/
def isTimeForm (cs : List Char) : Bool :=
  match timeForm? cs with
  | some t => !t.clock.isEmpty || cs.length == 10
  | none => false

def truthWords : List String :=
  ["yes", "Yes", "YES", "no", "No", "NO", "true", "True", "TRUE", "false", "False", "FALSE",
   "on", "On", "ON", "off", "Off", "OFF"]

/-- The marks that begin aliases, anchors and tags; as texts they are of no known kind. -/
def markWords : List String :=
  ["!", "&", "*"]

/-- The characters of a form: the text without one line feed at its end. Surrogates are in no
form, and a character stands in for each of them. -/
def formChars (points : List Nat) : List Char :=
  let cs := points.map Text.standIn
  if cs.length ≠ 1 ∧ cs.getLast? = some '\n' then cs.dropLast else cs

/-- What a plain scalar is, by its form. -/
def plainKind (points : List Nat) : Option Kind :=
  let cs := formChars points
  let s := String.ofList cs
  if ["", "~", "null", "Null", "NULL"].contains s then some .null
  else if truthWords.contains s then some .truth
  else if s = "<<" then some .merge
  else if s = "=" then some .default
  else if markWords.contains s then none
  else if isRealForm cs then some .real
  else if isWholeForm cs then some .whole
  else if isTimeForm cs then some .time
  else some .text

end VariantRepair.Yaml
