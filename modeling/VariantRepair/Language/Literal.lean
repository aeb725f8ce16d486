import VariantRepair.Number.Reading
import VariantRepair.Text.Name
import VariantRepair.Language.Tree

/-!
What numbers and strings denote: the values of number tokens, the parts of a string token, escapes,
and the places in a formatted string where expressions stand.
-/

namespace VariantRepair.Language

/-! ### Numbers -/

/-- The number that digits write in a base; underscores are skipped. -/
def inBase (base : Nat) (cs : List Char) : Nat :=
  cs.foldl (fun n c => match Text.hexValue? c with | some d => base * n + d | none => n) 0

/-- The double that a number with fraction or exponent writes. -/
def realValue? (cs : List Char) : Option Float :=
  Number.decimal? false (cs.filter (· ≠ '_'))

/-- The constant of a number token. Decimal integers may not have too many digits. -/
def numberConstant? (cs : List Char) : Option Constant :=
  match cs with
  | '0' :: c :: rest =>
    if c = 'x' ∨ c = 'X' then some (.int (inBase 16 rest))
    else if c = 'o' ∨ c = 'O' then some (.int (inBase 8 rest))
    else if c = 'b' ∨ c = 'B' then some (.int (inBase 2 rest))
    else decimalConstant? cs
  | _ => decimalConstant? cs
where
  /-- The constant of a decimal number. -/
  decimalConstant? (cs : List Char) : Option Constant :=
    match cs.getLast? with
    | none => none
    | some last =>
      if last = 'j' ∨ last = 'J' then (realValue? cs.dropLast).map .imaginary
      else if cs.any fun c => c = '.' || c = 'e' || c = 'E' then (realValue? cs).map .float
      else
        let digits := cs.filter (· ≠ '_')
        if Number.digitLimit < digits.length then none else some (.int (inBase 10 digits))

/-! ### Strings -/

/-- A string token taken apart: its marks and the text between the quotes. -/
structure StringText where
  isBytes : Bool
  isRaw : Bool
  isFormatted : Bool
  /-- Does the token begin with the mark for Unicode? -/
  marked : Bool
  body : List Char

/-- Take a string token apart. -/
def StringText.ofToken (cs : List Char) : StringText :=
  let mark := cs.takeWhile fun c => c ≠ '\'' && c ≠ '"'
  let quoted := cs.drop mark.length
  let small := mark.map Char.toLower
  let width :=
    match quoted with
    | a :: b :: c :: _ :: _ :: _ => if a = b ∧ b = c then 3 else 1
    | _ => 1
  let inner := quoted.drop width
  { isBytes := small.contains 'b', isRaw := small.contains 'r', isFormatted := small.contains 'f'
    marked := mark.head? == some 'u', body := inner.take (inner.length - width) }

def isOctal (c : Char) : Bool :=
  '0' ≤ c && c ≤ '7'

/-- The code point of an escape by letter. -/
def letterEscape? : Char → Option Nat
  | '\\' => some 92
  | '\'' => some 39
  | '"' => some 34
  | 'a' => some 7
  | 'b' => some 8
  | 'f' => some 12
  | 'n' => some 10
  | 'r' => some 13
  | 't' => some 9
  | 'v' => some 11
  | _ => none

/-- How many hexadecimal digits an escape by number has. -/
def hexLength? (isBytes : Bool) : Char → Option Nat
  | 'x' => some 2
  | 'u' => if isBytes then none else some 4
  | 'U' => if isBytes then none else some 8
  | _ => none

/-- The code points that text with escapes denotes. An unknown escape stands for itself, and so does
a backslash at the end; `skip` characters belong to an escape that has been read. -/
def unescape (isBytes : Bool) (skip : Nat) : List Char → Option (List Nat)
  | [] => some []
  | c :: cs =>
    match skip with
    | skip + 1 => unescape isBytes skip cs
    | 0 =>
      if c ≠ '\\' then (unescape isBytes 0 cs).map (c.toNat :: ·)
      else
        match cs with
        | [] => some [92]
        | e :: more =>
          if e = '\n' then unescape isBytes 1 cs
          else
            match letterEscape? e, hexLength? isBytes e with
            | some n, _ => (unescape isBytes 1 cs).map (n :: ·)
            | none, some k =>
              let digits := more.take k
              if digits.length = k ∧ digits.all fun d => (Text.hexValue? d).isSome then
                let n := Text.hexValue digits
                if n < 0x110000 then (unescape isBytes (k + 1) cs).map (n :: ·) else none
              else none
            | none, none =>
              if isOctal e then
                let digits := (cs.take 3).takeWhile isOctal
                let n := inBase 8 digits
                (unescape isBytes digits.length cs).map ((if isBytes then n % 256 else n) :: ·)
              else if e = 'N' ∧ !isBytes then
                match more with
                | '\x7b' :: inner =>
                  let name := inner.takeWhile (· ≠ '\x7d')
                  if name.length = inner.length then none
                  else
                    match Text.named? name, unescape isBytes (name.length + 3) cs with
                    | some n, some ns => some (n :: ns)
                    | _, _ => none
                | _ => none
              else (unescape isBytes 0 cs).map (92 :: ·)

/-- The code points of a piece of a string. -/
def pieceText (isBytes isRaw : Bool) (cs : List Char) : Option (List Nat) :=
  if isRaw then some (cs.map Char.toNat) else unescape isBytes 0 cs

/-- The bytes of a bytes token: ASCII only, apart from escapes. -/
def StringText.bytes? (s : StringText) : Option (List Nat) :=
  if s.body.any fun c => 128 ≤ c.toNat then none else pieceText true s.isRaw s.body

/-! ### Formatted strings -/

/-- How the text before an expression ends. -/
inductive LiteralEnd where
  /-- A doubled brace stands for itself, and text goes on behind it. -/
  | doubled
  /-- An expression, the end of a format, or the end of the string comes. -/
  | stop
deriving Repr, DecidableEq

/-- The text of a formatted string up to a brace, how it ends, and the rest. On the outermost level
braces may be doubled, and a closing one may not stand alone. -/
def literalRun (isRaw outermost : Bool) : (fuel : Nat) → List Char →
    Option (List Char × LiteralEnd × List Char)
  | 0, _ => none
  | _ + 1, [] => some ([], .stop, [])
  | fuel + 1, c :: cs =>
    let brace (c : Char) (cs : List Char) : Option (List Char × LiteralEnd × List Char) :=
      if outermost ∧ cs.head? = some c then some ([c], .doubled, cs.drop 1)
      else if outermost ∧ c = '\x7d' then none
      else some ([], .stop, c :: cs)
    if c = '\\' ∧ !isRaw then
      match cs with
      | [] => some ([c], .stop, [])
      | 'N' :: '\x7b' :: more =>
        let name := more.takeWhile (· ≠ '\x7d')
        let rest := more.drop name.length
        (literalRun isRaw outermost fuel (rest.drop 1)).map fun (t, e, r) =>
          (c :: 'N' :: '\x7b' :: (name ++ rest.take 1 ++ t), e, r)
      | 'N' :: d :: more =>
        (literalRun isRaw outermost fuel more).map fun (t, e, r) => (c :: 'N' :: d :: t, e, r)
      | d :: more =>
        if d = '\x7b' ∨ d = '\x7d' then (brace d more).map fun (t, e, r) => (c :: t, e, r)
        else (literalRun isRaw outermost fuel more).map fun (t, e, r) => (c :: d :: t, e, r)
    else if c = '\x7b' ∨ c = '\x7d' then brace c cs
    else (literalRun isRaw outermost fuel cs).map fun (t, e, r) => (c :: t, e, r)

def isOpening (c : Char) : Bool :=
  c == '(' || c == '[' || c == '\x7b'

def isClosing (c : Char) : Bool :=
  c == ')' || c == ']' || c == '\x7d'

/-- Does a closing bracket close the opening one? -/
def closes (opening c : Char) : Bool :=
  (opening == '(' && c == ')') || (opening == '[' && c == ']') ||
    (opening == '\x7b' && c == '\x7d')

/-- The text of an expression in a formatted string, and the rest, which begins with what ends the
expression: a conversion, a format, an equality sign or the closing brace. `quote` is the string
that is open, with its width; a backslash or a comment is refused. -/
def expressionRun (quote : Option (Char × Nat)) (brackets : List Char) : (fuel : Nat) → List Char →
    Option (List Char × List Char)
  | 0, _ => none
  | _ + 1, [] => none
  | fuel + 1, c :: cs =>
    let next (quote : Option (Char × Nat)) (brackets : List Char) (n : Nat) :
        Option (List Char × List Char) :=
      (expressionRun quote brackets fuel ((c :: cs).drop n)).map fun (t, r) =>
        ((c :: cs).take n ++ t, r)
    let isTriple := cs.take 2 == [c, c]
    if c = '\\' then none
    else
      match quote with
      | some (q, width) =>
        if c ≠ q then next quote brackets 1
        else if width = 1 then next none brackets 1
        else if isTriple then next none brackets 3
        else next quote brackets 1
      | none =>
        if c = '\'' ∨ c = '"' then
          if isTriple then next (some (c, 3)) brackets 3 else next (some (c, 1)) brackets 1
        else if isOpening c then
          if 200 ≤ brackets.length then none else next none (c :: brackets) 1
        else if c = '#' then none
        else if brackets.isEmpty ∧ "!:\x7d=<>".toList.contains c then
          if "!=<>".toList.contains c ∧ cs.head? = some '=' then next none brackets 2
          else if c = '<' ∨ c = '>' then next none brackets 1
          else some ([], c :: cs)
        else if isClosing c then
          match brackets with
          | [] => none
          | o :: rest => if closes o c then next none rest 1 else none
        else next none brackets 1

/-- Is there an expression at all? -/
def isBlankExpression (cs : List Char) : Bool :=
  cs.all fun c => c == ' ' || c == '\t' || c == '\n' || c == '\x0c'

/-- The conversion behind an exclamation mark. -/
def conversion? : Char → Option Conversion
  | 's' => some .str
  | 'r' => some .repr
  | 'a' => some .ascii
  | _ => none

/-- Put parts behind others; texts that meet become one, and empty ones are left out. -/
def joinParts : List Part → List Part → List Part
  | [], qs => qs
  | .literal [] :: ps, qs => joinParts ps qs
  | .literal s :: ps, qs =>
    match joinParts ps qs with
    | .literal t :: rest => .literal (s ++ t) :: rest
    | rest => .literal s :: rest
  | p :: ps, qs => p :: joinParts ps qs

end VariantRepair.Language
