import VariantRepair.Text.Digit
import VariantRepair.Number.Reading
import VariantRepair.Value.Basic

/-!
Reading JSON text. Besides the standard values, `NaN`, `Infinity` and `-Infinity` are read. An
error names the place in the text where reading stopped.
-/

namespace VariantRepair.Json

/-- What is wrong with a text. -/
inductive Fault where
  | byteOrderMark
  | value
  | propertyName
  | colon
  | comma
  | extraData
  | openString
  | controlCharacter
  | escape
  | unicodeEscape
deriving Repr, DecidableEq

/-- What a fault is called. -/
def Fault.text : Fault → String
  | .byteOrderMark => "Unexpected UTF-8 BOM (decode using utf-8-sig)"
  | .value => "Expecting value"
  | .propertyName => "Expecting property name enclosed in double quotes"
  | .colon => "Expecting ':' delimiter"
  | .comma => "Expecting ',' delimiter"
  | .extraData => "Extra data"
  | .openString => "Unterminated string starting at"
  | .controlCharacter => "Invalid control character at"
  | .escape => "Invalid \\escape"
  | .unicodeEscape => "Invalid \\uXXXX escape"

/-- A fault and its place: line, column and offset. -/
structure Malformed where
  fault : Fault
  line : Nat
  column : Nat
  offset : Nat
deriving Repr, DecidableEq

/-- What the error says. -/
def Malformed.message (e : Malformed) : String :=
  s!"{e.fault.text}: line {e.line} column {e.column} (char {e.offset})"

/-- Why a text is not read: it is malformed, or an integer in it has too many digits. -/
inductive Error where
  | malformed (e : Malformed)
  | number (e : Number.NumberError)
deriving Repr, DecidableEq

/-- What stops a step of reading, which otherwise gives a result and the text that is left: a
fault, with the text that was left at its place, or a number. -/
inductive Stop where
  | fault (fault : Fault) (rest : List Char)
  | number (e : Number.NumberError)

def isSpace (c : Char) : Bool :=
  c == ' ' || c == '\t' || c == '\n' || c == '\r'

/-- Skip white space. -/
def skipSpace (cs : List Char) : List Char :=
  cs.dropWhile isSpace

/-- Four hexadecimal digits at the head of the text. -/
def fourHex? : List Char → Option Nat
  | a :: b :: c :: d :: _ => do
    let a ← Text.hexValue? a
    let b ← Text.hexValue? b
    let c ← Text.hexValue? c
    let d ← Text.hexValue? d
    return 4096 * a + 256 * b + 16 * c + d
  | _ => none

def isHighSurrogate (n : Nat) : Bool :=
  0xD800 ≤ n && n < 0xDC00

def isLowSurrogate (n : Nat) : Bool :=
  0xDC00 ≤ n && n < 0xE000

/-- The character that a letter after a backslash stands for. -/
def simpleEscape? : Char → Option Char
  | '"' => some '"'
  | '\\' => some '\\'
  | '/' => some '/'
  | 'b' => some '\x08'
  | 'f' => some '\x0c'
  | 'n' => some '\n'
  | 'r' => some '\r'
  | 't' => some '\t'
  | _ => none

/-- An escape by number, after its `\u`: one unit, or two that form a pair; a surrogate may stand
alone. `place` is the text from the `u` on. Four digits have to be followed by a further
character. -/
def unicodeEscape (place cs : List Char) : Except Stop (Nat × List Char) :=
  if cs.length ≤ 4 then .error (.fault .unicodeEscape place)
  else
    match fourHex? cs with
    | none => .error (.fault .unicodeEscape place)
    | some n =>
      let rest := cs.drop 4
      if isHighSurrogate n && 6 < rest.length then
        match rest with
        | '\\' :: 'u' :: more =>
          match fourHex? more with
          | none => .error (.fault .unicodeEscape ('u' :: more))
          | some m =>
            if isLowSurrogate m then
              .ok (0x10000 + (n - 0xD800) * 1024 + (m - 0xDC00), more.drop 4)
            else .ok (n, rest)
        | _ => .ok (n, rest)
      else .ok (n, rest)

/-- The rest of a string, as code points, after its opening quote; `start` is the text from that
quote on. -/
def stringBody (start : List Char) : (fuel : Nat) → List Char → Except Stop (List Nat × List Char)
  | 0, _ | _, [] => .error (.fault .openString start)
  | fuel + 1, '\\' :: cs =>
    match cs with
    | [] => .error (.fault .openString start)
    | 'u' :: more => do
      let (c, rest) ← unicodeEscape cs more
      let (s, rest) ← stringBody start fuel rest
      return (c :: s, rest)
    | e :: more =>
      match simpleEscape? e with
      | none => .error (.fault .escape ('\\' :: cs))
      | some c => do
        let (s, rest) ← stringBody start fuel more
        return (c.toNat :: s, rest)
  | fuel + 1, c :: cs =>
    if c = '"' then .ok ([], cs)
    else if c.toNat ≤ 0x1F then .error (.fault .controlCharacter (c :: cs))
    else do
      let (s, rest) ← stringBody start fuel cs
      return (c.toNat :: s, rest)

/-- The word at the head of the text is this one. -/
def startsWith (word : String) (cs : List Char) : Bool :=
  word.toList.isPrefixOf cs

/-- The digits of an integer: a zero, or digits that do not begin with zero. -/
def wholeDigits : List Char → List Char × List Char
  | '0' :: cs => (['0'], cs)
  | cs => (cs.takeWhile Number.isAsciiDigit, cs.dropWhile Number.isAsciiDigit)

/-- A point with digits behind it, and those digits. -/
def fractionDigits : List Char → List Char × List Char
  | '.' :: cs =>
    let ds := cs.takeWhile Number.isAsciiDigit
    if ds.isEmpty then ([], '.' :: cs) else (ds, cs.dropWhile Number.isAsciiDigit)
  | cs => ([], cs)

/-- An exponent with at least one digit, and what it is. -/
def exponentDigits : List Char → Option Int × List Char
  | c :: cs =>
    if c = 'e' ∨ c = 'E' then
      let (negative, more) := Number.splitSign cs
      let ds := more.takeWhile Number.isAsciiDigit
      if ds.isEmpty then (none, c :: cs)
      else
        let n := Text.digitsValue ds
        (some (if negative then -(n : Int) else n), more.dropWhile Number.isAsciiDigit)
    else (none, c :: cs)
  | [] => (none, [])

/-- A number; `place` is the text from its first character on. -/
def number (place : List Char) : Except Stop (Value × List Char) :=
  let (negative, cs) : Bool × List Char :=
    match place with
    | '-' :: cs => (true, cs)
    | _ => (false, place)
  let (whole, rest) := wholeDigits cs
  if whole.isEmpty then .error (.fault .value place)
  else
    let (fraction, rest) := fractionDigits rest
    let (exponent, rest) := exponentDigits rest
    if fraction.isEmpty && exponent.isNone then
      if Number.digitLimit < whole.length then .error (.number (.tooLong whole.length))
      else
        let n := Text.digitsValue whole
        .ok (.int (if negative then -(n : Int) else n), rest)
    else
      let e := exponent.getD 0 - (fraction.length : Int)
      .ok (.float (Number.ofDecimal negative (Text.digitsValue (whole ++ fraction)) e), rest)

/-- A value that does not hold others, or the fault that there is none. -/
def scalar (cs : List Char) : Except Stop (Value × List Char) :=
  if startsWith "null" cs then .ok (.null, cs.drop 4)
  else if startsWith "true" cs then .ok (.bool true, cs.drop 4)
  else if startsWith "false" cs then .ok (.bool false, cs.drop 5)
  else if startsWith "NaN" cs then .ok (.float Number.notANumber, cs.drop 3)
  else if startsWith "Infinity" cs then .ok (.float Number.infinity, cs.drop 8)
  else if startsWith "-Infinity" cs then .ok (.float (-Number.infinity), cs.drop 9)
  else number cs

mutual

/-- A value at the head of the text. -/
def value : (fuel : Nat) → List Char → Except Stop (Value × List Char)
  | 0, cs => .error (.fault .value cs)
  | fuel + 1, cs =>
    match cs with
    | '"' :: more => do
      let (s, rest) ← stringBody cs (more.length + 1) more
      return (.ofPoints s, rest)
    | '[' :: more =>
      match skipSpace more with
      | ']' :: rest => .ok (.list [], rest)
      | more => do
        let (vs, rest) ← items fuel more
        return (.list vs, rest)
    | '\x7b' :: more =>
      match skipSpace more with
      | '\x7d' :: rest => .ok (.map [], rest)
      | more => do
        let (ps, rest) ← members fuel more
        return (.map (Value.collect ps), rest)
    | cs => scalar cs

/-- The items of a list, up to its closing bracket. -/
def items : (fuel : Nat) → List Char → Except Stop (List Value × List Char)
  | 0, cs => .error (.fault .value cs)
  | fuel + 1, cs => do
    let (v, rest) ← value fuel cs
    match skipSpace rest with
    | ']' :: rest => return ([v], rest)
    | ',' :: rest => do
      let (vs, rest) ← items fuel (skipSpace rest)
      return (v :: vs, rest)
    | rest => throw (.fault .comma rest)

/-- The members of an object, up to its closing brace. -/
def members : (fuel : Nat) → List Char → Except Stop (List (Value × Value) × List Char)
  | 0, cs => .error (.fault .value cs)
  | fuel + 1, cs =>
    match cs with
    | '"' :: more => do
      let (key, rest) ← stringBody cs (more.length + 1) more
      match skipSpace rest with
      | ':' :: rest => do
        let (v, rest) ← value fuel (skipSpace rest)
        let pair := (Value.ofPoints key, v)
        match skipSpace rest with
        | '\x7d' :: rest => return ([pair], rest)
        | ',' :: rest => do
          let (ps, rest) ← members fuel (skipSpace rest)
          return (pair :: ps, rest)
        | rest => throw (.fault .comma rest)
      | rest => throw (.fault .colon rest)
    | cs => .error (.fault .propertyName cs)

end

/-- A fault at the place where `rest` of the text was left. -/
def locate (text : List Char) (fault : Fault) (rest : List Char) : Malformed :=
  let before := text.take (text.length - rest.length)
  { fault
    line := before.count '\n' + 1
    column := (before.reverse.takeWhile (· ≠ '\n')).length + 1
    offset := before.length }

/-- The value that a text writes, with nothing but white space around it. -/
def document (cs : List Char) : Except Stop Value :=
  if cs.head? = some '\ufeff' then .error (.fault .byteOrderMark cs)
  else do
    let (v, rest) ← value (2 * cs.length + 2) (skipSpace cs)
    let rest := skipSpace rest
    if rest.isEmpty then return v else throw (.fault .extraData rest)

/-- Read a JSON text. -/
def parse (s : String) : Except Error Value :=
  match document s.toList with
  | .ok v => .ok v
  | .error (.fault fault rest) => .error (.malformed (locate s.toList fault rest))
  | .error (.number e) => .error (.number e)

end VariantRepair.Json
