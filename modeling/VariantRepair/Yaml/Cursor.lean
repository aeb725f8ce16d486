import VariantRepair.Number.Reading

/-!
A place in a YAML text: the characters that are left, and where they stand.
-/

namespace VariantRepair.Yaml

/-- Why a text is not read. -/
inductive Error where
  /-- The text is no YAML document of plain data. -/
  | malformed
  /-- An escape by number names no character. -/
  | character (code : Nat)
  /-- A text does not write a number. -/
  | number (e : Number.NumberError)
  /-- A number is beyond the largest double. -/
  | tooLarge
  /-- A word tagged as truth value is none. -/
  | truth (points : List Nat)
  /-- A number has no characters. -/
  | empty
  /-- A date, a time of day or a zone is out of range. -/
  | calendar (text : String)
  /-- A text tagged as a time is none. -/
  | timestamp
  /-- A mapping is tagged as a time. -/
  | timeless
deriving Repr, DecidableEq

/-- A place in a text. -/
structure Cursor where
  rest : List Char
  index : Nat
  line : Nat
  column : Nat

namespace Cursor

/-- The character that stands for the end of the text. -/
def endChar : Char := '\x00'

/-- The character `k` places ahead. -/
def peek (c : Cursor) (k : Nat) : Char :=
  (c.rest[k]?).getD endChar

/-- Go over one character. -/
def step (c : Cursor) : Cursor :=
  match c.rest with
  | [] => c
  | ch :: rest =>
    let breaks := ch == '\n' || ch == '\u0085' || ch == '\u2028' || ch == '\u2029' ||
      (ch == '\r' && rest.head? != some '\n')
    if breaks then { rest, index := c.index + 1, line := c.line + 1, column := 0 }
    else
      { rest, index := c.index + 1, line := c.line
        column := if ch == '\ufeff' then c.column else c.column + 1 }

/-- Go over `n` characters. -/
def forward (c : Cursor) : Nat → Cursor
  | 0 => c
  | n + 1 => c.step.forward n

end Cursor

/-- The characters that end a line. -/
def isBreak (c : Char) : Bool :=
  c == '\n' || c == '\r' || c == '\u0085' || c == '\u2028' || c == '\u2029'

/-- The end of the text or of a line. -/
def isBreakOrEnd (c : Char) : Bool :=
  c == Cursor.endChar || isBreak c

/-- The end of the text or of a line, or a space. -/
def isSpaceOrEnd (c : Char) : Bool :=
  c == ' ' || isBreakOrEnd c

/-- The end of the text or of a line, a space or a tab. -/
def isBlankOrEnd (c : Char) : Bool :=
  c == '\t' || isSpaceOrEnd c

/-- The characters that a text may hold. -/
def isAllowed (c : Char) : Bool :=
  let n := c.toNat
  n == 9 || n == 10 || n == 13 || (0x20 ≤ n && n ≤ 0x7E) || n == 0x85 ||
    (0xA0 ≤ n && n ≤ 0xD7FF) || (0xE000 ≤ n && n ≤ 0xFFFD) || 0x10000 ≤ n

/-- Letters, digits, the hyphen and the underscore of ASCII. -/
def isWordChar (c : Char) : Bool :=
  c.isAlphanum || c == '-' || c == '_'

namespace Cursor

/-- Go over the line break at the place, if there is one; the line break as it is kept. -/
def lineBreak (c : Cursor) : List Char × Cursor :=
  let ch := c.peek 0
  if ch == '\r' && c.peek 1 == '\n' then (['\n'], c.forward 2)
  else if ch == '\r' || ch == '\n' || ch == '\u0085' then (['\n'], c.forward 1)
  else if isBreak ch then ([ch], c.forward 1)
  else ([], c)

/-- Go over the characters that satisfy `p`. -/
def skip (p : Char → Bool) (c : Cursor) : Cursor :=
  c.forward (c.rest.takeWhile p).length

/-- A mark of three characters that begins or ends a document stands here. -/
def atMarker (c : Cursor) : Bool :=
  let three := c.rest.take 3
  (three == ['-', '-', '-'] || three == ['.', '.', '.']) && isBlankOrEnd (c.peek 3)

end Cursor

end VariantRepair.Yaml
