import VariantRepair.Text.Identifier
import VariantRepair.Text.Digit

/-!
The tokens of a module. Indentation becomes tokens that open and close blocks; a line ends with a
token of its own unless a bracket is open or a backslash joins it to the next line.
-/

namespace VariantRepair.Language

/-- What a token is. Numbers and strings are kept as they are written. -/
inductive Lexeme where
  | name (id : String)
  | number (text : List Char)
  | string (text : List Char)
  | op (text : String)
  | newline
  | indent
  | dedent
  | endMarker
deriving Repr, DecidableEq

/-- A token with the lines on which it begins and ends. -/
structure Token where
  lexeme : Lexeme
  first : Nat
  last : Nat
deriving Repr

/-- Where the search for tokens stands. -/
structure Lexer where
  rest : List Char
  line : Nat
  /-- The columns of the blocks around, innermost first, in two measures of tabs. -/
  indents : List (Nat × Nat)
  /-- The brackets that are open, innermost first. -/
  brackets : List Char

/-! ### Numbers -/

def isDigitChar (c : Char) : Bool :=
  '0' ≤ c && c ≤ '9'

/-- Digits with single underscores before some of them; none if an underscore has no digit behind
it. -/
def digitTail (p : Char → Bool) : List Char → Option (List Char × List Char)
  | [] => some ([], [])
  | '_' :: c :: cs =>
    if p c then (digitTail p (c :: cs)).map fun (ds, rest) => ('_' :: ds, rest) else none
  | c :: cs =>
    if p c then (digitTail p cs).map fun (ds, rest) => (c :: ds, rest)
    else if c = '_' then none
    else some ([], c :: cs)

/-- May a character stand in a name? -/
def isNameChar (c : Char) : Bool :=
  c.isAlphanum || c == '_' || 128 ≤ c.toNat

/-- The keywords that may follow a number without a blank. -/
def followsNumber (cs : List Char) : Bool :=
  ["and", "else", "for", "if", "in", "is", "or", "not"].any fun w => w.toList.isPrefixOf cs

/-- A number ends before a character that is in no name, or before a keyword. -/
def endsNumber (cs : List Char) : Bool :=
  followsNumber cs || !((cs.head?.map isNameChar).getD false)

/-- An integer in base two, eight or sixteen, behind its two first characters. -/
def basedNumber (p : Char → Bool) (head cs : List Char) : Option (List Char × List Char) := do
  let (digits, rest) ← digitTail p cs
  if digits.isEmpty || !endsNumber rest || (rest.head?.map isDigitChar).getD false then none
  else some (head ++ digits, rest)

/-- An exponent, if one comes: a letter, a sign and digits. -/
def exponentTail (cs : List Char) : Option (List Char × List Char) :=
  match cs with
  | e :: s :: d :: rest =>
    if e ≠ 'e' ∧ e ≠ 'E' then some ([], cs)
    else if s = '+' ∨ s = '-' then
      if isDigitChar d then
        (digitTail isDigitChar (d :: rest)).map fun (ds, rest) => (e :: s :: ds, rest)
      else none
    else if isDigitChar s then
      (digitTail isDigitChar (s :: d :: rest)).map fun (ds, rest) => (e :: ds, rest)
    else some ([], cs)
  | [e, s] =>
    if (e = 'e' ∨ e = 'E') ∧ isDigitChar s then some ([e, s], []) else some ([], cs)
  | _ => some ([], cs)

/-- The rest of a number behind its whole part: fraction, exponent and mark of the imaginary
part. -/
def fractionTail (cs : List Char) : Option (List Char × List Char) := do
  let (fraction, rest) ←
    match cs with
    | '.' :: more =>
      if (more.head?.map isDigitChar).getD false then
        (digitTail isDigitChar more).map fun (ds, rest) => ('.' :: ds, rest)
      else some (['.'], more)
    | _ => some ([], cs)
  let (exponent, rest) ← exponentTail rest
  let (mark, rest) :=
    match rest with
    | c :: more => if c = 'j' ∨ c = 'J' then ([c], more) else ([], rest)
    | [] => ([], [])
  if endsNumber rest then some (fraction ++ exponent ++ mark, rest) else none

/-- The number at the head of the text, which begins with a digit or with a point and a digit.
Zeros stand in front of other digits only when a fraction, an exponent or a mark follows. -/
def scanNumber (cs : List Char) : Option (List Char × List Char) :=
  match cs with
  | '0' :: 'x' :: rest | '0' :: 'X' :: rest =>
    basedNumber (fun c => (Text.hexValue? c).isSome) (cs.take 2) rest
  | '0' :: 'o' :: rest | '0' :: 'O' :: rest =>
    basedNumber (fun c => '0' ≤ c && c ≤ '7') (cs.take 2) rest
  | '0' :: 'b' :: rest | '0' :: 'B' :: rest =>
    basedNumber (fun c => c == '0' || c == '1') (cs.take 2) rest
  | _ => do
    let (whole, rest) ← digitTail isDigitChar cs
    let (tail, rest) ← fractionTail rest
    let leading := whole.head? == some '0' && whole.any fun c => c != '0' && c != '_'
    if leading && tail.isEmpty then none else some (whole ++ tail, rest)

/-! ### Strings -/

/-- The marks before a string, in small letters. -/
def stringMarks : List (List Char) :=
  [[], ['r'], ['u'], ['b'], ['f'], ['b', 'r'], ['r', 'b'], ['f', 'r'], ['r', 'f']]

/-- The length of the mark of a string that begins here. -/
def stringMark? (cs : List Char) : Option Nat :=
  [0, 1, 2].find? fun n =>
    stringMarks.contains ((cs.take n).map Char.toLower) && (cs.take n).length == n &&
      (cs[n]? == some '\'' || cs[n]? == some '"')

/-- A string up to its closing quotes, which are three or one; a string in single quotes stays on
its line. -/
def stringTail (quote : Char) (isTriple : Bool) : List Char → Option (List Char × List Char)
  | [] => none
  | '\\' :: c :: cs => (stringTail quote isTriple cs).map fun (s, rest) => ('\\' :: c :: s, rest)
  | c :: cs =>
    if c = '\n' ∧ !isTriple then none
    else if c = quote then
      if !isTriple then some ([c], cs)
      else
        match cs with
        | a :: b :: rest =>
          if a = quote ∧ b = quote then some ([c, a, b], rest)
          else (stringTail quote isTriple cs).map fun (s, rest) => (c :: s, rest)
        | _ => none
    else (stringTail quote isTriple cs).map fun (s, rest) => (c :: s, rest)

/-- The string behind a mark of `n` characters. -/
def scanString (n : Nat) (cs : List Char) : Option (List Char × List Char) :=
  let mark := cs.take n
  match cs.drop n with
  | a :: b :: c :: rest =>
    if a = b ∧ b = c then
      (stringTail a true rest).map fun (s, rest) => (mark ++ a :: b :: c :: s, rest)
    else (stringTail a false (b :: c :: rest)).map fun (s, rest) => (mark ++ a :: s, rest)
  | a :: rest => (stringTail a false rest).map fun (s, rest) => (mark ++ a :: s, rest)
  | [] => none

/-! ### Names and operators -/

/-- A name has only characters of names, and beyond ASCII those of identifiers. -/
def isName (cs : List Char) : Bool :=
  match cs with
  | [] => false
  | c :: rest =>
    cs.all (fun c => c.toNat < 128) ||
      (Text.isIdentifierStart c.toNat && rest.all fun c => Text.isIdentifierPart c.toNat)

/-- The operators, longer ones first. -/
def operators : List String :=
  ["**=", "//=", ">>=", "<<=", "...", "!=", "%=", "&=", "**", "*=", "+=", "-=", "->", "//", "/=",
   ":=", "<<", "<=", "==", ">=", ">>", "@=", "^=", "|=", "%", "&", "(", ")", "*", "+", ",", "-",
   ".", "/", ":", ";", "<", "=", ">", "@", "[", "]", "^", "\x7b", "|", "\x7d", "~"]

/-- The operator at the head of the text. -/
def operator? (cs : List Char) : Option String :=
  operators.find? fun op => op.toList.isPrefixOf cs

/-- The bracket that closes an opening one. -/
def closing : Char → Char
  | '(' => ')'
  | '[' => ']'
  | c => if c = '\x7b' then '\x7d' else c

/-- The brackets that are open after an operator; at most two hundred. -/
def nest (brackets : List Char) (op : String) : Option (List Char) :=
  match op.toList with
  | [c] =>
    if c = '(' ∨ c = '[' ∨ c = '\x7b' then
      if 200 ≤ brackets.length then none else some (c :: brackets)
    else if c = ')' ∨ c = ']' ∨ c = '\x7d' then
      match brackets with
      | o :: rest => if closing o = c then some rest else none
      | [] => none
    else some brackets
  | _ => some brackets

/-! ### Lines -/

/-- The indentation of a line in two measures: a tab goes to the next multiple of eight, or counts
as one. `joined` is the indentation before a backslash that joins lines. -/
structure Margin where
  column : Nat
  narrow : Nat
  joined : Nat
  rest : List Char
  line : Nat

/-- Measure the indentation of a line. -/
def margin (column narrow joined line : Nat) : List Char → Option Margin
  | ' ' :: cs => margin (column + 1) (narrow + 1) joined line cs
  | '\t' :: cs => margin ((column / 8 + 1) * 8) (narrow + 1) joined line cs
  | '\x0c' :: cs => margin 0 0 joined line cs
  | '\\' :: '\n' :: cs =>
    if cs.isEmpty then none
    else margin column narrow (if joined = 0 then column else joined) (line + 1) cs
  | '\\' :: _ => none
  | cs => some { column, narrow, joined, rest := cs, line }

/-- Close blocks until the indentation is that of one around; the two measures have to agree. -/
def closeBlocks (column narrow : Nat) : List (Nat × Nat) → Option (Nat × List (Nat × Nat))
  | [] => if column = 0 ∧ narrow = 0 then some (0, []) else none
  | (c, n) :: outer =>
    if column < c then (closeBlocks column narrow outer).map fun (k, is) => (k + 1, is)
    else if column = c ∧ narrow = n then some (0, (c, n) :: outer)
    else none

/-- The blocks that are opened or closed by the indentation of a line. -/
def indentation (line column narrow : Nat) (indents : List (Nat × Nat)) :
    Option (List Token × List (Nat × Nat)) :=
  let (c, n) := indents.head?.getD (0, 0)
  if column = c then (if narrow = n then some ([], indents) else none)
  else if c < column then
    if narrow ≤ n ∨ 99 ≤ indents.length then none
    else some ([{ lexeme := .indent, first := line, last := line }], (column, narrow) :: indents)
  else
    (closeBlocks column narrow indents).map fun (k, is) =>
      (List.replicate k { lexeme := .dedent, first := line, last := line }, is)

/-- The rest of the text behind a comment. -/
def dropComment (cs : List Char) : List Char :=
  if cs.head? = some '#' then cs.dropWhile (· ≠ '\n') else cs

/-- One token within a line: a name, a number, a string or an operator. -/
def scanToken (cs : List Char) : Option (Lexeme × List Char) :=
  match cs with
  | [] => none
  | c :: more =>
    match stringMark? cs with
    | some n => (scanString n cs).map fun (s, rest) => (.string s, rest)
    | none =>
      if isDigitChar c || (c == '.' && (more.head?.map isDigitChar).getD false) then
        (scanNumber cs).map fun (s, rest) => (.number s, rest)
      else if isNameChar c then
        let word := cs.takeWhile isNameChar
        if isName word then some (.name (String.ofList word), cs.drop word.length) else none
      else (operator? cs).map fun op => (.op op, cs.drop op.length)

/-- Read tokens up to the end of the text. `lineStart` says that a line begins; the tokens so far
are reversed. -/
def lexFrom (lineStart : Bool) (done : List Token) : (fuel : Nat) → Lexer → Option (List Token)
  | 0, _ => none
  | fuel + 1, lx =>
    if lineStart then
      match margin 0 0 0 lx.line lx.rest with
      | none => none
      | some m =>
        let lx := { lx with rest := m.rest, line := m.line }
        match dropComment m.rest with
        | '\n' :: rest => lexFrom true done fuel { lx with rest, line := m.line + 1 }
        | _ =>
          let column := if m.joined = 0 then m.column else m.joined
          let narrow := if m.joined = 0 then m.narrow else m.joined
          match indentation m.line column narrow lx.indents with
          | none => none
          | some (ts, indents) => lexFrom false (ts.reverse ++ done) fuel { lx with indents }
    else
      let rest := dropComment (lx.rest.dropWhile fun c => c == ' ' || c == '\t' || c == '\x0c')
      match rest with
      | [] =>
        if lx.brackets.isEmpty then
          some (({ lexeme := .endMarker, first := lx.line, last := lx.line } :: done).reverse)
        else none
      | '\n' :: more =>
        if lx.brackets.isEmpty then
          let t : Token := { lexeme := .newline, first := lx.line, last := lx.line }
          lexFrom true (t :: done) fuel { lx with rest := more, line := lx.line + 1 }
        else lexFrom false done fuel { lx with rest := more, line := lx.line + 1 }
      | '\\' :: '\n' :: more =>
        if more.isEmpty then none
        else lexFrom false done fuel { lx with rest := more, line := lx.line + 1 }
      | _ =>
        match scanToken rest with
        | none => none
        | some (lexeme, more) =>
          let breaks :=
            match lexeme with
            | .string s => s.count '\n'
            | _ => 0
          let brackets? :=
            match lexeme with
            | .op op => nest lx.brackets op
            | _ => some lx.brackets
          match brackets? with
          | none => none
          | some brackets =>
            let last := lx.line + breaks
            lexFrom false ({ lexeme, first := lx.line, last } :: done) fuel
              { lx with rest := more, line := last, brackets }

/-- The text with every line ended by a line feed. -/
def endLines (cs : List Char) : List Char :=
  if cs.getLast? = some '\n' then cs else cs ++ ['\n']

/-- The tokens of a text whose lines end with line feeds. -/
def lex (cs : List Char) : Option (List Token) :=
  let cs := endLines cs
  lexFrom true [] (2 * cs.length + 4) { rest := cs, line := 1, indents := [], brackets := [] }

end VariantRepair.Language
