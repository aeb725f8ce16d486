import VariantRepair.Text.Digit
import VariantRepair.Yaml.Cursor

/-!
Scalars in a YAML text: plain ones, quoted ones and blocks of lines. Each is read from its first
character on and gives its text and the place behind it.
-/

namespace VariantRepair.Yaml

/-! ### Plain scalars -/

/-- Does a plain scalar end before the character, which `next` follows? -/
def endsPlain (inFlow : Bool) (c next : Char) : Bool :=
  isBlankOrEnd c ||
    (c == ':' && (isBlankOrEnd next || (inFlow && ",[]{}".toList.contains next))) ||
    (inFlow && ",?[]{}".toList.contains c)

/-- The characters of a plain scalar up to a blank or its end. -/
def plainRun (inFlow : Bool) : List Char → List Char
  | [] => []
  | c :: cs =>
    if endsPlain inFlow c (cs.head?.getD Cursor.endChar) then [] else c :: plainRun inFlow cs

/-- Line breaks and spaces after the first line break within a plain scalar: the breaks, or
nothing if a document marker comes. -/
def plainBreaks : (fuel : Nat) → Cursor → Option (List Char) × Cursor
  | 0, c => (some [], c)
  | fuel + 1, c =>
    if c.peek 0 == ' ' then plainBreaks fuel (c.forward 1)
    else if isBreak (c.peek 0) then
      let (b, c) := c.lineBreak
      if c.atMarker then (none, c)
      else
        let (bs, c) := plainBreaks fuel c
        (bs.map (b ++ ·), c)
    else (some [], c)

/-- What a line break and the empty lines behind it fold to: a space for a single line feed, else
the breaks after it. -/
def fold (first rest : List Char) : List Char :=
  if first != ['\n'] then first ++ rest
  else if rest.isEmpty then [' '] else rest

/-- What stands between two runs of a plain scalar; whether a line was ended. -/
def plainSpaces (c : Cursor) : List Char × Bool × Cursor :=
  let spaces := c.rest.takeWhile (· == ' ')
  let c := c.forward spaces.length
  if isBreak (c.peek 0) then
    let (first, c) := c.lineBreak
    if c.atMarker then ([], true, c)
    else
      match plainBreaks (c.rest.length + 1) c with
      | (none, c) => ([], true, c)
      | (some bs, c) => (fold first bs, true, c)
  else (spaces, false, c)

/-- The text of a plain scalar, and whether a line was ended last; `pending` is what stands
between the runs before and the next one. -/
def plain (inFlow : Bool) (indent : Int) (pending : List Char) (ended : Bool) :
    (fuel : Nat) → Cursor → List Char × Bool × Cursor
  | 0, c => ([], ended, c)
  | fuel + 1, c =>
    if c.peek 0 == '#' then ([], ended, c)
    else
      let run := plainRun inFlow c.rest
      if run.isEmpty then ([], ended, c)
      else
        let (spaces, ended, c) := plainSpaces (c.forward run.length)
        if spaces.isEmpty || c.peek 0 == '#' || (!inFlow && (c.column : Int) < indent) then
          (pending ++ run, ended, c)
        else
          let (more, ended, c) := plain inFlow indent spaces ended fuel c
          (pending ++ run ++ more, ended, c)

/-! ### Quoted scalars -/

/-- The character that an escape by letter stands for. -/
def escapeOf? : Char → Option Char
  | '0' => some '\x00'
  | 'a' => some '\x07'
  | 'b' => some '\x08'
  | 't' => some '\t'
  | '\t' => some '\t'
  | 'n' => some '\n'
  | 'v' => some '\x0b'
  | 'f' => some '\x0c'
  | 'r' => some '\r'
  | 'e' => some '\x1b'
  | ' ' => some ' '
  | '"' => some '"'
  | '\\' => some '\\'
  | '/' => some '/'
  | 'N' => some '\u0085'
  | '_' => some '\u00a0'
  | 'L' => some '\u2028'
  | 'P' => some '\u2029'
  | _ => none

/-- How many digits an escape by number has. -/
def escapeLength? : Char → Option Nat
  | 'x' => some 2
  | 'u' => some 4
  | 'U' => some 8
  | _ => none

/-- Line breaks within quotes, with the blanks at the starts of lines skipped. -/
def quotedBreaks : (fuel : Nat) → Cursor → Except Error (List Char × Cursor)
  | 0, c => .ok ([], c)
  | fuel + 1, c =>
    if c.atMarker then .error .malformed
    else
      let c := c.skip fun ch => ch == ' ' || ch == '\t'
      if isBreak (c.peek 0) then do
        let (b, c) := c.lineBreak
        let (bs, c) ← quotedBreaks fuel c
        return (b ++ bs, c)
      else .ok ([], c)

/-- Blanks within quotes: kept as they are, or folded when a line ends. -/
def quotedSpaces (c : Cursor) : Except Error (List Char × Cursor) :=
  let spaces := c.rest.takeWhile fun ch => ch == ' ' || ch == '\t'
  let c := c.forward spaces.length
  if c.peek 0 == Cursor.endChar then .error .malformed
  else if isBreak (c.peek 0) then do
    let (first, c) := c.lineBreak
    let (bs, c) ← quotedBreaks (c.rest.length + 1) c
    return (fold first bs, c)
  else .ok (spaces, c)

/-- An escape within double quotes, from the character behind the backslash on, as code points. -/
def escape (c : Cursor) : Except Error (List Nat × Cursor) :=
  let ch := c.peek 0
  match escapeOf? ch with
  | some e => .ok ([e.toNat], c.forward 1)
  | none =>
    match escapeLength? ch with
    | some n =>
      let digits := (c.rest.drop 1).take n
      if digits.length = n ∧ digits.all fun d => (Text.hexValue? d).isSome then
        let code := Text.hexValue digits
        if code < 0x110000 then .ok ([code], c.forward (n + 1)) else .error (.character code)
      else .error .malformed
    | none =>
      if isBreak ch then do
        let (bs, c) ← quotedBreaks (c.rest.length + 1) c.lineBreak.2
        return (bs.map Char.toNat, c)
      else .error .malformed

/-- The text up to the closing quote, as code points; the place is on the quote. -/
def quotedBody (quote : Char) : (fuel : Nat) → Cursor → Except Error (List Nat × Cursor)
  | 0, _ => .error .malformed
  | fuel + 1, c => do
    let ch := c.peek 0
    if isBlankOrEnd ch then
      let (spaces, c) ← quotedSpaces c
      let (more, c) ← quotedBody quote fuel c
      return (spaces.map Char.toNat ++ more, c)
    else if quote == '\'' && ch == '\'' && c.peek 1 == '\'' then
      let (more, c) ← quotedBody quote fuel (c.forward 2)
      return (quote.toNat :: more, c)
    else if ch == quote then return ([], c)
    else if quote == '"' && ch == '\\' then
      let (e, c) ← escape (c.forward 1)
      let (more, c) ← quotedBody quote fuel c
      return (e ++ more, c)
    else
      let (more, c) ← quotedBody quote fuel (c.forward 1)
      return (ch.toNat :: more, c)

/-- A quoted scalar from its opening quote on, as code points. -/
def quoted (c : Cursor) : Except Error (List Nat × Cursor) := do
  let (text, c) ← quotedBody (c.peek 0) (c.rest.length + 1) (c.forward 1)
  return (text, c.forward 1)

/-! ### Blocks of lines -/

/-- What becomes of the line breaks at the end of a block. -/
inductive Chomping where
  | strip
  | clip
  | keep
deriving Repr, DecidableEq

/-- The chomping that a sign asks for. -/
def chomping? : Char → Option Chomping
  | '+' => some .keep
  | '-' => some .strip
  | _ => none

/-- The indentation that a digit asks for; zero is refused. -/
def increment? (c : Char) : Except Error (Option Nat) :=
  if c == '0' then .error .malformed
  else if c.isDigit then .ok (some (c.toNat - 48))
  else .ok none

/-- The signs at the head of a block: chomping and indentation, in either order. -/
def blockSigns (c : Cursor) : Except Error (Chomping × Option Nat × Cursor) := do
  let (chomping, increment, c) ←
    match chomping? (c.peek 0) with
    | some chomping => do
      let increment ← increment? (c.peek 1)
      pure (chomping, increment, c.forward (if increment.isSome then 2 else 1))
    | none => do
      match ← increment? (c.peek 0) with
      | none => pure (Chomping.clip, none, c)
      | some n =>
        match chomping? (c.peek 1) with
        | some chomping => pure (chomping, some n, c.forward 2)
        | none => pure (Chomping.clip, some n, c.forward 1)
  if isSpaceOrEnd (c.peek 0) then return (chomping, increment, c) else throw .malformed

/-- The rest of the head line: spaces and a comment. -/
def headLine (c : Cursor) : Except Error Cursor :=
  let c := c.skip (· == ' ')
  let c := if c.peek 0 == '#' then c.skip (fun ch => !isBreakOrEnd ch) else c
  if isBreakOrEnd (c.peek 0) then .ok c.lineBreak.2 else .error .malformed

/-- Empty lines at the head of a block: their breaks and the widest indentation. -/
def blockIndentation (widest : Nat) : (fuel : Nat) → Cursor → List Char × Nat × Cursor
  | 0, c => ([], widest, c)
  | fuel + 1, c =>
    if c.peek 0 == ' ' then
      let c := c.forward 1
      blockIndentation (max widest c.column) fuel c
    else if isBreak (c.peek 0) then
      let (b, c) := c.lineBreak
      let (bs, widest, c) := blockIndentation widest fuel c
      (b ++ bs, widest, c)
    else ([], widest, c)

/-- Skip spaces up to an indentation. -/
def toIndent (indent : Nat) : (fuel : Nat) → Cursor → Cursor
  | 0, c => c
  | fuel + 1, c =>
    if c.column < indent && c.peek 0 == ' ' then toIndent indent fuel (c.forward 1) else c

/-- Empty lines within a block: their breaks. -/
def blockBreaks (indent : Nat) : (fuel : Nat) → Cursor → List Char × Cursor
  | 0, c => ([], c)
  | fuel + 1, c =>
    let c := toIndent indent indent c
    if isBreak (c.peek 0) then
      let (b, c) := c.lineBreak
      let (bs, c) := blockBreaks indent fuel c
      (b ++ bs, c)
    else ([], c)

/-- The lines of a block: its text, the last line break and the breaks of empty lines behind. -/
def blockLines (folded : Bool) (indent : Nat) (breaks : List Char) :
    (fuel : Nat) → Cursor → List Char × List Char × List Char × Cursor
  | 0, c => ([], [], breaks, c)
  | fuel + 1, c =>
    if c.column = indent ∧ c.peek 0 ≠ Cursor.endChar then
      let full := c.peek 0 != ' ' && c.peek 0 != '\t'
      let line := c.rest.takeWhile fun ch => !isBreakOrEnd ch
      let (ending, c) := (c.forward line.length).lineBreak
      let head := breaks ++ line
      let (breaks, c) := blockBreaks indent (c.rest.length + 1) c
      if c.column = indent ∧ c.peek 0 ≠ Cursor.endChar then
        let joint :=
          if folded && ending == ['\n'] && full && c.peek 0 != ' ' && c.peek 0 != '\t' then
            if breaks.isEmpty then [' '] else []
          else ending
        let (more, ending, breaks, c) := blockLines folded indent breaks fuel c
        (head ++ joint ++ more, ending, breaks, c)
      else (head, ending, breaks, c)
    else ([], [], breaks, c)

/-- A block of lines from its sign on; `parent` is the indentation of what it stands in. -/
def block (parent : Int) (c : Cursor) : Except Error (List Char × Cursor) := do
  let folded := c.peek 0 == '>'
  let (chomping, increment, c) ← blockSigns (c.forward 1)
  let c ← headLine c
  let least := (max 1 (parent + 1)).toNat
  let (breaks, indent, c) :=
    match increment with
    | none =>
      let (bs, widest, c) := blockIndentation 0 (c.rest.length + 1) c
      (bs, max least widest, c)
    | some n =>
      let indent := least + n - 1
      let (bs, c) := blockBreaks indent (c.rest.length + 1) c
      (bs, indent, c)
  let (text, ending, breaks, c) := blockLines folded indent breaks (c.rest.length + 1) c
  match chomping with
  | .strip => return (text, c)
  | .clip => return (text ++ ending, c)
  | .keep => return (text ++ ending ++ breaks, c)

end VariantRepair.Yaml
