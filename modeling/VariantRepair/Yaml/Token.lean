import VariantRepair.Yaml.Scalar

/-!
The tokens of a YAML text. Indentation becomes tokens that open and close blocks; a key is
recognised when its colon comes, and the tokens that announce it are then put in front of it.

A text that cannot be read to its end still has tokens: those before the fault, and before the
first place that the fault keeps from being known as a key or as none. The fault stands behind them.
-/

namespace VariantRepair.Yaml

/-- The tag of a node as written: with a handle, or in full. -/
structure TagText where
  handle : Option String
  ending : String
deriving Repr, DecidableEq

/-- A line that is addressed to the reader of the text. -/
inductive Directive where
  /-- The version of the format. -/
  | version (major minor : Nat)
  /-- A handle of tags and what it stands for. -/
  | handle (name start : String)
  /-- Any other; it is passed over. -/
  | other
deriving Repr, DecidableEq

inductive Token where
  | directive (d : Directive)
  | documentStart
  | documentEnd
  | sequenceStart
  | mappingStart
  | blockEnd
  | flowSequenceStart
  | flowSequenceEnd
  | flowMappingStart
  | flowMappingEnd
  | flowEntry
  | blockEntry
  | key
  | value
  | alias (name : String)
  | anchor (name : String)
  | tag (t : TagText)
  /-- A scalar with its code points. -/
  | scalar (isPlain : Bool) (points : List Nat)
  | streamEnd
  | fault (e : Error)
deriving Repr, DecidableEq

/-- A place where a key may have begun: the number of tokens before it, where it stands, and
whether it has to turn out to be a key. -/
structure PossibleKey where
  before : Nat
  index : Nat
  line : Nat
  column : Nat
  required : Bool

/-- What the search for tokens keeps. -/
structure Scan where
  cursor : Cursor
  /-- How many flow collections are open. -/
  flow : Nat
  indent : Int
  /-- The indentations of the blocks around. -/
  outer : List Int
  /-- May a key begin here? -/
  keyAllowed : Bool
  /-- Where a key may have begun, by the number of open flow collections. -/
  possible : List (Nat × PossibleKey)
  tokens : Array Token

abbrev ScanM := StateT Scan (Except Error)

namespace Scan

def start (cs : List Char) : Scan :=
  { cursor := { rest := cs, index := 0, line := 0, column := 0 }
    flow := 0, indent := -1, outer := [], keyAllowed := true, possible := [], tokens := #[] }

end Scan

def push (t : Token) : ScanM Unit :=
  modify fun s => { s with tokens := s.tokens.push t }

def advance (n : Nat) : ScanM Unit :=
  modify fun s => { s with cursor := s.cursor.forward n }

def allowKey (b : Bool) : ScanM Unit :=
  modify fun s => { s with keyAllowed := b }

def peek (k : Nat) : ScanM Char := do
  return (← get).cursor.peek k

/-- Put a token before those that came after the first `n`. -/
def insertToken (n : Nat) (t : Token) : ScanM Unit :=
  modify fun s =>
    let ts := s.tokens.toList
    { s with tokens := (ts.take n ++ t :: ts.drop n).toArray }

/-- Skip spaces, comments and line breaks. -/
def toNextToken : (fuel : Nat) → ScanM Unit
  | 0 => pure ()
  | fuel + 1 => do
    let s ← get
    let c := s.cursor
    let c := if c.index = 0 ∧ c.peek 0 = '\ufeff' then c.forward 1 else c
    let c := c.skip (· == ' ')
    let c := if c.peek 0 == '#' then c.skip (fun ch => !isBreakOrEnd ch) else c
    let (b, c) := c.lineBreak
    set { s with cursor := c, keyAllowed := s.keyAllowed || (!b.isEmpty && s.flow == 0) }
    if b.isEmpty then pure () else toNextToken fuel

/-- Can a key no longer have begun at the place? A key stays on one line and is at most 1024
characters long. -/
def Scan.isStale (s : Scan) (k : PossibleKey) : Bool :=
  k.line != s.cursor.line || 1024 < s.cursor.index - k.index

/-- Give up the places where a key can no longer have begun. -/
def dropStale : ScanM Unit := do
  let s ← get
  if s.possible.any fun p => s.isStale p.2 && p.2.required then throw .malformed
  set { s with possible := s.possible.filter fun p => !s.isStale p.2 }

/-- Give up the place where a key may have begun on this level. -/
def dropPossible : ScanM Unit := do
  let s ← get
  if s.possible.any fun p => p.1 == s.flow && p.2.required then throw .malformed
  set { s with possible := s.possible.filter fun p => p.1 != s.flow }

/-- A key may begin here, if one is allowed. -/
def savePossible : ScanM Unit := do
  let s ← get
  if s.keyAllowed then
    dropPossible
    let c := s.cursor
    let key : PossibleKey :=
      { before := s.tokens.size, index := c.index, line := c.line, column := c.column
        required := s.flow == 0 && s.indent == (c.column : Int) }
    modify fun s => { s with possible := s.possible ++ [(s.flow, key)] }

/-- Close the blocks that are indented deeper than a column. -/
def unwind (column : Int) : (fuel : Nat) → ScanM Unit
  | 0 => pure ()
  | fuel + 1 => do
    let s ← get
    if s.flow = 0 ∧ column < s.indent then
      set { s with
        indent := s.outer.head?.getD (-1)
        outer := s.outer.drop 1
        tokens := s.tokens.push .blockEnd }
      unwind column fuel
    else pure ()

def unwindTo (column : Int) : ScanM Unit := do
  unwind column ((← get).outer.length + 1)

/-- Open a block at a column, when it is indented deeper than what it stands in. -/
def openBlock (column : Nat) : ScanM Bool := do
  let s ← get
  if s.indent < (column : Int) then
    set { s with indent := column, outer := s.indent :: s.outer }
    return true
  else return false

/-! ### Tokens one by one -/

def streamEnd : ScanM Unit := do
  unwindTo (-1)
  dropPossible
  modify fun s => { s with keyAllowed := false, possible := [] }
  push .streamEnd

/-- Go over spaces. -/
def skipSpaces : ScanM Unit :=
  modify fun s => { s with cursor := s.cursor.skip (· == ' ') }

/-- Go to the end of the line. -/
def skipLine : ScanM Unit :=
  modify fun s => { s with cursor := s.cursor.skip fun ch => !isBreakOrEnd ch }

/-- Take the characters at the place that satisfy `p`; at least one. -/
def takeRun (p : Char → Bool) : ScanM (List Char) := do
  let run := (← get).cursor.rest.takeWhile p
  if run.isEmpty then throw .malformed
  advance run.length
  return run

def marker (t : Token) : ScanM Unit := do
  unwindTo (-1)
  dropPossible
  allowKey false
  advance 3
  push t

def flowStart (t : Token) : ScanM Unit := do
  savePossible
  modify fun s => { s with flow := s.flow + 1, keyAllowed := true }
  advance 1
  push t

/-- The end of a flow collection; below level zero the level stays. -/
def flowEnd (t : Token) : ScanM Unit := do
  dropPossible
  modify fun s => { s with flow := s.flow - 1, keyAllowed := false }
  advance 1
  push t

def flowEntry : ScanM Unit := do
  allowKey true
  dropPossible
  advance 1
  push .flowEntry

def blockEntry : ScanM Unit := do
  let s ← get
  if s.flow = 0 then
    if !s.keyAllowed then throw .malformed
    if ← openBlock s.cursor.column then push .sequenceStart
  allowKey true
  dropPossible
  advance 1
  push .blockEntry

def keyMark : ScanM Unit := do
  let s ← get
  if s.flow = 0 then
    if !s.keyAllowed then throw .malformed
    if ← openBlock s.cursor.column then push .mappingStart
  allowKey (s.flow == 0)
  dropPossible
  advance 1
  push .key

def valueMark : ScanM Unit := do
  let s ← get
  match s.possible.find? fun p => p.1 == s.flow with
  | some (_, k) =>
    modify fun s => { s with possible := s.possible.filter fun p => p.1 != s.flow }
    insertToken k.before .key
    if s.flow = 0 then
      if ← openBlock k.column then insertToken k.before .mappingStart
    allowKey false
  | none =>
    if s.flow = 0 then
      if !s.keyAllowed then throw .malformed
      if ← openBlock s.cursor.column then push .mappingStart
    allowKey (s.flow == 0)
    dropPossible
  advance 1
  push .value

def nameMark (make : String → Token) : ScanM Unit := do
  savePossible
  allowKey false
  advance 1
  let word := (← get).cursor.rest.takeWhile isWordChar
  advance word.length
  let next ← peek 0
  let ends := isBlankOrEnd next || "?:,]\x7d%@".toList.contains next || next == '\x60'
  if word.isEmpty || !ends then
    throw .malformed
  push (make (String.ofList word))

def isUriChar (c : Char) : Bool :=
  c.isAlphanum || "-;/?:@&=+$,_.!~*'()[]%".toList.contains c

/-- The bytes of escapes in a tag, and what is left. -/
def uriBytes : (fuel : Nat) → List Char → Except Error (List UInt8 × List Char)
  | fuel + 1, '%' :: a :: b :: cs =>
    match Text.hexValue? a, Text.hexValue? b with
    | some a, some b => do
      let (bs, rest) ← uriBytes fuel cs
      return (UInt8.ofNat (16 * a + b) :: bs, rest)
    | _, _ => .error .malformed
  | _, '%' :: _ => .error .malformed
  | _, cs => .ok ([], cs)

/-- Tag text with its escapes resolved. -/
def uriText : (fuel : Nat) → List Char → Except Error (List Char)
  | 0, cs => .ok cs
  | _, [] => .ok []
  | fuel + 1, c :: cs =>
    if c == '%' then do
      let (bytes, rest) ← uriBytes (c :: cs).length (c :: cs)
      match String.fromUTF8? (ByteArray.mk bytes.toArray) with
      | none => throw .malformed
      | some s => return s.toList ++ (← uriText fuel rest)
    else (uriText fuel cs).map (c :: ·)

/-- The part of a tag behind its handle. -/
def tagUri : ScanM String := do
  let raw ← takeRun isUriChar
  match uriText (raw.length + 1) raw with
  | .ok cs => return String.ofList cs
  | .error e => throw e

/-- A handle of tags: an exclamation mark, or a word between two. -/
def tagHandle (mayBeSingle : Bool) : ScanM String := do
  let cs := (← get).cursor.rest
  let word := (cs.drop 1).takeWhile isWordChar
  if cs.head? != some '!' then throw .malformed
  if mayBeSingle && cs[1]? == some ' ' then
    advance 1
    return "!"
  else
    if cs[word.length + 1]? != some '!' then throw .malformed
    advance (word.length + 2)
    return "!" ++ String.ofList word ++ "!"

/-! ### Directives -/

/-- A number in a directive. -/
def directiveNumber : ScanM Nat := do
  let ds ← takeRun Char.isDigit
  if Number.digitLimit < ds.length then throw (.number (.tooLong ds.length))
  return Text.digitsValue ds

/-- A blank or the end of the line has to come. -/
def needSpace : ScanM Unit := do
  if !isSpaceOrEnd (← peek 0) then throw .malformed

/-- What a directive with a name says. -/
def directiveBody (name : String) : ScanM Directive := do
  if name = "YAML" then
    skipSpaces
    let major ← directiveNumber
    if (← peek 0) != '.' then throw .malformed
    advance 1
    let minor ← directiveNumber
    needSpace
    return .version major minor
  else if name = "TAG" then
    skipSpaces
    let handle ← tagHandle true
    if (← peek 0) != ' ' then throw .malformed
    skipSpaces
    let start ← tagUri
    needSpace
    return .handle handle start
  else
    skipLine
    return .other

/-- A directive with the rest of its line, which may hold a comment. -/
def directive : ScanM Unit := do
  unwindTo (-1)
  dropPossible
  allowKey false
  advance 1
  let name ← takeRun isWordChar
  needSpace
  let d ← directiveBody (String.ofList name)
  skipSpaces
  if (← peek 0) == '#' then skipLine
  if !isBreakOrEnd (← peek 0) then throw .malformed
  modify fun s => { s with cursor := s.cursor.lineBreak.2 }
  push (.directive d)

/-! ### Tags and scalars -/

def tagMark : ScanM Unit := do
  savePossible
  allowKey false
  let next ← peek 1
  let t : TagText ←
    if next == '<' then do
      advance 2
      let uri ← tagUri
      if (← peek 0) != '>' then throw .malformed
      advance 1
      pure { handle := none, ending := uri }
    else if isBlankOrEnd next then do
      advance 1
      pure { handle := none, ending := "!" }
    else do
      let rest := (← get).cursor.rest.drop 1
      let word := rest.takeWhile fun ch => !isSpaceOrEnd ch
      if word.contains '!' then
        let handle ← tagHandle false
        let uri ← tagUri
        pure { handle := some handle, ending := uri }
      else do
        advance 1
        let uri ← tagUri
        pure { handle := some "!", ending := uri }
  needSpace
  push (.tag t)

/-- Take a scalar that is not plain. -/
def runScalar (read : Cursor → Except Error (List Nat × Cursor)) : ScanM Unit := do
  let s ← get
  match read s.cursor with
  | .error e => throw e
  | .ok (points, c) =>
    set { s with cursor := c }
    push (.scalar false points)

def blockScalar : ScanM Unit := do
  allowKey true
  dropPossible
  let indent := (← get).indent
  runScalar fun c => (block indent c).map fun (text, c) => (text.map Char.toNat, c)

def quotedScalar : ScanM Unit := do
  savePossible
  allowKey false
  runScalar quoted

def plainScalar : ScanM Unit := do
  savePossible
  let s ← get
  let (text, ended, c) :=
    plain (s.flow != 0) (s.indent + 1) [] false (s.cursor.rest.length + 1) s.cursor
  set { s with cursor := c, keyAllowed := ended }
  push (.scalar true (text.map Char.toNat))

/-- May a plain scalar begin here? -/
def beginsPlain (inFlow : Bool) (c next : Char) : Bool :=
  !(isBlankOrEnd c || "-?:,[]{}#&*!|>'\"%@".toList.contains c || c == '\x60') ||
    (!isBlankOrEnd next && (c == '-' || (!inFlow && (c == '?' || c == ':'))))

/-- Read the next token; whether the text goes on behind it. -/
def nextToken : ScanM Bool := do
  toNextToken ((← get).cursor.rest.length + 1)
  dropStale
  let s ← get
  unwindTo s.cursor.column
  let ch := s.cursor.peek 0
  let next := s.cursor.peek 1
  let inFlow := s.flow != 0
  let first := s.cursor.column == 0
  if s.cursor.rest.isEmpty then
    streamEnd
    return false
  if ch == '%' && first then directive
  else if ch == '-' && first && s.cursor.atMarker then marker .documentStart
  else if ch == '.' && first && s.cursor.atMarker then marker .documentEnd
  else if ch == '[' then flowStart .flowSequenceStart
  else if ch == '\x7b' then flowStart .flowMappingStart
  else if ch == ']' then flowEnd .flowSequenceEnd
  else if ch == '\x7d' then flowEnd .flowMappingEnd
  else if ch == ',' then flowEntry
  else if ch == '-' && isBlankOrEnd next then blockEntry
  else if ch == '?' && (inFlow || isBlankOrEnd next) then keyMark
  else if ch == ':' && (inFlow || isBlankOrEnd next) then valueMark
  else if ch == '*' then nameMark .alias
  else if ch == '&' then nameMark .anchor
  else if ch == '!' then tagMark
  else if (ch == '|' || ch == '>') && !inFlow then blockScalar
  else if ch == '\'' || ch == '"' then quotedScalar
  else if beginsPlain inFlow ch next then plainScalar
  else throw .malformed
  return true

/-- The tokens that are known before a fault, and the fault: what may still turn out to be a key is
not known. -/
def Scan.upTo (s : Scan) (e : Error) : List Token :=
  let pending := s.possible.filter fun p => !s.isStale p.2
  let known := (pending.map fun p => p.2.before).foldl min s.tokens.size
  s.tokens.toList.take known ++ [.fault e]

/-- Read tokens up to the end of the text or to a fault. -/
def allTokens : (fuel : Nat) → Scan → List Token
  | 0, s => s.upTo .malformed
  | fuel + 1, s =>
    match nextToken s with
    | .error e => s.upTo e
    | .ok (true, s) => allTokens fuel s
    | .ok (false, s) => s.tokens.toList

/-- The tokens of a text. -/
def tokens (s : String) : List Token :=
  let cs := s.toList
  if cs.all isAllowed then allTokens (cs.length + 2) (Scan.start cs) else [.fault .malformed]

end VariantRepair.Yaml
