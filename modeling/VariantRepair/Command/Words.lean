/-!
Command lines in one text: words separated by blanks, parts of a word quoted or escaped, and
placeholders to be filled in before the text is split.

Between single quotes every character stands for itself. Between double quotes a backslash
escapes a double quote or a backslash, outside of quotes it escapes any character.
-/

namespace VariantRepair.Command

/-- Why a text does not split into words. -/
inductive WordsError where
  | openQuote
  | openEscape
deriving Repr, DecidableEq

/-- What the error says. -/
def WordsError.message : WordsError → String
  | .openQuote => "No closing quotation"
  | .openEscape => "No escaped character"

/-- The characters that separate words. -/
def isSeparator (c : Char) : Bool :=
  c == ' ' || c == '\t' || c == '\r' || c == '\n'

/-- Where splitting stands: between words, in a word, in quotes, or after a backslash. -/
inductive Mode where
  | between
  | word
  | quoted (quote : Char)
  | escaped (quote : Option Char)
deriving Repr, DecidableEq

/-- Split the rest of a text. The word under way is reversed; it is missing between words, and
empty when only empty quotes have been seen. -/
def splitFrom (mode : Mode) (word : List Char) : List Char → Except WordsError (List String)
  | [] =>
    match mode with
    | .between => .ok []
    | .word => .ok [String.ofList word.reverse]
    | .quoted _ => .error .openQuote
    | .escaped _ => .error .openEscape
  | c :: cs =>
    match mode with
    | .between =>
      if isSeparator c then splitFrom .between [] cs
      else if c = '\\' then splitFrom (.escaped none) [] cs
      else if c = '\'' ∨ c = '"' then splitFrom (.quoted c) [] cs
      else splitFrom .word [c] cs
    | .word =>
      if isSeparator c then (splitFrom .between [] cs).map (String.ofList word.reverse :: ·)
      else if c = '\\' then splitFrom (.escaped none) word cs
      else if c = '\'' ∨ c = '"' then splitFrom (.quoted c) word cs
      else splitFrom .word (c :: word) cs
    | .quoted q =>
      if c = q then splitFrom .word word cs
      else if c = '\\' ∧ q = '"' then splitFrom (.escaped (some q)) word cs
      else splitFrom (.quoted q) (c :: word) cs
    | .escaped none => splitFrom .word (c :: word) cs
    | .escaped (some q) =>
      if c = q ∨ c = '\\' then splitFrom (.quoted q) (c :: word) cs
      else splitFrom (.quoted q) (c :: '\\' :: word) cs

/-- The words of a text. -/
def split (s : String) : Except WordsError (List String) :=
  splitFrom .between [] s.toList

/-- The characters that need no quotes. -/
def isSafe (c : Char) : Bool :=
  c.isAlphanum || "_@%+=:,./-".toList.contains c

/-- A text as one word: as it is when all its characters are safe, else in single quotes. -/
def quoteWord (s : String) : String :=
  if s.isEmpty then "''"
  else if s.toList.all isSafe then s
  else
    let inner := s.toList.flatMap fun c => if c = '\'' then "'\"'\"'".toList else [c]
    "'" ++ String.ofList inner ++ "'"

/-- Replace a text at every place where it occurs, from the left; `skip` characters belong to a
place that has been replaced. -/
def replaceFrom (pattern value : List Char) (skip : Nat) : List Char → List Char
  | [] => []
  | c :: cs =>
    match skip with
    | skip + 1 => replaceFrom pattern value skip cs
    | 0 =>
      if pattern.isPrefixOf (c :: cs) then
        value ++ replaceFrom pattern value (pattern.length - 1) cs
      else c :: replaceFrom pattern value 0 cs

/-- Replace every occurrence of a text; the empty text occurs around every character. -/
def replaceAll (pattern value s : String) : String :=
  if pattern.isEmpty then
    value ++ String.ofList (s.toList.flatMap fun c => c :: value.toList)
  else String.ofList (replaceFrom pattern.toList value.toList 0 s.toList)

/-- Fill in placeholders, one after the other. -/
def fill (template : String) (replacements : List (String × String)) : String :=
  replacements.foldl (fun text r => replaceAll r.1 r.2 text) template

/-- The words of a template with its placeholders filled in. -/
def substitute (template : String) (replacements : List (String × String)) :
    Except WordsError (List String) :=
  split (fill template replacements)

end VariantRepair.Command
