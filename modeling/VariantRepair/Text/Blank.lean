/-!
Blank characters and the two operations that depend on them: trimming a text and splitting it
into words.
-/

namespace VariantRepair.Text

/-- The characters that count as white space: the Unicode spaces, the ASCII control characters
that separate text, and the next-line character. -/
def isBlank (c : Char) : Bool :=
  let n := c.toNat
  (9 ≤ n && n ≤ 13) || (28 ≤ n && n ≤ 32) || n == 0x85 || n == 0xA0 || n == 0x1680 ||
    (0x2000 ≤ n && n ≤ 0x200A) || n == 0x2028 || n == 0x2029 || n == 0x202F || n == 0x205F ||
    n == 0x3000

/-- The blanks that ASCII knows: space, tab, line feed, vertical tab, form feed and carriage
return. -/
def isAsciiBlank (c : Char) : Bool :=
  let n := c.toNat
  n == 32 || (9 ≤ n && n ≤ 13)

/-- Drop the leading and trailing characters that satisfy `p`. -/
def trimChars (p : Char → Bool) (cs : List Char) : List Char :=
  ((cs.dropWhile p).reverse.dropWhile p).reverse

/-- Drop leading and trailing blanks. -/
def strip (s : String) : String :=
  String.ofList (trimChars isBlank s.toList)

/-- The maximal runs of characters that do not satisfy `p`; `word` holds the run under way,
reversed. -/
def wordsBy (p : Char → Bool) (word : List Char) : List Char → List (List Char)
  | [] => if word.isEmpty then [] else [word.reverse]
  | c :: cs =>
    if p c then
      if word.isEmpty then wordsBy p [] cs else word.reverse :: wordsBy p [] cs
    else wordsBy p (c :: word) cs

/-- The words of a text: its maximal runs of characters that are not blank. -/
def words (s : String) : List String :=
  (wordsBy isBlank [] s.toList).map String.ofList

end VariantRepair.Text
