import VariantRepair.Text.Table
import VariantRepair.Text.Name.Alphabets
import VariantRepair.Text.Name.Ancient
import VariantRepair.Text.Name.Forms
import VariantRepair.Text.Name.Pictures
import VariantRepair.Text.Name.Signs

/-!
Characters by their names in Unicode 14. Most names stand in tables; those of ideographs and of
Hangul syllables follow rules.

An entry of a table of names belongs to the code point behind that of the entry before it, unless
a hexadecimal number and an equality sign tell another distance. A digit then says how many words
of the name before are kept, and the other words follow. A character may have several entries.
-/

namespace VariantRepair.Text

/-! ### Names in tables -/

/-- Search entries for a name, which is a list of words. `point` and `words` are those of the entry
before. -/
def searchEntries (name : List (List Char)) (point : Nat) (words : List (List Char)) :
    List (List Char) → Option Nat
  | [] => none
  | entry :: entries =>
    let mark := entry.takeWhile (· ≠ '=')
    let (distance, cs) :=
      if mark.length = entry.length then (1, entry)
      else (hexValue mark, entry.drop (mark.length + 1))
    let kept := (cs.head?.bind digitValue?).getD 0
    let words := words.take kept ++ wordsBy (· == ' ') [] (if kept = 0 then cs else cs.drop 1)
    if words = name then some (point + distance)
    else searchEntries name (point + distance) words entries

/-- The code point that a name in a table belongs to. -/
def searchNames (name : List (List Char)) (table : String) : Option Nat :=
  searchEntries name 0 [] (tableEntries table)

/-- All tables of names. -/
def nameTables : List String :=
  [alphabetNames, signNames, formNames, ancientNames, pictureNames]

/-! ### Names by rule -/

/-- Names that end in the number of their code point, with the code points that have them. -/
def numberedNames : List (String × List (Nat × Nat)) :=
  [("CJK COMPATIBILITY IDEOGRAPH-", [(0xF900, 0xFA6D), (0xFA70, 0xFAD9), (0x2F800, 0x2FA1D)]),
   ("KHITAN SMALL SCRIPT CHARACTER-", [(0x18B00, 0x18CD5)]),
   ("NUSHU CHARACTER-", [(0x1B170, 0x1B2FB)])]

/-- The code points of the unified ideographs. -/
def ideographs : List (Nat × Nat) :=
  [(0x3400, 0x4DBF), (0x4E00, 0x9FFF), (0x20000, 0x2A6DF), (0x2A700, 0x2B738),
   (0x2B740, 0x2B81D), (0x2B820, 0x2CEA1), (0x2CEB0, 0x2EBE0), (0x30000, 0x3134A)]

/-- Does a code point lie in one of some ranges? -/
def liesIn (ranges : List (Nat × Nat)) (n : Nat) : Bool :=
  ranges.any fun (first, last) => first ≤ n && n ≤ last

/-- What stands behind the head of a name. -/
def behind? (head : String) (name : List Char) : Option (List Char) :=
  if head.toList.isPrefixOf name then some (name.drop head.length) else none

/-- The code point of a name that ends in its number; the number has no zeros in front. -/
def numbered? (name : List Char) : Option Nat :=
  numberedNames.findSome? fun (head, ranges) =>
    (behind? head name).bind fun digits =>
      let n := hexValue digits
      if liesIn ranges n ∧ digits = (hexDigits (if n < 0x10000 then 4 else 5) n).map Char.toUpper
      then some n else none

/-- The unified ideograph of a name, which has its number in four or five digits and capitals. -/
def ideograph? (name : List Char) : Option Nat :=
  (behind? "CJK UNIFIED IDEOGRAPH-" name).bind fun digits =>
    if (digits.length = 4 ∨ digits.length = 5) ∧
        digits.all fun d => (hexValue? d).isSome && !('a' ≤ d && d ≤ 'f') then
      let n := hexValue digits
      if liesIn ideographs n then some n else none
    else none

/-- The leading consonants of Hangul. -/
def leadingSounds : List String :=
  ["G", "GG", "N", "D", "DD", "R", "M", "B", "BB", "S", "SS", "", "J", "JJ", "C", "K", "T", "P",
   "H"]

/-- The vowels of Hangul. -/
def vowelSounds : List String :=
  ["A", "AE", "YA", "YAE", "EO", "E", "YEO", "YE", "O", "WA", "WAE", "OE", "YO", "U", "WEO", "WE",
   "WI", "YU", "EU", "YI", "I"]

/-- The consonants behind the vowel of a Hangul syllable; the first is none. -/
def finalSounds : List String :=
  ["", "G", "GG", "GS", "N", "NJ", "NH", "D", "L", "LG", "LM", "LB", "LS", "LT", "LP", "LH", "M",
   "B", "BS", "S", "SS", "NG", "J", "C", "K", "T", "P", "H"]

/-- The longest of some sounds that a text begins with: its place, and the rest of the text. -/
def longestSound? (sounds : List String) (cs : List Char) : Option (Nat × List Char) :=
  let fitting := (sounds.zipIdx.filter fun (s, _) => s.toList.isPrefixOf cs)
  (fitting.mergeSort fun a b => b.1.length ≤ a.1.length).head?.map fun (s, i) =>
    (i, cs.drop s.length)

/-- The Hangul syllable of a name, by its sounds. -/
def syllableNamed? (name : List Char) : Option Nat := do
  let sounds ← behind? "HANGUL SYLLABLE " name
  let (leading, rest) ← longestSound? leadingSounds sounds
  let (vowel, rest) ← longestSound? vowelSounds rest
  let (final, rest) ← longestSound? finalSounds rest
  if rest.isEmpty then some (0xAC00 + (leading * 21 + vowel) * 28 + final) else none

/-- The code point that has a name. Capitals do not matter, except in names of Hangul syllables and
unified ideographs. -/
def named? (name : List Char) : Option Nat :=
  let upper := name.map Char.toUpper
  if (behind? "HANGUL SYLLABLE " name).isSome then syllableNamed? name
  else if (behind? "CJK UNIFIED IDEOGRAPH-" name).isSome then ideograph? name
  else
    (numbered? upper).or <|
      nameTables.findSome? (searchNames ((String.ofList upper).splitOn " " |>.map String.toList))

end VariantRepair.Text
