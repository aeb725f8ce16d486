/-!
Line breaks: the newline that a text file is read with, and the wider set of characters that end
a line when a text is cut into lines.
-/

namespace VariantRepair.Text

/-- Read every carriage return, alone or before a line feed, as one line feed. -/
def unifyNewlines : List Char → List Char
  | [] => []
  | '\r' :: '\n' :: cs => '\n' :: unifyNewlines cs
  | '\r' :: cs => '\n' :: unifyNewlines cs
  | c :: cs => c :: unifyNewlines cs

/-- The characters that end a line: those of ASCII, the separators of Unicode, and next-line. -/
def isLineBreak (c : Char) : Bool :=
  let n := c.toNat
  (10 ≤ n && n ≤ 13) || (28 ≤ n && n ≤ 30) || n == 0x85 || n == 0x2028 || n == 0x2029

/-- Cut at every line break; a carriage return and the line feed after it are one break, and a
break at the end opens no further line. `line` holds the line under way, reversed. -/
def linesBy (line : List Char) : List Char → List (List Char)
  | [] => if line.isEmpty then [] else [line.reverse]
  | '\r' :: '\n' :: cs => line.reverse :: linesBy [] cs
  | c :: cs => if isLineBreak c then line.reverse :: linesBy [] cs else linesBy (c :: line) cs

/-- The lines of a text, without their breaks. -/
def lines (s : String) : List String :=
  (linesBy [] s.toList).map String.ofList

/-- Cut a text at every line feed and only there. -/
def cutLines : List Char → List (List Char)
  | [] => [[]]
  | c :: cs =>
    if c = '\n' then [] :: cutLines cs
    else match cutLines cs with
      | [] => [[c]]
      | l :: ls => (c :: l) :: ls

end VariantRepair.Text
