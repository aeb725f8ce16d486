import VariantRepair.Text.Blank
import VariantRepair.Text.Digit

/-!
Tables of numbers as text: hexadecimal numbers with blanks between them make a row, and rows stand
on lines, with semicolons between them. Sets of code points are rows of boundaries: strictly
increasing numbers, where membership changes at each of them, and the set starts out empty at zero.
-/

namespace VariantRepair.Text

/-- The entries of a table: what stands between semicolons and line feeds. -/
def tableEntries (table : String) : List (List Char) :=
  wordsBy (fun c => c == ';' || c == '\n') [] table.toList

/-- The rows of a table of numbers. -/
def tableRows (table : String) : List (List Nat) :=
  (tableEntries table).map fun entry => (wordsBy (· == ' ') [] entry).map hexValue

/-- The number of boundaries that are at most `n`, when it lies between `lo` and `hi`: the window is
halved at most `fuel` times. -/
def countBelow (bounds : Array Nat) (n : Nat) : (fuel lo hi : Nat) → Nat
  | 0, lo, _ => lo
  | fuel + 1, lo, hi =>
    if hi ≤ lo then lo
    else
      let mid := (lo + hi) / 2
      if bounds[mid]?.getD 0 ≤ n then countBelow bounds n fuel (mid + 1) hi
      else countBelow bounds n fuel lo mid

/-- Does the set with these boundaries hold the code point? An odd number of boundaries at or
below it says yes. -/
def inRanges (bounds : Array Nat) (n : Nat) : Bool :=
  countBelow bounds n 32 0 bounds.size % 2 == 1

end VariantRepair.Text
