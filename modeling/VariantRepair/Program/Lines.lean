import VariantRepair.Text.Lines

/-!
Texts whose lines are atoms. Only a line feed ends a line; a deleted line disappears, and an
appended one stands right behind the line that it is appended to.
-/

namespace VariantRepair.Program.Lines

/-- The lines of a text; a line feed at its end opens no further line. -/
def ofText (text : String) : List String :=
  let ls := (Text.cutLines text.toList).map String.ofList
  if ls.getLast? == some "" then ls.dropLast else ls

/-- The text of lines, a line feed behind each. -/
def text (ls : List String) : String :=
  String.join (ls.map (· ++ "\n"))

/-- Drop a line. -/
def delete (ls : List String) (atom : Nat) : List String :=
  ls.eraseIdx (atom - 1)

/-- Put a copy of one line behind another. -/
def append (ls : List String) (target source : Nat) : List String :=
  ls.insertIdx target (ls.getD (source - 1) "")

/-- Exchange two lines. -/
def swap (ls : List String) (first second : Nat) : List String :=
  (ls.set (first - 1) (ls.getD (second - 1) "")).set (second - 1) (ls.getD (first - 1) "")

end VariantRepair.Program.Lines
