import VariantRepair.Text.Lines
import VariantRepair.Localization.Checked

/-!
The text of a fault file: one row for each line of the program, with a weight. Blank rows are
skipped, and so is all behind a number sign.
-/

namespace VariantRepair

/-- The parts of a row, separated by commas and blanks. -/
def faultParts (row : String) : List String :=
  (Text.wordsBy (fun c => c == ',' || Text.isBlank c) [] row.toList).map String.ofList

/-- The text of a row before its comment. -/
def beforeComment (row : String) : String :=
  Text.strip (String.ofList (row.toList.takeWhile (· ≠ '#')))

/-- The line and the weight of a row's parts. A row of commas only has no first part. -/
def faultRow (parts : List String) : Except Failure (Int × Float) :=
  match parts with
  | [] => .error (.index "list index out of range")
  | line :: rest => do
    let line ← (Value.str line).toInt.mapError .ofConversion
    match rest with
    | [] => return (line, 1.0)
    | weight :: _ => return (line, ← Localization.checkWeight (.str weight))

/-- The rows of a text, each with its number; `path` stands in messages. -/
def faultRowsFrom (path : String) (number : Nat) : List String → Except Failure (List (Int × Float))
  | [] => .ok []
  | raw :: rest =>
    let row := beforeComment raw
    if row.isEmpty then faultRowsFrom path (number + 1) rest
    else
      match faultRow (faultParts row) with
      | .ok r => (faultRowsFrom path (number + 1) rest).map (r :: ·)
      | .error f =>
        if f.isRefusal then .error (.repair (.faultLocalization (.malformedRow path number raw)))
        else .error f

/-- The rows of a fault file's text. -/
def faultRows (path text : String) : Except Failure (List (Int × Float)) :=
  faultRowsFrom path 1 (Text.lines text)

/-- The weight of each atom that failing tests visit: less for those that passing tests visit
too. -/
def pathWeights {W : Type} (failing passing : List Int) (onlyFailing onBoth : W) :
    List (Int × W) :=
  ((failing.eraseDups).mergeSort (· ≤ ·)).map fun a =>
    (a, if passing.contains a then onBoth else onlyFailing)

end VariantRepair
