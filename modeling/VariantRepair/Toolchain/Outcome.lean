import VariantRepair.Text.Blank

/-!
What comes out of compiling and of testing.
-/

namespace VariantRepair

/-- How a test ended. -/
inductive Outcome where
  | passed
  | failed
  | timeout
deriving Repr, DecidableEq

/-- The word for an outcome. -/
def Outcome.text : Outcome → String
  | passed => "passed"
  | failed => "failed"
  | timeout => "timeout"

/-- The end of a text, blanks around it dropped. A text that is longer than `limit` is cut, and dots
stand for what is missing; from a limit of zero nothing is cut, and a limit below zero cuts that
many characters at the front. -/
def tailText (text : String) (limit : Int) : String :=
  let cs := (Text.strip text).toList
  if (cs.length : Int) ≤ limit then String.ofList cs
  else
    let dropped := if 0 < limit then cs.length - limit.toNat else (-limit).toNat
    "..." ++ String.ofList (cs.drop dropped)

/-- How much of a compiler's messages is kept. -/
def messageLimit : Int := 2000

end VariantRepair
