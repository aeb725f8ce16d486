import VariantRepair.Text.Normal.CombiningClass
import VariantRepair.Text.Normal.Decomposition

/-!
The composed form of an identifier: characters that stand for others are replaced by them, all
characters are taken apart, marks are put in order, and what can be composed is composed again
(normalization form KC). Texts are lists of code points.
-/

namespace VariantRepair.Text

/-! ### Hangul -/

/-- The parts of a Hangul syllable: a leading consonant, a vowel and at most one consonant behind
it. -/
def syllableParts? (n : Nat) : Option (List Nat) :=
  if 0xAC00 ≤ n ∧ n < 0xAC00 + 11172 then
    let i := n - 0xAC00
    let final := i % 28
    some ([0x1100 + i / 588, 0x1161 + i % 588 / 28] ++ if final = 0 then [] else [0x11A7 + final])
  else none

/-- The Hangul syllable that two characters compose: a consonant and a vowel, or an open syllable
and a consonant. -/
def syllable? (a b : Nat) : Option Nat :=
  if 0x1100 ≤ a ∧ a < 0x1113 ∧ 0x1161 ≤ b ∧ b < 0x1176 then
    some (0xAC00 + (a - 0x1100) * 588 + (b - 0x1161) * 28)
  else if 0xAC00 ≤ a ∧ a < 0xAC00 + 11172 ∧ (a - 0xAC00) % 28 = 0 ∧ 0x11A8 ≤ b ∧ b < 0x11C3 then
    some (a + (b - 0x11A7))
  else none

/-! ### Taking apart and putting together -/

/-- What a character is made of in the end. Characters are composed at most `depth` times. -/
def expand : (depth : Nat) → Nat → List Nat
  | 0, n => [n]
  | depth + 1, n =>
    match syllableParts? n, parts? n, stoodFor? n with
    | some ns, _, _ => ns
    | _, some (a, b), _ => expand depth a ++ [b]
    | _, _, some ns => ns
    | _, _, _ => [n]

/-- Put a mark among marks: behind all that have no higher class. -/
def insertMark (n : Nat) : List Nat → List Nat
  | [] => [n]
  | m :: ms =>
    if combiningClass m ≤ combiningClass n then m :: insertMark n ms else n :: m :: ms

/-- Marks in the order of their classes; a character of class zero keeps its place, and marks stay
on their side of it. -/
def orderMarks (marks : List Nat) : List Nat → List Nat
  | [] => marks
  | n :: ns =>
    if combiningClass n = 0 then marks ++ n :: orderMarks [] ns
    else orderMarks (insertMark n marks) ns

/-- Compose a character with those behind it. `marks` did not compose with it; a mark of the same
class as the last of them, or of a lower one, may not either. -/
def composeFrom (base : Nat) (marks : List Nat) : List Nat → List Nat
  | [] => base :: marks
  | n :: ns =>
    let isFree := marks.getLast?.all fun m => combiningClass m < combiningClass n
    match if isFree then (syllable? base n).or (composite? base n) else none with
    | some m => composeFrom m marks ns
    | none =>
      if combiningClass n = 0 then base :: marks ++ composeFrom n [] ns
      else composeFrom base (marks ++ [n]) ns

/-- The composed form of a text. -/
def composed (points : List Nat) : List Nat :=
  match orderMarks [] (points.flatMap (expand 8)) with
  | [] => []
  | n :: ns => composeFrom n [] ns

/-- The composed form of an identifier; in ASCII it is the identifier itself. -/
def composedName (id : String) : String :=
  if id.toList.all fun c => c.toNat < 128 then id
  else String.ofList ((composed (id.toList.map Char.toNat)).map Char.ofNat)

end VariantRepair.Text
