import VariantRepair.Number.Binary64

/-!
The shortest decimal that reads back as a given double. Between one and seventeen digits are
tried in turn: on the decimal grid of each length the two neighbours of the value are tested
against the interval of reals that round to it, and of two hits the nearer one is taken.
-/

namespace VariantRepair.Number

/-- A positive decimal number `digits * 10 ^ exponent`. -/
structure Decimal where
  digits : Nat
  exponent : Int
deriving Repr, DecidableEq

/-- The number of decimal digits. -/
def digitCount (n : Nat) : Nat :=
  (toString n).length

/-- The place of the decimal point counted from the first digit: `0.d₁d₂… * 10 ^ point`. -/
def Decimal.point (d : Decimal) : Int :=
  digitCount d.digits + d.exponent

/-- Drop zeros at the end of the digits, at most `fuel` of them. -/
def Decimal.dropZeros : (fuel : Nat) → Decimal → Decimal
  | 0, d => d
  | fuel + 1, d =>
    if d.digits ≠ 0 ∧ d.digits % 10 = 0 then
      dropZeros fuel { digits := d.digits / 10, exponent := d.exponent + 1 }
    else d

/-- The reals that round to `mantissa * 2 ^ exponent`, in units of `2 ^ (exponent - 2)`: the two
ends, which belong to the interval iff the mantissa is even. -/
def roundingInterval (mantissa : Nat) (exponent : Int) : Nat × Nat :=
  let low := if mantissa = twoTo 52 ∧ -1074 < exponent then 4 * mantissa - 1 else 4 * mantissa - 2
  (low, 4 * mantissa + 2)

/-- The largest `e` with `10 ^ e ≤ num / den`, for a positive ratio. -/
def floorLogTen (num den : Nat) : Int :=
  let e := (digitCount num : Int) - digitCount den
  let (n, d) := scaleTen num den (-e)
  if n < d then e - 1 else e

/-- The decimal of `count` digits nearest to `mantissa * 2 ^ exponent` among those that round to
it, if there is one. -/
def decimalOfLength? (mantissa : Nat) (exponent : Int) (count : Nat) : Option Decimal :=
  let unit := exponent - 2
  let (num, den) := scaleTwo (4 * mantissa) 1 unit
  let step := floorLogTen num den - (count : Int) + 1
  let (n, d) := scaleTen num den (-step)
  let below := n / d
  let (low, high) := roundingInterval mantissa exponent
  let even := mantissa % 2 == 0
  let hits (k : Nat) : Bool :=
    let (a, b) := scaleTen k 1 step
    let (a, b) := scaleTwo a b (-unit)
    if even then low * b ≤ a && a ≤ high * b else low * b < a && a < high * b
  let lower : Decimal := { digits := below, exponent := step }
  let upper : Decimal := { digits := below + 1, exponent := step }
  match hits below, hits (below + 1) with
  | true, true =>
    let rest := 2 * (n % d)
    if rest < d ∨ (rest = d ∧ below % 2 = 0) then some lower else some upper
  | true, false => some lower
  | false, true => some upper
  | false, false => none

/-- The shortest decimal for `mantissa * 2 ^ exponent`; zero has the digit `0`. -/
def shortest (mantissa : Nat) (exponent : Int) : Decimal :=
  if mantissa = 0 then { digits := 0, exponent := 0 }
  else
    match (List.range 17).findSome? fun k => decimalOfLength? mantissa exponent (k + 1) with
    | some d => d.dropZeros 20
    | none => { digits := 0, exponent := 0 }

end VariantRepair.Number
