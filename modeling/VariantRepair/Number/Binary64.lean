import VariantRepair.Number.Power

/-!
Double-precision numbers taken apart: sign, integer mantissa and power of two. A ratio of natural
numbers is rounded to the nearest double, a tie to the even mantissa, in exact arithmetic.
-/

namespace VariantRepair.Number

/-- A double-precision number: `mantissa * 2 ^ exponent` with a sign, an infinity, or no number. -/
inductive Binary64 where
  | finite (negative : Bool) (mantissa : Nat) (exponent : Int)
  | infinite (negative : Bool)
  | nan
deriving Repr, DecidableEq

/-- Take a double apart by its bits. -/
def Binary64.ofFloat (x : Float) : Binary64 :=
  let bits : Nat := x.toBits.toNat
  let negative := bits / twoTo 63 == 1
  let field : Nat := bits / twoTo 52 % twoTo 11
  let fraction : Nat := bits % twoTo 52
  if field = 2047 then (if fraction = 0 then .infinite negative else .nan)
  else if field = 0 then .finite negative fraction (-1074)
  else .finite negative (twoTo 52 + fraction) ((field : Int) - 1075)

/-- The quotient rounded to the nearest natural number, a tie to the even one. -/
def roundDiv (num den : Nat) : Nat :=
  let q := num / den
  let r := num % den
  if den < 2 * r then q + 1
  else if 2 * r = den then q + q % 2
  else q

/-- Scale a ratio by a power of two: `(num / den) * 2 ^ k`. -/
def scaleTwo (num den : Nat) (k : Int) : Nat × Nat :=
  if 0 ≤ k then (num * twoTo k.toNat, den) else (num, den * twoTo (-k).toNat)

/-- Scale a ratio by a power of ten: `(num / den) * 10 ^ k`. -/
def scaleTen (num den : Nat) (k : Int) : Nat × Nat :=
  if 0 ≤ k then (num * tenTo k.toNat, den) else (num, den * tenTo (-k).toNat)

/-- The largest `e` with `2 ^ e ≤ num / den`, for a positive ratio. -/
def floorLogTwo (num den : Nat) : Int :=
  let e := (Nat.log2 num : Int) - Nat.log2 den
  let (n, d) := scaleTwo num den (-e)
  if n < d then e - 1 else e

/-- The bits of the double nearest to a ratio, without its sign; beyond the largest double, those
of infinity. -/
def nearestBits (num den : Nat) : Nat :=
  if num = 0 then 0
  else
    let q := max (floorLogTwo num den - 52) (-1074)
    let (n, d) := scaleTwo num den (-q)
    let m := roundDiv n d
    let (m, q) := if m = twoTo 53 then (twoTo 52, q + 1) else (m, q)
    if m < twoTo 52 then m
    else
      let field := (q + 1075).toNat
      if 2047 ≤ field then 2047 * twoTo 52 else field * twoTo 52 + (m - twoTo 52)

/-- The double nearest to a ratio with a sign. -/
def nearest (negative : Bool) (num den : Nat) : Float :=
  let bits := nearestBits num den
  Float.ofBits (UInt64.ofNat (if negative then twoTo 63 + bits else bits))

def infinity : Float := Float.ofBits 0x7FF0000000000000

def notANumber : Float := Float.ofBits 0x7FF8000000000000

/-- The double nearest to an integer; none if the integer is beyond the largest double. -/
def ofInt? (n : Int) : Option Float :=
  let x := nearest (n < 0) n.natAbs 1
  if x.isInf then none else some x

/-- The integer part of a double, cut toward zero; none if it is no finite number. -/
def truncate? (x : Float) : Option Int :=
  match Binary64.ofFloat x with
  | .finite negative m q =>
    let n : Nat := if 0 ≤ q then m * twoTo q.toNat else m / twoTo (-q).toNat
    some (if negative then -(n : Int) else n)
  | _ => none

/-- Is the double a whole number equal to this integer? -/
def equalsInt (x : Float) (n : Int) : Bool :=
  match Binary64.ofFloat x with
  | .finite negative m q =>
    let (a, b) := scaleTwo m 1 q
    (if negative then -(a : Int) else a) == n * b
  | _ => false

/-- Where an integer lies relative to a double; nowhere relative to what is not a number. -/
def position? (n : Int) (x : Float) : Option Ordering :=
  match Binary64.ofFloat x with
  | .nan => none
  | .infinite negative => some (if negative then .gt else .lt)
  | .finite negative m q =>
    let (a, b) := scaleTwo m 1 q
    some (compare (n * b) (if negative then -(a : Int) else a))

end VariantRepair.Number
