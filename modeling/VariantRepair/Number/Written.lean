import VariantRepair.Number.Shortest

/-!
Written forms of doubles: the shortest form that reads back, the general form with six
significant digits, and the form with a fixed number of places.
-/

namespace VariantRepair.Number

/-- How a shortest form is laid out. -/
structure Layout where
  /-- The least place of the decimal point that is written without an exponent. -/
  least : Int
  /-- The greatest place of the decimal point that is written without an exponent. -/
  greatest : Int
  /-- Does a whole number keep a point and a zero? -/
  keepsPoint : Bool

/-- Numbers stand alone with a point or an exponent. -/
def realLayout : Layout := { least := -3, greatest := 16, keepsPoint := true }

/-- The part of a complex number drops a point with nothing behind it. -/
def partLayout : Layout := { least := -3, greatest := 16, keepsPoint := false }

/-- The exponent with its sign and at least two digits. -/
def exponentText (e : Int) : String :=
  let digits := toString e.natAbs
  (if e < 0 then "-" else "+") ++ (if digits.length < 2 then "0" ++ digits else digits)

/-- Digits with the point after the first of them, when more than one is there. -/
def scientific (digits : String) (e : Int) : String :=
  let tail := String.ofList (digits.toList.drop 1)
  String.ofList (digits.toList.take 1) ++ (if tail.isEmpty then "" else "." ++ tail) ++ "e" ++
    exponentText e

/-- Digits with the point at a place, zeros filled in on either side. -/
def positional (keepsPoint : Bool) (digits : String) (point : Int) : String :=
  let cs := digits.toList
  if point ≤ 0 then "0." ++ String.ofList (List.replicate (-point).toNat '0') ++ digits
  else
    let p := point.toNat
    if cs.length ≤ p then
      digits ++ String.ofList (List.replicate (p - cs.length) '0') ++
        (if keepsPoint then ".0" else "")
    else String.ofList (cs.take p) ++ "." ++ String.ofList (cs.drop p)

/-- A decimal in a layout. -/
def Decimal.render (layout : Layout) (d : Decimal) : String :=
  let digits := toString d.digits
  let point := if d.digits = 0 then 1 else d.point
  if point < layout.least ∨ layout.greatest < point then scientific digits (point - 1)
  else positional layout.keepsPoint digits point

/-- The shortest form that reads back, in a layout. -/
def renderFloat (layout : Layout) (x : Float) : String :=
  match Binary64.ofFloat x with
  | .nan => "nan"
  | .infinite negative => if negative then "-inf" else "inf"
  | .finite negative m q => (if negative then "-" else "") ++ (shortest m q).render layout

/-- The written form of a double. -/
def floatText (x : Float) : String :=
  renderFloat realLayout x

/-- A ratio with `places` decimal places, the last one rounded, a tie to even. -/
def fixedPlaces (places num den : Nat) : String :=
  let n := roundDiv (num * tenTo places) den
  let digits := toString n
  let digits := String.ofList (List.replicate (places + 1 - digits.length) '0') ++ digits
  let cs := digits.toList
  if places = 0 then digits
  else
    let (whole, part) := cs.splitAt (cs.length - places)
    String.ofList whole ++ "." ++ String.ofList part

/-- A double with two decimal places. -/
def twoPlaces (x : Float) : String :=
  match Binary64.ofFloat x with
  | .nan => "nan"
  | .infinite negative => if negative then "-inf" else "inf"
  | .finite negative m q =>
    let (n, d) := scaleTwo m 1 q
    (if negative then "-" else "") ++ fixedPlaces 2 n d

/-- A double with six significant digits, zeros at the end dropped; with an exponent when the
point would lie outside of them. -/
def generalText (x : Float) : String :=
  match Binary64.ofFloat x with
  | .nan => "nan"
  | .infinite negative => if negative then "-inf" else "inf"
  | .finite negative m q =>
    let sign := if negative then "-" else ""
    if m = 0 then sign ++ "0"
    else
      let (num, den) := scaleTwo m 1 q
      let step := floorLogTen num den - 5
      let (n, d) := scaleTen num den (-step)
      let rounded : Decimal := { digits := roundDiv n d, exponent := step }
      let point := rounded.point
      let digits := toString (rounded.dropZeros 20).digits
      sign ++ (if point < -3 ∨ 6 < point then scientific digits (point - 1)
        else positional false digits point)

end VariantRepair.Number
