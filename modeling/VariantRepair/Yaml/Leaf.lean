import VariantRepair.Text.Lower
import VariantRepair.Yaml.Cursor
import VariantRepair.Yaml.Meaning
import VariantRepair.Value.Basic

/-!
The values of scalars. A tag can ask for a kind whose form the text does not have, so that reading
a value can fail.
-/

namespace VariantRepair.Yaml

open Text (standIn)

/-- A leading sign, and the rest. -/
def splitSignPoint (points : List Nat) : Bool × List Nat :=
  match points.map standIn with
  | '-' :: _ => (true, points.drop 1)
  | '+' :: _ => (false, points.drop 1)
  | _ => (false, points)

/-- The text without underscores. -/
def withoutUnderscores (points : List Nat) : List Nat :=
  points.filter (· ≠ '_'.toNat)

/-! ### Numbers -/

/-- The integer that digits write in a base, with blanks around. -/
def wholeInBase (base : Nat) (points : List Nat) : Except Error Int :=
  match Number.parseInBase? base (Text.ofPoints points) with
  | some n => .ok n
  | none => .error (.number (.notInteger base points))

/-- The integer that decimal digits write. -/
def wholeInTen (points : List Nat) : Except Error Int :=
  match Number.parseInt (Text.ofPoints points) with
  | .ok n => .ok n
  | .error (.tooLong digits) => .error (.number (.tooLong digits))
  | .error _ => .error (.number (.notInteger 10 points))

/-- The parts of a number in base sixty. -/
def sixtyParts (points : List Nat) : List (List Nat) :=
  points.splitOn ':'.toNat

/-- The integer that a scalar writes. -/
def wholeOf (points : List Nat) : Except Error Int := do
  let digits := withoutUnderscores points
  let (negative, body) := splitSignPoint digits
  let n ←
    match body.map standIn with
    | [] => throw .empty
    | ['0'] => pure 0
    | '0' :: 'b' :: _ => wholeInBase 2 (body.drop 2)
    | '0' :: 'x' :: _ => wholeInBase 16 (body.drop 2)
    | '0' :: _ => wholeInBase 8 body
    | cs =>
      if cs.contains ':' then
        let parts ← (sixtyParts body).mapM wholeInTen
        pure (parts.foldl (fun n part => 60 * n + part) 0)
      else wholeInTen body
  return if negative then -n else n

/-- The number with a fraction that a text writes. -/
def realOfText (points : List Nat) : Except Error Float :=
  match Number.parseFloat (Text.ofPoints points) with
  | .ok x => .ok x
  | .error _ => .error (.number (.notReal points))

/-- The sum of base-sixty parts, the last one first, each times its power of sixty. -/
def sixtySum (total : Float) (power : Nat) : List Float → Except Error Float
  | [] => .ok total
  | part :: parts =>
    match Number.ofInt? power with
    | some p => sixtySum (total + part * p) (60 * power) parts
    | none => .error .tooLarge

/-- The number with a fraction that a scalar writes. -/
def realOf (points : List Nat) : Except Error Float := do
  let small := Text.lower (withoutUnderscores points)
  if small.isEmpty then throw .empty
  let (negative, body) := splitSignPoint small
  let text := Text.ofPoints body
  if text = ".nan" then return Number.notANumber
  let x ←
    if text = ".inf" then pure Number.infinity
    else if text.contains ':' then
      let parts ← (sixtyParts body).mapM realOfText
      sixtySum 0 1 parts.reverse
    else realOfText body
  return if negative then -x else x

/-- Does a scalar name the one value that is not a number? Texts that are read as numbers give
another such value each time. -/
def isNamedNotANumber (points : List Nat) : Bool :=
  let small := Text.lower (withoutUnderscores points)
  Text.ofPoints (splitSignPoint small).2 == ".nan"

/-- The truth value that a word writes. -/
def truthOf (points : List Nat) : Except Error Bool :=
  let small := Text.lower points
  let word := Text.ofPoints small
  if ["yes", "true", "on"].contains word then .ok true
  else if ["no", "false", "off"].contains word then .ok false
  else .error (.truth small)

/-! ### Times -/

/-- A date that the calendar has. -/
def checkDate (d : Date) : Except Error Date :=
  if d.year = 0 then .error (.calendar "year 0 is out of range")
  else if d.month = 0 ∨ 12 < d.month then .error (.calendar "month must be in 1..12")
  else if d.day = 0 ∨ daysIn d.year d.month < d.day then
    .error (.calendar "day is out of range for month")
  else .ok d

/-- What is said of a zone that is a day or more away. -/
def zoneTooFar (offset : Offset) : String :=
  let part (name : String) (n : Int) : List String := if n = 0 then [] else [s!"{name}={n}"]
  let parts := part "days" (offset / 86400) ++ part "seconds" (offset % 86400)
  let shown := ", ".intercalate parts
  "offset must be a timedelta strictly between -timedelta(hours=24) and timedelta(hours=24), " ++
    s!"not datetime.timedelta({shown})."

/-- The offset that a zone writes. -/
def zoneOf (t : TimeText) : Except Error (Option Offset) := do
  if !t.isUniversal then return none
  let ahead : Nat :=
    match t.zone.map Text.digitsValue with
    | [h] => 3600 * h
    | [h, m] => 3600 * h + 60 * m
    | _ => 0
  let offset : Offset := if t.sign = some '-' then -(ahead : Int) else ahead
  if 86400 ≤ ahead then throw (.calendar (zoneTooFar offset))
  return some offset

/-- The microseconds of a fraction of a second; digits after the sixth do not count. -/
def microsecondOf (fraction : List Char) : Nat :=
  let six := fraction.take 6
  Text.digitsValue (six ++ List.replicate (6 - six.length) '0')

/-- The date or moment that a scalar writes. -/
def timeOf (points : List Nat) : Except Error Value := do
  match timeForm? (formChars points) with
  | none => throw .timestamp
  | some t =>
    match t.date.map Text.digitsValue, t.clock.map Text.digitsValue with
    | [year, month, day], [] => return .date (← checkDate { year, month, day })
    | [year, month, day], [hour, minute, second] =>
      let offset ← zoneOf t
      let date ← checkDate { year, month, day }
      if 23 < hour then throw (.calendar "hour must be in 0..23")
      if 59 < minute then throw (.calendar "minute must be in 0..59")
      if 59 < second then throw (.calendar "second must be in 0..59")
      return .moment
        { date, hour, minute, second, microsecond := microsecondOf t.fraction, offset }
    | _, _ => throw .timestamp

/-! ### Bytes -/

/-- The six bits that a character of base 64 stands for. -/
def sixBits? (c : Char) : Option Nat :=
  if c.isUpper then some (c.toNat - 65)
  else if c.isLower then some (c.toNat - 71)
  else if c.isDigit then some (c.toNat + 4)
  else if c == '+' then some 62
  else if c == '/' then some 63
  else none

/-- A place in a text in base 64: how many characters of a group of four came, the bits of the
last one that are in no byte yet, and how many padding marks came since the last character. -/
structure Quad where
  count : Nat
  left : Nat
  pads : Nat

/-- The bytes that base 64 writes. Characters outside of it are skipped, and the padding that
completes a group ends the text. -/
def base64 (q : Quad) : List Char → Except Error (List UInt8)
  | [] => if q.count = 0 then .ok [] else .error .malformed
  | c :: cs =>
    if c == '=' then
      if q.count < 2 then base64 q cs
      else if 4 ≤ q.count + q.pads + 1 then .ok []
      else base64 { q with pads := q.pads + 1 } cs
    else
      match sixBits? c with
      | none => base64 q cs
      | some bits =>
        let byte (n : Nat) (next : Quad) : Except Error (List UInt8) :=
          (base64 next cs).map (UInt8.ofNat n :: ·)
        match q.count with
        | 0 => base64 { count := 1, left := bits, pads := 0 } cs
        | 1 => byte (4 * q.left + bits / 16) { count := 2, left := bits % 16, pads := 0 }
        | 2 => byte (16 * q.left + bits / 4) { count := 3, left := bits % 4, pads := 0 }
        | _ => byte (64 * q.left + bits) { count := 0, left := 0, pads := 0 }

/-- The bytes that a scalar writes. -/
def bytesOf (points : List Nat) : Except Error (List UInt8) :=
  if points.all (· < 128) then
    base64 { count := 0, left := 0, pads := 0 } (points.map Char.ofNat)
  else .error .malformed

/-- The value of a scalar of some kind. Collections and what belongs to mappings alone have none. -/
def leafOf (kind : Kind) (points : List Nat) : Except Error Value :=
  match kind with
  | .null => .ok .null
  | .truth => (truthOf points).map .bool
  | .whole => (wholeOf points).map .int
  | .real => (realOf points).map .float
  | .time => timeOf points
  | .text => .ok (Value.ofPoints points)
  | .bytes => (bytesOf points).map .bytes
  | .merge | .default | .sequence | .mapping | .set | .ordered | .pairs => .error .malformed

end VariantRepair.Yaml
