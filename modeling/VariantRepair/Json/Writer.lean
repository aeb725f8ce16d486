import VariantRepair.Text.Quoted
import VariantRepair.Number.Written
import VariantRepair.Value.Display

/-!
Writing values as JSON text, on one line or indented.
-/

namespace VariantRepair.Json

/-- How JSON text is laid out. -/
structure Layout where
  /-- The indentation of each level; none for one line. -/
  indent : Option Nat
  /-- Are all characters beyond ASCII escaped? -/
  asciiOnly : Bool

/-- One line, with characters as they are. -/
def lineLayout : Layout := { indent := none, asciiOnly := false }

/-- Two blanks for each level, with characters as they are. -/
def blockLayout : Layout := { indent := some 2, asciiOnly := false }

/-- One line in ASCII. -/
def asciiLayout : Layout := { indent := none, asciiOnly := true }

/-- The escape of a UTF-16 unit. -/
def unitEscape (n : Nat) : List Char :=
  '\\' :: 'u' :: Text.hexDigits 4 n

/-- One character of a string. -/
def writeChar (asciiOnly : Bool) (c : Char) : List Char :=
  let n := c.toNat
  if c = '"' then ['\\', '"']
  else if c = '\\' then ['\\', '\\']
  else if c = '\n' then ['\\', 'n']
  else if c = '\r' then ['\\', 'r']
  else if c = '\t' then ['\\', 't']
  else if n = 12 then ['\\', 'f']
  else if n = 8 then ['\\', 'b']
  else if n < 32 then unitEscape n
  else if asciiOnly && 127 ≤ n then
    if n = 127 then [c]
    else if n < 0x10000 then unitEscape n
    else unitEscape (0xD800 + (n - 0x10000) / 1024) ++ unitEscape (0xDC00 + (n - 0x10000) % 1024)
  else [c]

/-- One code point of a string; a surrogate is escaped in any case. -/
def writePoint (asciiOnly : Bool) (n : Nat) : List Char :=
  if Text.isSurrogate n then unitEscape n else writeChar asciiOnly (Char.ofNat n)

/-- A string in quotes. What a character stands for is its escape, so it only matters where all
characters beyond ASCII are escaped. -/
def writeString (asciiOnly : Bool) (s : String) : String :=
  "\"" ++ String.ofList (s.toList.flatMap fun c =>
    if asciiOnly then writePoint true (Text.standsFor c) else writeChar false c) ++ "\""

/-- Code points in quotes. -/
def writePoints (asciiOnly : Bool) (points : List Nat) : String :=
  "\"" ++ String.ofList (points.flatMap (writePoint asciiOnly)) ++ "\""

/-- A double. -/
def writeFloat (x : Float) : String :=
  if x.isNaN then "NaN"
  else if x.isInf then (if x < 0 then "-Infinity" else "Infinity")
  else Number.floatText x

/-- A key in quotes: texts as they are, other values by their JSON form. -/
def writeKey (asciiOnly : Bool) : Value → String
  | .str s => writeString asciiOnly s
  | .wild points => writePoints asciiOnly points
  | .bool b => writeString asciiOnly (if b then "true" else "false")
  | .null => writeString asciiOnly "null"
  | .float x => writeString asciiOnly (writeFloat x)
  | v => writeString asciiOnly v.display

/-- The line break before an item at a level, or nothing. -/
def breakAt (layout : Layout) (level : Nat) : String :=
  match layout.indent with
  | none => ""
  | some n => "\n" ++ String.ofList (List.replicate (n * level) ' ')

/-- Items between brackets, each on its own line when the layout says so. -/
def enclose (layout : Layout) (level : Nat) (opening closing : String) (items : List String) :
    String :=
  if items.isEmpty then opening ++ closing
  else
    let comma := if layout.indent.isSome then "," ++ breakAt layout (level + 1) else ", "
    opening ++ breakAt layout (level + 1) ++ comma.intercalate items ++ breakAt layout level ++
      closing

mutual

/-- A value at a level of nesting. -/
def writeAt (layout : Layout) (level : Nat) : Value → String
  | .null => "null"
  | .bool b => if b then "true" else "false"
  | .int n => toString n
  | .float x => writeFloat x
  | .str s => writeString layout.asciiOnly s
  | .wild points => writePoints layout.asciiOnly points
  | .list vs | .tuple vs | .set vs =>
    enclose layout level "[" "]" (writeItems layout (level + 1) vs)
  | .map ps => enclose layout level "\x7b" "\x7d" (writePairs layout (level + 1) ps)
  | .date d => writeString layout.asciiOnly (Value.dateText d)
  | .moment m => writeString layout.asciiOnly (Value.momentText m)
  | .bytes bs => writeString layout.asciiOnly (Value.display (.bytes bs))
  | .again isMap => if isMap then "\x7b\x7d" else "[]"

/-- The items of a list. -/
def writeItems (layout : Layout) (level : Nat) : List Value → List String
  | [] => []
  | v :: vs => writeAt layout level v :: writeItems layout level vs

/-- The members of an object. -/
def writePairs (layout : Layout) (level : Nat) : List (Value × Value) → List String
  | [] => []
  | (k, v) :: ps =>
    (writeKey layout.asciiOnly k ++ ": " ++ writeAt layout level v) ::
      writePairs layout level ps

end

/-- Write a value. -/
def write (layout : Layout) (v : Value) : String :=
  writeAt layout 0 v

end VariantRepair.Json
