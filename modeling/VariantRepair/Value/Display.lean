import VariantRepair.Text.Quoted
import VariantRepair.Number.Written
import VariantRepair.Value.Basic

/-!
The two written forms of a value: as it is displayed in a message, texts in quotes, and as plain
text.
-/

namespace VariantRepair.Value

open Text

/-- A number with zeros in front up to a width. -/
def padded (width n : Nat) : String :=
  let digits := toString n
  String.ofList (List.replicate (width - digits.length) '0') ++ digits

/-- A date, year first. -/
def dateText (d : Date) : String :=
  padded 4 d.year ++ "-" ++ padded 2 d.month ++ "-" ++ padded 2 d.day

/-- An offset from universal time. -/
def offsetText (o : Offset) : String :=
  let n := o.natAbs
  let seconds := if n % 60 = 0 then "" else ":" ++ padded 2 (n % 60)
  (if o < 0 then "-" else "+") ++ padded 2 (n / 3600) ++ ":" ++ padded 2 (n / 60 % 60) ++ seconds

/-- A date with its time of day. -/
def momentText (m : Moment) : String :=
  let fraction := if m.microsecond = 0 then "" else "." ++ padded 6 m.microsecond
  dateText m.date ++ " " ++ padded 2 m.hour ++ ":" ++ padded 2 m.minute ++ ":" ++
    padded 2 m.second ++ fraction ++ (m.offset.map offsetText).getD ""

/-- The zone with a given offset. -/
def zoneDisplay (o : Offset) : String :=
  if o = 0 then "datetime.timezone.utc"
  else
    let days := o / 86400
    let seconds := o % 86400
    let parts := (if days = 0 then [] else [s!"days={days}"]) ++
      (if seconds = 0 then [] else [s!"seconds={seconds}"])
    "datetime.timezone(datetime.timedelta(" ++ ", ".intercalate parts ++ "))"

/-- A date with its time of day as a call that makes it; seconds that are zero are left out. -/
def momentDisplay (m : Moment) : String :=
  let head := [m.date.year, m.date.month, m.date.day, m.hour, m.minute]
  let tail :=
    if m.microsecond ≠ 0 then [m.second, m.microsecond]
    else if m.second ≠ 0 then [m.second]
    else []
  let zone := (m.offset.map fun o => ["tzinfo=" ++ zoneDisplay o]).getD []
  "datetime.datetime(" ++ ", ".intercalate ((head ++ tail).map toString ++ zone) ++ ")"

mutual

/-- The form of a value in messages. -/
def display : Value → String
  | null => "None"
  | bool b => if b then "True" else "False"
  | int n => toString n
  | float x => Number.floatText x
  | str s => quote s
  | wild points => String.ofList (quotePoints points)
  | bytes bs => String.ofList (quoteBytes (bs.map UInt8.toNat))
  | date d => s!"datetime.date({d.year}, {d.month}, {d.day})"
  | moment m => momentDisplay m
  | list items => "[" ++ ", ".intercalate (displayItems items) ++ "]"
  | tuple items =>
    "(" ++ ", ".intercalate (displayItems items) ++ (if items.length = 1 then ",)" else ")")
  | set items =>
    if items.isEmpty then "set()" else "\x7b" ++ ", ".intercalate (displayItems items) ++ "\x7d"
  | map pairs => "\x7b" ++ ", ".intercalate (displayPairs pairs) ++ "\x7d"
  | again isMap => if isMap then "\x7b...\x7d" else "[...]"

/-- The forms of the items of a value. -/
def displayItems : List Value → List String
  | [] => []
  | v :: vs => display v :: displayItems vs

/-- The forms of the pairs of a mapping. -/
def displayPairs : List (Value × Value) → List String
  | [] => []
  | (k, v) :: ps => (display k ++ ": " ++ display v) :: displayPairs ps

end

/-- The value as plain text: a text as it is, anything else as in messages. -/
def text : Value → String
  | str s => s
  | wild points => Text.ofPoints points
  | date d => dateText d
  | moment m => momentText m
  | v => display v

end VariantRepair.Value
