/-!
Dates and moments of the calendar that counts years from one. Two moments with offsets are the same
when they name one instant.
-/

namespace VariantRepair

/-- An offset from universal time, in seconds. -/
abbrev Offset := Int

/-- A calendar date. -/
structure Date where
  year : Nat
  month : Nat
  day : Nat
deriving Repr, DecidableEq

/-- A date with a time of day, and an offset from universal time when one was given. -/
structure Moment where
  date : Date
  hour : Nat
  minute : Nat
  second : Nat
  microsecond : Nat
  offset : Option Offset
deriving Repr, DecidableEq

/-- Has the year a day more? -/
def isLeapYear (y : Nat) : Bool :=
  (y % 4 == 0 && y % 100 != 0) || y % 400 == 0

/-- How many days a month has. -/
def daysIn (y m : Nat) : Nat :=
  if m = 2 then (if isLeapYear y then 29 else 28)
  else if [4, 6, 9, 11].contains m then 30
  else 31

/-- How many days there were up to the date, from the first day of year one on. -/
def Date.ordinal (d : Date) : Nat :=
  let y := d.year - 1
  let months := (List.range (d.month - 1)).map fun m => daysIn d.year (m + 1)
  365 * y + y / 4 - y / 100 + y / 400 + months.foldl (· + ·) 0 + d.day

/-- The seconds from the start of the calendar to a moment as clocks show it, less its offset. -/
def Moment.seconds (m : Moment) : Int :=
  86400 * m.date.ordinal + 3600 * m.hour + 60 * m.minute + m.second - m.offset.getD 0

/-- Do two moments name the same instant? One with an offset never equals one without. -/
def Moment.same (a b : Moment) : Bool :=
  a.offset.isSome == b.offset.isSome && a.seconds == b.seconds && a.microsecond == b.microsecond

end VariantRepair
