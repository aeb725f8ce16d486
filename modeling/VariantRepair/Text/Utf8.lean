import VariantRepair.Number.Power
import VariantRepair.Text.Digit

/-!
The UTF-8 form of a text. Reading names the first bytes that are not well formed: those of the
longest start of a character that cannot go on, or the rest of the text when it ends too early.
-/

namespace VariantRepair.Text

/-- Why bytes are not well formed. -/
inductive Utf8Fault where
  | invalidStart
  | invalidContinuation
  | unexpectedEnd
deriving Repr, DecidableEq

/-- The first fault of a sequence of bytes: the bytes `start` up to but without `stop`, of which
`first` is the first. -/
structure Utf8Error where
  fault : Utf8Fault
  first : UInt8
  start : Nat
  stop : Nat
deriving Repr, DecidableEq

/-- What the fault is called. -/
def Utf8Fault.text : Utf8Fault → String
  | .invalidStart => "invalid start byte"
  | .invalidContinuation => "invalid continuation byte"
  | .unexpectedEnd => "unexpected end of data"

/-- What the error says. -/
def Utf8Error.message (e : Utf8Error) : String :=
  let place :=
    if e.stop = e.start + 1 then
      s!"byte 0x" ++ String.ofList (hexDigits 2 e.first.toNat) ++ s!" in position {e.start}"
    else s!"bytes in position {e.start}-" ++ toString (e.stop - 1)
  "'utf-8' codec can't decode " ++ place ++ ": " ++ e.fault.text

/-- The bytes of a text. -/
def utf8Bytes (s : String) : List UInt8 :=
  s.toUTF8.toList

def isContinuation (b : UInt8) : Bool :=
  0x80 ≤ b && b < 0xC0

/-- The bytes that may follow a first byte directly. -/
def secondRange (first : UInt8) : UInt8 × UInt8 :=
  if first = 0xE0 then (0xA0, 0xBF)
  else if first = 0xED then (0x80, 0x9F)
  else if first = 0xF0 then (0x90, 0xBF)
  else if first = 0xF4 then (0x80, 0x8F)
  else (0x80, 0xBF)

/-- How many bytes follow a first byte; none if it starts no character. -/
def followers? (first : UInt8) : Option Nat :=
  if first < 0x80 then some 0
  else if first < 0xC2 then none
  else if first < 0xE0 then some 1
  else if first < 0xF0 then some 2
  else if first < 0xF5 then some 3
  else none

/-- How many of the `count` following bytes are as they have to be, in a row. -/
def goodFollowers (first : UInt8) (count : Nat) (bytes : List UInt8) : Nat :=
  match bytes.take count with
  | [] => 0
  | b :: bs =>
    let (low, high) := secondRange first
    if low ≤ b && b ≤ high then 1 + (bs.takeWhile isContinuation).length else 0

/-- Read the character at the head of `first :: bytes`, which stands at `position`. -/
def decodeChar (position : Nat) (first : UInt8) (bytes : List UInt8) :
    Except Utf8Error (Char × Nat) :=
  match followers? first with
  | none => .error { fault := .invalidStart, first, start := position, stop := position + 1 }
  | some count =>
    let good := goodFollowers first count bytes
    if good = count then
      let head := if count = 0 then first.toNat else first.toNat % Number.twoTo (6 - count)
      let code := (bytes.take count).foldl (fun n b => 64 * n + b.toNat % 64) head
      .ok (Char.ofNat code, count)
    else if bytes.length = good then
      .error { fault := .unexpectedEnd, first, start := position, stop := position + 1 + good }
    else
      .error
        { fault := .invalidContinuation, first, start := position, stop := position + 1 + good }

/-- Read characters until none is left or one is not well formed; `skip` bytes belong to a
character that has been read. -/
def decodeFrom (position skip : Nat) : List UInt8 → Except Utf8Error (List Char)
  | [] => .ok []
  | b :: bs =>
    match skip with
    | skip + 1 => decodeFrom (position + 1) skip bs
    | 0 =>
      match decodeChar position b bs with
      | .error e => .error e
      | .ok (c, count) => (decodeFrom (position + 1) count bs).map (c :: ·)

/-- The text that bytes are the UTF-8 form of. -/
def decodeUtf8 (bytes : List UInt8) : Except Utf8Error String :=
  (decodeFrom 0 0 bytes).map String.ofList

end VariantRepair.Text
