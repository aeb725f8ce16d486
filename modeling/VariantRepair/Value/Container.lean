import VariantRepair.Failure

/-!
Values as containers: how many items they have, what a loop goes through, how items are looked up
by position or key, and how they are joined to a text.
-/

namespace VariantRepair.Value

/-- How many items or characters the value has. -/
def length? : Value → Option Nat
  | str s => some s.length
  | wild points => some points.length
  | bytes bs => some bs.length
  | list items | tuple items | set items => some items.length
  | map pairs => some pairs.length
  | _ => none

/-- What a loop over the value goes through. -/
def items? : Value → Option (List Value)
  | str s => some (s.toList.map fun c => str (String.singleton c))
  | wild points => some (points.map fun n => ofPoints [n])
  | bytes bs => some (bs.map fun b => int b.toNat)
  | list items | tuple items | set items => some items
  | map pairs => some (pairs.map (·.1))
  | _ => none

/-- The number of items; a value without parts is misused. -/
def needLength (v : Value) : Except Failure Nat :=
  match v.length? with
  | some n => .ok n
  | none => .error (.misuse (.noLength v.typeName))

/-- The items; a value without parts is misused. -/
def needItems (v : Value) : Except Failure (List Value) :=
  match v.items? with
  | some items => .ok items
  | none => .error (.misuse (.notIterable v.typeName))

/-- The value as plain text. -/
def needText (v : Value) : Except Failure String :=
  v.written.mapError .ofConversion

/-- The items of a list of texts, from the one with a number on. -/
def textsFrom (index : Nat) : List Value → Except Failure (List String)
  | [] => .ok []
  | .str s :: vs => (textsFrom (index + 1) vs).map (s :: ·)
  | v :: _ => .error (.misuse (.joinedItem index v.typeName))

/-- The items joined to a text, with a separator between them. -/
def join (separator : String) (v : Value) : Except Failure String :=
  match v.items? with
  | some items => (textsFrom 0 items).map separator.intercalate
  | none => .error (.misuse .notJoinable)

/-- The greatest position that the machine counts to. -/
def positionLimit : Int := Number.twoTo 63

/-- The place of a position among so many; negative ones count from the end. -/
def place? (count : Nat) (position : Int) : Option Nat :=
  let i := if position < 0 then position + count else position
  if 0 ≤ i ∧ i < count then some i.toNat else none

/-- The item at a position of a sequence; `kind` names what the sequence is. -/
def atPosition (kind : String) (items : List Value) (position : Value) : Except Failure Value :=
  match position.whole? with
  | none => .error (.misuse (.indexType kind position.typeName))
  | some n =>
    if n < -positionLimit ∨ positionLimit ≤ n then
      .error (.index "cannot fit 'int' into an index-sized integer")
    else
      match (place? items.length n).bind fun i => items[i]? with
      | some v => .ok v
      | none => .error (.index s!"{kind} index out of range")

/-- The value that a key has in a mapping. -/
def atKey (pairs : List (Value × Value)) (key : Value) : Except Failure Value :=
  if !key.hashable then .error (.misuse (.unhashable key.typeName))
  else
    match lookup key pairs with
    | some v => .ok v
    | none => .error (.naming key .key)

/-- The pairs of a mapping, whose keys all have to be hashable. -/
def needKeys (pairs : List (Value × Value)) : Except Failure (List (Value × Value)) :=
  match pairs.find? fun p => !p.1.hashable with
  | some (key, _) => .error (.misuse (.unhashable key.typeName))
  | none => .ok pairs

/-- The item at a position or key of a value. -/
def item (v key : Value) : Except Failure Value :=
  match v with
  | list items => atPosition "list" items key
  | tuple items => atPosition "tuple" items key
  | str _ | wild _ => atPosition "string" (v.items?.getD []) key
  | map pairs => atKey pairs key
  | v => .error (.misuse (.notSubscriptable v.typeName))

/-- The list or mapping with another item at a position or key. -/
def withItem (v : Value) (key : Int) (part : Value) : Value :=
  match v with
  | list items => list (items.set key.toNat part)
  | map pairs => map (insertPair pairs (int key) part)
  | v => v

/-- One less than a number. -/
def minusOne (v : Value) : Except Failure Value :=
  match v with
  | bool b => .ok (int (if b then 0 else -1))
  | int n => .ok (int (n - 1))
  | float x => .ok (float (x - 1))
  | v => .error (.misuse (.operands "-" v.typeName "int"))

/-- Where an integer lies relative to the value. Only a number is ordered against one. -/
def position (operator : String) (v : Value) (n : Int) : Except Failure (Option Ordering) :=
  match v.whole? with
  | some m => .ok (some (compare n m))
  | none =>
    match v with
    | .float x => .ok (Number.position? n x)
    | v => .error (.misuse (.comparison operator "int" v.typeName))

/-- Is a value at most another one? Numbers are ordered, and texts are. -/
def atMost (v w : Value) : Except Failure Bool :=
  match v.whole?, w.whole?, v, w with
  | some m, some n, _, _ => .ok (m ≤ n)
  | some m, none, _, .float y => .ok ((Number.position? m y).any Ordering.isLE)
  | none, some n, .float x, _ => .ok ((Number.position? n x).any Ordering.isGE)
  | _, _, .float x, .float y => .ok (x ≤ y)
  | _, _, .str s, .str t => .ok (s ≤ t)
  | _, _, _, _ => .error (.misuse (.comparison "<=" v.typeName w.typeName))

/-- Does the value lie between two others? -/
def isBetween (first last v : Value) : Except Failure Bool := do
  if ← first.atMost v then v.atMost last else return false

/-- The two items of a value that has just two. -/
def pair (v : Value) : Except Failure (Value × Value) :=
  match v.items? with
  | some [first, second] => .ok (first, second)
  | some items => .error (.refused (.pairLength items.length))
  | none => .error (.misuse (.notUnpackable v.typeName))

/-- Pairs in the order of their keys, which are texts; another key is not ordered among them. -/
def sortedPairs (pairs : List (Value × Value)) : Except Failure (List (Value × Value)) :=
  match pairs.find? fun p => p.1.typeName != "str" with
  | some (key, _) => .error (.misuse (.comparison "<" key.typeName "str"))
  | none => .ok (pairs.mergeSort fun p q => p.1.text ≤ q.1.text)

end VariantRepair.Value
