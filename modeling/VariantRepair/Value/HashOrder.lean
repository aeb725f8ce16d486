import VariantRepair.Value.Basic

/-!
The order in which a set lists its items. A set is a table; an item goes to the place that its hash
names or to one that is free nearby. The hash of a number is its remainder by a prime, so that equal
numbers of all kinds have one hash. Items of other types have no fixed place.
-/

namespace VariantRepair

/-- The prime that hashes are taken by. -/
def hashPrime : Nat := Number.twoTo 61 - 1

/-- The hash of a number with a sign and a remainder; minus one is not used. -/
def signedHash (negative : Bool) (remainder : Nat) : Int :=
  if negative then (if remainder = 1 then -2 else -(remainder : Int)) else remainder

namespace Value

/-- The hash of a value, if it is a number. -/
def hash? (v : Value) : Option Int :=
  match v with
  | float x =>
    match Number.Binary64.ofFloat x with
    | .nan => none
    | .infinite negative => some (signedHash negative 314159)
    | .finite negative mantissa exponent =>
      some (signedHash negative (mantissa * Number.twoTo (exponent % 61).toNat % hashPrime))
  | v => v.whole?.map fun n => signedHash (n < 0) (n.natAbs % hashPrime)

end Value

/-- How many places a table for some items has: a power of two. -/
def tableSize (count : Nat) : Nat :=
  if count < 5 then 8 else Number.twoTo (2 * count).log2 * 2

/-- The free place for an item from place `i` on: nearby, else where the rest of the hash leads. -/
def freePlace (table : Array (Option Value)) (rest i : Nat) : (fuel : Nat) → Nat
  | 0 => i
  | fuel + 1 =>
    let nearby := if i + 9 < table.size then List.range' i 10 else [i]
    match nearby.find? fun j => (table[j]?.join).isNone with
    | some j => j
    | none =>
      let rest := rest / 32
      freePlace table rest ((5 * i + 1 + rest) % table.size) fuel

/-- Put an item with a hash into a table. -/
def place (table : Array (Option Value)) (hash : Int) (v : Value) : Array (Option Value) :=
  let word := (hash % Number.twoTo 64).toNat
  let i := freePlace table word (word % table.size) (table.size + 64)
  table.setIfInBounds i (some v)

/-- The items of a set in the order of their places, if all of them have one. -/
def inHashOrder (items : List Value) : List Value :=
  match items.mapM fun v => v.hash?.map fun h => (h, v) with
  | none => items
  | some hashed =>
    let empty : Array (Option Value) := Array.replicate (tableSize items.length) none
    (hashed.foldl (fun table p => place table p.1 p.2) empty).toList.filterMap id

end VariantRepair
