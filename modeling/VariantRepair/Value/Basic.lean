import VariantRepair.Number.Binary64
import VariantRepair.Text.Surrogate
import VariantRepair.Value.Calendar

/-!
Dynamic values: what a data file, a setting or a stored record can hold.

Mappings keep their pairs in the order in which the keys came; a later value for a key replaces
the earlier one in place. Two keys are the same when they are equal as values, and numbers of all
kinds, truth values included, are equal when they denote the same number.
-/

namespace VariantRepair

/-- A dynamic value. -/
inductive Value where
  | null
  | bool (b : Bool)
  | int (n : Int)
  | float (x : Float)
  | str (s : String)
  /-- A text with a surrogate in it, as code points. -/
  | wild (points : List Nat)
  | bytes (bs : List UInt8)
  | date (d : Date)
  | moment (m : Moment)
  | list (items : List Value)
  | tuple (items : List Value)
  | set (items : List Value)
  | map (pairs : List (Value × Value))
  /-- A collection at a place within itself: a mapping or a list. -/
  | again (isMap : Bool)
deriving Repr, Inhabited

namespace Value

/-- The text that some code points make. -/
def ofPoints (points : List Nat) : Value :=
  match Text.ofPoints? points with
  | some s => str s
  | none => wild points

/-- The name of a value's type, as messages give it. -/
def typeName : Value → String
  | null => "NoneType"
  | bool _ => "bool"
  | int _ => "int"
  | float _ => "float"
  | str _ | wild _ => "str"
  | bytes _ => "bytes"
  | date _ => "datetime.date"
  | moment _ => "datetime.datetime"
  | list _ => "list"
  | tuple _ => "tuple"
  | set _ => "set"
  | map _ => "dict"
  | again isMap => if isMap then "dict" else "list"

/-- Does the value count as true? Null, zero and everything empty do not. -/
def truthy : Value → Bool
  | null => false
  | bool b => b
  | int n => n ≠ 0
  | float x => x != 0
  | str s => !s.isEmpty
  | bytes bs => !bs.isEmpty
  | wild _ | date _ | moment _ | again _ => true
  | list items | tuple items | set items => !items.isEmpty
  | map pairs => !pairs.isEmpty

/-- The integer that a truth value or an integer denotes. -/
def whole? : Value → Option Int
  | bool b => some (if b then 1 else 0)
  | int n => some n
  | _ => none

/-- Equality of values without parts. -/
def equalLeaf (v w : Value) : Bool :=
  match v.whole?, w.whole? with
  | some m, some n => m == n
  | some m, none => match w with | float y => Number.equalsInt y m | _ => false
  | none, some n => match v with | float x => Number.equalsInt x n | _ => false
  | none, none =>
    match v, w with
    | null, null => true
    | float x, float y => x == y
    | str s, str t => s == t
    | wild s, wild t => s == t
    | bytes a, bytes b => a == b
    | date a, date b => a == b
    | moment a, moment b => a.same b
    | _, _ => false

mutual

/-- Equality of values; mappings and sets are equal in any order. -/
def equal : (fuel : Nat) → Value → Value → Bool
  | 0, _, _ => false
  | fuel + 1, v, w =>
    match v, w with
    | list a, list b => equalItems fuel a b
    | tuple a, tuple b => equalItems fuel a b
    | set a, set b => a.length == b.length && a.all fun x => b.any fun y => equal fuel x y
    | map a, map b =>
      a.length == b.length &&
        a.all fun (k, x) => b.any fun (l, y) => equal fuel k l && equal fuel x y
    | v, w => equalLeaf v w

/-- Equality of lists of values, item by item. -/
def equalItems : (fuel : Nat) → List Value → List Value → Bool
  | 0, _, _ => false
  | _ + 1, [], [] => true
  | fuel + 1, a :: as, b :: bs => equal fuel a b && equalItems fuel as bs
  | _ + 1, _, _ => false

end

/-- Equality of values; it looks a thousand levels deep. -/
instance : BEq Value where
  beq v w := equal 1000000 v w

/-- Can the value be a key? Values that can change cannot. -/
def hashable : Value → Bool
  | list _ | set _ | map _ | again _ => false
  | tuple items => items.attach.all fun ⟨v, _⟩ => v.hashable
  | _ => true

/-- The value that a key has in a list of pairs. -/
def lookup (key : Value) (pairs : List (Value × Value)) : Option Value :=
  (pairs.find? fun p => p.1 == key).map (·.2)

/-- The value that a text has as key in a list of pairs. -/
def field (key : String) (pairs : List (Value × Value)) : Option Value :=
  lookup (str key) pairs

/-- Give a key a value: in place when it is there, else at the end. -/
def insertPair (pairs : List (Value × Value)) (key value : Value) : List (Value × Value) :=
  if pairs.any fun p => p.1 == key then
    pairs.map fun p => if p.1 == key then (p.1, value) else p
  else pairs ++ [(key, value)]

/-- The pairs with every key given its value in turn. -/
def collect (pairs : List (Value × Value)) : List (Value × Value) :=
  pairs.foldl (fun acc p => insertPair acc p.1 p.2) []

end Value

end VariantRepair
