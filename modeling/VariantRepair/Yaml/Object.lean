import VariantRepair.Yaml.Leaf
import VariantRepair.Yaml.Node
import VariantRepair.Value.HashOrder

/-!
The objects that the nodes of a document stand for. A collection is a cell: it is there, empty,
before its parts are known, and it is filled after all the cells that were there before it, so that
it can be a part of itself.

Mappings may take over the pairs of other mappings under the merge key; their own pairs come after
those and win.
-/

namespace VariantRepair.Yaml

/-- The number of a cell. -/
abbrev CellId := Nat

/-- What a node stands for: a value without parts, or a collection. -/
inductive Object where
  | leaf (v : Value)
  | cell (id : CellId)
deriving Repr, Inhabited

/-- A key of a mapping. A key that is not a number is the same as another one only if it came from
the same node. -/
structure Key where
  value : Value
  origin : Option NodeId
deriving Repr, Inhabited

/-- Are two keys the same? -/
def Key.same (a b : Key) : Bool :=
  match a.value, b.value with
  | .float x, .float y => x == y || (x.isNaN && y.isNaN && a.origin == b.origin)
  | v, w => v == w

/-- A collection. -/
inductive Cell where
  | list (items : List Object)
  | pairs (items : List (Object × Object))
  | set (items : List Value)
  | map (pairs : List (Key × Object))
deriving Repr, Inhabited

/-- The empty collection of a kind. -/
def Kind.cell? : Kind → Option Cell
  | .sequence => some (.list [])
  | .ordered | .pairs => some (.pairs [])
  | .set => some (.set [])
  | .mapping => some (.map [])
  | _ => none

/-- What building objects keeps. -/
structure Build where
  graph : Graph
  /-- The objects of the nodes that have one by now. -/
  objects : Array (Option Object)
  cells : Array Cell
  /-- The cells that are to be filled, the next one first. -/
  jobs : List (NodeId × CellId)

abbrev BuildM := StateT Build (Except Error)

/-- The node with a number, as it is now. -/
def nodeNow (n : NodeId) : BuildM Node :=
  return (← get).graph.node n

/-- The pairs of a mapping, as they are now. -/
def pairsNow (n : NodeId) : BuildM (List (NodeId × NodeId)) := do
  match (← nodeNow n).shape with
  | .mapping pairs => return pairs
  | _ => throw .malformed

/-- Change a node. -/
def changeNode (n : NodeId) (f : Node → Node) : BuildM Unit :=
  modify fun s => { s with graph := s.graph.modify n f }

/-! ### Merging -/

/-- The value of the first merge key, and the pairs without it. -/
def Graph.takeMerge? (g : Graph) :
    List (NodeId × NodeId) → Option (NodeId × List (NodeId × NodeId))
  | [] => none
  | p :: ps =>
    if (g.node p.1).kind = some .merge then some (p.2, ps)
    else (g.takeMerge? ps).map fun (v, rest) => (v, p :: rest)

/-- How many merge keys there are. -/
def Graph.mergeCount (g : Graph) : Nat :=
  g.foldl (fun count node =>
    match node.shape with
    | .mapping pairs => count + pairs.countP fun p => (g.node p.1).kind = some .merge
    | _ => count) 0

/-- Put the merged pairs of a mapping in front of its own; `merged` are those found by now. A
default key becomes a text. Each merge key is taken out before it is followed, so that as much fuel
as there are merge keys is enough. -/
def flatten : (fuel : Nat) → (merged : List (NodeId × NodeId)) → NodeId → BuildM Unit
  | 0, _, _ => throw .malformed
  | fuel + 1, merged, n => do
    let pairs ← pairsNow n
    match (← get).graph.takeMerge? pairs with
    | none =>
      for (k, _) in pairs do
        changeNode k fun node => if node.kind = some .default then { node with kind := some .text }
          else node
      changeNode n fun node => { node with shape := .mapping (merged ++ pairs) }
    | some (v, rest) =>
      changeNode n fun node => { node with shape := .mapping rest }
      let sources ←
        match (← nodeNow v).shape with
        | .mapping _ => pure [v]
        | .sequence items => pure items
        | .scalar _ => throw .malformed
      let found ← sources.mapM fun m => do
        let _ ← pairsNow m
        flatten fuel [] m
        pairsNow m
      flatten fuel (merged ++ found.reverse.flatten) n

/-! ### Objects -/

/-- The text of a scalar; a mapping stands for the value of its default key. -/
def scalarText : (fuel : Nat) → NodeId → BuildM (List Nat)
  | 0, _ => throw .malformed
  | fuel + 1, n => do
    let s ← get
    match (s.graph.node n).shape with
    | .scalar points => return points
    | .mapping pairs =>
      match pairs.find? fun p => (s.graph.node p.1).kind = some .default with
      | some (_, v) => scalarText fuel v
      | none => throw .malformed
    | .sequence _ => throw .malformed

/-- The value of a node without parts; a time is no mapping, though a default key may have its
text. -/
def leafNow (kind : Kind) (n : NodeId) : BuildM Value := do
  let points ← scalarText ((← get).graph.size + 1) n
  match kind, (← nodeNow n).shape with
  | .time, .mapping _ => throw .timeless
  | _, _ =>
    match leafOf kind points with
    | .ok v => return v
    | .error e => throw e

/-- A new cell that is to be filled from a node. -/
def newCell (empty : Cell) (n : NodeId) : BuildM CellId := do
  let s ← get
  set { s with cells := s.cells.push empty, jobs := s.jobs ++ [(n, s.cells.size)] }
  return s.cells.size

/-- The object of a node. A node has one object, wherever it stands. -/
def objectOf (n : NodeId) : BuildM Object := do
  match (← get).objects[n]?.join with
  | some o => return o
  | none =>
    let o ←
      match (← nodeNow n).kind with
      | none => throw .malformed
      | some kind =>
        match kind.cell? with
        | some empty => pure (.cell (← newCell empty n))
        | none => pure (.leaf (← leafNow kind n))
    modify fun s => { s with objects := s.objects.setIfInBounds n (some o) }
    return o

/-- Where a key comes from, as far as that matters. -/
def originOf (n : NodeId) : BuildM (Option NodeId) := do
  match (← nodeNow n).shape with
  | .scalar points => return if isNamedNotANumber points then none else some n
  | _ => return some n

/-- The key of a node; a collection is none. -/
def keyOf (n : NodeId) : BuildM Key := do
  match ← objectOf n with
  | .leaf value => return { value, origin := ← originOf n }
  | .cell _ => throw .malformed

/-- Give a key its object: in place when it is there, else at the end. -/
def insertKey (pairs : List (Key × Object)) (k : Key) (o : Object) : List (Key × Object) :=
  if pairs.any fun p => p.1.same k then
    pairs.map fun p => if p.1.same k then (p.1, o) else p
  else pairs ++ [(k, o)]

/-- The pairs of a mapping with those of merged mappings, a key at its first place with its last
object. -/
def mappingOf (n : NodeId) : BuildM (List (Key × Object)) := do
  let _ ← pairsNow n
  flatten ((← get).graph.mergeCount + 1) [] n
  let pairs ← (← pairsNow n).mapM fun (k, v) => do
    let key ← keyOf k
    return (key, ← objectOf v)
  return pairs.foldl (fun acc p => insertKey acc p.1 p.2) []

/-- The one pair of a mapping. -/
def singlePairOf (n : NodeId) : BuildM (Object × Object) := do
  match ← pairsNow n with
  | [(k, v)] =>
    let key ← objectOf k
    return (key, ← objectOf v)
  | _ => throw .malformed

/-- The items of a sequence. -/
def itemsOf (n : NodeId) : BuildM (List NodeId) := do
  match (← nodeNow n).shape with
  | .sequence items => return items
  | _ => throw .malformed

/-- What a cell holds in the end. -/
def filled (n : NodeId) : Cell → BuildM Cell
  | .list _ => return .list (← (← itemsOf n).mapM objectOf)
  | .pairs _ => return .pairs (← (← itemsOf n).mapM singlePairOf)
  | .set _ => return .set (inHashOrder ((← mappingOf n).map (·.1.value)))
  | .map _ => return .map (← mappingOf n)

/-- Fill the cells in the order in which they came. There is at most one for each node. -/
def fillAll : (fuel : Nat) → BuildM Unit
  | 0 => pure ()
  | fuel + 1 => do
    let s ← get
    match s.jobs with
    | [] => pure ()
    | (n, id) :: jobs =>
      set { s with jobs }
      let cell ← filled n (s.cells[id]?.getD (.list []))
      modify fun s => { s with cells := s.cells.setIfInBounds id cell }
      fillAll fuel

/-- The object of a document's root, with all cells. -/
def build (g : Graph) (root : NodeId) : Except Error (Object × Array Cell) :=
  let start : Build :=
    { graph := g, objects := Array.replicate g.size none, cells := #[], jobs := [] }
  let work : BuildM Object := do
    let o ← objectOf root
    fillAll (g.size + 1)
    return o
  (work.run start).map fun (o, s) => (o, s.cells)

end VariantRepair.Yaml
