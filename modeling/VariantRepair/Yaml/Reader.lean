import VariantRepair.Yaml.Object

/-!
Reading a YAML text as a value, or as the settings that it holds. A collection within itself is
followed up to its second occurrence on one way.
-/

namespace VariantRepair.Yaml

/-- The value of an object, reached through the cells on the path. -/
def Object.value (cells : Array Cell) : (fuel : Nat) → (path : List CellId) → Object → Value
  | _, _, .leaf v => v
  | 0, _, .cell _ => .again false
  | fuel + 1, path, .cell id =>
    let part : Object → Value := Object.value cells fuel (id :: path)
    let isInside := path.contains id
    match cells[id]? with
    | some (.list items) => if isInside then .again false else .list (items.map part)
    | some (.pairs items) =>
      if isInside then .again false
      else .list (items.map fun p => .tuple [part p.1, part p.2])
    | some (.set items) => .set items
    | some (.map pairs) =>
      if isInside then .again true
      else .map (pairs.map fun p => (p.1.value, part p.2))
    | none => .null

/-- The value of an object by itself. -/
def valueOf (cells : Array Cell) (o : Object) : Value :=
  o.value cells (cells.size + 1) []

/-- The object that a text stands for, with the cells; an empty text has none. -/
def read (s : String) : Except Error (Option Object × Array Cell) := do
  let (root, graph) ← Graph.ofTokens (tokens s)
  match root with
  | none => return (none, #[])
  | some n =>
    let (o, cells) ← build graph n
    return (some o, cells)

/-- Read a YAML text; an empty one is null. -/
def parse (s : String) : Except Error Value := do
  match ← read s with
  | (none, _) => return .null
  | (some o, cells) => return valueOf cells o

/-- The pairs of a mapping. -/
def mapOf? (cells : Array Cell) : Object → Option (List (Key × Object))
  | .cell id =>
    match cells[id]? with
    | some (.map pairs) => some pairs
    | _ => none
  | .leaf _ => none

/-- The mapping under a name, if the document is a mapping that has one; else the mapping that the
document is, if it is one. -/
def section? (name : String) (cells : Array Cell) (root : Object) :
    Option (List (Key × Object)) := do
  let pairs ← mapOf? cells root
  let named := (pairs.find? fun p => p.1.value == .str name).bind fun p => mapOf? cells p.2
  return named.getD pairs

/-- The settings under a name, or all of a text's settings if there are none under the name. -/
def settings (name : String) (s : String) : Except Error (List (Value × Value)) := do
  let (root, cells) ← read s
  let pairs := (root.bind (section? name cells)).getD []
  return pairs.map fun p => (p.1.value, valueOf cells p.2)

end VariantRepair.Yaml
