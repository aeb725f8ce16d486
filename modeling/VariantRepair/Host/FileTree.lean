import VariantRepair.Text.Utf8
import VariantRepair.Path
import VariantRepair.Variant.Snapshot

/-!
A tree of files and directories, and how a path leads to a place in it. Places are lists of names
from the root; each directory and each file has one entry.
-/

namespace VariantRepair.Host

/-- What a file holds: bytes, or a stored value. -/
inductive Content where
  | bytes (bs : List UInt8)
  | record (r : Record)

/-- The content of a text file. -/
def Content.ofText (s : String) : Content :=
  .bytes (Text.utf8Bytes s)

/-- A place in the tree: the names that lead to it from the root. -/
abbrev Place := List String

/-- What is at a place. -/
inductive Entry where
  | file (c : Content)
  | directory

/-- The entries of a tree. The root is a directory that has no entry of its own. -/
structure FileTree where
  entries : List (Place × Entry)

namespace FileTree

/-- The tree that holds a directory and those above it. -/
def ofDirectory (place : Place) : FileTree :=
  { entries := (List.range place.length).map fun n => (place.take (n + 1), .directory) }

/-- What is at a place. -/
def get? (t : FileTree) (place : Place) : Option Entry :=
  if place.isEmpty then some .directory else t.entries.lookup place

/-- Put something at a place. -/
def set (t : FileTree) (place : Place) (e : Entry) : FileTree :=
  { entries := t.entries.filter (·.1 ≠ place) ++ [(place, e)] }

/-- Take away what is at a place. -/
def erase (t : FileTree) (place : Place) : FileTree :=
  { entries := t.entries.filter (·.1 ≠ place) }

/-- The names in a directory, in order. -/
def names (t : FileTree) (place : Place) : List String :=
  (t.entries.filterMap fun (p, _) =>
    if p.dropLast = place then p.getLast? else none).mergeSort (· ≤ ·)

/-- The files below a directory, each with the names that lead to it from there, in order. -/
def filesBelow (t : FileTree) (place : Place) : List (Place × Content) :=
  (t.entries.filterMap fun (p, e) =>
    match e with
    | .file c => if place.isPrefixOf p then some (p.drop place.length, c) else none
    | .directory => none).mergeSort fun a b => "/".intercalate a.1 ≤ "/".intercalate b.1

/-! ### Paths -/

/-- The greatest number of bytes in a name. -/
def nameLimit : Nat := 255

/-- The number of bytes that a path has to stay below. -/
def pathLimit : Nat := 4096

/-- Follow names from a place. Each place on the way has to be a directory; what is at the end may
be missing. -/
def follow (t : FileTree) (place : Place) : List String → Except FileFault Place
  | [] => .ok place
  | name :: names =>
    match t.get? place with
    | none => .error .missing
    | some (.file _) => .error .notDirectory
    | some .directory =>
      if name = "" ∨ name = "." then follow t place names
      else if name = ".." then follow t place.dropLast names
      else if nameLimit < name.utf8ByteSize then .error .nameTooLong
      else follow t (place ++ [name]) names

/-- The place that a path leads to from a directory. -/
def locate (t : FileTree) (directory : Place) (path : String) : Except FileFault Place :=
  if path.isEmpty then .error .missing
  else if pathLimit ≤ path.utf8ByteSize then .error .nameTooLong
  else follow t (if path.startsWith "/" then [] else directory) (Path.pieces path)

/-- What a path leads to; a fault if nothing is there. -/
def find (t : FileTree) (directory : Place) (path : String) : Except FileFault (Place × Entry) := do
  let place ← t.locate directory path
  match t.get? place with
  | some e => return (place, e)
  | none => throw .missing

end FileTree

end VariantRepair.Host
