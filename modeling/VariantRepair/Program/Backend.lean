import VariantRepair.Path
import VariantRepair.Atom

/-!
Backends: the ways in which a program is taken apart into atoms.
-/

namespace VariantRepair

/-- A way to take a program apart. -/
inductive Backend where
  /-- Each line of a text is an atom. -/
  | lines
  /-- Each simple statement of a module is an atom. -/
  | python
deriving Repr, DecidableEq

namespace Backend

/-- All backends, by name. -/
def all : List Backend := [lines, python]

/-- The name of a backend. -/
def key : Backend → String
  | lines => "lines"
  | python => "python"

/-- The backend with a name. -/
def ofKey? (s : String) : Option Backend :=
  all.find? fun b => b.key == s

/-- The backend with a name, or the failure that there is none. -/
def ofKey (s : String) : Except Failure Backend :=
  match ofKey? s with
  | some b => .ok b
  | none => .error (.refused (.unknownRepresentation s))

/-- The name of the type of programs that the backend takes apart, as messages give it. -/
def className : Backend → String
  | lines => "LineRepresentation"
  | python => "PythonRepresentation"

/-- How the backend numbers atoms anew. -/
def renumbering : Backend → Renumbering
  | lines => .compact
  | python => .tombstone

/-- The suffix of rendered sources when the program's file does not give another. -/
def suffix : Backend → String
  | lines => ""
  | python => ".py"

/-- The suffixes of the files that a backend is meant for. -/
def suffixes : Backend → List String
  | lines => [".s", ".asm", ".txt"]
  | python => [".py"]

/-- The backend that is meant for a file, by its suffix in lower case. -/
def ofPath? (path : Path) : Option Backend :=
  let suffix := String.ofList (path.suffix.toList.map Char.toLower)
  all.find? fun b => b.suffixes.contains suffix

end Backend

end VariantRepair
