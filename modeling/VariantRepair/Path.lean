/-!
File paths in their normal form: repeated slashes and single dots are dropped, two dots are kept.
-/

namespace VariantRepair

/-- A path: what it starts from (nothing, `/` or `//`) and its parts. -/
structure Path where
  root : String
  parts : List String
deriving Repr, DecidableEq

namespace Path

/-- The pieces of a text between slashes. -/
def pieces (s : String) : List String :=
  (s.toList.splitOn '/').map String.ofList

/-- What a text starts from: exactly two slashes are kept, more count as one. -/
def rootOf (s : String) : String :=
  match s.toList with
  | '/' :: '/' :: '/' :: _ => "/"
  | '/' :: '/' :: _ => "//"
  | '/' :: _ => "/"
  | _ => ""

/-- The path that a text names. -/
def ofText (s : String) : Path :=
  { root := rootOf s, parts := (pieces s).filter fun p => p ≠ "" ∧ p ≠ "." }

/-- The text of a path; a path without root and parts is the current directory. -/
def text (p : Path) : String :=
  if p.root.isEmpty && p.parts.isEmpty then "."
  else p.root ++ "/".intercalate p.parts

/-- Does the path start from the root? -/
def isAbsolute (p : Path) : Bool :=
  !p.root.isEmpty

/-- A path below another, unless it is absolute. -/
def join (p q : Path) : Path :=
  if q.isAbsolute then q else { p with parts := p.parts ++ q.parts }

/-- The path below this one that a text names. -/
def child (p : Path) (s : String) : Path :=
  p.join (ofText s)

/-- The last part. -/
def name (p : Path) : String :=
  p.parts.getLast?.getD ""

/-- The path without its last part. -/
def parent (p : Path) : Path :=
  { p with parts := p.parts.dropLast }

/-- The ending of a name from its last dot, when something stands on both sides of the dot. -/
def suffixOf (name : String) : String :=
  let cs := name.toList.reverse
  let ending := cs.takeWhile (· ≠ '.')
  let before := (cs.dropWhile (· ≠ '.')).drop 1
  if ending.isEmpty ∨ before.isEmpty then "" else String.ofList ('.' :: ending.reverse)

/-- The suffix of the last part. -/
def suffix (p : Path) : String :=
  suffixOf p.name

/-- The path with another last part; none if it has no last part. -/
def withName? (p : Path) (name : String) : Option Path :=
  if p.parts.isEmpty then none else some { p with parts := p.parts.dropLast ++ [name] }

/-- Drop each part that is followed by two dots, with those dots. -/
def collapse : List String → List String :=
  List.foldl (fun acc p => if p = ".." then acc.dropLast else acc ++ [p]) []

/-- The absolute path without double dots, seen from a directory. -/
def resolve (directory : List String) (p : Path) : Path :=
  { root := "/", parts := collapse (if p.isAbsolute then p.parts else directory ++ p.parts) }

/-- Cut a text before its last slash: what stands before it, less the slashes at its end unless
it is slashes only, and what stands after it. -/
def splitLast (s : String) : String × String :=
  let cs := s.toList.reverse
  let tail := (cs.takeWhile (· ≠ '/')).reverse
  let head := cs.dropWhile (· ≠ '/')
  let trimmed := head.dropWhile (· = '/')
  (String.ofList (if trimmed.isEmpty then head else trimmed).reverse, String.ofList tail)

end Path

end VariantRepair
