import VariantRepair.Text.Lines
import VariantRepair.Host.Basic

/-!
Reading and writing files, and making directories. Faults carry the path as it was given.
-/

namespace VariantRepair.Host

/-- An answer of the system about a path, or its fault. -/
def orFault {α : Type} (path : String) (target : Option String) (r : Except FileFault α) :
    Action α :=
  match r with
  | .ok a => pure a
  | .error fault => throw (.file fault path target)

/-! ### Looking -/

/-- What is at a path; nothing if the path leads nowhere. -/
def look (path : String) : Action (Option Entry) := do
  if path.contains '\x00' then return none
  let m ← get
  match m.files.find m.directory path with
  | .ok (_, e) => return some e
  | .error .missing | .error .notDirectory => return none
  | .error fault => throw (.file fault path none)

/-- Is there anything at a path? -/
def fileExists (path : String) : Action Bool :=
  return (← look path).isSome

/-- Is there a file at a path? -/
def isFile (path : String) : Action Bool := do
  match ← look path with
  | some (.file _) => return true
  | _ => return false

/-- Is there a directory at a path? -/
def isDirectory (path : String) : Action Bool := do
  match ← look path with
  | some .directory => return true
  | _ => return false

/-! ### Reading -/

/-- The content of a file. -/
def readContent (path : String) : Action Content := do
  checkText path
  let m ← get
  match ← orFault path none (m.files.find m.directory path) with
  | (_, .file c) => return c
  | (_, .directory) => throw (.file .isDirectory path none)

/-- The text of a file, every line break read as a line feed. -/
def readText (path : String) : Action String := do
  match ← readContent path with
  | .bytes bs =>
    match Text.decodeUtf8 bs with
    | .ok s => return String.ofList (Text.unifyNewlines s.toList)
    | .error e => throw (.decoding e)
  | .record _ => throw (.decoding { fault := .invalidStart, first := 0x80, start := 0, stop := 1 })

/-- The stored value of a file. -/
def readRecord (path : String) : Action Record := do
  match ← readContent path with
  | .record r => return r
  | .bytes _ => throw .unreadableRecord

/-! ### Writing -/

/-- The place of a file that may be missing. -/
def openPlace (path : String) : Action (Place × Option Content) := do
  checkText path
  let m ← get
  let place ← orFault path none (m.files.locate m.directory path)
  match m.files.get? place with
  | some .directory => throw (.file .isDirectory path none)
  | some (.file c) => return (place, some c)
  | none =>
    match m.files.get? place.dropLast with
    | some .directory => return (place, none)
    | some (.file _) => throw (.file .notDirectory path none)
    | none => throw (.file .missing path none)

/-- Write a file. -/
def writeContent (path : String) (c : Content) : Action Unit := do
  let (place, _) ← openPlace path
  changeFiles fun t => t.set place (.file c)

/-- Write a text file. -/
def writeText (path s : String) : Action Unit :=
  writeContent path (.ofText s)

/-- Put text behind what a file holds. What comes behind a stored value is never looked at. -/
def appendText (path s : String) : Action Unit := do
  let (place, old) ← openPlace path
  let content : Content := match old with
    | some (.bytes bs) => .bytes (bs ++ Text.utf8Bytes s)
    | some (.record r) => .record r
    | none => .ofText s
  changeFiles fun t => t.set place (.file content)

/-- Delete a file; it is no fault if it is missing. -/
def deleteFile (path : String) : Action Unit := do
  checkText path
  let m ← get
  match m.files.find m.directory path with
  | .error .missing => pure ()
  | .error fault => throw (.file fault path none)
  | .ok (_, .directory) => throw (.file .isDirectory path none)
  | .ok (place, .file _) => changeFiles fun t => t.erase place

/-- Does a path end in the name of the directory itself or of the one above? -/
def endsInDots (path : String) : Bool :=
  ((Path.pieces path).filter (· ≠ "")).getLast?.any fun name => name == "." || name == ".."

/-- Give a file another path, in place of what is there. -/
def moveFile (path target : String) : Action Unit := do
  checkText path
  checkText target
  let m ← get
  let (place, e) ← orFault path (some target) (m.files.find m.directory path)
  let goal ← orFault path (some target) (m.files.locate m.directory target)
  if endsInDots target then throw (.file .busy path (some target))
  match m.files.get? goal with
  | some .directory => throw (.file .isDirectory path (some target))
  | _ =>
    match m.files.get? goal.dropLast with
    | some .directory => changeFiles fun t => (t.erase place).set goal e
    | some (.file _) => throw (.file .notDirectory path (some target))
    | none => throw (.file .missing path (some target))

/-! ### Directories -/

/-- Make one directory. -/
def makeDirectory (path : String) : Action Unit := do
  checkText path
  let m ← get
  let place ← orFault path none (m.files.locate m.directory path)
  match m.files.get? place with
  | some _ => throw (.file .taken path none)
  | none =>
    match m.files.get? place.dropLast with
    | some .directory => changeFiles fun t => t.set place .directory
    | some (.file _) => throw (.file .notDirectory path none)
    | none => throw (.file .missing path none)

/-- Make one directory unless it is there. -/
def needDirectory (path : String) : Action Unit := do
  try makeDirectory path
  catch f =>
    if f.isSystem && (← isDirectory path) then pure () else throw f

/-- Make a directory and those above it, unless they are there. -/
def needDirectories (path : Path) : Action Unit :=
  climb path.parts.length path
where
  /-- Make the directory; if the one above it is missing, make that one first. -/
  climb : Nat → Path → Action Unit
    | 0, path => needDirectory path.text
    | n + 1, path => do
      try makeDirectory path.text
      catch f =>
        match f with
        | .file .missing _ _ =>
          climb n path.parent
          needDirectory path.text
        | f => if f.isSystem && (← isDirectory path.text) then pure () else throw f

/-- Make the directory with a name as it is spelled, and those above it, unless they are there.
`fuel` bounds how many there are. -/
def needSpelledDirectories : (fuel : Nat) → String → Action Unit
  | 0, name => needDirectory name
  | fuel + 1, name => do
    let (head, tail) := Path.splitLast name
    let (head, tail) := if tail.isEmpty then Path.splitLast head else (head, tail)
    let missing ← if head.isEmpty || tail.isEmpty then pure false else isAbsent head
    if missing then
      try needSpelledDirectories fuel head
      catch f => if f.label == FileFault.label .taken then pure () else throw f
      if tail == "." then return
    needDirectory name
where
  /-- Is there nothing at a path? What the system refuses to look at counts as nothing. -/
  isAbsent (path : String) : Action Bool := do
    try return !(← fileExists path) catch _ => return true

/-- The names in a directory; none if it is no directory. -/
def listNames (path : String) : Action (List String) := do
  match ← look path with
  | some .directory =>
    let m ← get
    match m.files.find m.directory path with
    | .ok (place, _) => return m.files.names place
    | .error _ => return []
  | _ => return []

end VariantRepair.Host
