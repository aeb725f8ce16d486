import VariantRepair.CommandLine.Run

/-!
The command line. The files below the working directory are read, the run is done on them, and what
it changed is written back. No process is started from here: every command counts as missing, so
that only programs which need no compiling and no tests get far.
-/

namespace VariantRepair.CommandLine

open Host

/-- The first line of a file that holds a stored value; the value follows as JSON. -/
def recordMark : String := "stored value\n"

/-- The content of a file with some bytes. -/
def contentOf (bytes : List UInt8) : Content :=
  match Text.decodeUtf8 bytes with
  | .error _ => .bytes bytes
  | .ok s =>
    if s.startsWith recordMark then
      match Json.parse (s.drop recordMark.length).toString with
      | .ok v => .record (.value v)
      | .error _ => .record .damaged
    else .bytes bytes

/-- The bytes of a file with some content; none for a variant, which has no form outside a run. -/
def bytesOf? : Content → Option (List UInt8)
  | .bytes bs => some bs
  | .record (.value v) => some (Text.utf8Bytes (recordMark ++ Json.write Json.lineLayout v))
  | .record _ => none

/-- Read what a directory entry leads to. `fuel` bounds the depth. -/
def readEntry (place : Place) : (fuel : Nat) → FileTree → IO.FS.DirEntry → IO FileTree
  | 0, t, _ => return t
  | fuel + 1, t, e => do
    let place := place ++ [e.fileName]
    if ← e.path.isDir then
      (← e.path.readDir).foldlM (readEntry place fuel) (t.set place .directory)
    else
      return t.set place (.file (contentOf (← IO.FS.readBinFile e.path).toList))

/-- The variables that settings are taken from, as far as they are set. -/
def readEnvironment : IO Config.Environment := do
  let names := Config.fieldVariables.flatMap (·.2) ++ [Program.coverageVariable]
  names.filterMapM fun n => return (← IO.getEnv n).map (n, ·)

/-- A machine with the files below the working directory. -/
def readMachine : IO Machine := do
  let directory ← IO.currentDir
  let place := (Path.ofText directory.toString).parts
  let m := Machine.ofDirectory place "0"
  let files ← (← directory.readDir).foldlM (readEntry place 64) m.files
  let further : Reply := { coverage := none, ending := .missing "no processes are started" }
  return { m with files, further, environment := ← readEnvironment }

/-- The path of a place. -/
def placePath (place : Place) : String := "/" ++ "/".intercalate place

/-- Write an entry unless it was there before with the same bytes. -/
def writeEntry (before : FileTree) (place : Place) (e : Entry) : IO Unit := do
  match e with
  | .directory => IO.FS.createDirAll (placePath place)
  | .file c =>
    let old := match before.get? place with
      | some (.file c) => bytesOf? c
      | _ => none
    match bytesOf? c with
    | none => IO.eprintln s!"{placePath place}: not written"
    | some bs =>
      if old != some bs then IO.FS.writeBinFile (placePath place) (ByteArray.mk bs.toArray)

/-- Write back what has changed. -/
def writeFiles (before after : FileTree) : IO Unit := do
  for (place, e) in after.entries do
    writeEntry before place e
  for (place, e) in before.entries do
    match e, after.get? place with
    | .file _, none => IO.FS.removeFile (placePath place)
    | _, _ => pure ()

end VariantRepair.CommandLine

open VariantRepair.CommandLine in
/-- Do what the command line asks for. -/
def main (words : List String) : IO UInt32 := do
  let machine ← readMachine
  let (r, after) := (execute words).run machine
  writeFiles machine.files after.files
  IO.print after.out
  IO.eprint after.err
  match r with
  | .ok status => return UInt32.ofNat status
  | .error f =>
    IO.eprintln f.message
    return 2
