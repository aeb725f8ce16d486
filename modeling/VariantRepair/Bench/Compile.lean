import VariantRepair.Toolchain.Compiler
import VariantRepair.Bench.Basic

/-!
Reading the program of a variant from a file, and compiling the variant.
-/

namespace VariantRepair.Work

/-- Put the program that a text holds in place of the one at hand. -/
def readProgram (text : String) : Work Unit :=
  alter (Altered.readText text)

/-- Put the program in a file in place of the one at hand. Rendered sources get the suffix of the
file, if it has one. -/
def loadSource (path : String) : Work Unit := do
  reading (·.callable "load_source")
  let path := Path.ofText path
  readProgram (← onMachine (Host.readText path.text))
  if !path.suffix.isEmpty then alter (Altered.setSuffix path.suffix)

/-- Put the variant of a snapshot file in place of the one at hand. -/
def loadSnapshot (path : String) : Work Unit := do
  reading (·.callable "load_binary")
  let held ← ofExcept ((← onMachine (Host.readRecord path)).held path)
  alter (Altered.load path held)

/-- The backend that a snapshot file names. -/
def snapshotBackend (path : String) : Host.Action String := do
  match (← Host.readRecord path).held path >>= Record.Held.backendText (.str "") with
  | .ok backend => return backend
  | .error f => throw f

/-- Write a snapshot of the variant at hand. -/
def saveSnapshot (path : String) : Work Unit := do
  reading (·.callable "save_binary")
  let a := (← get).altered
  let path := Path.ofText path
  onMachine do
    Host.needDirectories path.parent
    Host.writeContent path.text (.record a.record)

/-- How much of a compiler's messages is shown. -/
def shownMessage (s : String) : String :=
  String.ofList (s.toList.take 300)

/-- Render the variant at hand, compile it, and remember the result. The rendered source is deleted
afterwards unless it is to be kept or is itself what runs. -/
def compile (c : Config) (sourcePath exePath : Path) (keepSource : Bool) : Work Bool := do
  reading (·.callable "compile")
  let text ← reading (·.text)
  let source ← onMachine (Host.resolve sourcePath)
  onMachine do
    Host.needDirectories source.parent
    Host.writeText source.text text
  reading (·.provides "compiler" "compile")
  let exe ← onMachine (Host.resolve exePath)
  let result ← onMachine (Compilation.run c source exe)
  reading (·.provides "stats" "record_compile")
  count (·.recordCompile result.success)
  let compiled : Compiled :=
    { digest := textDigest text, success := result.success, source,
      executable := result.executable }
  alter (Altered.change fun v => { v with compiled := some compiled })
  if !result.success then
    let name ← reading (·.name)
    onMachine (Host.warn s!"[Compile] {name} failed: {shownMessage result.stderr}")
  if !keepSource && result.executable.any (· ≠ source) then
    onMachine (Host.deleteFile source.text)
  return result.success

end VariantRepair.Work
