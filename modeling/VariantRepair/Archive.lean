import VariantRepair.Digest
import VariantRepair.Json.Writer
import VariantRepair.Host.Files

/-!
The archive of variants that passed every test: for each of them a file with its source and one
with its metadata, both named by the digest of the source. Saving a source again keeps its file and
adds the new name to its aliases.
-/

namespace VariantRepair

/-- An archive: its directory, the suffix of source files, and the metadata by digest. -/
structure Archive where
  directory : Path
  suffix : String
  index : List (String × List (Value × Value))

namespace Archive

open Host

/-- The short digest of a source. -/
def shortDigest (source : String) : String :=
  String.ofList ((Digest.Sha256.digest (Text.utf8Bytes source)).toList.take 12)

/-- The name of the file with the metadata of a source. -/
def metaName (digest : String) : String :=
  s!"variant_{digest}_meta.json"

/-- The name of the file with a source. -/
def sourceName (digest suffix : String) : String :=
  s!"variant_{digest}" ++ suffix

/-- Is a file name one of metadata? -/
def isMetaName (name : String) : Bool :=
  let start := "variant_"
  let ending := "_meta.json"
  start.length + ending.length ≤ name.length && name.startsWith start && name.endsWith ending

/-- Put metadata into an index, in place of earlier ones. -/
def insertMeta (index : List (String × List (Value × Value))) (digest : String)
    (metadata : List (Value × Value)) : List (String × List (Value × Value)) :=
  if (index.lookup digest).isSome then
    index.map fun e => if e.1 == digest then (digest, metadata) else e
  else index ++ [(digest, metadata)]

/-- The metadata that a text holds, with the digest that they name; nothing for a text that is not
JSON or that names none. -/
def metadataOf? (text : String) : Except Failure (Option (String × List (Value × Value))) :=
  match (Json.parse text).mapError Failure.ofJson with
  | .error (.json _) => .ok none
  | .error e => .error e
  | .ok (.map ps) =>
    match ((Value.field "sha" ps).getD (.str "")).written with
    | .error e => .error (.ofConversion e)
    | .ok digest => .ok (if digest.isEmpty then none else some (digest, ps))
  | .ok _ => .ok none

/-- The metadata in a file; nothing if it cannot be opened. -/
def readMeta? (path : String) : Action (Option (String × List (Value × Value))) := do
  try
    match metadataOf? (← readText path) with
    | .ok r => return r
    | .error e => throw e
  catch f => if f.isSystem then return none else throw f

/-- Put the metadata in files into an index. -/
def readAll (directory : Path) (index : List (String × List (Value × Value))) :
    List String → Action (List (String × List (Value × Value)))
  | [] => return index
  | name :: names => do
    let found ← readMeta? (directory.child name).text
    let index := match found with
      | some (digest, metadata) => insertMeta index digest metadata
      | none => index
    readAll directory index names

/-- Open the archive in a directory, which is made if it is missing. -/
def «open» (directory suffix : String) : Action Archive := do
  let path := Path.ofText directory
  needDirectories path
  let names := (← listNames path.text).filter isMetaName
  return { directory := path, suffix, index := ← readAll path [] names }

/-- The number of variants. -/
def size (a : Archive) : Nat := a.index.length

/-- The metadata of a variant. -/
def getMeta (a : Archive) (digest : String) : Except Failure (List (Value × Value)) :=
  match a.index.lookup digest with
  | some metadata => .ok metadata
  | none => .error (.key (Text.quote ("Unknown variant SHA: " ++ digest)))

/-- The path of a variant's source. -/
def sourcePath (a : Archive) (digest suffix : String) (metadata : List (Value × Value)) :
    Except Failure Path :=
  match ((Value.field "file" metadata).getD (.str (sourceName digest suffix))).written with
  | .ok name => .ok (a.directory.child name)
  | .error e => .error (.ofConversion e)

/-- The source of a variant. -/
def getSource (a : Archive) (digest : String) : Action String := do
  match a.getMeta digest >>= a.sourcePath digest a.suffix with
  | .error e => throw e
  | .ok path => readText path.text

/-! ### Saving -/

/-- What is noted about a variant when it is saved. -/
structure Note where
  name : String
  fitness : Option Value
  extra : List (Value × Value)

/-- Is the text one of the aliases? Aliases that were read from a file can be any value. -/
def isAlias (name : String) : Value → Except Failure Bool
  | .list items => .ok (items.contains (.str name))
  | .map ps => .ok (ps.any fun p => p.1 == .str name)
  | .str s => .ok (Language.contains (Text.points name) (Text.points s))
  | v => .error (.misuse (.notContainer v.typeName))

/-- Add a name to aliases that do not have it. -/
def addAlias (name : String) (aliases : Value) : Except Failure Value := do
  if ← isAlias name aliases then return aliases
  else
    match aliases with
    | .list items => return .list (items ++ [.str name])
    | v => throw (.noAttribute v.typeName "append")

/-- Metadata with another name of the variant among its aliases. -/
def noteName (metadata : List (Value × Value)) (name : String) :
    Except Failure (List (Value × Value)) :=
  if Value.field "name" metadata == some (.str name) then .ok metadata
  else
    let aliases := (Value.field "aliases" metadata).getD (.list [])
    (addAlias name aliases).map fun v => Value.insertPair metadata (.str "aliases") v

/-- The fitness as a double. -/
def fitnessValue (v : Value) : Except Failure Value :=
  (v.toFloat.map Value.float).mapError Failure.ofConversion

/-- Metadata with further pairs. -/
def noteExtra (metadata extra : List (Value × Value)) : List (Value × Value) :=
  extra.foldl (fun m p => Value.insertPair m p.1 p.2) metadata

/-- The metadata of a saved variant after it is saved again: the name first, then the fitness, then
the extra pairs, as far as they are taken. -/
def renote (metadata : List (Value × Value)) (note : Note) :
    List (Value × Value) × Option Failure :=
  match noteName metadata note.name with
  | .error e =>
    let aliases := (Value.field "aliases" metadata).getD (.list [])
    (Value.insertPair metadata (.str "aliases") aliases, some e)
  | .ok metadata =>
    match note.fitness.mapM fitnessValue with
    | .error e => (metadata, some e)
    | .ok fitness =>
      let metadata := match fitness with
        | some v => Value.insertPair metadata (.str "fitness") v
        | none => metadata
      (noteExtra metadata note.extra, none)

/-- The metadata of a new variant. -/
def newMeta (digest file : String) (note : Note) : Except Failure (List (Value × Value)) := do
  let fitness ← note.fitness.mapM fitnessValue
  let edits := if note.name == "original" then [] else Text.words note.name
  return noteExtra
    [(.str "sha", .str digest), (.str "name", .str note.name),
     (.str "edits", .list (edits.map Value.str)), (.str "fitness", fitness.getD .null),
     (.str "file", .str file)] note.extra

/-- Write a metadata file. -/
def writeMeta (a : Archive) (digest : String) (metadata : List (Value × Value)) :
    Action Unit := do
  if (Value.map metadata).isOverlong then throw (.ofConversion .overlong)
  writeText (a.directory.child (metaName digest)).text
    (Json.write Json.blockLayout (.map metadata))

/-- Save a source; the digest that it is saved by, and the archive afterwards, also when saving
fails. An empty suffix stands for that of the archive. -/
def save (a : Archive) (source suffix : String) (note : Note) :
    StateM Machine (Archive × Except Failure String) := do
  let digest := shortDigest source
  let suffix := if suffix.isEmpty then a.suffix else suffix
  match a.index.lookup digest with
  | some metadata =>
    let (metadata, failure) := renote metadata note
    let a := { a with index := insertMeta a.index digest metadata }
    let action : Action String := do
      if let some f := failure then throw f
      let path ← ofExcept (a.sourcePath digest suffix metadata)
      if !(← fileExists path.text) then writeText path.text source
      a.writeMeta digest metadata
      return digest
    return (a, ← action.run)
  | none =>
    let file := sourceName digest suffix
    let action : Action (List (Value × Value)) := do
      writeText (a.directory.child file).text source
      match newMeta digest file note with
      | .error e => throw e
      | .ok metadata =>
        a.writeMeta digest metadata
        return metadata
    match ← action.run with
    | .error e => return (a, .error e)
    | .ok metadata => return ({ a with index := insertMeta a.index digest metadata }, .ok digest)

end Archive

end VariantRepair
