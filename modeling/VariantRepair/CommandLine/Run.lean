import VariantRepair.Archive
import VariantRepair.Variant.Random
import VariantRepair.Variant.Listing
import VariantRepair.Bench.Localize
import VariantRepair.Bench.Evaluate
import VariantRepair.CommandLine.Words
import VariantRepair.CommandLine.Settings

/-!
A run: load a program, check it, localize its faults, make edits, evaluate the variant, and keep it
if it passes every test.
-/

namespace VariantRepair.CommandLine

open Host Work

/-- A text that was given and is not empty. -/
def nonempty (s : Option (Given String)) : Option String :=
  (s.map Given.text).filter (!·.isEmpty)

/-- The backend that is set, or that the snapshot names, or that is meant for the program's file. -/
def chooseBackend (c : Config) (snapshot : Option String) : Action Backend := do
  let key ←
    if !c.representation.isEmpty then pure c.representation
    else
      match snapshot with
      | some path => snapshotBackend path
      | none => pure ((Backend.ofPath? (.ofText c.program)).getD .lines).key
  ofExcept (Backend.ofKey key)

/-- Load the snapshot or the program. -/
def loadProgram (c : Config) (snapshot : Option String) : Work Unit := do
  match snapshot with
  | some path =>
    loadSnapshot path
    let size ← reading (·.size)
    onMachine (say s!"[Load] {path}: {size} atoms")
  | none =>
    loadSource c.program
    let v ← variant
    onMachine (say
      s!"[Load] {c.program}: {v.backend.key} representation, {v.size} atoms")

/-- Make edits in turn. -/
def applyEdits (c : Config) (edits : List Edit) : Work Unit :=
  alter (Altered.applyAll c.untouchedWeight edits)

/-- How many random edits are asked for. -/
def randomCount : Given Int → Except Failure Nat
  | .value n => .ok n.toNat
  | .nothing => .error (.misuse (.comparison ">" "list" "int"))

/-- Make random edits. -/
def applyRandomEdits (c : Config) (count : Nat) : Work Unit := do
  let weights := (c.deleteProbability, c.appendProbability, c.swapProbability)
  let (_, failure, altered, _) := Altered.drawEdits Chance.Twister.dice c.untouchedWeight weights
    count (← get).altered (Chance.Twister.ofSeed c.seed)
  modify fun b => { b with altered }
  if let some f := failure then throw f

/-- Keep the variant at hand in an archive. -/
def keep (directory : String) (e : Evaluation) : Work Unit := do
  let own := (← get).altered.suffix
  let suffix ← if own.truthy then ofExcept own.needText else pure ".txt"
  let archive ← onMachine (Archive.open directory suffix)
  let source ← reading (·.text)
  let note : Archive.Note := { name := e.name, fitness := some (.float e.fitness), extra := [] }
  let digest ← onMachine (ExceptT.mk ((archive.save source "" note).map (·.2)))
  onMachine (say s!"[Archive] saved repaired variant {digest} to {directory}")

/-- Print a listing of the variant at hand. -/
def printListing (c : Config) : Work Unit := do
  let (lines, failure) := (← get).altered.listing c.untouchedWeight
  onMachine (lines.forM say)
  if let some f := failure then throw f

/-- The result of an evaluation in one line. -/
def evaluationLine (e : Evaluation) : String :=
  s!"[Variant] {e.name}: fitness={Number.generalText e.fitness}/" ++
    s!"{Number.generalText e.maxFitness} passed_all={(Value.bool e.passedAll).display}"

/-- The work of a run between restoring the cache and writing it. -/
def process (o : Options) (c : Config) : Work Unit := do
  let snapshot := nonempty o.loadSnapshot
  loadProgram c snapshot
  if o.sanity = .value true then sanityCheck c
  if snapshot.isNone || (← reading (·.weighted)).isEmpty then localize c
  if let some path := nonempty o.saveSnapshot then
    saveSnapshot path
    onMachine (say s!"[Save] {path}")
  reading (·.callable "copy")
  applyEdits c (← ofExcept (Edit.parseList o.edits.text))
  applyRandomEdits c (← ofExcept (randomCount o.randomEdits))
  let e ← evaluate c (nonempty o.output)
  onMachine (say (evaluationLine e))
  if e.passedAll then
    if let some directory := nonempty o.archive then keep directory e
  if o.debug then printListing c

/-- Write the cache, if one is used. -/
def closeCache : Work Unit := do
  match (← get).cache with
  | none => return
  | some cache =>
    onMachine cache.persist
    onMachine (say
      s!"[Cache] {cache.size} outcome(s) saved; {cache.evaluations} evaluated this run")

/-- Do some work, and write the cache however it ends. -/
def thenClose (w : Work Unit) : Work Unit := do
  try w
  catch f =>
    closeCache
    throw f
  closeCache

/-- The cache of a run with what its file holds. -/
def openCache (c : Config) : Action (Option Cache) := do
  if c.useCache then return some (← (Cache.ofPath c.cachePath).restore).2 else return none

/-- A run. -/
def run (o : Options) : Action Unit := do
  let c ← CommandLine.resolve o
  let snapshot := nonempty o.loadSnapshot
  if c.program.isEmpty && snapshot.isNone then throw (.refused .noProgram)
  let cache ← openCache c
  let backend ← chooseBackend c snapshot
  let bench : Bench :=
    { machine := ← get, cache, stats := .zero, port := c.port
      altered := .ofVariant (.empty backend) }
  let (r, bench) := (thenClose (process o c)).run bench
  set bench.machine
  match r with
  | .error f => throw f
  | .ok () => say (Json.write Json.blockLayout (.map bench.stats.summary))

/-- What a command line asks for, and the exit status. A failure that is reported ends it with
status one. -/
def execute (words : List String) : Action Nat := do
  match CommandLine.read words with
  | .error e => throw (.usage e.message)
  | .ok .help => return 0
  | .ok (.run o) =>
    try
      run o
      return 0
    catch f =>
      if f.isReported then
        warn s!"[Abort] {f.label}: {f.message}"
        return 1
      else throw f

end VariantRepair.CommandLine
