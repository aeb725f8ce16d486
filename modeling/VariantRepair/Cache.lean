import VariantRepair.Digest
import VariantRepair.Test
import VariantRepair.Host.Files

/-!
The cache of test outcomes. An outcome belongs to a test and to the digest of a program's text, so
that equal texts share it, and it is kept in a file from one run to the next. Beside the outcomes
the cache remembers which tests were really run in the session.
-/

namespace VariantRepair

/-- The digest of a text. -/
def textDigest (text : String) : String :=
  Digest.Md5.digest (Text.utf8Bytes text)

/-- A test of the text with a digest. -/
abbrev CacheKey := String × Test

/-- The cache of a run. -/
structure Cache where
  /-- The file that the outcomes are kept in. -/
  path : Path
  /-- Did the test pass? -/
  entries : List (CacheKey × Bool)
  /-- The tests that were run in this session, each once. -/
  evaluated : List CacheKey

namespace Cache

/-- The file of a cache unless another is given. -/
def defaultPath : String := "repair.cache"

/-- A cache without outcomes. -/
def ofPath (path : String) : Cache :=
  { path := .ofText path, entries := [], evaluated := [] }

/-- The outcome of a test, if it is known. -/
def query (c : Cache) (digest : String) (test : Test) : Option Bool :=
  c.entries.lookup (digest, test)

/-- Entries with the outcome of a key, in place of an earlier one. -/
def insertEntry (key : CacheKey) (passed : Bool) (entries : List (CacheKey × Bool)) :
    List (CacheKey × Bool) :=
  if (entries.lookup key).isSome then
    entries.map fun e => if e.1 == key then (key, passed) else e
  else entries ++ [(key, passed)]

/-- Note the outcome of a test. -/
def add (c : Cache) (digest : String) (test : Test) (passed : Bool) : Cache :=
  { c with entries := insertEntry (digest, test) passed c.entries }

/-- Note that a test was run. -/
def recordEvaluation (c : Cache) (digest : String) (test : Test) : Cache :=
  if c.evaluated.contains (digest, test) then c
  else { c with evaluated := c.evaluated ++ [(digest, test)] }

/-- The number of tests run in this session. -/
def evaluations (c : Cache) : Nat := c.evaluated.length

/-- Begin a new session. -/
def resetSession (c : Cache) : Cache := { c with evaluated := [] }

/-- The number of outcomes. -/
def size (c : Cache) : Nat := c.entries.length

/-! ### The stored value -/

/-- The format that marks a stored value as a cache. -/
def format : String := "repair-test-cache"

/-- The version of cache files. -/
def version : Int := 1

/-- The order of entries in a file: by digest, then by test. -/
def keyLe (a b : CacheKey) : Bool :=
  if a.1 == b.1 then a.2.le b.2 else decide (a.1 < b.1)

/-- The stored form of an entry. -/
def entryValue (e : CacheKey × Bool) : Value :=
  .tuple [.str e.1.1, .str e.1.2.name, .bool e.2]

/-- The stored form of a cache. -/
def toValue (c : Cache) : Value :=
  .map [(.str "format", .str format), (.str "version", .int version),
    (.str "entries", .list ((c.entries.mergeSort fun a b => keyLe a.1 b.1).map entryValue))]

/-- The entry that a stored value is: three items, a digest, the name of a test and an outcome. -/
def entryOf? (v : Value) : Option (CacheKey × Bool) :=
  match v.items? with
  | some [.str digest, name, .bool passed] =>
    match Test.parseValue name with
    | .ok test => some ((digest, test), passed)
    | .error _ => none
  | _ => none

/-- The failure that a cache file is not taken. -/
def bad (fault : CacheFault) : Failure := .repair (.cacheFile fault)

/-- The entries that a list of stored values holds; a later one replaces an earlier one with its
key. -/
def entriesOf (entries : List (CacheKey × Bool)) :
    List Value → Except Failure (List (CacheKey × Bool))
  | [] => .ok entries
  | v :: vs =>
    match entryOf? v with
    | some (key, passed) => entriesOf (insertEntry key passed entries) vs
    | none => .error (.naming v fun shown => bad (.malformedEntry shown))

/-- The entries that a stored value holds. -/
def ofValue (v : Value) : Except Failure (List (CacheKey × Bool)) :=
  match v with
  | .map ps =>
    if Value.field "format" ps != some (.str format) then .error (bad .wrongFormat)
    else
      let stored := (Value.field "version" ps).getD .null
      if stored != .int version then
        .error (.naming stored fun shown => bad (.wrongVersion shown))
      else
        match Value.field "entries" ps with
        | some (.list vs) => entriesOf [] vs
        | _ => .error (bad .noEntries)
  | _ => .error (bad .wrongFormat)

/-- The entries that a stored record holds. -/
def ofRecord : Record → Except Failure (List (CacheKey × Bool))
  | .value v => ofValue v
  | .snapshot _ => .error (bad .wrongFormat)
  | .damaged => .error (bad (.unreadable Failure.unreadableRecord.message))

/-! ### The file -/

open Host

/-- The path of the file that is written before it replaces the cache file. -/
def temporaryPath (c : Cache) : Action Path := do
  match c.path.withName? (c.path.name ++ ".tmp." ++ (← get).process) with
  | some p => return p
  | none => throw (.refused (.emptyName c.path.text))

/-- Delete a file if it is there. -/
def discard (path : String) : Action Unit := do
  if ← fileExists path then deleteFile path

/-- All tests that there are outcomes of have names that can be written. -/
def checkNames (c : Cache) : Except Failure Unit :=
  if c.entries.any fun e => Number.isOverlong e.1.2.index then .error (.ofConversion .overlong)
  else .ok ()

/-- Write all outcomes to the cache file. The file is replaced in one step, and the temporary file
is gone afterwards, whatever happens. -/
def persist (c : Cache) : Action Unit := do
  ofExcept c.checkNames
  if !(← fileExists c.path.parent.text) then needDirectories c.path.parent
  let temporary := (← c.temporaryPath).text
  try
    writeContent temporary (.record (.value c.toValue))
    moveFile temporary c.path.text
  catch f =>
    discard temporary
    throw f
  discard temporary

/-- The stored value of the cache file. -/
def readStored (c : Cache) : Action Record := do
  if !(← isFile c.path.text) then throw (bad (.missing c.path.text))
  try readRecord c.path.text
  catch f => throw (bad (.unreadable f.message))

/-- The entries in the cache file. -/
def readEntries (c : Cache) : Action (List (CacheKey × Bool)) := do
  match ofRecord (← c.readStored) with
  | .ok entries => return entries
  | .error f => throw f

/-- Take the outcomes from the cache file. A missing or bad file leaves the cache without outcomes.
The answer says whether the file was taken. -/
def restore (c : Cache) : Action (Bool × Cache) := do
  try
    let entries ← c.readEntries
    say s!"[Cache] restored {entries.length} outcome(s) from {c.path.text}"
    return (true, { c with entries })
  catch
  | .repair (.cacheFile fault) =>
    if ← fileExists c.path.text then warn s!"[Cache] ignoring {c.path.text}: {fault.message}"
    return (false, { c with entries := [] })
  | f => throw f

end Cache

end VariantRepair
