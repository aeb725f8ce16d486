import VariantRepair.Text.Quoted

/-!
Errors of the repair core: operations on atoms, checks of a program against its tests, fault
localization, and the file of cached outcomes.
-/

namespace VariantRepair

/-- Why no fault localization could be computed. -/
inductive LocalizationFault where
  /-- The line scheme has no fault file. -/
  | noFaultFile
  /-- The instrumented program does not compile. -/
  | notCompiled (output : String)
  /-- The fault file cannot be read. -/
  | unreadable (path reason : String)
  /-- A row of the fault file is malformed. -/
  | malformedRow (path : String) (number : Nat) (row : String)
  | other (text : String)
deriving Repr, DecidableEq

/-- What the fault says. -/
def LocalizationFault.message : LocalizationFault → String
  | noFaultFile => "fault_scheme 'line' needs fault_file"
  | notCompiled output => "instrumented program failed to compile: " ++ output
  | unreadable path reason => s!"Cannot read fault file {path}: {reason}"
  | malformedRow path number row =>
    s!"{path}:{number}: malformed fault entry " ++ Text.quote row
  | other text => text

/-- Why a file of cached outcomes is not taken. -/
inductive CacheFault where
  | missing (path : String)
  /-- The file does not hold a stored value. -/
  | unreadable (reason : String)
  | wrongFormat
  | wrongVersion (shown : String)
  | noEntries
  | malformedEntry (shown : String)
  | other (text : String)
deriving Repr, DecidableEq

/-- What the fault says. -/
def CacheFault.message : CacheFault → String
  | missing path => s!"{path} does not exist"
  | unreadable reason => s!"unreadable cache file: {reason}"
  | wrongFormat => "not a test cache file"
  | wrongVersion shown => s!"unsupported cache version {shown}"
  | noEntries => "cache entries are malformed"
  | malformedEntry shown => s!"malformed cache entry {shown}"
  | other text => text

/-- An error of the repair core. -/
inductive RepairError where
  | general (text : String)
  /-- A backend does not provide an operation. -/
  | unimplemented (operation backend : String)
  /-- An atom id is not one of those of the program. -/
  | invalidAtom (shown maxAtom : String)
  /-- The unmodified program does not compile or does not match its tests. -/
  | sanityCheck (reason : String) (failures : List String)
  | faultLocalization (fault : LocalizationFault)
  | cacheFile (fault : CacheFault)
deriving Repr, DecidableEq

namespace RepairError

/-- The name of the error's kind. -/
def label : RepairError → String
  | general _ => "RepairError"
  | unimplemented .. => "Unimplemented"
  | invalidAtom .. => "InvalidAtom"
  | sanityCheck .. => "SanityCheckFailure"
  | faultLocalization _ => "FaultLocalizationFailure"
  | cacheFile _ => "CacheIOFailure"

/-- What the error says. -/
def message : RepairError → String
  | general text => text
  | unimplemented operation backend =>
    let place := if backend.isEmpty then "" else s!" by backend '{backend}'"
    s!"Operation '{operation}' is not implemented{place}."
  | invalidAtom shown maxAtom => s!"Atom id {shown} is outside the valid range 1..{maxAtom}."
  | sanityCheck reason failures =>
    let detail := if failures.isEmpty then "" else " (" ++ ", ".intercalate failures ++ ")"
    s!"Sanity check failed: {reason}{detail}"
  | faultLocalization fault => fault.message
  | cacheFile fault => fault.message

/-- The wider kinds of error that the error belongs to. -/
def families : RepairError → List String
  | unimplemented .. => ["RepairError", "NotImplementedError"]
  | invalidAtom .. => ["RepairError", "IndexError"]
  | _ => ["RepairError"]

end RepairError

end VariantRepair
