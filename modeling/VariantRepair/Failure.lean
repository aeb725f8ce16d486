import VariantRepair.Text.Utf8
import VariantRepair.Value.Convert
import VariantRepair.Json.Reader
import VariantRepair.Command.Words
import VariantRepair.Yaml.Cursor
import VariantRepair.Language.Parser.Module
import VariantRepair.Language.Printer.Expr
import VariantRepair.RepairError

/-!
Everything that can go wrong in a run, by cause. Each failure has a label, which names its kind,
and a message. The main program reports some kinds and ends; the others escape it.
-/

namespace VariantRepair

/-- What the system can refuse to do with a file. -/
inductive FileFault where
  | missing
  | busy
  | taken
  | notDirectory
  | isDirectory
  | nameTooLong
deriving Repr, DecidableEq

/-- The system's number for the fault. -/
def FileFault.number : FileFault → Nat
  | missing => 2
  | busy => 16
  | taken => 17
  | notDirectory => 20
  | isDirectory => 21
  | nameTooLong => 36

/-- The system's words for the fault. -/
def FileFault.text : FileFault → String
  | missing => "No such file or directory"
  | busy => "Device or resource busy"
  | taken => "File exists"
  | notDirectory => "Not a directory"
  | isDirectory => "Is a directory"
  | nameTooLong => "File name too long"

/-- The kind of error that the fault is. -/
def FileFault.label : FileFault → String
  | missing => "FileNotFoundError"
  | taken => "FileExistsError"
  | notDirectory => "NotADirectoryError"
  | isDirectory => "IsADirectoryError"
  | busy | nameTooLong => "OSError"

/-- A setting or an argument that is refused for its value. -/
inductive Refusal where
  | testPolarity (shown : String)
  | testIndex (shown : String)
  | testName (shown : String)
  | editOperator (shown : String)
  | editArity (operator : String) (arity count : Nat)
  | malformedEdit (shown : String)
  | weight (shown : String)
  | emptyLocalization
  | zeroLocalization
  | noOperator
  | noAtoms
  | totalWeight (finite : Bool)
  | number (e : ConversionError)
  | setting (name shown : String)
  | testCounts
  | faultScheme (shown : String)
  | outsideUnit (name shown : String)
  | timeouts
  | noProgram
  | unknownRepresentation (name : String)
  | unknownScheme (name : String)
  | notSnapshot (path : String)
  | snapshotVersion (path shown : String)
  | snapshotBackend (path stored own : String)
  | updateLength (index length : Nat)
  | pairLength (length : Nat)
  | command (e : Command.WordsError)
  | nulByte
  | nulSource
  | emptyName (path : String)
  | rendering (e : Language.PrintError)
  | noCharacter
  | calendar (text : String)
deriving Repr, DecidableEq

/-- What the refusal says. -/
def Refusal.message : Refusal → String
  | testPolarity shown => s!"Test polarity must be 'p' or 'n', got {shown}"
  | testIndex shown => s!"Test index must be >= 1, got {shown}"
  | testName shown => s!"Not a test name: {shown}"
  | editOperator shown => s!"Unknown edit operator {shown}"
  | editArity operator arity count => s!"Edit '{operator}' takes {arity} atom id(s), got {count}"
  | malformedEdit shown => s!"Malformed edit: {shown}"
  | weight shown => s!"Localization weight must be within [0, 1], got {shown}"
  | emptyLocalization => "Cannot choose from an empty localization."
  | zeroLocalization => "Cannot choose from a localization whose weights sum to zero."
  | noOperator => "At least one mutation operator needs a positive probability."
  | noAtoms => "Representation has no atoms to mutate."
  | totalWeight finite =>
    if finite then "Total of weights must be greater than zero"
    else "Total of weights must be finite"
  | number e => e.message
  | setting name shown => s!"Invalid value for {name}: {shown}"
  | testCounts => "pos_tests and neg_tests must be >= 0"
  | faultScheme shown => s!"fault_scheme must be one of path, uniform, line; got {shown}"
  | outsideUnit name shown => s!"{name} must be within [0, 1]; got {shown}"
  | timeouts => "timeouts must be positive"
  | noProgram => "--program (or program in the config file) is required"
  | unknownRepresentation name => s!"Unknown representation {name}. Available: lines, python"
  | unknownScheme name => s!"Unknown fault scheme: {name}"
  | notSnapshot path => s!"{path} is not a representation snapshot"
  | snapshotVersion path shown => s!"{path}: unsupported snapshot version {shown}"
  | snapshotBackend path stored own => s!"{path} holds a '{stored}' representation, not '{own}'"
  | updateLength index length =>
    s!"dictionary update sequence element #{index} has length {length}; 2 is required"
  | pairLength length =>
    if length < 2 then s!"not enough values to unpack (expected 2, got {length})"
    else "too many values to unpack (expected 2)"
  | command e => e.message
  | nulByte => "embedded null byte"
  | nulSource => "source code string cannot contain null bytes"
  | emptyName path => "PosixPath(" ++ Text.quote path ++ ") has an empty name"
  | rendering e => e.message
  | noCharacter => "chr() arg not in range(0x110000)"
  | calendar text => text

/-- A value used in a way that its type does not allow. -/
inductive Misuse where
  | number (e : ConversionError)
  /-- Two types that are not ordered against each other. -/
  | comparison (operator left right : String)
  /-- Two types that are not combined by an operator. -/
  | operands (operator left right : String)
  | textConcatenation (typeName : String)
  | listConcatenation (typeName : String)
  | notIterable (typeName : String)
  | notContainer (typeName : String)
  | notSequence (index : Nat)
  | notUnpackable (typeName : String)
  | unhashable (typeName : String)
  | missingArgument (function name : String)
  | tooManyArguments (function : String) (least most given : Nat)
  | notInteger (typeName : String)
  | notCallable (typeName : String)
  | noLength (typeName : String)
  | notSubscriptable (typeName : String)
  /-- An index that is no integer; `indexed` tells what it is an index of. -/
  | indexType (indexed typeName : String)
  | noItemAssignment (typeName : String)
  | noItemDeletion (typeName : String)
  | notJoinable
  /-- An item of a sequence that is joined is no text. -/
  | joinedItem (index : Nat) (typeName : String)
  | other (text : String)
deriving Repr, DecidableEq

/-- What the misuse says. -/
def Misuse.message : Misuse → String
  | number e => e.message
  | comparison operator left right =>
    s!"'{operator}' not supported between instances of '{left}' and '{right}'"
  | operands operator left right =>
    s!"unsupported operand type(s) for {operator}: '{left}' and '{right}'"
  | textConcatenation typeName => s!"can only concatenate str (not \"{typeName}\") to str"
  | listConcatenation typeName => s!"can only concatenate list (not \"{typeName}\") to list"
  | notIterable typeName => s!"'{typeName}' object is not iterable"
  | notContainer typeName => s!"argument of type '{typeName}' is not iterable"
  | notSequence index =>
    s!"cannot convert dictionary update sequence element #{index} to a sequence"
  | notUnpackable typeName => s!"cannot unpack non-iterable {typeName} object"
  | unhashable typeName => s!"unhashable type: '{typeName}'"
  | missingArgument function name =>
    s!"{function}() missing 1 required positional argument: '{name}'"
  | tooManyArguments function least most given =>
    if least = most then s!"{function}() takes {most} positional arguments but {given} were given"
    else s!"{function}() takes from {least} to {most} positional arguments but {given} were given"
  | notInteger typeName => s!"'{typeName}' object cannot be interpreted as an integer"
  | notCallable typeName => s!"'{typeName}' object is not callable"
  | noLength typeName => s!"object of type '{typeName}' has no len()"
  | notSubscriptable typeName => s!"'{typeName}' object is not subscriptable"
  | indexType "list" typeName => s!"list indices must be integers or slices, not {typeName}"
  | indexType "string" typeName => s!"string indices must be integers, not '{typeName}'"
  | indexType indexed typeName => s!"{indexed} indices must be integers, not {typeName}"
  | noItemAssignment typeName => s!"'{typeName}' object does not support item assignment"
  | noItemDeletion typeName => s!"'{typeName}' object doesn't support item deletion"
  | notJoinable => "can only join an iterable"
  | joinedItem index typeName =>
    s!"sequence item {index}: expected str instance, {typeName} found"
  | other text => text

/-- Why something did not succeed. -/
inductive Failure where
  | repair (e : RepairError)
  | refused (r : Refusal)
  | json (e : Json.Malformed)
  | decoding (e : Text.Utf8Error)
  | file (fault : FileFault) (path : String) (target : Option String)
  | noConfigFile (path : String)
  /-- A process could not be started, for another reason than a missing or denied command. -/
  | process (text : String)
  /-- The text is no program. -/
  | program
  /-- The text is no YAML document. -/
  | yaml
  /-- The file does not hold a stored value. -/
  | unreadableRecord
  | misuse (m : Misuse)
  | overflow (e : ConversionError)
  | key (shown : String)
  | index (text : String)
  | notCompiled (name : String)
  | noAttribute (typeName name : String)
  | usage (text : String)
deriving Repr, DecidableEq

namespace Failure

/-- The kind of failure, by name. -/
def label : Failure → String
  | repair e => e.label
  | refused _ => "ValueError"
  | json _ => "JSONDecodeError"
  | decoding _ => "UnicodeDecodeError"
  | file fault _ _ => fault.label
  | noConfigFile _ => FileFault.label .missing
  | process _ => "OSError"
  | program => "SyntaxError"
  | yaml => "YAMLError"
  | unreadableRecord => "UnpickleError"
  | misuse _ => "TypeError"
  | overflow _ => "OverflowError"
  | key _ => "KeyError"
  | index _ => "IndexError"
  | notCompiled _ => "RuntimeError"
  | noAttribute .. => "AttributeError"
  | usage _ => "UsageError"

/-- What the failure says. -/
def message : Failure → String
  | repair e => e.message
  | refused r => r.message
  | json e => e.message
  | decoding e => e.message
  | file fault path target =>
    let second := (target.map fun t => " -> " ++ Text.quote t).getD ""
    s!"[Errno {fault.number}] {fault.text}: " ++ Text.quote path ++ second
  | noConfigFile path => s!"Config file not found: {path}"
  | process text => text
  | program => "invalid syntax"
  | yaml => "not a document"
  | unreadableRecord => "not a stored value"
  | misuse m => m.message
  | overflow e => e.message
  | key shown => shown
  | index text => text
  | notCompiled name => s!"{name}: test_case called before compile"
  | noAttribute typeName name => s!"'{typeName}' object has no attribute '{name}'"
  | usage text => text

/-- Is the failure a refused value, in the wide sense that includes texts that are not read? -/
def isRefusal : Failure → Bool
  | refused _ | json _ | decoding _ => true
  | _ => false

/-- Is the failure one of the system's? -/
def isSystem : Failure → Bool
  | file .. | noConfigFile _ | process _ => true
  | _ => false

/-- Does the main program report the failure and end? -/
def isReported : Failure → Bool
  | repair _ | program => true
  | f => f.isRefusal || f.isSystem

/-- A conversion that failed: a refused value, a misuse or an overflow. -/
def ofConversion (e : ConversionError) : Failure :=
  match e with
  | .text _ | .notANumber | .overlong => refused (.number e)
  | .notWhole _ | .notReal _ => misuse (.number e)
  | .tooLarge | .wordTooLarge | .infinite => overflow e

/-- A refusal that names a value by its form in messages; the value itself is refused if it has an
integer that cannot be written. -/
def naming (v : Value) (f : String → Failure) : Failure :=
  match v.shown with
  | .ok s => f s
  | .error e => ofConversion e

/-- A JSON text that was not read. -/
def ofJson : Json.Error → Failure
  | .malformed e => json e
  | .number e => refused (.number (.text e))

/-- A text that is no program. -/
def ofSource : Language.SourceError → Failure
  | .nul => refused .nulSource
  | .malformed => program

/-- A program that has no text. -/
def ofPrinting (e : Language.PrintError) : Failure :=
  refused (.rendering e)

/-- A YAML text that was not read. -/
def ofYaml : Yaml.Error → Failure
  | .malformed => yaml
  | .character code =>
    if code ≤ 0x7FFFFFFF then refused .noCharacter else overflow .wordTooLarge
  | .number e => refused (.number (.text e))
  | .tooLarge => overflow .tooLarge
  | .truth points => key (String.ofList (Text.quotePoints points))
  | .empty => index "string index out of range"
  | .calendar text => refused (.calendar text)
  | .timestamp => noAttribute "NoneType" "groupdict"
  | .timeless => misuse (.other "expected string or bytes-like object, got 'list'")

end Failure

end VariantRepair
