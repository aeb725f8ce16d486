import VariantRepair.Text.Blank
import VariantRepair.Weight
import VariantRepair.Failure

/-!
The configuration of a run: a value for each field. Settings overlay a configuration; a setting
is converted to the kind of its field, and the result has to be within bounds.
-/

namespace VariantRepair

/-- The kinds of fields. -/
inductive FieldKind where
  | text
  | whole
  | real
  | flag
deriving Repr, DecidableEq

/-- What a field of the kind holds. -/
abbrev FieldKind.Carrier : FieldKind → Type
  | text => String
  | whole => Int
  | real => Float
  | flag => Bool

/-- The fields of a configuration. -/
inductive Field where
  | program
  | representation
  | compilerName
  | compilerOptions
  | compileCommand
  | testCommand
  | compileTimeout
  | testTimeout
  | port
  | seed
  | posTests
  | negTests
  | negativeTestWeight
  | faultScheme
  | faultFile
  | positivePathWeight
  | negativePathWeight
  | untouchedWeight
  | deleteProbability
  | appendProbability
  | swapProbability
  | cachePath
  | useCache
  | workDir
  | keepSource
  | progress
deriving Repr, DecidableEq

namespace Field

/-- All fields, in the order in which they are listed. -/
def all : List Field :=
  [program, representation, compilerName, compilerOptions, compileCommand, testCommand,
   compileTimeout, testTimeout, port, seed, posTests, negTests, negativeTestWeight, faultScheme,
   faultFile, positivePathWeight, negativePathWeight, untouchedWeight, deleteProbability,
   appendProbability, swapProbability, cachePath, useCache, workDir, keepSource, progress]

/-- The name of a field in settings. -/
def name : Field → String
  | program => "program"
  | representation => "representation"
  | compilerName => "compiler_name"
  | compilerOptions => "compiler_options"
  | compileCommand => "compile_command"
  | testCommand => "test_command"
  | compileTimeout => "compile_timeout_seconds"
  | testTimeout => "test_timeout_seconds"
  | port => "port"
  | seed => "seed"
  | posTests => "pos_tests"
  | negTests => "neg_tests"
  | negativeTestWeight => "negative_test_weight"
  | faultScheme => "fault_scheme"
  | faultFile => "fault_file"
  | positivePathWeight => "positive_path_weight"
  | negativePathWeight => "negative_path_weight"
  | untouchedWeight => "untouched_weight"
  | deleteProbability => "delete_probability"
  | appendProbability => "append_probability"
  | swapProbability => "swap_probability"
  | cachePath => "cache_path"
  | useCache => "use_cache"
  | workDir => "work_dir"
  | keepSource => "keep_source"
  | progress => "progress"

/-- The kind of a field. -/
@[reducible] def kind : Field → FieldKind
  | program | representation | compilerName | compilerOptions | compileCommand | testCommand
  | faultScheme | faultFile | cachePath | workDir => .text
  | port | seed | posTests | negTests => .whole
  | compileTimeout | testTimeout | negativeTestWeight | positivePathWeight | negativePathWeight
  | untouchedWeight | deleteProbability | appendProbability | swapProbability => .real
  | useCache | keepSource | progress => .flag

/-- What a field holds. -/
abbrev Carrier (f : Field) : Type := f.kind.Carrier

/-- The field with a name; a hyphen counts as an underscore. -/
def ofName? (s : String) : Option Field :=
  let name := String.ofList (s.toList.map fun c => if c = '-' then '_' else c)
  all.find? fun f => f.name == name

end Field

/-- A value for each field. -/
abbrev Config : Type := (f : Field) → f.Carrier

/-- The command that compiles, unless another is set. -/
def defaultCompileCommand : String :=
  "__COMPILER_NAME__ -o __EXE_NAME__ __SOURCE_NAME__ __COMPILER_OPTIONS__"

/-- The command that runs a test, unless another is set. -/
def defaultTestCommand : String :=
  "./test.sh __EXE_NAME__ __TEST_NAME__ __PORT__ __SOURCE_NAME__"

namespace Config

/-- The configuration that nothing has been set in. -/
def default : Config
  | .program => ""
  | .representation => ""
  | .compilerName => "gcc"
  | .compilerOptions => ""
  | .compileCommand => defaultCompileCommand
  | .testCommand => defaultTestCommand
  | .compileTimeout => (120.0 : Float)
  | .testTimeout => (60.0 : Float)
  | .port => (808 : Int)
  | .seed => (0 : Int)
  | .posTests => (5 : Int)
  | .negTests => (1 : Int)
  | .negativeTestWeight => (2.0 : Float)
  | .faultScheme => "path"
  | .faultFile => ""
  | .positivePathWeight => (0.1 : Float)
  | .negativePathWeight => (1.0 : Float)
  | .untouchedWeight => (0.0 : Float)
  | .deleteProbability => (1.0 : Float)
  | .appendProbability => (1.0 : Float)
  | .swapProbability => (1.0 : Float)
  | .cachePath => "repair.cache"
  | .useCache => true
  | .workDir => "repair_work"
  | .keepSource => false
  | .progress => true

/-- Give a field a value. -/
def set (c : Config) (f : Field) (v : f.Carrier) : Config := fun g =>
  if h : f = g then h ▸ v else c g

/-! ### Fields by name -/

def program (c : Config) : String := c .program

def representation (c : Config) : String := c .representation

def compilerName (c : Config) : String := c .compilerName

def compilerOptions (c : Config) : String := c .compilerOptions

def compileCommand (c : Config) : String := c .compileCommand

def testCommand (c : Config) : String := c .testCommand

def compileTimeout (c : Config) : Float := c .compileTimeout

def testTimeout (c : Config) : Float := c .testTimeout

def port (c : Config) : Int := c .port

def seed (c : Config) : Int := c .seed

def posTests (c : Config) : Int := c .posTests

def negTests (c : Config) : Int := c .negTests

def negativeTestWeight (c : Config) : Float := c .negativeTestWeight

def faultScheme (c : Config) : String := c .faultScheme

def faultFile (c : Config) : String := c .faultFile

def positivePathWeight (c : Config) : Float := c .positivePathWeight

def negativePathWeight (c : Config) : Float := c .negativePathWeight

def untouchedWeight (c : Config) : Float := c .untouchedWeight

def deleteProbability (c : Config) : Float := c .deleteProbability

def appendProbability (c : Config) : Float := c .appendProbability

def swapProbability (c : Config) : Float := c .swapProbability

def cachePath (c : Config) : String := c .cachePath

def useCache (c : Config) : Bool := c .useCache

def workDir (c : Config) : String := c .workDir

def keepSource (c : Config) : Bool := c .keepSource

def progress (c : Config) : Bool := c .progress

end Config

/-! ### Values of fields -/

namespace FieldKind

/-- What a field of the kind holds, as a value. -/
def toValue : (k : FieldKind) → k.Carrier → Value
  | text, s => .str s
  | whole, n => .int n
  | real, x => .float x
  | flag, b => .bool b

/-- The truth value that a word stands for. -/
def flagWord? (s : String) : Option Bool :=
  let word := String.ofList ((Text.strip s).toList.map Char.toLower)
  if ["1", "true", "yes", "on"].contains word then some true
  else if ["0", "false", "no", "off", ""].contains word then some false
  else none

/-- Convert a value to what a field of the kind holds. An integer goes by way of a double. None if
the value is refused; an overflow is a failure of its own. -/
def ofValue : (k : FieldKind) → Value → Except Failure (Option k.Carrier)
  | text, v => lenient v.written
  | flag, .str s => .ok (flagWord? s)
  | flag, .wild _ => .ok none
  | flag, v => .ok (some v.truthy)
  | real, v => lenient v.toFloat
  | whole, v => lenient (v.toFloat >>= fun x => (Value.float x).toInt)
where
  /-- A conversion that failed refuses the value, except for an overflow. -/
  lenient {α : Type} : Except ConversionError α → Except Failure (Option α)
    | .ok x => .ok (some x)
    | .error e =>
      match Failure.ofConversion e with
      | .overflow e => .error (.overflow e)
      | _ => .ok none

end FieldKind

namespace Config

/-- The configuration as a mapping. -/
def toMap (c : Config) : List (Value × Value) :=
  Field.all.map fun f => (.str f.name, f.kind.toValue (c f))

/-- Convert a setting for a field. -/
def coerce (f : Field) (raw : Value) : Except Failure f.Carrier :=
  match f.kind.ofValue raw with
  | .error e => .error e
  | .ok (some v) => .ok v
  | .ok none => .error (.naming raw fun shown => .refused (.setting f.name shown))

/-- The schemes of fault localization. -/
def faultSchemes : List String := ["path", "uniform", "line"]

/-- The fields that have to lie between zero and one. -/
def unitFields : List (String × (Config → Float)) :=
  [("positive_path_weight", positivePathWeight), ("negative_path_weight", negativePathWeight),
   ("untouched_weight", untouchedWeight)]

/-- Check the bounds of a configuration: the first that it breaks is refused. -/
def check (c : Config) : Except Failure Config :=
  if c.posTests < 0 ∨ c.negTests < 0 then .error (.refused .testCounts)
  else if !faultSchemes.contains c.faultScheme then
    .error (.refused (.faultScheme (Text.quote c.faultScheme)))
  else
    match unitFields.find? fun p => !Weight.inUnit (p.2 c) with
    | some (name, get) => .error (.refused (.outsideUnit name (Value.float (get c)).display))
    | none =>
      if c.compileTimeout ≤ 0 ∨ c.testTimeout ≤ 0 then .error (.refused .timeouts) else .ok c

/-- Overlay settings one by one. A key that names no field is passed over with a warning, and null
sets nothing. The warnings given before a setting is refused stay. -/
def overlayFrom (c : Config) : List (Value × Value) → List String × Except Failure Config
  | [] => ([], .ok c)
  | (key, raw) :: rest =>
    match key.written with
    | .error e => ([], .error (.ofConversion e))
    | .ok name =>
      match Field.ofName? name with
      | none =>
        let (warnings, r) := overlayFrom c rest
        (s!"[Warn] ignoring unknown config key: {name}" :: warnings, r)
      | some f =>
        match raw with
        | .null => overlayFrom c rest
        | raw =>
          match coerce f raw with
          | .error e => ([], .error e)
          | .ok v => overlayFrom (c.set f v) rest

/-- Overlay settings and check the result; the warnings and the configuration. -/
def overlay (c : Config) (settings : List (Value × Value)) : List String × Except Failure Config :=
  let (warnings, r) := overlayFrom c settings
  (warnings, r >>= check)

end Config

end VariantRepair
