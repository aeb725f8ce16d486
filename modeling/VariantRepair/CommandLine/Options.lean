import VariantRepair.Config.Basic

/-!
The options of the command line and what they set.
-/

namespace VariantRepair.CommandLine

/-- The data file that settings are read from unless another is named. -/
def defaultConfigPath : String := "configs/repair.yaml"

/-- What an option is given: a value, or nothing, which two hyphens behind its equality sign stand
for. -/
inductive Given (α : Type) where
  | value (a : α)
  | nothing
deriving Repr, DecidableEq

namespace Given

/-- Read the value, if there is one. -/
def mapM {α β ε : Type} (read : α → Except ε β) : Given α → Except ε (Given β)
  | value a => (read a).map value
  | nothing => .ok nothing

/-- The given text; nothing counts as the empty text. -/
def text : Given String → String
  | value s => s
  | nothing => ""

/-- What is given as a dynamic value: nothing is the empty list. -/
def toValue {α : Type} (shown : α → Value) : Given α → Value
  | value a => shown a
  | nothing => .list []

end Given

/-- What a command line asks for. -/
structure Options where
  /-- The data file with settings. -/
  config : Given String
  noConfig : Bool
  /-- The file of assignments to environment variables. -/
  envFile : Given String
  /-- The settings of the configuration that the command line gives. -/
  settings : (f : Field) → Option (Given f.Carrier)
  noCache : Bool
  keepSource : Bool
  noProgress : Bool
  /-- Is the unmodified program checked first? -/
  sanity : Given Bool
  /-- The edits to apply. -/
  edits : Given String
  /-- The number of random edits to apply after those. -/
  randomEdits : Given Int
  loadSnapshot : Option (Given String)
  saveSnapshot : Option (Given String)
  archive : Option (Given String)
  output : Option (Given String)
  debug : Bool

/-- What an empty command line asks for. -/
def Options.default : Options :=
  { config := .value defaultConfigPath, noConfig := false, envFile := .value ".env"
    settings := fun _ => none, noCache := false, keepSource := false, noProgress := false
    sanity := .value true, edits := .value "", randomEdits := .value 0, loadSnapshot := none
    saveSnapshot := none, archive := none, output := none, debug := false }

/-- Give a setting a value. -/
def Options.setField (o : Options) (f : Field) (v : Given f.Carrier) : Options :=
  { o with settings := fun g => if h : f = g then some (h ▸ v) else o.settings g }

/-- Options without a value. -/
inductive Switch where
  | help
  | noConfig
  | noCache
  | keepSource
  | noProgress
  | debug
deriving Repr, DecidableEq

/-- Options with a value. -/
inductive Slot where
  | config
  | envFile
  | field (f : Field)
  | sanity
  | edits
  | randomEdits
  | loadSnapshot
  | saveSnapshot
  | archive
  | output
deriving Repr, DecidableEq

/-- An option. -/
inductive Key where
  | switch (s : Switch)
  | slot (s : Slot)
deriving Repr, DecidableEq

/-- The names of all options, in the order in which they are listed. -/
def names : List (String × Key) :=
  [("-h", .switch .help), ("--help", .switch .help), ("--config", .slot .config),
   ("--no-config", .switch .noConfig), ("--env-file", .slot .envFile),
   ("--program", .slot (.field .program)), ("--representation", .slot (.field .representation)),
   ("--seed", .slot (.field .seed)), ("--pos-tests", .slot (.field .posTests)),
   ("--neg-tests", .slot (.field .negTests)), ("--compiler", .slot (.field .compilerName)),
   ("--compiler-opts", .slot (.field .compilerOptions)),
   ("--compile-command", .slot (.field .compileCommand)),
   ("--test-command", .slot (.field .testCommand)),
   ("--test-timeout", .slot (.field .testTimeout)), ("--cache-path", .slot (.field .cachePath)),
   ("--no-cache", .switch .noCache), ("--fault-scheme", .slot (.field .faultScheme)),
   ("--fault-file", .slot (.field .faultFile)), ("--work-dir", .slot (.field .workDir)),
   ("--keep-source", .switch .keepSource), ("--no-progress", .switch .noProgress),
   ("--sanity", .slot .sanity), ("--edits", .slot .edits),
   ("--random-edits", .slot .randomEdits), ("--load-binary", .slot .loadSnapshot),
   ("--save-binary", .slot .saveSnapshot), ("--archive-dir", .slot .archive),
   ("--output", .slot .output), ("--debug", .switch .debug)]

/-- The settings that a command line can give, in the order in which they are taken. -/
def settingFields : List Field :=
  [.program, .representation, .seed, .posTests, .negTests, .compilerName, .compilerOptions,
   .compileCommand, .testCommand, .testTimeout, .cachePath, .faultScheme, .faultFile, .workDir]

/-- What is wrong with the value of an option. -/
inductive ValueFault where
  | notWhole
  | notReal
  | notAmong (choices : List String)
deriving Repr, DecidableEq

/-- A whole number. -/
def wholeValue (s : String) : Except ValueFault Int :=
  (Number.parseInt s).mapError fun _ => .notWhole

/-- A value of a kind of settings. -/
def kindValue : (k : FieldKind) → String → Except ValueFault k.Carrier
  | .text, s => .ok s
  | .whole, s => wholeValue s
  | .real, s => (Number.parseFloat s).mapError fun _ => .notReal
  | .flag, _ => .ok true

/-- One of several words. -/
def choice (choices : List String) (s : String) : Except ValueFault String :=
  if choices.contains s then .ok s else .error (.notAmong choices)

/-- Turn a switch on. -/
def Options.turnOn (o : Options) : Switch → Options
  | .help => o
  | .noConfig => { o with noConfig := true }
  | .noCache => { o with noCache := true }
  | .keepSource => { o with keepSource := true }
  | .noProgress => { o with noProgress := true }
  | .debug => { o with debug := true }

/-- Give an option what stands for its value; what comes later replaces what came earlier. -/
def Options.put (o : Options) (slot : Slot) (g : Given String) : Except ValueFault Options :=
  match slot with
  | .config => .ok { o with config := g }
  | .envFile => .ok { o with envFile := g }
  | .field .faultScheme =>
    (g.mapM (choice Config.faultSchemes)).map fun v => o.setField .faultScheme v
  | .field f => (g.mapM (kindValue f.kind)).map fun v => o.setField f v
  | .sanity =>
    (g.mapM fun s => (choice ["yes", "no"] s).map (· == "yes")).map fun b => { o with sanity := b }
  | .edits => .ok { o with edits := g }
  | .randomEdits => (g.mapM wholeValue).map fun n => { o with randomEdits := n }
  | .loadSnapshot => .ok { o with loadSnapshot := some g }
  | .saveSnapshot => .ok { o with saveSnapshot := some g }
  | .archive => .ok { o with archive := some g }
  | .output => .ok { o with output := some g }

/-- The settings that the command line gives, by name. -/
def Options.overrides (o : Options) : List (Value × Value) :=
  (settingFields.filterMap fun f =>
    (o.settings f).map fun g => (.str f.name, g.toValue f.kind.toValue)) ++
  (if o.noCache then [(.str (Field.name .useCache), .bool false)] else []) ++
  (if o.keepSource then [(.str (Field.name .keepSource), .bool true)] else []) ++
  (if o.noProgress then [(.str (Field.name .progress), .bool false)] else [])

end VariantRepair.CommandLine
