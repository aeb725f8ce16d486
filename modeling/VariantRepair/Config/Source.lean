import VariantRepair.Text.Lines
import VariantRepair.Yaml.Reader
import VariantRepair.Config.Basic

/-!
Where settings come from: data files, files of assignments, and environment variables.
-/

namespace VariantRepair.Config

/-- The section of a data file that holds the settings, when there is one. -/
def sectionName : String := "repair"

/-- The settings of a data file's value: those of its section for them when it has one. A value
that is no mapping has none. -/
def settingsOf : Value → List (Value × Value)
  | .map pairs =>
    match Value.field sectionName pairs with
    | some (.map section_) => section_
    | _ => pairs
  | _ => []

/-- Is a file of this name written in JSON? -/
def isJsonName (suffix : String) : Bool :=
  String.ofList (suffix.toList.map Char.toLower) == ".json"

/-- The settings that the text of a data file holds. -/
def settingsOfText (isJson : Bool) (text : String) : Except Failure (List (Value × Value)) :=
  if isJson then ((Json.parse text).mapError Failure.ofJson).map settingsOf
  else (Yaml.settings sectionName text).mapError Failure.ofYaml

/-! ### Assignments -/

/-- The value of an assignment without the quotes around it. -/
def unquote (s : String) : String :=
  match s.toList with
  | q :: rest =>
    if (q = '\'' ∨ q = '"') ∧ rest.getLast? = some q then String.ofList rest.dropLast else s
  | [] => s

/-- The name and value that a line assigns; nothing for blank lines, comments and lines without an
equality sign. -/
def assignment? (line : String) : Option (String × String) :=
  let cs := (Text.strip line).toList
  let word := "export ".toList
  let cs := if word.isPrefixOf cs then cs.drop word.length else cs
  if cs.head? = some '#' ∨ !cs.contains '=' then none
  else
    let name := Text.strip (String.ofList (cs.takeWhile (· ≠ '=')))
    let value := Text.strip (String.ofList ((cs.dropWhile (· ≠ '=')).drop 1))
    if name.isEmpty then none else some (name, unquote value)

/-- The assignments of a text, line by line. -/
def assignments (text : String) : List (String × String) :=
  (Text.lines text).filterMap assignment?

/-! ### Environment variables -/

/-- The variables that set a field, the first one that is not empty before the others. -/
def fieldVariables : List (Field × List String) :=
  [(.compilerName, ["REPAIR_COMPILER", "CC"]),
   (.compilerOptions, ["REPAIR_COMPILER_OPTIONS", "REPAIR_COMPILER_OPTS"]),
   (.compileCommand, ["REPAIR_COMPILE_COMMAND"]),
   (.testCommand, ["REPAIR_TEST_COMMAND"]),
   (.seed, ["REPAIR_SEED"]),
   (.posTests, ["REPAIR_POS_TESTS"]),
   (.negTests, ["REPAIR_NEG_TESTS"]),
   (.testTimeout, ["REPAIR_TEST_TIMEOUT_SECONDS"]),
   (.cachePath, ["REPAIR_CACHE_PATH"])]

/-- Variables and their values, in the order in which they were first set. -/
abbrev Environment := List (String × String)

/-- Give a variable a value. -/
def Environment.set (env : Environment) (name value : String) : Environment :=
  if env.any fun p => p.1 == name then
    env.map fun p => if p.1 == name then (name, value) else p
  else env ++ [(name, value)]

/-- The value of the first variable that is set to something. -/
def Environment.first? (env : Environment) (names : List String) : Option String :=
  names.findSome? fun n =>
    match env.lookup n with
    | some v => if v.isEmpty then none else some v
    | none => none

/-- The settings that the environment gives. -/
def settingsOfEnvironment (env : Environment) : List (Value × Value) :=
  fieldVariables.filterMap fun (f, names) =>
    (env.first? names).map fun v => (.str f.name, .str v)

end VariantRepair.Config
