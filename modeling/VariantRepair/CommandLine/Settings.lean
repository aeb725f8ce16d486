import VariantRepair.Host.Files
import VariantRepair.CommandLine.Options

/-!
The configuration of a run: what the command line sets goes before the data file, the data file
before the environment, and the environment before the defaults.
-/

namespace VariantRepair.CommandLine

open Host

/-- Overlay settings on a configuration and print the warnings. -/
def overlay (c : Config) (settings : List (Value × Value)) : Action Config := do
  let (warnings, r) := c.overlay settings
  warnings.forM say
  ofExcept (r)

/-- Set the variables that a file of assignments names; those that are set already keep their values
unless `override`. The answer says whether the file assigns anything. -/
def loadEnvironment (path : String) (override : Bool) : Action Bool := do
  let file := (Path.ofText path).text
  if path.isEmpty || !(← isFile file) then return false
  let assignments := Config.assignments (← readText file)
  assignments.forM fun (name, value) => do
    if override || ((← get).environment.lookup name).isNone then setVariable name value
  return !assignments.isEmpty

/-- Overlay what the environment sets. -/
def environmentConfig (base : Config) : Action Config := do
  overlay base (Config.settingsOfEnvironment (← get).environment)

/-- The settings in a data file. -/
def fileSettings (path : String) (mayBeMissing : Bool) : Action (List (Value × Value)) := do
  let file := Path.ofText path
  if path.isEmpty then return []
  else if !(← fileExists file.text) then
    if mayBeMissing then return [] else throw (.noConfigFile path)
  else
    match Config.settingsOfText (Config.isJsonName file.suffix) (← readText file.text) with
    | .ok settings => return settings
    | .error f => throw f

/-- The configuration that a command line asks for. -/
def resolve (o : Options) : Action Config := do
  let _ ← loadEnvironment o.envFile.text false
  let c ← environmentConfig .default
  let settings ←
    if o.noConfig then pure [] else fileSettings o.config.text (o.config.text == defaultConfigPath)
  let c ← overlay c settings
  overlay c o.overrides

end VariantRepair.CommandLine
