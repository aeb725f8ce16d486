import VariantRepair.Toolchain.Outcome
import VariantRepair.Config.Basic
import VariantRepair.Host.Process

/-!
Compiling a source file by the command of the configuration.
-/

namespace VariantRepair

/-- What came out of compiling. -/
structure Compilation where
  success : Bool
  executable : Option Path
  stderr : String

namespace Compilation

open Host

/-- The placeholder for the executable. -/
def exePlaceholder : String := "__EXE_NAME__"

/-- Does the command make an executable? Otherwise the source itself is run. -/
def producesExecutable (c : Config) : Bool :=
  Language.contains (Text.points exePlaceholder) (Text.points c.compileCommand)

/-- The words of the command. -/
def words (c : Config) (source exe : Path) : Except Command.WordsError (List String) :=
  Command.substitute c.compileCommand
    [("__COMPILER_NAME__", c.compilerName), ("__COMPILER_OPTIONS__", c.compilerOptions),
     ("__SOURCE_NAME__", Command.quoteWord source.text),
     (exePlaceholder, Command.quoteWord exe.text)]

/-- A compilation that made nothing. -/
def unsuccessful (stderr : String) : Compilation :=
  { success := false, executable := none, stderr }

/-- What an ending of the compiler means. -/
def ofEnding (c : Config) (exe : Path) : Ending → Compilation
  | .finished status out err =>
    if status = 0 then
      { success := true, executable := some exe, stderr := tailText err messageLimit }
    else unsuccessful (tailText (if err.isEmpty then out else err) messageLimit)
  | .timedOut => unsuccessful s!"compiler timed out after {Number.floatText c.compileTimeout}s"
  | .missing text | .denied text | .failed text => unsuccessful ("cannot run compiler: " ++ text)

/-- Compile a source file. -/
def run (c : Config) (source exe : Path) : Action Compilation := do
  let exe := if producesExecutable c then exe else source
  match words c source exe with
  | .error e => throw (.refused (.command e))
  | .ok argv => return ofEnding c exe (← start argv c.compileTimeout none)

end Compilation

end VariantRepair
