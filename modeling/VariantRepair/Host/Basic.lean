import VariantRepair.Config.Source
import VariantRepair.Host.FileTree

/-!
The machine that a run works on: its files, its environment variables, what the run has printed,
and the processes that it has started. How a process ends is given beforehand, one reply for each.
-/

namespace VariantRepair.Host

/-- How a process ended. -/
inductive Ending where
  | finished (status : Int) (out err : String)
  | timedOut
  /-- There is no such command. -/
  | missing (text : String)
  /-- The command may not be run. -/
  | denied (text : String)
  /-- The system could not start the process. -/
  | failed (text : String)
deriving Repr, DecidableEq

/-- What a process does: it may leave a coverage text, and it ends. -/
structure Reply where
  coverage : Option String
  ending : Ending
deriving Repr, DecidableEq

/-- A process that says nothing and succeeds. -/
def Reply.silent : Reply := { coverage := none, ending := .finished 0 "" "" }

/-- A process that has been started: its words, the seconds it had, and the environment variables
that it was given in place of those of the machine. -/
structure Call where
  words : List String
  seconds : Float
  environment : Option Config.Environment

/-- The state of the machine. -/
structure Machine where
  files : FileTree
  /-- The working directory. -/
  directory : Place
  /-- The number of the running process, as text. -/
  process : String
  environment : Config.Environment
  /-- How the next processes end. -/
  replies : List Reply
  /-- How the processes after those end. -/
  further : Reply
  /-- The processes that were started, in order. -/
  calls : List Call
  /-- What was printed. -/
  out : String
  /-- What was printed as a message of error. -/
  err : String

/-- A machine with nothing but its working directory. -/
def Machine.ofDirectory (place : Place) (process : String) : Machine :=
  { files := .ofDirectory place, directory := place, process, environment := [], replies := []
    further := .silent, calls := [], out := "", err := "" }

/-- Something done on a machine. What was done before a failure stays done. -/
abbrev Action := ExceptT Failure (StateM Machine)

/-- Print a line. -/
def say (line : String) : Action Unit :=
  modify fun m => { m with out := m.out ++ line ++ "\n" }

/-- Print a line as a message of error. -/
def warn (line : String) : Action Unit :=
  modify fun m => { m with err := m.err ++ line ++ "\n" }

/-- Change the files. -/
def changeFiles (f : FileTree → FileTree) : Action Unit :=
  modify fun m => { m with files := f m.files }

/-- A text that the system can take: one without a NUL character. -/
def checkText (s : String) : Action Unit :=
  if s.contains '\x00' then throw (.refused .nulByte) else pure ()

/-- Give an environment variable a value. -/
def setVariable (name value : String) : Action Unit := do
  checkText name
  checkText value
  modify fun m => { m with environment := m.environment.set name value }

/-- The absolute form of a path. -/
def resolve (path : Path) : Action Path := do
  checkText path.text
  return path.resolve (← get).directory

end VariantRepair.Host
