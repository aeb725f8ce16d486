import VariantRepair.Host.Files

/-!
Starting processes. A process that is given a name for its coverage file in its environment may
leave text there.
-/

namespace VariantRepair.Host

/-- Leave the coverage text of a reply in the file that the environment names. What cannot be
written is lost. -/
def leaveCoverage (environment : Option Config.Environment) (coverage : Option String) :
    Action Unit := do
  match coverage, environment.bind fun env => env.lookup Program.coverageVariable with
  | some text, some path =>
    try writeText path text catch _ => pure ()
  | _, _ => pure ()

/-- Start a process and wait for its end, for some seconds at most. Without an environment of its
own it has that of the machine. -/
def start (words : List String) (seconds : Float) (environment : Option Config.Environment) :
    Action Ending := do
  let m ← get
  let reply := m.replies.head?.getD m.further
  let call : Call := { words, seconds, environment }
  set { m with replies := m.replies.drop 1, calls := m.calls ++ [call] }
  leaveCoverage environment reply.coverage
  match reply.ending with
  | .failed text => throw (.process text)
  | ending => return ending

end VariantRepair.Host
