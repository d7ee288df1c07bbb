import FabricTopology.CommandLine

/-!
The program: reads the input, and then logs, writes files and prints.
-/
namespace FabricTopology.CommandLine

/-- The text of a file, if it can be read. -/
def readInput (path : String) : IO (Option String) := do
  try
    return some (← IO.FS.readFile path)
  catch _ => return none

/-- Makes a directory unless it is one; only what is in a directory can be opened there. -/
def ensureDirectory (path : String) : IO Unit := do
  try
    IO.FS.createDir path
  catch _ => discard (IO.FS.Handle.mk (path ++ "/.") .read)

/-- A plain line for an event. -/
def plainLine (e : Log.Event) : String :=
  String.intercalate " " (e.level.name :: e.message :: e.fields.map fun f => f.1 ++ "=" ++ f.2) ++ "\n"

/-- Does one thing. -/
def act (level : Log.Level) : Action → IO Unit
  | .makeDirectory path => (directoriesTo path).forM ensureDirectory
  | .write f => IO.FS.writeFile f.path f.text
  | a => IO.print (a.output level plainLine)

/-- Does one thing after the other; a file that cannot be written is a failure, and what was done before it stays. -/
def perform (level : Log.Level) (o : Outcome) : IO UInt32 := do
  try
    o.actions.forM (act level)
  catch _ => return Outcome.failure.status
  return o.status

end FabricTopology.CommandLine

open FabricTopology.CommandLine in
/-- Runs the command that the arguments ask for. -/
def main (args : List String) : IO UInt32 := do
  match Invocation.parse? args with
  | some i => perform i.level (i.command.outcome (← readInput i.command.input))
  | none => return Outcome.usage.status
