import FabricTopology.CommandLine.Arguments
import FabricTopology.Compilation
import FabricTopology.Json.Printer
import FabricTopology.Network.Codec
import FabricTopology.Text.Words

/-!
The command line. `Command.outcome` says what a command does with the text of its input, one action after the other:
what it tells of its work, the files it writes, what it prints, and its exit status in the end. What it tells is printed
to the same place as all else, so far as the log level shows it (`Outcome.output`).

The directories above a path come first when it is made, the shallowest one before the others; the names `""` and `.`
lead nowhere and are left out there, while `..` counts like any other name. The path comes last and as it is written, so
that one that ends in a dot is a directory only if it has been one before.
-/
namespace FabricTopology.CommandLine

/-! ### Directories -/

/-- The names of a path that lead to another place. -/
def pathNames (path : String) : List String :=
  ((Text.segments '/' path.toList).map String.ofList).filter fun c => c != "" && c != "."

/-- The directories that names lead through, without the one that they lead to. -/
def directoriesBefore (start : String) : List String → List String
  | [] => []
  | [_] => []
  | c :: rest => (start ++ c) :: directoriesBefore (start ++ c ++ "/") rest

/-- The directories to be made for a path, in order. -/
def directoriesTo (path : String) : List String :=
  let start := if path.toList.head? = some '/' then "/" else ""
  directoriesBefore start (pathNames path) ++ [path]

example : directoriesTo "a//b/./c/" = ["a", "a/b", "a//b/./c/"] := by decide +kernel

example : directoriesTo "/a/../b" = ["/a", "/a/..", "/a/../b"] := by decide +kernel

example : directoriesTo "a/." = ["a/."] := by decide +kernel

/-! ### Actions -/

/-- A file to be written. -/
structure File where
  directory : String
  name : String
  text : String
deriving DecidableEq

/-- One thing that a command does. -/
inductive Action where
  | log (e : Log.Event)
  | makeDirectory (path : String)
  | write (f : File)
  | print (text : String)

/-- What a command does, up to the first action that fails, and its exit status if none does. -/
structure Outcome where
  actions : List Action
  status : UInt32

/-- Nothing is done and something went wrong. -/
def Outcome.failure : Outcome := ⟨[], 1⟩

/-- Nothing is done because the arguments make no sense. -/
def Outcome.usage : Outcome := ⟨[], 2⟩

/-- The file that an action writes. -/
def Action.file? : Action → Option File
  | .write f => some f
  | .log _ | .makeDirectory _ | .print _ => none

/-- The files that are written. -/
def Outcome.files (o : Outcome) : List File := o.actions.filterMap Action.file?

/-- What an action prints at a log level, if the events have these lines. -/
def Action.output (level : Log.Level) (line : Log.Event → String) : Action → String
  | .log e => if level.shows e.level then line e else ""
  | .print text => text
  | .makeDirectory _ | .write _ => ""

/-- What actions print at a log level. The line of an event may depend on its place among the actions, as the time
    does. -/
def printed (level : Log.Level) (line : Nat → Log.Event → String) (actions : List Action) : String :=
  String.join (actions.mapIdx fun k a => a.output level (line k))

/-- All that a command prints. -/
def Outcome.output (o : Outcome) (level : Log.Level) (line : Nat → Log.Event → String) : String :=
  printed level line o.actions

/-- The path of a file. -/
def File.path (f : File) : String :=
  if f.directory.toList.getLast? = some '/' then f.directory ++ f.name
  else f.directory ++ "/" ++ f.name

/-- A text with blanks behind it up to a width. -/
def padded (width : Nat) (s : String) : String :=
  s ++ String.ofList (List.replicate (width - s.length) ' ')

/-- One line for a rule. -/
def ruleLine (r : RuleResult) : String := padded 28 r.name ++ " " ++ r.status.title ++ "\n"

/-- One line for a file. -/
def fileLine (f : File) : String := "wrote " ++ f.path ++ "\n"

/-- What it means to write files into a directory. -/
def writing (directory : String) (files : List File) : List Action :=
  .makeDirectory directory :: files.flatMap (fun f => [.write f, .log (Log.written f.path)]) ++
    [.log (Log.allWritten directory files.length)]

/-- What it means to render a network into a directory. -/
def renderOutcome (directory : String) (n : Network) : Outcome :=
  let c := n.compile
  let files := Artifact.all.map fun a => ⟨directory, a.fileName, c.artifacts.get a⟩
  let issues := c.report.issues ++ c.canvasIssues
  { actions := (Log.ofCompilation n).map .log ++ writing directory files ++
      (files.map fileLine ++ c.report.tests.map ruleLine).map .print ++
      (issues.map Log.found ++ if c.report.hasErrors then [Log.compiledWithErrors] else []).map .log
    status := 0 }

/-- What it means to validate a network. -/
def validateOutcome (n : Network) : Outcome :=
  let report := validateNetwork (some n)
  { actions := (Log.ofExtraction n).map .log ++ [.print (report.toJson.pretty ++ "\n")]
    status := if report.hasErrors then 1 else 0 }

/-- The path of a command's input. -/
def Command.input : Command → String
  | render input _ => input
  | validate input => input

/-- What a command does with the text of its input, if it can be read. -/
def Command.outcome (c : Command) (text : Option String) : Outcome :=
  match text.bind Network.ofText? with
  | none => .failure
  | some n => match c with
    | .render _ directory => renderOutcome directory n
    | .validate _ => validateOutcome n

end FabricTopology.CommandLine
