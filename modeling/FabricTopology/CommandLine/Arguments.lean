import FabricTopology.Log
import FabricTopology.Table

/-!
The arguments of the command line. `Invocation.parse?` reads them: `render` and `validate`, each with options of its
own, and an option for the log level before or behind them.
-/
namespace FabricTopology.CommandLine

/-- The options. -/
inductive Setting where
  | input
  | directory
  | logLevel
deriving DecidableEq

/-- A command and what it is given. -/
inductive Command where
  | render (input directory : String)
  | validate (input : String)
deriving DecidableEq

/-- What an argument is: a word, an option with perhaps a value attached, the mark behind which
    only words follow, or an option that does not exist. -/
inductive Argument where
  | word (s : String)
  | setting (x : Setting) (value : Option String)
  | endOfOptions
  | unknown
deriving DecidableEq

def Setting.name : Setting → String
  | input => "input"
  | directory => "out-dir"
  | logLevel => "log-level"

/-- The letter of an option. -/
def Setting.letter? : Setting → Option Char
  | input => some 'i'
  | directory => some 'o'
  | logLevel => none

/-- Whether an option takes the value; no path is empty. -/
def Setting.accepts (x : Setting) (value : String) : Bool := x == logLevel || value != ""

/-- An option of the given ones, or an unknown one. -/
def optionOf (x : Option Setting) (value : Option (List Char)) : Argument :=
  match x with
  | some x => .setting x (value.map String.ofList)
  | none => .unknown

/-- What an argument is when the given options may be used. A value is attached to a long name by an
    equals sign, and to a letter with or without one. -/
def Argument.read (settings : List Setting) (arg : String) : Argument :=
  match arg.toList with
  | ['-', '-'] => .endOfOptions
  | '-' :: '-' :: long =>
    let name := long.takeWhile (· != '=')
    let value := (long.dropWhile (· != '=')).tail?
    optionOf (settings.find? fun x => x.name.toList == name) value
  | '-' :: letter :: rest =>
    let value := match rest with
      | [] => none
      | '=' :: rest => some rest
      | rest => some rest
    optionOf (settings.find? fun x => x.letter? == some letter) value
  | _ => .word arg

/-- The settings with one more, which must not be among them yet. -/
def addSetting? (given : Table Setting String) (x : Setting) (value : String) :
    Option (Table Setting String) :=
  if (given.get? x).isSome || !x.accepts value then none else some (given.put x value)

/-- The settings at the start of the arguments, and the arguments from the first word on. -/
def collect? (settings : List Setting) (given : Table Setting String) :
    List String → Option (Table Setting String × List String)
  | [] => some (given, [])
  | arg :: rest => match Argument.read settings arg with
    | .word _ => some (given, arg :: rest)
    | .setting x (some value) => do collect? settings (← addSetting? given x value) rest
    | .setting x none => match rest with
      | value :: rest => match Argument.read settings value with
        | .word value => do collect? settings (← addSetting? given x value) rest
        | _ => none
      | [] => none
    | .endOfOptions => if rest.isEmpty then some (given, []) else none
    | .unknown => none

/-- The settings, if the arguments hold nothing else. -/
def settings? (settings : List Setting) (args : List String) : Option (Table Setting String) := do
  let (given, rest) ← collect? settings [] args
  if rest.isEmpty then some given else none

/-- The directory that documents are written to when none is named. -/
def defaultDirectory : String := "./artifacts"

/-- The log level that is asked for when none is named. -/
def defaultLevel : String := "info"

/-- A command and the log level that goes with it. -/
structure Invocation where
  level : Log.Level
  command : Command

/-- The log level that is named behind the command, or else before it. -/
def levelOf (before behind : Table Setting String) : Log.Level :=
  .ofName ((behind.get? .logLevel <|> before.get? .logLevel).getD defaultLevel)

/-- What arguments ask for. -/
def Invocation.parse? (args : List String) : Option Invocation := do
  let (before, rest) ← collect? [.logLevel] [] args
  match rest with
  | "render" :: args =>
    let given ← settings? [.input, .directory, .logLevel] args
    let directory := (given.get? .directory).getD defaultDirectory
    some ⟨levelOf before given, .render (← given.get? .input) directory⟩
  | "validate" :: args =>
    let given ← settings? [.input, .logLevel] args
    some ⟨levelOf before given, .validate (← given.get? .input)⟩
  | _ => none

end FabricTopology.CommandLine
