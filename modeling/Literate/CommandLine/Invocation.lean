import Literate.CommandLine.Option
import Literate.Path

/-!
# Invocations

The commands of the program with their options and arguments.
-/

namespace Literate
namespace CommandLine

/-- What an option that needs a value was given. -/
inductive OptionValue (α : Type)
  /-- The option is missing. -/
  | missing
  /-- The option has the mark `--` for a value, which is no word. -/
  | empty
  /-- A value. -/
  | present (value : α)
deriving DecidableEq

/-- The values made from those given. -/
def OptionValue.map {α β : Type} (f : α → β) : OptionValue α → OptionValue β
  | missing => missing
  | empty => empty
  | present value => present (f value)

/-- The value, if there is one. -/
def OptionValue.value? {α : Type} : OptionValue α → Option α
  | present value => some value
  | _ => none

/-- What the program is asked to do. -/
inductive Command
  /-- Tangle the document at a path, with a default destination, a language filter and a say on comments. -/
  | tangleFile (path : Text) (target language : Option Text) (comments : Option Bool)
  /-- Tangle the document that the settings name, or another one. -/
  | tangle (document : OptionValue Path) (comments : Option Bool)
  /-- Make the module of a document ready to run. -/
  | loadFile (path : Text) (generated : OptionValue Text)
  /-- Clean a tangled file. -/
  | clean (path : Text)
deriving DecidableEq

/-- A command with the options of the program. -/
structure Invocation where
  /-- Whether details are reported. -/
  verbose : Bool := false
  /-- Where the settings are. -/
  config : OptionValue Path := .missing
  /-- Where the log file goes. -/
  logFile : OptionValue Path := .missing
  /-- The command. -/
  command : Command
deriving DecidableEq

/-- The name of a command. -/
def Command.name : Command → Text
  | tangleFile .. => "tangle-file"
  | tangle .. => "tangle"
  | loadFile .. => "load-file"
  | clean .. => "clean"

/-- The name of the program. -/
def programName : Text := "orgtangle"

/-- The option that asks for help. -/
def helpOption : OptionSpec := { names := ["-h", "--help"], isHelp := true }

/-- The option that asks for details. -/
def verboseOption : OptionSpec := { names := ["-v", "--verbose"] }

/-- The option that names the settings. -/
def configOption : OptionSpec := { names := ["-c", "--config"], takesValue := true }

/-- The option that names the log file. -/
def logFileOption : OptionSpec := { names := ["--log-file"], takesValue := true }

/-- The option that switches comments on or off. -/
def commentsOption : OptionSpec := { names := ["--comments", "--no-comments"] }

/-- The option that names the document. -/
def documentOption : OptionSpec := { names := ["--document"], takesValue := true }

/-- The option that names the module. -/
def generatedOption : OptionSpec := { names := ["--generated"], takesValue := true }

/-- What the program itself takes. -/
def mainGrammar : Grammar where
  program := programName
  options := [helpOption, verboseOption, configOption, logFileOption]
  positions := [{ name := "command", arity := .rest }]

/-- What a command takes: its options and its positions. -/
def commandShapes : List (Text × List OptionSpec × List Position) :=
  [("tangle-file", [commentsOption],
      [{ name := "path" }, { name := "target", arity := .optional }, { name := "lang", arity := .optional }]),
   ("tangle", [commentsOption, documentOption], []),
   ("load-file", [generatedOption], [{ name := "path" }]),
   ("clean", [], [{ name := "path" }])]

/-- The grammar of a command. -/
def commandGrammar? (name : Text) : Option Grammar :=
  (commandShapes.lookup name).map fun (options, positions) =>
    { program := programName ++ " " ++ name
      options := helpOption :: verboseOption :: options
      positions := positions }

/-- The line that tells how the program is called. -/
def usageLine : Text :=
  "usage: " ++ programName ++ " [-h] [-v] [-c CONFIG] [--log-file LOG_FILE] " ++
    Text.join "|" (commandShapes.map Prod.fst) ++ " ..."

/-- The last value given to an option. -/
def valueOf (option : OptionSpec) (given : List Given) : OptionValue Text :=
  let all := given.filterMap fun
    | .option names _ arguments => if names = option.names then some arguments else none
    | _ => none
  match all.getLast? with
  | none => .missing
  | some [] => .empty
  | some (value :: _) => .present value

/-- The name under which an option was last given. -/
def nameOf (option : OptionSpec) (given : List Given) : Option Text :=
  (given.filterMap fun
    | .option names name _ => if names = option.names then some name else none
    | _ => none).getLast?

/-- The arguments of a position. -/
def argumentsOf (name : Text) (given : List Given) : List Text :=
  (given.filterMap fun
    | .position n arguments => if n = name then some arguments else none
    | _ => none).flatten

/-- The say on comments. -/
def commentsOf (given : List Given) : Option Bool :=
  (nameOf commentsOption given).map fun (name : Text) => name == "--comments"

/-- The command with what was given to it. -/
def commandOf (name : Text) (given : List Given) : Command :=
  let path : Text := (argumentsOf "path" given).headD []
  if name = "tangle-file" then
    .tangleFile path (argumentsOf "target" given).head? (argumentsOf "lang" given).head?
      (commentsOf given)
  else if name = "tangle" then
    .tangle ((valueOf documentOption given).map Path.ofText) (commentsOf given)
  else if name = "load-file" then .loadFile path (valueOf generatedOption given)
  else .clean path

/-- The refusal of a command that does not exist. -/
def invalidCommand (name : Text) : Refusal :=
  .usage programName
    ("argument command: invalid choice: " ++ Text.quoted name ++ " (choose from " ++
      Text.join ", " (commandShapes.map fun shape => Text.quoted shape.1) ++ ")")

/-- The invocation that words make up. -/
def parse (words : List Text) : Except Refusal Invocation := do
  let (given, extras) ← mainGrammar.read words
  let commandWords := argumentsOf "command" given
  let name : Text := commandWords.headD []
  match commandGrammar? name with
  | none => .error (invalidCommand name)
  | some grammar => do
      let (inner, innerExtras) ← grammar.read (commandWords.drop 1)
      let left := extras ++ innerExtras
      if left.isEmpty then
        .ok
          { verbose := (nameOf verboseOption (given ++ inner)).isSome
            config := (valueOf configOption given).map Path.ofText
            logFile := (valueOf logFileOption given).map Path.ofText
            command := commandOf name inner }
      else
        .error (.usage programName ("unrecognized arguments: " ++ Text.join " " left))

/-- A value of an argument as it is listed. -/
inductive Listed
  | missing
  | empty
  | flag (b : Bool)
  | text (t : Text)
deriving DecidableEq

/-- A text or nothing, listed. -/
def Listed.ofText? : Option Text → Listed
  | some t => .text t
  | none => .missing

/-- The value of an option, listed. -/
def Listed.ofValue : OptionValue Text → Listed
  | .missing => .missing
  | .empty => .empty
  | .present t => .text t

/-- A switch or nothing, listed. -/
def Listed.ofFlag? : Option Bool → Listed
  | some b => .flag b
  | none => .missing

/-- The arguments of a command by name, in the order of their names. -/
def Command.arguments : Command → List (Text × Listed)
  | tangleFile path target language comments =>
      [("comments", .ofFlag? comments), ("lang", .ofText? language), ("path", .text path),
       ("target", .ofText? target)]
  | tangle document comments =>
      [("comments", .ofFlag? comments), ("document", .ofValue (document.map Path.toText))]
  | loadFile path generated => [("generated", .ofValue generated), ("path", .text path)]
  | clean path => [("path", .text path)]

/-- All arguments by name, in the order of their names. -/
def Invocation.arguments (invocation : Invocation) : List (Text × Listed) :=
  let own : List (Text × Listed) :=
    [("command", .text invocation.command.name),
     ("config", .ofValue (invocation.config.map Path.toText)),
     ("log_file", .ofValue (invocation.logFile.map Path.toText)),
     ("verbose", .flag invocation.verbose)]
  (own ++ invocation.command.arguments).mergeSort fun a b => Text.precedes a.1 b.1

end CommandLine
end Literate
