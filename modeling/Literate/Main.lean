import Literate.CommandLine.Run
import Std.Time

/-!
# The program

The host of the machine and the entry of the command line.  Everything that is
decided is decided by the library; here files are read and written, records are
shown, and the exit code is returned.
-/

namespace Literate
namespace Machine

/-- Where records go. -/
structure Outlets where
  /-- The level from which on records are shown on the console. -/
  console : Option Level := none
  /-- The log file. -/
  logFile : Option IO.FS.Handle := none

/-- Actions on the machine. -/
abbrev Action := StateT Outlets IO

/-- A text as a string. -/
def string (t : Text) : String := String.ofList t

/-- The number and the wording of an error of the operating system. -/
def numberOf : IO.Error → UInt32 × String
  | .noFileOrDirectory _ code details => (code, details)
  | .interrupted _ code details => (code, details)
  | .alreadyExists _ code details | .inappropriateType _ code details
  | .resourceExhausted _ code details | .invalidArgument _ code details
  | .permissionDenied _ code details | .noSuchThing _ code details => (code, details)
  | .otherError code details | .resourceBusy code details | .resourceVanished code details
  | .unsupportedOperation code details | .hardwareFault code details
  | .unsatisfiedConstraints code details | .illegalOperation code details
  | .protocolError code details | .timeExpired code details => (code, details)
  | .unexpectedEof => (5, "unexpected end of file")
  | .userError details => (5, details)

/-- The fault that an error of the operating system stands for. -/
def faultOf (cause : IO.Error) : Fault :=
  let (code, details) := numberOf cause
  .ofNumber code.toNat details.toList

/-- Runs an action on a path unless the path holds a null character. -/
def attempt {α : Type} (p : Path) (action : IO α) : Action (Except Fault α) := do
  if p.hasNull then return .error .nullCharacter
  try
    return .ok (← action)
  catch cause =>
    return .error (faultOf cause)

/-- The rights that three bits of a mode grant. -/
def rightsOf (bits : Nat) : IO.AccessRight where
  read := bits / 4 % 2 == 1
  write := bits / 2 % 2 == 1
  execution := bits % 2 == 1

/-- The present time in front of a line of a log file. -/
def timeText : IO Text := do
  let now ← Std.Time.PlainDateTime.now
  return (now.format "uuuu-MM-dd HH:mm:ss,SSS").toList

/-- The path of a home directory as it is written; an empty one is the root. -/
def homeAt (written : Text) : Path :=
  match (written.reverse.dropWhile (· == '/')).reverse with
  | [] => ⟨.root, []⟩
  | t => Path.ofText t

/-- The home directories in the text of a password file. -/
def usersIn (t : Text) : List (Text × Path) :=
  (Text.splitOn '\n' t).filterMap fun line =>
    match Text.splitOn ':' line with
    | name :: _ :: _ :: _ :: _ :: home :: _ => some (name, homeAt home)
    | _ => none

/-- The working directory and the home directories. -/
def surroundings : IO Surroundings := do
  let directory := Path.ofText (← IO.currentDir).toString.toList
  let home := match ← IO.getEnv "HOME" with
    | some home => homeAt home.toList
    | none => directory
  let users ← try pure (← IO.FS.readFile "/etc/passwd") catch _ => pure ""
  return { directory := directory, home := home, users := usersIn users.toList }

/-- What is at a path. -/
def statusOf (p : Path) : IO Status := do
  let found ← ((← IO.currentDir) / string p.toText).metadata
  let time := found.modified.sec * 1000000000 + Int.ofNat found.modified.nsec.toNat
  return { isDirectory := found.type matches .dir, time := .settled time }

/-- Shows a record and adds it to the log file. -/
def writeRecord (record : Record) : Action Unit := do
  let outlets ← get
  if let some level := outlets.console then
    if record.atLeast level then IO.eprint (string record.consoleLine)
  if let some handle := outlets.logFile then
    handle.putStr (string (record.fileLine (← timeText)))
    handle.flush

instance : Host Action where
  surroundings := surroundings
  status p := attempt p (statusOf p)
  readBytes p := attempt p (IO.FS.readBinFile (string p.toText))
  writeBytes p content := attempt p (IO.FS.writeBinFile (string p.toText) content)
  removeFile p := attempt p (IO.FS.removeFile (string p.toText))
  makeDirectory p := attempt p (IO.FS.createDir (string p.toText))
  setMode p mode :=
    attempt p
      (IO.setAccessRights (string p.toText)
        { user := rightsOf (mode / 64), group := rightsOf (mode / 8), other := rightsOf mode })
  record := writeRecord
  openConsole level := modify fun outlets => { outlets with console := some level }
  openLogFile p := do
    match ← attempt p (IO.FS.Handle.mk (string p.toText) .append) with
    | .error cause => return .error cause
    | .ok handle =>
        modify fun outlets => { outlets with logFile := some handle }
        return .ok ()

end Machine

/-- Carries out the command line and returns the exit code. -/
def runMachine (words : List Text) : IO UInt32 := do
  match CommandLine.parse words with
  | .error .help =>
      IO.println (Machine.string CommandLine.usageLine)
      return 0
  | .error refusal =>
      IO.eprintln (Machine.string CommandLine.usageLine)
      IO.eprintln (Machine.string refusal.message)
      return 2
  | .ok invocation =>
      let action : Machine.Action (Except Failure CommandLine.Ending) :=
        (CommandLine.run invocation : ExceptT Failure Machine.Action _).run
      match ← action.run' {} with
      | .error _ =>
          IO.eprintln "orgtangle: unexpected failure"
          return 1
      | .ok ending =>
          IO.print (Machine.string ending.output)
          IO.eprint (Machine.string ending.notice)
          return ending.code.toUInt32

end Literate

def main (words : List String) : IO UInt32 :=
  Literate.runMachine (words.map String.toList)
