import Literate.FileSystem.Basic
import Literate.Journal
import Literate.Text.Lines
import Literate.Text.Utf8

/-!
# The host of a run

A run reaches files and its journal through a host.  The library is written
against the operations below; the pure host is a world that holds a file
system, and the command line brings the host of the machine.

**Text files.**  Files are read as UTF-8 with unified line ends and written as
UTF-8.
-/

namespace Literate

/-- What a look at a path tells. -/
structure Status where
  /-- Whether a directory is there. -/
  isDirectory : Bool
  /-- The modification time. -/
  time : Stamp
deriving DecidableEq

/-- The operations through which a run reaches the outside. -/
class Host (m : Type → Type) where
  /-- The working directory and the home directories. -/
  surroundings : m Surroundings
  /-- Looks at a path. -/
  status : Path → m (Except Fault Status)
  /-- Reads the bytes of a file. -/
  readBytes : Path → m (Except Fault ByteArray)
  /-- Writes the bytes of a file, which is created if it is missing. -/
  writeBytes : Path → ByteArray → m (Except Fault Unit)
  /-- Removes a file. -/
  removeFile : Path → m (Except Fault Unit)
  /-- Makes a directory. -/
  makeDirectory : Path → m (Except Fault Unit)
  /-- Changes the mode of a file. -/
  setMode : Path → Nat → m (Except Fault Unit)
  /-- Writes a record to the journal. -/
  record : Record → m Unit
  /-- Shows the records of a level and above on the console from now on. -/
  openConsole : Level → m Unit
  /-- Adds every record to a file from now on. -/
  openLogFile : Path → m (Except Fault Unit)

namespace Host

variable {m : Type → Type} [Monad m] [Host m]

/-- Why a text cannot be read. -/
inductive ReadFault
  /-- The file cannot be read. -/
  | fault (cause : Fault)
  /-- Its bytes are not UTF-8. -/
  | undecodable
deriving DecidableEq

/-- The text of a file. -/
def readText (p : Path) : m (Except ReadFault Text) := do
  match ← readBytes p with
  | .error cause => pure (.error (.fault cause))
  | .ok bytes =>
      match Text.decode? bytes with
      | none => pure (.error .undecodable)
      | some t => pure (.ok (Text.unifyLineEnds t))

/-- Writes the text of a file. -/
def writeText (p : Path) (t : Text) : m (Except Fault Unit) :=
  writeBytes p (Text.encode t)

/-- Whether something is at a path; a fault that does not mean absence is passed on. -/
def pathExists (p : Path) : m (Except Fault Bool) := do
  match ← status p with
  | .ok _ => pure (.ok true)
  | .error cause => pure (if cause.meansAbsent then .ok false else .error cause)

/-- Whether a directory is at a path; a fault that does not mean absence is passed on. -/
def isDirectory (p : Path) : m (Except Fault Bool) := do
  match ← status p with
  | .ok found => pure (.ok found.isDirectory)
  | .error cause => pure (if cause.meansAbsent then .ok false else .error cause)

/-- Whether a directory is at a path, any fault meaning no. -/
def leadsToDirectory (p : Path) : m Bool := do
  match ← status p with
  | .ok found => pure found.isDirectory
  | .error _ => pure false

/-- Whether a file is at a path, any fault meaning no. -/
def leadsToFile (p : Path) : m Bool := do
  match ← status p with
  | .ok found => pure !found.isDirectory
  | .error _ => pure false

/-- Writes several records. -/
def recordAll : List Record → m Unit
  | [] => pure ()
  | first :: rest => do
      record first
      recordAll rest

/-- Makes a directory and those above it that are missing; one that is there is left alone.  The depth
bounds the number of directories above. -/
def makeDirectories : Nat → Path → m (Except Fault Unit)
  | 0, _ => pure (.ok ())
  | depth + 1, p => do
      let above ← status p.parent
      let made ← match above with
        | .ok _ => pure (.ok ())
        | .error _ => makeDirectories depth p.parent
      match made with
      | .error .alreadyExists => finish p
      | .error cause => pure (.error cause)
      | .ok () => finish p
where
  /-- Makes the last directory. -/
  finish (p : Path) : m (Except Fault Unit) := do
    match ← makeDirectory p with
    | .ok () => pure (.ok ())
    | .error .nullCharacter => pure (.error .nullCharacter)
    | .error cause =>
        if ← leadsToDirectory p then pure (.ok ()) else pure (.error cause)

/-- Makes a directory after those above it that turn out to be missing, and tells at which path it failed. -/
def ensureDirectory : Nat → Path → m (Except PathFault Unit)
  | 0, _ => pure (.ok ())
  | depth + 1, p => do
      match ← makeDirectory p with
      | .ok () => pure (.ok ())
      | .error .notFound =>
          match ← ensureDirectory depth p.parent with
          | .error cause => pure (.error cause)
          | .ok () =>
              match ← makeDirectory p with
              | .ok () => pure (.ok ())
              | .error cause => settle p cause
      | .error cause => settle p cause
where
  /-- A fault does not matter when a directory is there. -/
  settle (p : Path) (cause : Fault) : m (Except PathFault Unit) := do
    if cause = .nullCharacter then pure (.error ⟨cause, p⟩)
    else
      match ← isDirectory p with
      | .ok true => pure (.ok ())
      | .ok false => pure (.error ⟨cause, p⟩)
      | .error other => pure (.error ⟨other, p⟩)

end Host

/-- A world in which a run takes place. -/
structure World where
  /-- The files. -/
  files : FileSystem
  /-- The working directory and the home directories. -/
  surroundings : Surroundings
  /-- The records written, in order. -/
  records : List Record := []
  /-- The level from which on records are shown on the console. -/
  console : Option Level := none
  /-- What the console shows. -/
  shown : Text := []
  /-- The place of the log file. -/
  logFile : Option Place := none
  /-- The time written in front of each line of the log file. -/
  time : Text := []

namespace World

/-- Applies an operation to the files, which stay as they are when it fails. -/
def change (operation : FileSystem → Path → Except Fault FileSystem) : StateM World (Except Fault Unit) :=
  fun world =>
    match operation world.files world.surroundings.directory with
    | .ok files => (.ok (), { world with files := files })
    | .error cause => (.error cause, world)

/-- The world after a record has been written. -/
def addRecord (world : World) (record : Record) : World :=
  let shows := match world.console with
    | some level => record.atLeast level
    | none => false
  { world with
    records := world.records ++ [record]
    shown := if shows then world.shown ++ record.consoleLine else world.shown
    files := match world.logFile with
      | some place => world.files.appendAt place (Text.encode (record.fileLine world.time))
      | none => world.files }

/-- Removes a file; a log file that is removed receives no more records. -/
def removeFile (p : Path) : StateM World (Except Fault Unit) :=
  fun world =>
    match world.files.locate world.surroundings.directory p,
        world.files.remove world.surroundings.directory p with
    | .ok place, .ok files =>
        (.ok (),
          { world with
            files := files
            logFile := if world.logFile = some place then none else world.logFile })
    | _, .error cause => (.error cause, world)
    | .error cause, _ => (.error cause, world)

/-- Opens a log file, which is created if it is missing. -/
def openLogFile (p : Path) : StateM World (Except Fault Unit) :=
  fun world =>
    let directory := world.surroundings.directory
    match world.files.locate directory p with
    | .error cause => (.error cause, world)
    | .ok place =>
        match world.files.at? place with
        | some (.directory _) => (.error .isDirectory, world)
        | some (.file _ _ _) => (.ok (), { world with logFile := some place })
        | none =>
            match world.files.write directory p ByteArray.empty with
            | .ok files => (.ok (), { world with files := files, logFile := some place })
            | .error cause => (.error cause, world)

end World

/-- The pure host. -/
instance : Host (StateM World) where
  surroundings := fun world => (world.surroundings, world)
  status p := fun world =>
    match world.files.entry world.surroundings.directory p with
    | .ok entry => (.ok ⟨entry.isDirectory, entry.time⟩, world)
    | .error cause => (.error cause, world)
  readBytes p := fun world => (world.files.read world.surroundings.directory p, world)
  writeBytes p content := World.change fun files directory => files.write directory p content
  removeFile := World.removeFile
  makeDirectory p := World.change fun files directory => files.makeDirectory directory p
  setMode p mode := World.change fun files directory => files.setMode directory p mode
  record entry := fun world => ((), world.addRecord entry)
  openConsole level := fun world => ((), { world with console := some level })
  openLogFile := World.openLogFile

end Literate
