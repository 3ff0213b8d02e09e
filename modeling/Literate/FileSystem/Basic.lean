import Literate.Dictionary
import Literate.FileSystem.Fault

/-!
# A file system

A file system maps places to files and directories.  A place is the list of
names on the way down from the root, so that two paths that lead to the same
place are the same key.

**Assumptions.**  There are no links.  Everything may be read, written, removed
and given another mode by the program, nobody else changes anything while it
runs, and there is always space.  An operation fails where a name on the way is
missing, is no directory or is too long, where a file is wanted and a directory is
found or the other way round, and at a path with a null character.

**Time.**  What is written while a run lasts is newer than everything else;
when the run is over its times are settled to a given number.

**Contents.**  The walk from a path to a place, and the operations: read,
write, append, remove, make a directory, change mode and time.
-/

namespace Literate

/-- A modification time. -/
inductive Stamp
  /-- A settled time. -/
  | settled (time : Int)
  /-- During the present run. -/
  | present
deriving DecidableEq, Inhabited

/-- Whether a time is later than another. -/
def Stamp.isAfter : Stamp → Stamp → Bool
  | settled a, settled b => decide (b < a)
  | present, settled _ => true
  | _, present => false

/-- Contents are compared byte by byte. -/
local instance contentDecidableEq : DecidableEq ByteArray := ByteArray.instDecidableEq

/-- What can be at a place. -/
inductive Entry
  /-- A file with its bytes, its mode and its time. -/
  | file (content : ByteArray) (mode : Nat) (time : Stamp)
  /-- A directory with its time. -/
  | directory (time : Stamp)
deriving DecidableEq, Inhabited

namespace Entry

/-- Whether a directory is there. -/
def isDirectory : Entry → Bool
  | directory _ => true
  | file _ _ _ => false

/-- The modification time. -/
def time : Entry → Stamp
  | directory time => time
  | file _ _ time => time

end Entry

/-- A place: the names on the way down from the root. -/
abbrev Place := List Text

/-- The files and directories by place; the root is always there. -/
structure FileSystem where
  /-- What is at each place below the root. -/
  entries : Dictionary Place Entry := Dictionary.empty
deriving Inhabited

namespace FileSystem

/-- The greatest number of bytes in a file name. -/
def nameLimit : Nat := 255

/-- The mode of a new file. -/
def newFileMode : Nat := 0o644

/-- What is at a place. -/
def at? (fs : FileSystem) (place : Place) : Option Entry :=
  if place.isEmpty then some (.directory .present) else fs.entries.get? place

/-- Puts an entry at a place. -/
def put (fs : FileSystem) (place : Place) (entry : Entry) : FileSystem :=
  ⟨fs.entries.insert place entry⟩

/-- Leaves nothing at a place. -/
def erase (fs : FileSystem) (place : Place) : FileSystem :=
  ⟨⟨fs.entries.entries.filter fun entry => entry.1 != place⟩⟩

/-- Marks a directory as changed by the present run. -/
def touchDirectory (fs : FileSystem) (place : Place) : FileSystem :=
  if place.isEmpty then fs else fs.put place (.directory .present)

/-- The place that components lead to from another place.  Every step leaves an existing directory. -/
def walk (fs : FileSystem) (place : Place) : List Text → Except Fault Place
  | [] => .ok place
  | part :: rest =>
      match fs.at? place with
      | none => .error .notFound
      | some (.file _ _ _) => .error .notDirectory
      | some (.directory _) =>
          if part = Path.up then fs.walk place.dropLast rest
          else if nameLimit < Text.byteLength part then .error .nameTooLong
          else fs.walk (place ++ [part]) rest

/-- The place that a path leads to from a working directory. -/
def locate (fs : FileSystem) (directory p : Path) : Except Fault Place :=
  if p.hasNull then .error .nullCharacter
  else fs.walk [] (directory.append p).parts

/-- What is at a path. -/
def entry (fs : FileSystem) (directory p : Path) : Except Fault Entry := do
  match fs.at? (← fs.locate directory p) with
  | some entry => .ok entry
  | none => .error .notFound

/-- The bytes of a file. -/
def read (fs : FileSystem) (directory p : Path) : Except Fault ByteArray := do
  match ← fs.entry directory p with
  | .file content _ _ => .ok content
  | .directory _ => .error .isDirectory

/-- Makes the bytes the content of a file, which is created if it is missing. -/
def write (fs : FileSystem) (directory p : Path) (content : ByteArray) : Except Fault FileSystem := do
  let place ← fs.locate directory p
  match fs.at? place with
  | some (.file _ mode _) => .ok (fs.put place (.file content mode .present))
  | some (.directory _) => .error .isDirectory
  | none => .ok ((fs.touchDirectory place.dropLast).put place (.file content newFileMode .present))

/-- Removes a file. -/
def remove (fs : FileSystem) (directory p : Path) : Except Fault FileSystem := do
  let place ← fs.locate directory p
  match fs.at? place with
  | some (.file _ _ _) => .ok ((fs.touchDirectory place.dropLast).erase place)
  | some (.directory _) => .error .isDirectory
  | none => .error .notFound

/-- Makes a directory. -/
def makeDirectory (fs : FileSystem) (directory p : Path) : Except Fault FileSystem := do
  let place ← fs.locate directory p
  match fs.at? place with
  | some _ => .error .alreadyExists
  | none => .ok ((fs.touchDirectory place.dropLast).put place (.directory .present))

/-- Changes the mode of a file. -/
def setMode (fs : FileSystem) (directory p : Path) (mode : Nat) : Except Fault FileSystem := do
  let place ← fs.locate directory p
  match fs.at? place with
  | some (.file content _ time) => .ok (fs.put place (.file content mode time))
  | some (.directory _) => .ok fs
  | none => .error .notFound

/-- Changes the time of a file or a directory. -/
def setTime (fs : FileSystem) (directory p : Path) (time : Int) : Except Fault FileSystem := do
  let place ← fs.locate directory p
  match fs.at? place with
  | some (.file content mode _) => .ok (fs.put place (.file content mode (.settled time)))
  | some (.directory _) => .ok (fs.put place (.directory (.settled time)))
  | none => .error .notFound

/-- The bytes added at the end of a file at a place, when there is one. -/
def appendAt (fs : FileSystem) (place : Place) (content : ByteArray) : FileSystem :=
  match fs.at? place with
  | some (.file old mode _) => fs.put place (.file (old ++ content) mode .present)
  | _ => fs

/-- The file system after a run: what the run wrote has the time given. -/
def settle (fs : FileSystem) (time : Int) : FileSystem :=
  ⟨⟨fs.entries.entries.map fun
    | (place, .file content mode .present) => (place, .file content mode (.settled time))
    | other => other⟩⟩

/-- Everything below a place, with its own place, in the order of the written paths. -/
def below (fs : FileSystem) (place : Place) : List (Place × Entry) :=
  let inside := fs.entries.entries.filter fun entry =>
    place.length < entry.1.length && entry.1.take place.length == place
  inside.mergeSort fun a b => Text.precedes (Text.join "/" a.1) (Text.join "/" b.1)

end FileSystem
end Literate
