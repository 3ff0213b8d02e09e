import Literate.Text.Basic

/-!
# Paths

A path is an anchor (none, the root, or the root written with two slashes) and
a list of components.  Reading a path drops empty components and `.`; `..` is
kept, because only a place on disk or an explicit normalisation can say what it
means.

**Contents.**  Reading and printing, joining, the parts of the last component,
lexical normalisation, and the expansion of a home directory.
-/

namespace Literate

/-- Where a path starts. -/
inductive Anchor
  /-- At the directory it is read in. -/
  | relative
  /-- At the root. -/
  | root
  /-- At the root, written with exactly two slashes. -/
  | doubleRoot
deriving DecidableEq, Inhabited

/-- The text that an anchor puts in front of the components. -/
def Anchor.text : Anchor → Text
  | relative => []
  | root => "/"
  | doubleRoot => "//"

/-- A path: an anchor and the components after it. -/
structure Path where
  /-- Where the path starts. -/
  anchor : Anchor := .relative
  /-- The components, none of them empty or `.`. -/
  parts : List Text := []
deriving DecidableEq, Inhabited

namespace Path

/-- The component that stands for the directory above. -/
def up : Text := ".."

/-- The components of a text between its slashes. -/
def components (t : Text) : List Text :=
  (Text.splitOn '/' t).filter fun part => !(part.isEmpty || part == ".")

/-- The anchor that a text begins with. -/
def anchorOf (t : Text) : Anchor :=
  match (t.takeWhile (· == '/')).length with
  | 0 => .relative
  | 2 => .doubleRoot
  | _ => .root

/-- The path written as a text. -/
def ofText (t : Text) : Path :=
  ⟨anchorOf t, components t⟩

/-- The text of a path; the empty relative path is written `.`. -/
def toText (p : Path) : Text :=
  if p.anchor = .relative ∧ p.parts = [] then "."
  else p.anchor.text ++ Text.join "/" p.parts

/-- Whether the path starts at the root. -/
def isAbsolute (p : Path) : Bool :=
  p.anchor != .relative

/-- The path `q` read from the place `p`. -/
def append (p q : Path) : Path :=
  if q.isAbsolute then q else ⟨p.anchor, p.parts ++ q.parts⟩

/-- The last component, empty when there is none. -/
def name (p : Path) : Text :=
  p.parts.getLastD []

/-- The path without its last component. -/
def parent (p : Path) : Path :=
  ⟨p.anchor, p.parts.dropLast⟩

/-- The path with another last component. -/
def withName (p : Path) (name : Text) : Path :=
  ⟨p.anchor, p.parts.dropLast ++ [name]⟩

/-- A name cut before its last dot, unless that dot is its first or last character. -/
def splitName (name : Text) : Text × Text :=
  let suffix := (name.reverse.takeWhile (· != '.')).reverse
  let stem := name.take (name.length - suffix.length - 1)
  if suffix.isEmpty || stem.isEmpty || suffix.length == name.length then (name, [])
  else (stem, '.' :: suffix)

/-- The last component without its suffix. -/
def stem (p : Path) : Text :=
  (splitName p.name).1

/-- The path with the suffix of its last component replaced; there must be a last component. -/
def withSuffix? (p : Path) (suffix : Text) : Option Path :=
  if p.name.isEmpty then none else some (p.withName (p.stem ++ suffix))

/-- One step of normalisation: `..` takes back the component before it. -/
def climb (above : List Text) (part : Text) : List Text :=
  if part = up then above.dropLast else above ++ [part]

/-- The components of an absolute path with every `..` carried out. -/
def normalParts (parts : List Text) : List Text :=
  parts.foldl climb []

/-- The absolute path read in `directory`, with every `..` carried out. -/
def absolute (directory p : Path) : Path :=
  let full := directory.append p
  ⟨full.anchor, normalParts full.parts⟩

/-- As `absolute`, always with a single slash at the root. -/
def resolved (directory p : Path) : Path :=
  ⟨.root, (absolute directory p).parts⟩

/-- Why a path that begins with `~` leads nowhere. -/
inductive HomeError
  /-- The home of another user is unknown. -/
  | unknownUser
  /-- No user has a null character in their name. -/
  | nullCharacter
deriving DecidableEq

/-- The path seen from `base`, when it lies there. -/
def relativeTo? (p base : Path) : Option Path :=
  if p.anchor = base.anchor ∧ p.parts.take base.parts.length = base.parts then
    some ⟨.relative, p.parts.drop base.parts.length⟩
  else
    none

/-- Whether a component holds the null character, which no file name can. -/
def hasNull (p : Path) : Bool :=
  p.parts.any fun part => decide ('\x00' ∈ part)

end Path

/-- The places that relative paths and `~` refer to. -/
structure Surroundings where
  /-- The working directory. -/
  directory : Path
  /-- The home directory. -/
  home : Path
  /-- The home directories of users by name. -/
  users : List (Text × Path) := []

namespace Surroundings

/-- The home directory of a user; the empty name stands for the present user. -/
def homeOf (s : Surroundings) (name : Text) : Except Path.HomeError Path :=
  if name.isEmpty then .ok s.home
  else if name.contains '\x00' then .error .nullCharacter
  else
    match s.users.lookup name with
    | some home => .ok home
    | none => .error .unknownUser

/-- The path with a leading `~` or `~name` replaced by the home directory that it stands for. -/
def expandHome (s : Surroundings) (p : Path) : Except Path.HomeError Path :=
  match p.anchor, p.parts with
  | .relative, ('~' :: name) :: rest => (s.homeOf name).map fun home => home.append ⟨.relative, rest⟩
  | _, _ => .ok p

/-- The absolute path with every `..` carried out. -/
def absolute (s : Surroundings) (p : Path) : Path :=
  Path.absolute s.directory p

/-- The absolute path with every `..` carried out and a single slash at the root. -/
def resolved (s : Surroundings) (p : Path) : Path :=
  Path.resolved s.directory p

end Surroundings

end Literate
