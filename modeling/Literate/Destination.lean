import Literate.Block
import Literate.Journal
import Literate.Language

/-!
# Destinations

The `tangle` argument of a block says where its text goes: `yes` names the file
after the document and the language, `no` excludes the block, any other value
is a path, and a missing value leaves the block to the default destination, if
there is one.

**Grouping.**  Blocks are grouped by language.  The language of the first block
that reaches a file owns the file; blocks of another language are rejected.
-/

namespace Literate

/-- Why a block gets no destination. -/
inductive PlacementError
  /-- The value of an argument cannot be a destination. -/
  | malformed (block directive value : Text)
  /-- The destination belongs to blocks of another language. -/
  | ambiguous (block : Text) (path : Path) (owner language : Text)
deriving DecidableEq

/-- The wording of the error. -/
def PlacementError.message : PlacementError → Text
  | malformed block directive value =>
      "Block '" ++ block ++ "' has malformed :" ++ directive ++ " value " ++ Text.quoted value
  | ambiguous block path owner language =>
      "Block '" ++ block ++ "' (" ++ language ++ ") targets " ++ path.toText ++
        ", already claimed by " ++ owner ++ " blocks"

/-- Where a block goes. -/
inductive Destination
  /-- Nowhere. -/
  | none
  /-- Into a file. -/
  | file (path : Path)
  /-- The block is rejected. -/
  | rejected (error : PlacementError)
  /-- The home directory that the path begins with is unknown. -/
  | homeless (cause : Path.HomeError)
deriving DecidableEq

/-- What decides the destinations of the blocks of a document. -/
structure Placement where
  /-- The working directory and the home directories. -/
  surroundings : Surroundings
  /-- The name of the document without suffix. -/
  baseName : Text
  /-- The directory that relative destinations start from. -/
  directory : Path
  /-- The default destination. -/
  fallback : Option Text := Option.none
  /-- The suffixes of the languages. -/
  suffixes : Dictionary Text Text := Language.suffixes

/-- A block with its destination. -/
structure Target where
  /-- The destination. -/
  path : Path
  /-- The block. -/
  block : RenderedBlock
deriving DecidableEq

namespace Placement

/-- The destination that a path leads to, in absolute and normal form, so that each file has one. -/
def anchor (placement : Placement) (value : Text) : Destination :=
  match placement.surroundings.expandHome (Path.ofText value) with
  | .ok p => .file (placement.surroundings.absolute (placement.directory.append p))
  | .error cause => .homeless cause

/-- Whether a value cannot be the path of a file. -/
def isMalformed (value : Text) : Bool :=
  value.contains '\x00' || value.contains '\n' ||
    value.getLast? == some '/' || value.getLast? == some '\\'

/-- The destination of a block. -/
def destination (placement : Placement) (block : RenderedBlock) : Destination :=
  let value := block.params.tangle
  let word := Text.lower value
  if word = "no" then .none
  else if word = "yes" then
    if block.language.isEmpty then .rejected (.malformed block.name "tangle" value)
    else
      placement.anchor
        (placement.baseName ++ "." ++ Language.suffixIn placement.suffixes block.language)
  else if !value.isEmpty then
    if isMalformed value then .rejected (.malformed block.name "tangle" value)
    else placement.anchor value
  else
    match placement.fallback with
    | some (c :: target) => placement.anchor (c :: target)
    | _ => .none

end Placement

/-- The blocks of a document by language. -/
structure Grouping where
  /-- The accepted blocks: languages in order of their first block, blocks in document order. -/
  buckets : Dictionary Text (List Target) := Dictionary.empty
  /-- Why blocks were rejected, in document order. -/
  errors : List PlacementError := []
  /-- The language that owns each destination. -/
  owners : Dictionary Path Text := Dictionary.empty
  /-- The reports written, in order. -/
  records : List Record := []

namespace Grouping

/-- The accepted blocks, language by language. -/
def targets (grouping : Grouping) : List Target :=
  grouping.buckets.entries.flatMap Prod.snd

/-- The number of accepted blocks. -/
def blockCount (grouping : Grouping) : Nat :=
  grouping.targets.length

/-- The paths without repetitions, in order of first occurrence. -/
def distinct (paths : List Path) : List Path :=
  paths.foldl (fun seen p => if seen.contains p then seen else seen ++ [p]) []

/-- The destinations in order. -/
def paths (grouping : Grouping) : List Path :=
  distinct (grouping.targets.map Target.path)

/-- The grouping with a rejected block. -/
def reject (grouping : Grouping) (error : PlacementError) : Grouping :=
  { grouping with
    errors := grouping.errors ++ [error]
    records := grouping.records ++
      [⟨.warning, .placement, error.message ++ "; block skipped"⟩] }

/-- The grouping with a block that has no destination. -/
def skip (grouping : Grouping) (block : RenderedBlock) : Grouping :=
  { grouping with
    records := grouping.records ++
      [⟨.debug, .placement, "Block " ++ block.name ++ " has no destination; skipped"⟩] }

/-- The grouping with a block that goes to a path. -/
def accept (grouping : Grouping) (p : Path) (block : RenderedBlock) : Grouping :=
  let bucket := (grouping.buckets.get? block.language).getD []
  { grouping with
    buckets := grouping.buckets.insert block.language (bucket ++ [⟨p, block⟩])
    owners := grouping.owners.insertIfNew p block.language }

/-- The grouping with one more block, whose path must not begin with an unknown home. -/
def add (placement : Placement) (grouping : Grouping) (block : RenderedBlock) :
    Except Path.HomeError Grouping :=
  match placement.destination block with
  | .homeless cause => .error cause
  | .none => .ok (grouping.skip block)
  | .rejected error => .ok (grouping.reject error)
  | .file p =>
      match grouping.owners.get? p with
      | some owner =>
          if owner = block.language then .ok (grouping.accept p block)
          else .ok (grouping.reject (.ambiguous block.name p owner block.language))
      | none => .ok (grouping.accept p block)

/-- Groups blocks up to one whose home directory is unknown, and says why if there is one. -/
def ofBlocks (placement : Placement) (grouping : Grouping) :
    List RenderedBlock → Grouping × Option Path.HomeError
  | [] => (grouping, none)
  | block :: rest =>
      match grouping.add placement block with
      | .ok next => ofBlocks placement next rest
      | .error cause => (grouping, some cause)

end Grouping

end Literate
