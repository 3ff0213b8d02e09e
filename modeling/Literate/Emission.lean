import Literate.Destination
import Literate.Failure
import Literate.Host
import Literate.Template.Basic

/-!
# Writing destinations

An emitter writes blocks into their destinations and remembers what it has
written where.  The first block that reaches a file removes what was there
before.  Every block is written at once, so that what is finished stays on disk
when a later block fails.

**Decoration.**  Blocks that ask for comments are put between two comment lines
made from templates, when the emitter has comments switched on.
-/

namespace Literate

/-- What is known about one destination. -/
structure OutputFile where
  /-- The language of the first block. -/
  language : Text
  /-- Whether a first line has been put in. -/
  hasShebang : Bool := false
  /-- Whether the file has been made executable. -/
  isExecutable : Bool := false
  /-- The number of blocks written. -/
  blockCount : Nat := 0
deriving DecidableEq

/-- How blocks are decorated. -/
structure Decoration where
  /-- Whether blocks are decorated at all. -/
  comments : Bool := false
  /-- What the template of the comment before a block makes of values. -/
  opening : Template.Bindings → Except Template.TemplateError Text
  /-- What the template of the comment after a block makes of values. -/
  closing : Template.Bindings → Except Template.TemplateError Text
  /-- The comment styles of the languages. -/
  styles : Dictionary Text CommentStyle := Language.commentStyles

namespace Decoration

/-- The template used before a block unless settings say otherwise. -/
def standardOpening : Text := "[[\x7b\x7b link \x7d\x7d][\x7b\x7b name \x7d\x7d]]"

/-- The template used after a block unless settings say otherwise. -/
def standardClosing : Text := "<<\x7b\x7b name \x7d\x7d>> ends here"

/-- A decoration by the texts of its templates, as an engine reads them.  Each template has a seed of its
own. -/
def ofTexts (comments : Bool) (opening closing : Text) (styles : Dictionary Text CommentStyle)
    (engine : Template.Engine := .standard) (seed : Nat := 0) : Except Template.TemplateError Decoration := do
  let first ← engine.read opening
  let last ← engine.read closing
  .ok
    { comments := comments
      opening := first seed
      closing := last (seed + 1)
      styles := Language.commentStylesWith styles }

/-- The values of the variables in a template for a block. -/
def bindings (block : RenderedBlock) : Template.Bindings :=
  let text := fun (t : Text) => Template.Value.text (CodePoints.ofText t)
  [("link", text block.link.target),
   ("name", text block.name),
   ("language", text block.language),
   ("line", .number block.link.line),
   ("heading", text (block.link.heading.getD []))]

/-- A comment line for a block. -/
def commentLine (decoration : Decoration) (template : Template.Bindings → Except Template.TemplateError Text)
    (block : RenderedBlock) : Except Template.TemplateError Text := do
  let style := Language.commentStyleIn decoration.styles block.language
  let text ← template (bindings block)
  .ok (style.opening ++ text ++ style.closing)

/-- The text written for a block: its own text and, when asked for, comments around it. -/
def render (decoration : Decoration) (block : RenderedBlock) : Except Template.TemplateError Text := do
  let body : List Text := if block.text.isEmpty then [] else [block.text]
  if decoration.comments && block.params.wantsComments then
    let first ← decoration.commentLine decoration.opening block
    let last ← decoration.commentLine decoration.closing block
    .ok (Text.join "\n" (first :: body ++ [last]) ++ "\n")
  else
    .ok (Text.join "\n" body ++ "\n")

end Decoration

/-- Writes blocks and remembers what has been written. -/
structure Emitter where
  /-- How blocks are decorated. -/
  decoration : Decoration
  /-- What is known about the destinations. -/
  files : Dictionary Path OutputFile := Dictionary.empty
  /-- The destinations in order of first touch. -/
  produced : List Path := []

namespace Emitter

/-- The mode of a file with a first line of its own. -/
def executableMode : Nat := 0o755

/-- The emitter after new knowledge about a destination. -/
def note (emitter : Emitter) (p : Path) (file : OutputFile) : Emitter :=
  { emitter with files := emitter.files.insert p file }

/-- The emitter after the first touch of a destination. -/
def enter (emitter : Emitter) (p : Path) (file : OutputFile) : Emitter :=
  { emitter.note p file with produced := emitter.produced ++ [p] }

/-- A fault while a destination is written. -/
def failureAt (p : Path) (cause : Fault) : Failure :=
  if cause = .nullCharacter then .file ⟨cause, p⟩ else .emit p cause

/-- The fault of reading a destination. -/
def readFailure (p : Path) : Host.ReadFault → Failure
  | .undecodable => .undecodable
  | .fault cause => failureAt p cause

/-- The first line that a block brings into a file. -/
def shebangFor (file : OutputFile) (block : RenderedBlock) : Option Text :=
  if file.hasShebang || block.params.shebang.isEmpty then none else some block.params.shebang

/-- The content of a file after a chunk has been added, with a new first line when there is one. -/
def extend (existing chunk : Text) (shebang : Option Text) : Text :=
  match shebang with
  | some line => line ++ "\n" ++ existing ++ chunk
  | none => existing ++ chunk

/-- The chunk of text for a block, with an empty line before it unless it is the first. -/
def pad (file : OutputFile) (block : RenderedBlock) (chunk : Text) : Text :=
  if file.blockCount ≠ 0 ∧ block.params.padsLine = true then '\n' :: chunk else chunk

section Writing

variable {m : Type → Type} [Monad m] [Host m]

/-- A fault of the host as a failure at a destination. -/
def attempt {α : Type} (p : Path) (operation : m (Except Fault α)) : ExceptT Failure m α := do
  match ← (operation : m _) with
  | .ok value => pure value
  | .error cause => throw (failureAt p cause)

/-- Makes the directories above a destination when the block asks for it and they are missing. -/
def makeAbove (p : Path) (block : RenderedBlock) : ExceptT Failure m Unit := do
  if block.params.makesDirectories then
    if !(← attempt p (Host.pathExists p.parent)) then
      attempt p (Host.makeDirectories (p.parts.length + 1) p.parent)

/-- Removes what is at a destination and makes the directories above it when the block asks for it. -/
def clear (p : Path) (block : RenderedBlock) : ExceptT Failure m Unit := do
  if ← attempt p (Host.pathExists p) then
    attempt p (Host.removeFile p)
    (Host.record ⟨.debug, .emission, "Removed stale " ++ p.toText⟩ : m Unit)
  makeAbove p block

/-- The text at a destination, empty when there is no file. -/
def existing (p : Path) : ExceptT Failure m Text := do
  if ← attempt p (Host.pathExists p) then
    match ← (Host.readText p : m _) with
    | .ok t => pure t
    | .error cause => throw (readFailure p cause)
  else pure []

/-- Adds a chunk to a destination.  What is known about the file changes also when writing fails. -/
def write (emitter : Emitter) (p : Path) (file : OutputFile) (block : RenderedBlock) (chunk : Text) :
    m (Emitter × Except Failure Unit) := do
  match ← (existing p : ExceptT Failure m Text).run with
  | .error failure => pure (emitter, .error failure)
  | .ok old =>
      let shebang := shebangFor file block
      let file := { file with hasShebang := file.hasShebang || shebang.isSome }
      let content := extend old chunk shebang
      match ← Host.writeText p content with
      | .error cause => pure (emitter.note p file, .error (failureAt p cause))
      | .ok () =>
          if file.hasShebang && !file.isExecutable then
            match ← Host.setMode p executableMode with
            | .error cause => pure (emitter.note p file, .error (failureAt p cause))
            | .ok () =>
                let file := { file with isExecutable := true, blockCount := file.blockCount + 1 }
                pure (emitter.note p file, .ok ())
          else
            pure (emitter.note p { file with blockCount := file.blockCount + 1 }, .ok ())

/-- The destination of a block, cleared when this is its first block. -/
def openFile (emitter : Emitter) (target : Target) : m (Emitter × Except Failure OutputFile) := do
  match emitter.files.get? target.path with
  | some file => pure (emitter, .ok file)
  | none =>
      match ← (clear target.path target.block : ExceptT Failure m Unit).run with
      | .error failure => pure (emitter, .error failure)
      | .ok () =>
          let file : OutputFile := { language := target.block.language }
          pure (emitter.enter target.path file, .ok file)

/-- Writes one block. -/
def emit (emitter : Emitter) (target : Target) : m (Emitter × Except Failure Path) := do
  match ← emitter.openFile target with
  | (emitter, .error failure) => pure (emitter, .error failure)
  | (emitter, .ok file) =>
      match emitter.decoration.render target.block with
      | .error cause => pure (emitter, .error (.template cause))
      | .ok text =>
          match ← emitter.write target.path file target.block (pad file target.block text) with
          | (emitter, .error failure) => pure (emitter, .error failure)
          | (emitter, .ok ()) => do
              Host.record ⟨.debug, .emission,
                "Wrote block " ++ target.block.name ++ " to " ++ target.path.toText⟩
              pure (emitter, .ok target.path)

/-- Writes several blocks, up to the first that fails. -/
def emitAll (emitter : Emitter) : List Target → m (Emitter × Except Failure Unit)
  | [] => pure (emitter, .ok ())
  | target :: rest => do
      match ← emitter.emit target with
      | (emitter, .error failure) => pure (emitter, .error failure)
      | (emitter, .ok _) => emitter.emitAll rest

end Writing

end Emitter

end Literate
