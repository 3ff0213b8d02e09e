import Literate.Document.Scan
import Literate.Failure
import Literate.Host

/-!
# Documents

A document is a text, held in memory, that may belong to a file.  Edits stay in
memory until the document is saved.

**Collecting.**  The blocks of a document are collected in order.  A block
without a name is named after its number, which counts every block, also those
that a language filter leaves out.
-/

namespace Literate

/-- An outline document. -/
structure Document where
  /-- Its text. -/
  text : Text
  /-- Its file. -/
  path : Option Path := none
  /-- Whether the text has been edited since it was read or saved. -/
  isModified : Bool := false
deriving DecidableEq

namespace Document

/-- The resolved form of a path, unless it holds a null character. -/
def resolvePath (surroundings : Surroundings) (p : Path) : Except Failure Path :=
  if p.hasNull then .error (.file ⟨.nullCharacter, p⟩) else .ok (surroundings.resolved p)

/-- The path with the home directory filled in. -/
def expandPath (surroundings : Surroundings) (p : Path) : Except Failure Path :=
  (surroundings.expandHome p).mapError .home

/-- A document made of a text and the path of its file. -/
def ofText (surroundings : Surroundings) (t : Text) (path : Option Path) : Except Failure Document :=
  match path with
  | none => .ok { text := t }
  | some p => do .ok { text := t, path := some (← resolvePath surroundings p) }

/-- The name of the document without suffix, from which destinations are named. -/
def baseName (document : Document) : Text :=
  match document.path with
  | some p => p.stem
  | none => "untitled"

/-- The directory that relative destinations start from. -/
def directory (surroundings : Surroundings) (document : Document) : Path :=
  match document.path with
  | some p => p.parent
  | none => surroundings.directory

/-- The document with another text. -/
def setText (document : Document) (t : Text) : Document :=
  if t = document.text then document else { document with text := t, isModified := true }

/-- The blocks of the document and the line of a block without an end. -/
def scanned (document : Document) : Scan :=
  scan document.path document.text

/-- The error that a block without an end makes. -/
def scanError (document : Document) : Option DocumentError :=
  document.scanned.unterminated.map fun line => .unterminated document.path line

/-- A block of the document with its number and a name. -/
def nameBlock (block : DocumentBlock) (number : Nat) : Block where
  language := block.language
  name := block.name.getD ("block-" ++ Text.ofNat number)
  params := block.params
  body := block.body
  link := block.link
  index := number

/-- The blocks of the document with their numbers, from a number on. -/
def numberBlocks (number : Nat) : List DocumentBlock → List Block
  | [] => []
  | block :: rest => nameBlock block number :: numberBlocks (number + 1) rest

/-- Whether a block passes a language filter. -/
def passes (language : Option Text) (block : Block) : Bool :=
  match language with
  | none => true
  | some l => block.language == l

/-- The blocks of the document that pass a language filter. -/
def collect (document : Document) (language : Option Text) : List Block :=
  (numberBlocks 1 document.scanned.blocks).filter (passes language)

/-- The report of a collected block. -/
def collectedRecord (block : Block) : Record where
  level := .debug
  origin := .collection
  message :=
    "Collected " ++ block.language ++ " block " ++ block.name ++ " at line " ++
      Text.ofInt block.link.line

section Files

variable {m : Type → Type} [Monad m] [Host m]

/-- The document in the file at a path. -/
def load (p : Path) : ExceptT Failure m Document := do
  let surroundings ← (Host.surroundings : m Surroundings)
  let expanded ← ExceptT.mk (pure (expandPath surroundings p))
  match ← (Host.readText expanded : m _) with
  | .error .undecodable => throw .undecodable
  | .error (.fault .nullCharacter) => throw (.file ⟨.nullCharacter, expanded⟩)
  | .error (.fault cause) => throw (.document (.unreadable expanded ⟨cause, expanded⟩))
  | .ok t => ExceptT.mk (pure (ofText surroundings t (some expanded)))

/-- Writes edits back to the file of the document. -/
def save (document : Document) : ExceptT Failure m Document := do
  if !document.isModified then pure document
  else
    match document.path with
    | none =>
        (Host.record ⟨.debug, .document, "Document has no backing file; nothing to save"⟩ : m Unit)
        pure document
    | some p =>
        match ← (Host.writeText p document.text : m _) with
        | .error .nullCharacter => throw (.file ⟨.nullCharacter, p⟩)
        | .error cause => throw (.document (.unsaved p ⟨cause, p⟩))
        | .ok () =>
            (Host.record ⟨.debug, .document, "Saved " ++ p.toText⟩ : m Unit)
            pure { document with isModified := false }

end Files

end Document
end Literate
