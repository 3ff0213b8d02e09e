import Literate.Document.Basic
import Literate.Emission
import Literate.Yaml.Construction

/-!
# Settings

Settings are read from a YAML file beside the document.  A missing or blank
file leaves everything at its default.

**Reading values.**  A setting that is a text may also be written as a number.
The switch for comments takes the words for true and false also between
quotation marks.
-/

namespace Literate

/-- What a project sets. -/
structure Settings where
  /-- The directory of the settings file. -/
  root : Path
  /-- The document that is tangled unless another is given. -/
  document : Option Path := none
  /-- Whether blocks are decorated by comments. -/
  comments : Bool := false
  /-- The suffixes of languages. -/
  suffixes : Dictionary Text Text := Dictionary.empty
  /-- The comment styles of languages. -/
  commentStyles : Dictionary Text CommentStyle := Dictionary.empty
  /-- The template of the comment before a block. -/
  opening : Text := Decoration.standardOpening
  /-- The template of the comment after a block. -/
  closing : Text := Decoration.standardClosing

namespace Settings

open Yaml (Data Value)

/-- The value of a key that is a text. -/
def field (pairs : List (Value × Value)) (key : Text) : Value :=
  match pairs.find? fun pair => pair.1.sameKey (.text (CodePoints.ofText key)) with
  | some pair => pair.2
  | none => .null

/-- The text of a value, unless it is a number with too many digits. -/
def shown (data : Data) (value : Value) : Except Failure Text :=
  match data.textOf value with
  | some t => .ok t
  | none => .error (.scalar .badValue)

/-- A value as a text: a text or a number. -/
def textOf (data : Data) : Value → Except Failure (Option Text)
  | .text points => .ok (some points.toText)
  | .int n => do .ok (some (← shown data (.int n)))
  | .float x => do .ok (some (← shown data (.float x)))
  | _ => .ok none

/-- The switch for comments; nothing means no. -/
def commentsOf : Value → Except Failure Bool
  | .null => .ok false
  | .bool b => .ok b
  | .text points =>
      let word := Text.lower (Text.trim (points.map CodePoints.toChar))
      if word = "true" ∨ word = "yes" ∨ word = "1" then .ok true
      else if word = "false" ∨ word = "no" ∨ word = "0" then .ok false
      else .error (.settings .commentsNotBoolean)
  | _ => .error (.settings .commentsNotBoolean)

/-- Adds the suffixes that pairs give to those already read. -/
def suffixesOfPairs (data : Data) (suffixes : Dictionary Text Text) :
    List (Value × Value) → Except Failure (Dictionary Text Text)
  | [] => .ok suffixes
  | (name, value) :: rest => do
      let suffix ← textOf data value
      let language ← shown data name
      match suffix with
      | none => .error (.settings (.notText "extensions" language))
      | some suffix => suffixesOfPairs data (suffixes.insert language suffix) rest

/-- The suffixes of languages. -/
def suffixesOf (data : Data) (value : Value) : Except Failure (Dictionary Text Text) :=
  match value, data.pairs? value with
  | .null, _ => .ok Dictionary.empty
  | _, some pairs => suffixesOfPairs data Dictionary.empty pairs
  | _, none => .error (.settings (.notMapping "extensions"))

/-- A comment style: what goes before a comment, or that and what goes after it. -/
def commentStyleOf (data : Data) (language : Text) (value : Value) : Except Failure CommentStyle :=
  match value, data.items? value with
  | .text points, _ => .ok ⟨points.toText, []⟩
  | _, some [opening] => do .ok ⟨← shown data opening, []⟩
  | _, some [opening, closing] => do .ok ⟨← shown data opening, ← shown data closing⟩
  | _, _ => .error (.settings (.badCommentStyle language))

/-- Adds the comment styles that pairs give to those already read. -/
def commentStylesOfPairs (data : Data) (styles : Dictionary Text CommentStyle) :
    List (Value × Value) → Except Failure (Dictionary Text CommentStyle)
  | [] => .ok styles
  | (name, value) :: rest => do
      let language ← shown data name
      let style ← commentStyleOf data language value
      commentStylesOfPairs data (styles.insert language style) rest

/-- The pairs at the root of a file; a file that holds nothing has none. -/
def rootPairs (data : Data) : Except Failure (List (Value × Value)) :=
  if data.isNothing data.root then .ok []
  else
    match data.pairs? data.root with
    | some pairs => .ok pairs
    | none => .error (.settings .rootNotMapping)

/-- The settings that the data of a file give. -/
def ofData (root : Path) (data : Data) : Except Failure Settings := do
  let pairs ← rootPairs data
  let document ← textOf data (field pairs "document")
  let comments ← commentsOf (field pairs "comments")
  let suffixes ← suffixesOf data (field pairs "extensions")
  let syntaxes := (data.pairs? (field pairs "comment_syntax")).getD []
  let styles ← commentStylesOfPairs data Dictionary.empty syntaxes
  let templates := (data.pairs? (field pairs "templates")).getD []
  let opening ← textOf data (field templates "comment_begin")
  let closing ← textOf data (field templates "comment_end")
  .ok
    { root := root
      document := match document with
        | some (c :: rest) => some (root.append (Path.ofText (c :: rest)))
        | _ => none
      comments := comments
      suffixes := suffixes
      commentStyles := styles
      opening := opening.getD Decoration.standardOpening
      closing := closing.getD Decoration.standardClosing }

/-- The settings that the text of a file gives, as a loader reads it. -/
def ofText (root : Path) (t : Text) (loader : Yaml.Loader := Yaml.load) : Except Failure Settings :=
  if Text.isAllBlank t then .ok { root := root }
  else
    match loader t with
    | .error .malformed => .error (.settings .unparsable)
    | .error (.scalar cause) => .error (.scalar cause)
    | .ok data => ofData root data

section Files

variable {m : Type → Type} [Monad m] [Host m]

/-- A fault of the host at a path as a failure. -/
def checked {α : Type} (p : Path) (operation : m (Except Fault α)) : ExceptT Failure m α := do
  match ← (operation : m _) with
  | .ok value => pure value
  | .error cause => throw (.file ⟨cause, p⟩)

/-- The settings file that a path means: in the directory, beside the file, or the file itself. -/
def locate (p : Path) : ExceptT Failure m Path := do
  let surroundings ← (Host.surroundings : m Surroundings)
  let expanded ← ExceptT.mk (pure (Document.expandPath surroundings p))
  let inside ← checked expanded (Host.isDirectory expanded)
  let file :=
    if inside then expanded.append ⟨.relative, [settingsFileName]⟩
    else if expanded.name = settingsFileName then expanded
    else expanded.parent.append ⟨.relative, [settingsFileName]⟩
  ExceptT.mk (pure (Document.resolvePath surroundings file))

/-- The settings that a path leads to, as a loader reads them. -/
def load (p : Path) (loader : Yaml.Loader := Yaml.load) : ExceptT Failure m Settings := do
  let file ← locate p
  if ← checked file (Host.pathExists file) then
    match ← (Host.readText file : m _) with
    | .error .undecodable => throw .undecodable
    | .error (.fault cause) => throw (.file ⟨cause, file⟩)
    | .ok t => ExceptT.mk (pure (ofText file.parent t loader))
  else pure { root := file.parent }

end Files

end Settings
end Literate
