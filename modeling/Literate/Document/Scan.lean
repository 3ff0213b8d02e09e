import Literate.Block
import Literate.Document.Line
import Literate.Text.Dedent

/-!
# Scanning a document for blocks

The scan reads the lines of a document once, from top to bottom, and keeps the
outline of open headings with the header arguments of their drawers, the name
that waits for a block, whether a drawer is open, and the block that is being
read.

**Result.**  The blocks in document order, and the line of a block without an
end when there is one.
-/

namespace Literate
namespace Document

/-- Header arguments set in one place: for every language, or for one. -/
abbrev Layer := Dictionary (Option Text) Params

/-- The layer after setting more arguments. -/
def Layer.add (layer : Layer) (language : Option Text) (arguments : Text) : Layer :=
  layer.insert language (((layer.get? language).getD Dictionary.empty).update (Header.parse arguments))

/-- The arguments after those that a layer sets for a language: first the general ones, then its own. -/
def Layer.apply (language : Text) (params : Params) (layer : Layer) : Params :=
  let general := params.update ((layer.get? none).getD Dictionary.empty)
  if language.isEmpty then general
  else general.update ((layer.get? (some language)).getD Dictionary.empty)

/-- An open heading. -/
structure Heading where
  /-- The number of its stars. -/
  level : Nat
  /-- Its title without tags. -/
  title : Text
  /-- The header arguments of its drawer. -/
  layer : Layer := Dictionary.empty

/-- A block whose end has not been read yet. -/
structure Opening where
  /-- The language. -/
  language : Text
  /-- The waiting name. -/
  name : Option Text
  /-- The header arguments. -/
  params : Params
  /-- Whether the indentation of the body is kept. -/
  keepsIndent : Bool
  /-- Where the block begins. -/
  link : Link

/-- The state of a scan between two lines. -/
structure ScanState where
  /-- The number of lines read. -/
  line : Nat := 0
  /-- The open headings, the innermost first. -/
  outline : List Heading := []
  /-- The name that waits for a block. -/
  pending : Option Text := none
  /-- Whether a drawer is open. -/
  inDrawer : Bool := false
  /-- The block being read and its body lines, the last one first. -/
  opened : Option (Opening × List Text) := none

/-- What does not change during a scan. -/
structure ScanContext where
  /-- The file of the document. -/
  path : Option Path
  /-- The header arguments set for the whole file. -/
  fileLayer : Layer

/-- The header arguments set for the whole file, wherever their lines stand. -/
def fileLayer (lines : List Text) : Layer :=
  lines.foldl (fun layer line =>
    match fileArguments? line with
    | some (language, arguments) => layer.add language arguments
    | none => layer) Dictionary.empty

/-- The header arguments of a block: those of the file, of the headings from the outermost inward, and
of its own line, later ones prevailing. -/
def blockParams (context : ScanContext) (outline : List Heading) (language arguments : Text) : Params :=
  let layers := context.fileLayer :: (outline.reverse.map Heading.layer)
  (layers.foldl (Layer.apply language) Dictionary.empty).update (Header.parse arguments)

/-- A body line without the comma that protects a star or a keyword at its beginning. -/
def unescapeLine (line : Text) : Text :=
  match Text.trimLeft line with
  | ',' :: rest =>
      let mark := rest.dropWhile (· == ',')
      if mark.head? = some '*' ∨ (Text.dropPrefix? "#+" mark).isSome then
        line.takeWhile Text.isBlank ++ rest
      else line
  | _ => line

/-- The body made of its lines. -/
def bodyOfLines (keepsIndent : Bool) (lines : List Text) : Text :=
  Text.join "\n" ((if keepsIndent then lines else Text.dedent lines).map unescapeLine)

/-- The block that an opening and its body lines make. -/
def Opening.close (opening : Opening) (bodyLines : List Text) : DocumentBlock where
  language := opening.language
  name := opening.name
  params := opening.params
  body := bodyOfLines opening.keepsIndent bodyLines
  link := opening.link

/-- The headings that stay open above a new one. -/
def closeHeadings (level : Nat) (outline : List Heading) : List Heading :=
  outline.dropWhile fun heading => decide (level ≤ heading.level)

/-- The outline after a drawer line has set arguments for the innermost heading. -/
def addToInnermost (language : Option Text) (arguments : Text) : List Heading → List Heading
  | [] => []
  | heading :: rest => { heading with layer := heading.layer.add language arguments } :: rest

/-- The opening of a block on the line after those that were read. -/
def ScanState.opening (context : ScanContext) (state : ScanState) (language rest : Text) : Opening :=
  let (switches, arguments) := Header.splitSwitches true rest
  { language := language
    name := state.pending
    params := blockParams context state.outline language arguments
    keepsIndent := (Text.fields switches).contains "-i"
    link :=
      { path := context.path
        line := state.line + 1
        heading := state.outline.head?.map Heading.title } }

/-- The state after a line outside a block. -/
def ScanState.readOutside (context : ScanContext) (state : ScanState) (line : Text) : ScanState :=
  let next := { state with line := state.line + 1 }
  match classify line with
  | .heading level title =>
      { next with
        outline := { level := level, title := title } :: closeHeadings level state.outline
        pending := none }
  | .drawerOpen =>
      if !state.outline.isEmpty then { next with inDrawer := true }
      else if state.inDrawer then next
      else { next with pending := none }
  | .drawerClose =>
      if state.inDrawer then { next with inDrawer := false }
      else { next with pending := none }
  | .drawerArguments language arguments =>
      if state.inDrawer then
        { next with outline := addToInnermost language arguments state.outline }
      else { next with pending := none }
  | .name value =>
      if state.inDrawer then next
      else { next with pending := if value.isEmpty then none else some value }
  | .blockBegin language rest =>
      if state.inDrawer then next
      else { next with pending := none, opened := some (state.opening context language rest, []) }
  | .keyword => next
  | .blank => next
  | .prose => if state.inDrawer then next else { next with pending := none }

/-- The state after a line, and the block that the line ends. -/
def ScanState.read (context : ScanContext) (state : ScanState) (line : Text) :
    ScanState × Option DocumentBlock :=
  match state.opened with
  | none => (state.readOutside context line, none)
  | some (opening, body) =>
      if isBlockEnd line then
        ({ state with line := state.line + 1, opened := none }, some (opening.close body.reverse))
      else
        ({ state with line := state.line + 1, opened := some (opening, line :: body) }, none)

/-- The result of a scan. -/
structure Scan where
  /-- The blocks in document order. -/
  blocks : List DocumentBlock
  /-- The line of a block that has no end. -/
  unterminated : Option Int
deriving DecidableEq

/-- The blocks that the remaining lines yield from a state on. -/
def scanFrom (context : ScanContext) (state : ScanState) : List Text → Scan
  | [] => ⟨[], state.opened.map fun opened => opened.1.link.line⟩
  | line :: rest =>
      let (next, block) := state.read context line
      let scan := scanFrom context next rest
      { scan with blocks := block.toList ++ scan.blocks }

/-- The blocks of a text read from a file or from memory. -/
def scan (path : Option Path) (t : Text) : Scan :=
  let lines := Text.lines t
  scanFrom ⟨path, fileLayer lines⟩ {} lines

end Document
end Literate
