import Literate.Expansion
import Literate.Settings
import Literate.Transformer

/-!
# Tangling

Tangling a document saves it, collects its blocks, expands their references,
renders them in their language, gives them destinations and writes them.

**Errors of single blocks.**  A block whose references cannot be expanded, or
that cannot have its destination, is skipped with a warning; its error is part
of the summary and the run goes on.
-/

namespace Literate

/-- How documents are tangled. -/
structure Tangler where
  /-- The settings. -/
  settings : Settings
  /-- The transformers by language. -/
  registry : Registry := Registry.standard
  /-- Whether blocks are decorated by comments. -/
  comments : Bool
  /-- The engine that reads the templates of comments. -/
  engine : Template.Engine := .standard
  /-- What chance gives the engine in a run. -/
  seed : Nat := 0

/-- What a run did. -/
structure Summary where
  /-- The number of blocks written. -/
  blockCount : Nat := 0
  /-- The files written, in order of first touch. -/
  produced : List Path := []
  /-- The errors of single blocks. -/
  errors : List Text := []
deriving DecidableEq

namespace Summary

/-- Adds a file unless it has been added before. -/
def addPath (summary : Summary) (p : Path) : Summary :=
  if summary.produced.contains p then summary
  else { summary with produced := summary.produced ++ [p] }

/-- One more block has been written to a file. -/
def count (summary : Summary) (p : Path) : Summary :=
  { summary with blockCount := summary.blockCount + 1 }.addPath p

end Summary

/-- The blocks of a document on their way to their destinations. -/
structure Preparation where
  /-- What references stand for, and the reports written. -/
  memo : Memo := {}
  /-- The rendered blocks, in document order. -/
  rendered : List RenderedBlock := []
  /-- Why blocks were skipped, in document order. -/
  errors : List ReferenceError := []

namespace Preparation

/-- Adds a report. -/
def report (preparation : Preparation) (record : Record) : Preparation :=
  { preparation with
    memo := { preparation.memo with records := preparation.memo.records ++ [record] } }

/-- Expands and renders one more block unless it is excluded. -/
def add (library : Library) (registry : Registry) (preparation : Preparation) (block : Block) :
    Preparation :=
  let preparation := preparation.report (Document.collectedRecord block)
  if block.params.isExcluded then preparation
  else
    match (Expansion.ofBlock library block).run preparation.memo with
    | (.error error, memo) =>
        { preparation with memo := memo, errors := preparation.errors ++ [error] }.report
          ⟨.warning, .tangling, error.message ++ "; block skipped"⟩
    | (.ok body, memo) =>
        let text := registry.transform block.language body block.params
        { preparation with memo := memo, rendered := preparation.rendered ++ [⟨block, text⟩] }

/-- The preparation of the blocks of a document that pass a language filter. -/
def ofDocument (registry : Registry) (document : Document) (language : Option Text) : Preparation :=
  let library : Library := ⟨document.collect none⟩
  (document.collect language).foldl (add library registry) {}

end Preparation

namespace Tangler

/-- A tangler with settings, which also decide about comments unless told otherwise. -/
def ofSettings (settings : Settings) (comments : Option Bool) (registry : Registry) : Tangler where
  settings := settings
  registry := registry
  comments := comments.getD settings.comments

/-- The placement of the blocks of a document. -/
def placement (tangler : Tangler) (surroundings : Surroundings) (document : Document)
    (target : Option Text) : Placement where
  surroundings := surroundings
  baseName := document.baseName
  directory := document.directory surroundings
  fallback := target
  suffixes := Language.suffixesWith tangler.settings.suffixes

/-- The report at the end of a run. -/
def summaryRecord (document : Document) (count : Nat) : Record where
  level := .info
  origin := .tangling
  message :=
    let source : Text := match document.path with
      | some p => p.name
      | none => "<memory>"
    let plural : Text := if count = 1 then [] else "s"
    "Tangled " ++ Text.ofNat count ++ " code block" ++ plural ++ " from " ++ source

section Running

variable {m : Type → Type} [Monad m] [Host m]

/-- Writes blocks and counts them, up to the first that fails. -/
def writeAll (emitter : Emitter) (summary : Summary) : List Target → ExceptT Failure m Summary
  | [] => pure summary
  | target :: rest => do
      let (emitter, outcome) ← (emitter.emit target : m _)
      match outcome with
      | .error failure => throw failure
      | .ok _ => writeAll emitter (summary.count target.path) rest

/-- Tangles a document that has been saved. -/
def tangleSaved (tangler : Tangler) (document : Document) (target language : Option Text) :
    ExceptT Failure m Summary := do
  let surroundings ← (Host.surroundings : m Surroundings)
  (Host.recordAll ((document.collect none).map Document.collectedRecord) : m Unit)
  match document.scanError with
  | some cause => throw (.document cause)
  | none =>
      let preparation := Preparation.ofDocument tangler.registry document language
      (Host.recordAll preparation.memo.records : m Unit)
      let (grouping, homeless) :=
        Grouping.ofBlocks (tangler.placement surroundings document target) {} preparation.rendered
      (Host.recordAll grouping.records : m Unit)
      match homeless with
      | some cause => throw (.home cause)
      | none => do
          let settings := tangler.settings
          match Decoration.ofTexts tangler.comments settings.opening settings.closing
              settings.commentStyles tangler.engine tangler.seed with
          | .error cause => throw (.template cause)
          | .ok decoration => do
              let errors := preparation.errors.map ReferenceError.message ++
                grouping.errors.map PlacementError.message
              let summary ← writeAll { decoration := decoration } { errors := errors } grouping.targets
              (Host.record (summaryRecord document summary.blockCount) : m Unit)
              pure summary

/-- Tangles a document after saving it.  The document is saved also when the run fails later. -/
def tangle (tangler : Tangler) (document : Document) (target language : Option Text) :
    m (Document × Except Failure Summary) := do
  match ← (document.save : ExceptT Failure m Document).run with
  | .error failure => pure (document, .error failure)
  | .ok saved => do
      let outcome ← (tangler.tangleSaved saved target language : ExceptT Failure m Summary).run
      pure (saved, outcome)

/-- Tangles the document in a file. -/
def tangleFile (tangler : Tangler) (p : Path) (target language : Option Text) :
    ExceptT Failure m (List Path) := do
  let document ← Document.load p
  let (_, outcome) ← (tangler.tangle document target language : m _)
  match outcome with
  | .ok summary => pure summary.produced
  | .error failure => throw failure

end Running

end Tangler

namespace Module

variable {m : Type → Type} [Monad m] [Host m]

/-- The language whose blocks make up a module. -/
def language : Text := "python"

/-- The suffix of a module. -/
def suffix : Text := ".py"

/-- Whether a module is missing or older than its document. -/
def isStale (document generated : Path) : ExceptT Failure m Bool := do
  if ← Settings.checked generated (Host.pathExists generated) then
    let source ← Settings.checked document (Host.status document)
    let target ← Settings.checked generated (Host.status generated)
    pure (source.time.isAfter target.time)
  else pure true

/-- The resolved form of a path with the home directory filled in. -/
def resolve (surroundings : Surroundings) (p : Path) : Except Failure Path := do
  Document.resolvePath surroundings (← Document.expandPath surroundings p)

/-- The path of the module of a document. -/
def generatedPath (surroundings : Surroundings) (document : Path) (generated : Option Path) :
    Except Failure Path :=
  match generated with
  | some p => resolve surroundings p
  | none =>
      match document.withSuffix? suffix with
      | some p => .ok p
      | none => .error .namelessPath

/-- The name of the file that is run in a directory. -/
def mainName : Text := "__main__.py"

/-- The file that is run where a directory is to be run. -/
def mainFile (p : Path) : Path :=
  p.append ⟨.relative, [mainName]⟩

/-- The file that is run where a path is to be run. -/
def executed (p : Path) : ExceptT Failure m Path := do
  if ← (Host.leadsToDirectory p : m Bool) then
    if ← (Host.leadsToFile (mainFile p) : m Bool) then pure (mainFile p) else throw .notModule
  else pure p

/-- Tangles the module of a document when it is stale, and runs it.  What a module does when it is run has no
part here; the result is the file that is run. -/
def load (tangler : Tangler) (p : Path) (generated : Option Path) : ExceptT Failure m Path := do
  let surroundings ← (Host.surroundings : m Surroundings)
  let document ← ExceptT.mk (pure (resolve surroundings p))
  let target ← ExceptT.mk (pure (generatedPath surroundings document generated))
  let info := fun (t : Text) => (Host.record ⟨.info, .tangling, t⟩ : m Unit)
  if ← isStale document target then
    info ("Tangling " ++ document.name ++ " into " ++ target.name)
    let produced ← tangler.tangleFile document (some target.toText) (some language)
    if !(produced.map surroundings.resolved).contains target then
      throw (.document (.nothingTangled target))
  else
    (Host.record ⟨.debug, .tangling, target.toText ++ " is up to date"⟩ : m Unit)
  let file ← executed target
  info ("Loaded " ++ target.toText)
  pure file

end Module

end Literate
