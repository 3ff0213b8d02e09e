import Literate.Cleaning.File
import Literate.CommandLine.Invocation
import Literate.Tangle

/-!
# Carrying out an invocation

Errors of the settings, of the document, of a destination and of files end the
program with a message; any other failure is passed on.
-/

namespace Literate
namespace CommandLine

/-- How an invocation ended. -/
structure Ending where
  /-- What is written to standard output. -/
  output : Text := []
  /-- What is written to standard error at the end. -/
  notice : Text := []
  /-- The exit code. -/
  code : Nat := 0
deriving DecidableEq

/-- The notice of a failed command, if the failure is one that the program explains. -/
def failureNotice? (command : Text) : Failure → Option Text
  | .settings cause => some ("Invalid configuration: " ++ cause.message ++ "\n")
  | .document cause => some (explained cause.message)
  | .emit path cause => some (explained (emitMessage path cause))
  | .file ⟨.nullCharacter, _⟩ => none
  | .file cause => some ("orgtangle " ++ command ++ " failed: " ++ cause.message ++ "\n")
  | _ => none
where
  /-- The notice of an error of tangling. -/
  explained (message : Text) : Text :=
    "orgtangle " ++ command ++ " failed: " ++ message ++ "\nRun with --verbose for more details.\n"

/-- The notice that there is nothing to tangle. -/
def noDocumentNotice : Text :=
  "No active document: pass --document or set 'document' in .orgtangle.yml\n"

/-- A path as it is shown: relative to the working directory when it lies there. -/
def shownPath (surroundings : Surroundings) (p : Path) : Text :=
  match (surroundings.resolved p).relativeTo? surroundings.directory with
  | some relative => relative.toText
  | none => p.toText

section Running

variable {m : Type → Type} [Monad m] [Host m]

/-- Shows records on the console and, when a log file is given, adds them to it. -/
def openJournal (verbose : Bool) (logFile : OptionValue Path) : ExceptT Failure m Unit := do
  (Host.openConsole (if verbose then .debug else .info) : m Unit)
  match logFile with
  | .missing => pure ()
  | .empty => throw .emptyOption
  | .present p => do
      let surroundings ← (Host.surroundings : m Surroundings)
      let expanded ← ExceptT.mk (pure (Document.expandPath surroundings p))
      match ← (Host.ensureDirectory (expanded.parts.length + 1) expanded.parent : m _) with
      | .error cause => throw (.file cause)
      | .ok () =>
          let absolute := surroundings.absolute expanded
          match ← (Host.openLogFile absolute : m _) with
          | .error cause => throw (.file ⟨cause, absolute⟩)
          | .ok () => pure ()

/-- The settings named by an option, or those at a default place. -/
def settingsFor (config : OptionValue Path) (fallback : Path) : ExceptT Failure m Settings :=
  match config with
  | .missing => Settings.load fallback
  | .empty => throw .emptyOption
  | .present p => Settings.load p

/-- The tangler for a document, whose directory holds the settings by default. -/
def tanglerFor (config : OptionValue Path) (document : Path) (comments : Option Bool) :
    ExceptT Failure m Tangler := do
  let surroundings ← (Host.surroundings : m Surroundings)
  let resolved ← ExceptT.mk (pure (Module.resolve surroundings document))
  let settings ← settingsFor config resolved.parent
  pure (Tangler.ofSettings settings comments Registry.standard)

/-- The lines that show the paths written. -/
def shownPaths (paths : List Path) : ExceptT Failure m Text := do
  let surroundings ← (Host.surroundings : m Surroundings)
  pure (paths.flatMap fun p => shownPath surroundings p ++ "\n")

/-- Carries out a command. -/
def runCommand (config : OptionValue Path) : Command → ExceptT Failure m Ending
  | .tangleFile path target language comments => do
      let tangler ← tanglerFor config (Path.ofText path) comments
      let produced ← tangler.tangleFile (Path.ofText path) target language
      pure { output := ← shownPaths produced }
  | .tangle document comments => do
      let surroundings ← (Host.surroundings : m Surroundings)
      let settings ← settingsFor config surroundings.directory
      match document.value? <|> settings.document with
      | none => pure { notice := noDocumentNotice, code := 1 }
      | some path => do
          let tangler := Tangler.ofSettings settings comments Registry.standard
          let produced ← tangler.tangleFile path none none
          pure { output := ← shownPaths produced }
  | .loadFile path generated => do
      let tangler ← tanglerFor config (Path.ofText path) none
      let target ← match generated with
        | .missing => pure none
        | .empty => throw .emptyOption
        | .present t => pure (some (Path.ofText t))
      let _ ← Module.load tangler (Path.ofText path) target
      pure {}
  | .clean path => do
      let surroundings ← (Host.surroundings : m Surroundings)
      let removed ← Cleaning.cleanFile (Path.ofText path)
      let shown := shownPath surroundings (Path.ofText path)
      pure { output := "Removed " ++ Text.ofNat removed ++ " line(s) from " ++ shown ++ "\n" }

/-- Carries out an invocation.  A failure that the program does not explain is passed on. -/
def run (invocation : Invocation) : ExceptT Failure m Ending :=
  tryCatch
    (do
      openJournal invocation.verbose invocation.logFile
      runCommand invocation.config invocation.command)
    fun failure =>
      match failureNotice? invocation.command.name failure with
      | some notice => pure { notice := notice, code := 1 }
      | none => throw failure

end Running

end CommandLine
end Literate
