import Literate.FileSystem.Fault
import Literate.Template.Expr

/-!
# Failures of a run

What can stop a run, by its cause.  Errors that concern a single block are not
among them: they are reported and the run goes on.
-/

namespace Literate

/-- Why a document cannot be used. -/
inductive DocumentError
  /-- Its file cannot be read. -/
  | unreadable (path : Path) (cause : PathFault)
  /-- Its file cannot be written. -/
  | unsaved (path : Path) (cause : PathFault)
  /-- A block that begins on a line has no end. -/
  | unterminated (path : Option Path) (line : Int)
  /-- No block was written to the module that was to be loaded. -/
  | nothingTangled (path : Path)
deriving DecidableEq

/-- The wording of the error. -/
def DocumentError.message : DocumentError → Text
  | unreadable path cause => "Cannot read document " ++ path.toText ++ ": " ++ cause.message
  | unsaved path cause => "Cannot save document " ++ path.toText ++ ": " ++ cause.message
  | unterminated path line =>
      "Unterminated source block at " ++ (path.map Path.toText).getD "<memory>" ++ ":" ++
        Text.ofInt line
  | nothingTangled path => "No python blocks were tangled into " ++ path.toText

/-- Why settings cannot be used. -/
inductive SettingsError
  /-- The file is not written correctly. -/
  | unparsable
  /-- The file holds something else than a mapping. -/
  | rootNotMapping
  /-- The switch for comments is neither true nor false. -/
  | commentsNotBoolean
  /-- A setting is not a mapping. -/
  | notMapping (key : Text)
  /-- An item of a setting is not a text. -/
  | notText (key item : Text)
  /-- The comment style of a language is not written correctly. -/
  | badCommentStyle (language : Text)
deriving DecidableEq

/-- The name of the file that holds settings. -/
def settingsFileName : Text := ".orgtangle.yml"

/-- The wording of the error. -/
def SettingsError.message : SettingsError → Text
  | unparsable => "Failed to parse " ++ settingsFileName
  | rootNotMapping => settingsFileName ++ " must contain a mapping at the root"
  | commentsNotBoolean => "'comments' must be a boolean"
  | notMapping key => "'" ++ key ++ "' must be a mapping"
  | notText key item => "'" ++ key ++ "." ++ item ++ "' must be a string"
  | badCommentStyle language =>
      "'comment_syntax." ++ language ++ "' must be a string or [prefix, suffix]"

/-- Why a scalar of the settings has no value. -/
inductive ScalarError
  /-- A number or a date is out of range, or is not written like one. -/
  | badValue
  /-- A word is none of those that mean true or false. -/
  | notBoolean
  /-- A text is not written like a point in time. -/
  | notTimestamp
  /-- A number has no digits at all. -/
  | noDigits
  /-- A number is too great for a character or for a number with a fraction. -/
  | tooGreat
  /-- A point in time is the default value of a mapping. -/
  | notScalar
  /-- A mapping is its own default value. -/
  | endless
deriving DecidableEq

/-- What can stop a run. -/
inductive Failure
  /-- The document cannot be used. -/
  | document (cause : DocumentError)
  /-- A destination cannot be written. -/
  | emit (path : Path) (cause : Fault)
  /-- The settings cannot be used. -/
  | settings (cause : SettingsError)
  /-- A scalar of the settings has no value. -/
  | scalar (cause : ScalarError)
  /-- A file operation failed. -/
  | file (cause : PathFault)
  /-- A file is not UTF-8. -/
  | undecodable
  /-- The home directory that a path begins with is unknown. -/
  | home (cause : Path.HomeError)
  /-- A path without a last component was to get a suffix. -/
  | namelessPath
  /-- An option that was to name a file holds no word. -/
  | emptyOption
  /-- A template cannot be used. -/
  | template (cause : Template.TemplateError)
  /-- A directory without a file to run was to be loaded as a module. -/
  | notModule
deriving DecidableEq

/-- The wording of a failure to write a destination. -/
def emitMessage (path : Path) (cause : Fault) : Text :=
  "Failed to write " ++ path.toText ++ ": " ++ cause.reason

end Literate
