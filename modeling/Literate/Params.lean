import Literate.Dictionary
import Literate.Text.Blank
import Literate.Text.Case
import Literate.Text.Quoted

/-!
# Header arguments of a block

The header arguments of a block map keys to values in the order in which they
were written.  Each reading of an argument trims its value; a missing argument
reads as the empty text.
-/

namespace Literate

/-- Header arguments: keys with their values. -/
abbrev Params := Dictionary Text Text

namespace Params

/-- The words that negate a flag. -/
def negations : List Text := ["no", "nil", "false"]

/-- The values of `noweb` under which references are expanded when a block is tangled. -/
def expandingValues : List Text := ["yes", "tangle", "no-export", "strip-export", "strip-tangle"]

/-- The trimmed value of a key, empty when it is missing. -/
def value (p : Params) (key : Text) : Text :=
  Text.trim ((p.get? key).getD [])

/-- The trimmed value of a key in lower case. -/
def word (p : Params) (key : Text) : Text :=
  Text.lower (p.value key)

/-- Whether the key is present and not negated. -/
def flag (p : Params) (key : Text) : Bool :=
  p.contains key && !negations.contains (p.word key)

/-- Whether the value of the key is `yes`. -/
def isYes (p : Params) (key : Text) : Bool :=
  p.word key == "yes"

/-- The destination asked for. -/
def tangle (p : Params) : Text :=
  p.value "tangle"

/-- Whether the block is excluded from every destination. -/
def isExcluded (p : Params) : Bool :=
  p.word "tangle" == "no"

/-- Whether references in the body are expanded. -/
def expandsReferences (p : Params) : Bool :=
  expandingValues.contains (p.word "noweb")

/-- Whether the block wants to be decorated by comments. -/
def wantsComments (p : Params) : Bool :=
  p.isYes "comments"

/-- The first line asked for in the destination. -/
def shebang (p : Params) : Text :=
  p.value "shebang"

/-- Whether the language's own rendering is switched off. -/
def suppressesExpansion (p : Params) : Bool :=
  p.flag "no-expand"

/-- Whether an empty line goes before the block when it is not the first of its file. -/
def padsLine (p : Params) : Bool :=
  !negations.contains (p.word "padline")

/-- The group of blocks that the block joins for references. -/
def group (p : Params) : Text :=
  p.value "noweb-ref"

/-- Whether missing directories above the destination are to be made. -/
def makesDirectories (p : Params) : Bool :=
  p.isYes "mkdirp"

/-- The arguments shown as a mapping of quoted texts. -/
def display (p : Params) : Text :=
  let entry := fun (pair : Text × Text) => Text.quoted pair.1 ++ ": " ++ Text.quoted pair.2
  "BlockParams(\x7b" ++ Text.join ", " (p.entries.map entry) ++ "\x7d)"

end Params

end Literate
