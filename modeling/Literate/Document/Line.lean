import Literate.Header
import Literate.Text.Keyword
import Literate.Text.Lines
import Literate.Text.Word

/-!
# Lines of a document

Every line of a document falls in one class, whatever stands around it.  What a
line does depends on its class and on the state of the scan, which is the
business of `Literate.Document.Scan`.

**Classes.**  Headings; the three kinds of line that matter in a property
drawer; names; the first line of a block; other keywords; blank lines; and
prose.  The end of a block and the file-wide header arguments are recognised
separately, because they count in places where the class does not.
-/

namespace Literate
namespace Document

/-- The class of a line. -/
inductive Line
  /-- A heading with its level and its title. -/
  | heading (level : Nat) (title : Text)
  /-- The start of a property drawer. -/
  | drawerOpen
  /-- The end of a drawer. -/
  | drawerClose
  /-- Header arguments inside a drawer, for one language or for all. -/
  | drawerArguments (language : Option Text) (arguments : Text)
  /-- A name for the next block, empty when nothing follows the keyword. -/
  | name (value : Text)
  /-- The first line of a block: its language, empty when missing, and the rest of the line. -/
  | blockBegin (language rest : Text)
  /-- Any other keyword. -/
  | keyword
  /-- A line of blanks only. -/
  | blank
  /-- Any other line. -/
  | prose
deriving DecidableEq

/-- Whether a character may stand in the tags of a heading. -/
def isTagChar (c : Char) : Bool :=
  Text.isWord c || c == '@' || c == '#' || c == '%' || c == ':'

/-- Whether a text is a list of tags between colons. -/
def isTags (t : Text) : Bool :=
  match t with
  | ':' :: rest => decide (2 ≤ rest.length) && rest.getLast? == some ':' && rest.all isTagChar
  | _ => false

/-- A trimmed heading text without the tags at its end. -/
def withoutTags (t : Text) : Text :=
  let backwards := t.reverse
  let tags := (backwards.takeWhile fun c => !Text.isBlank c).reverse
  let before := backwards.dropWhile fun c => !Text.isBlank c
  if isTags tags && !before.isEmpty then (before.dropWhile Text.isBlank).reverse else t

/-- The level and the title of a heading: stars, a blank, and the title without its tags. -/
def heading? (line : Text) : Option (Nat × Text) :=
  let stars := line.takeWhile (· == '*')
  match line.dropWhile (· == '*') with
  | c :: rest =>
      if !stars.isEmpty && Text.isBlank c then
        some (stars.length, Text.trim (withoutTags (Text.trim rest)))
      else none
  | [] => none

/-- What follows a keyword that may be indented. -/
def keyword? (key : Text) (line : Text) : Option Text :=
  Text.dropKeyword? key (Text.trimLeft line)

/-- The language and the arguments of a drawer line with header arguments. -/
def drawerArguments? (line : Text) : Option (Option Text × Text) :=
  match keyword? ":header-args" line with
  | some (':' :: rest) =>
      let inLanguage := fun c => !(c == ':' || Text.isBlank c)
      match rest.takeWhile inLanguage, rest.dropWhile inLanguage with
      | c :: language, ':' :: arguments => some (some (c :: language), Text.trimLeft arguments)
      | _, _ => some (none, Text.trimLeft rest)
  | _ => none

/-- The language and the rest of the first line of a block. -/
def blockBegin? (line : Text) : Option (Text × Text) :=
  match keyword? "#+begin_src" line with
  | none => none
  | some rest =>
      let indented := rest.dropWhile fun c => c == ' ' || c == '\t'
      let language := indented.takeWhile fun c => !Text.isBlank c
      match language with
      | [] => some ([], rest)
      | c :: _ =>
          if c = ':' ∨ indented.length = rest.length then some ([], rest)
          else some (language, indented.dropWhile fun c => !Text.isBlank c)

/-- Whether a line ends a block. -/
def isBlockEnd (line : Text) : Bool :=
  match keyword? "#+end_src" line with
  | none => false
  | some [] => true
  | some (c :: _) => !Text.isWord c

/-- Whether a line is a keyword of any kind. -/
def isKeyword (line : Text) : Bool :=
  match Text.dropPrefix? "#+" (Text.trimLeft line) with
  | some (c :: _) => Text.isWord c
  | _ => false

/-- The language and the arguments of a line that sets header arguments for the whole file. -/
def fileArguments? (line : Text) : Option (Option Text × Text) :=
  match keyword? "#+property:" line with
  | none => none
  | some rest =>
      match Text.dropKeyword? "header-args" (Text.trimLeft rest) with
      | some (':' :: more) =>
          match more.takeWhile (fun c => !Text.isBlank c), more.dropWhile (fun c => !Text.isBlank c) with
          | c :: language, b :: arguments => some (some (c :: language), Text.trimLeft (b :: arguments))
          | _, _ => none
      | some (c :: arguments) =>
          if Text.isBlank c then some (none, Text.trimLeft arguments) else none
      | _ => none

/-- The class of a line. -/
def classify (line : Text) : Line :=
  match heading? line with
  | some (level, title) => .heading level title
  | none =>
  if Text.isKeyword ":properties:" (Text.trim line) then .drawerOpen
  else if Text.isKeyword ":end:" (Text.trim line) then .drawerClose
  else match drawerArguments? line with
  | some (language, arguments) => .drawerArguments language arguments
  | none =>
  match keyword? "#+name:" line with
  | some value => .name (Text.trim value)
  | none =>
  match blockBegin? line with
  | some (language, rest) => .blockBegin language rest
  | none =>
  if isKeyword line then .keyword
  else if Text.isAllBlank line then .blank
  else .prose

end Document
end Literate
