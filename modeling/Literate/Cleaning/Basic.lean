import Literate.Reference
import Literate.Text.Lines

/-!
# Cleaning

A tangled file is cleaned by dropping every line that holds a file link,
`[[file:…]]` or `[[file:…][…]]`, or a reference.  All other lines are kept with
their ends.
-/

namespace Literate
namespace Cleaning

/-- Whether a character may stand inside the brackets of a link. -/
def isLinkChar (c : Char) : Bool :=
  !(c == '[' || c == ']' || c == '\n')

/-- Whether the text begins with the end of a link: a description in brackets or none, and a bracket. -/
def endsLink (t : Text) : Bool :=
  match t with
  | ']' :: _ => true
  | '[' :: rest => (Text.dropPrefix? "]]" (rest.dropWhile isLinkChar)).isSome
  | _ => false

/-- Whether the text begins with a file link. -/
def startsLink (t : Text) : Bool :=
  match Text.dropPrefix? "[[file:" t with
  | none => false
  | some rest =>
      !(rest.takeWhile isLinkChar).isEmpty &&
        match rest.dropWhile isLinkChar with
        | ']' :: after => endsLink after
        | _ => false

/-- Whether a text holds a file link. -/
def hasLink : Text → Bool
  | [] => false
  | c :: cs => startsLink (c :: cs) || hasLink cs

/-- Whether a line is dropped. -/
def isMarker (line : Text) : Bool :=
  hasLink line || Reference.occursIn line

/-- The text without its marker lines. -/
def clean (t : Text) : Text :=
  ((Text.linesWithEnds t).filter fun line => !isMarker line).flatten

/-- The number of marker lines of a text. -/
def markerCount (t : Text) : Nat :=
  ((Text.linesWithEnds t).filter isMarker).length

end Cleaning
end Literate
