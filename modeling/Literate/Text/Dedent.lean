import Literate.Text.Basic

/-!
# Common indentation

The indentation of a line is its leading run of spaces and tabs.  Removing the
common indentation empties the lines that hold nothing else, and shortens every
other line by the longest beginning that all their indentations share.
-/

namespace Literate
namespace Text

/-- A space or a tab. -/
def isIndent (c : Char) : Bool :=
  c == ' ' || c == '\t'

/-- The longest common beginning of two texts. -/
def commonPrefix : Text → Text → Text
  | a :: as, b :: bs => if a = b then a :: commonPrefix as bs else []
  | _, _ => []

/-- The indentation of a line. -/
def indentOf (line : Text) : Text :=
  line.takeWhile isIndent

/-- The longest indentation shared by the lines that hold more than indentation. -/
def margin (lines : List Text) : Text :=
  match (lines.filter fun line => !line.all isIndent).map indentOf with
  | [] => []
  | first :: rest => rest.foldl commonPrefix first

/-- The lines without their common indentation. -/
def dedent (lines : List Text) : List Text :=
  let width := (margin lines).length
  lines.map fun line => if line.all isIndent then [] else line.drop width

end Text
end Literate
