import Literate.Text.Blank

/-!
# Lines

A line ends at a line feed, a carriage return, the pair of both, a vertical
tab, a form feed, one of the three upper information separators, the next-line
control, or one of the two Unicode separators.  The last line needs no end.
-/

namespace Literate
namespace Text

/-- The characters that end a line. -/
def lineEndRanges : Ranges :=
  [(10, 13), (28, 30), (133, 133), (8232, 8233)]

/-- Whether a character ends a line. -/
def isLineEnd (c : Char) : Bool :=
  Ranges.mem c.toNat lineEndRanges

/-- The lines of a text without their ends. -/
def lines : Text → List Text
  | [] => []
  | '\r' :: '\n' :: cs => [] :: lines cs
  | c :: cs =>
      if isLineEnd c then
        [] :: lines cs
      else
        match lines cs with
        | [] => [[c]]
        | line :: rest => (c :: line) :: rest

/-- The lines of a text, each with its end. -/
def linesWithEnds : Text → List Text
  | [] => []
  | '\r' :: '\n' :: cs => ['\r', '\n'] :: linesWithEnds cs
  | c :: cs =>
      if isLineEnd c then
        [c] :: linesWithEnds cs
      else
        match linesWithEnds cs with
        | [] => [[c]]
        | line :: rest => (c :: line) :: rest

/-- The text with every carriage return, alone or before a line feed, turned into a line feed. -/
def unifyLineEnds : Text → Text
  | [] => []
  | '\r' :: '\n' :: cs => '\n' :: unifyLineEnds cs
  | c :: cs => (if c = '\r' then '\n' else c) :: unifyLineEnds cs

end Text
end Literate
