import Literate.Text.Ranges

/-!
# Blank characters and trimming

A character is blank when it is white space in the sense of the Unicode
standard (property White_Space or one of the four information separators).
-/

namespace Literate
namespace Text

/-- The blank characters. -/
def blankRanges : Ranges :=
  [(9, 13), (28, 32), (133, 133), (160, 160), (5760, 5760), (8192, 8202), (8232, 8233),
   (8239, 8239), (8287, 8287), (12288, 12288)]

/-- Whether a character is blank. -/
def isBlank (c : Char) : Bool :=
  Ranges.mem c.toNat blankRanges

/-- The text without the blanks at its beginning. -/
def trimLeft (t : Text) : Text :=
  t.dropWhile isBlank

/-- The text without the blanks at its end. -/
def trimRight (t : Text) : Text :=
  (t.reverse.dropWhile isBlank).reverse

/-- The text without the blanks at both ends. -/
def trim (t : Text) : Text :=
  trimRight (trimLeft t)

/-- Whether the text has no character but blanks. -/
def isAllBlank (t : Text) : Bool :=
  t.all isBlank

/-- The maximal runs of characters that are not blank. -/
def fields (t : Text) : List Text :=
  go [] t
where
  /-- Collects the current run in reverse. -/
  go (run : Text) : Text → List Text
    | [] => if run.isEmpty then [] else [run.reverse]
    | c :: cs =>
        if isBlank c then
          if run.isEmpty then go [] cs else run.reverse :: go [] cs
        else
          go (c :: run) cs

/-- The text without one pair of equal quotation marks around it. -/
def unquote (t : Text) : Text :=
  match t with
  | [] => t
  | q :: rest =>
      if (q = '"' ∨ q = '\x27') ∧ rest.getLast? = some q then rest.dropLast else t

end Text
end Literate
