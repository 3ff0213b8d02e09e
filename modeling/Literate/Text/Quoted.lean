import Literate.Text.Printable

/-!
# Quoted text

A text is shown between single quotation marks, or between double ones when it
holds a single mark and no double one.  The mark in use and the backslash are
escaped by a backslash, the common controls by their letters, and any other
character that is not printable by its code point in two, four or eight
hexadecimal places.
-/

namespace Literate
namespace Text

/-- The mark that a quoted text is put between. -/
def quoteMark (t : Text) : Char :=
  if '\x27' ∈ t ∧ '"' ∉ t then '"' else '\x27'

/-- A character inside a text quoted with `mark`. -/
def quoteChar (mark c : Char) : Text :=
  if c = mark ∨ c = '\\' then ['\\', c]
  else if c = '\n' then ['\\', 'n']
  else if c = '\r' then ['\\', 'r']
  else if c = '\t' then ['\\', 't']
  else if isPrintable c then [c]
  else if c.toNat < 0x100 then '\\' :: 'x' :: ofHex 2 c.toNat
  else if c.toNat < 0x10000 then '\\' :: 'u' :: ofHex 4 c.toNat
  else '\\' :: 'U' :: ofHex 8 c.toNat

/-- The quoted form of a text. -/
def quoted (t : Text) : Text :=
  let mark := quoteMark t
  mark :: t.flatMap (quoteChar mark) ++ [mark]

end Text
end Literate
