import Literate.Text.Basic

/-!
# Tables of character names

The names of neighbouring characters often begin with the same words.  A table
is a list of runs.  A run gives the names of characters in the order of their code
points; each name may leave out words that it shares with the name before it.

**Written form.**  The entries of a run are divided by semicolons, and a run is
divided into lines where it is long.  A small letter in front of a name says how
many words are taken from the name before: `a` for one, `b` for two, and so on.
After that, a word that is one small letter stands for a frequent word.  A plus
sign and a numeral stand for as many names that count on from the name before,
whose last word ends in digits; a minus sign and a numeral, for as many
characters without a name.
-/

namespace Literate
namespace Text

/-- A table of names: runs with the code point of their first character. -/
abbrev NameRuns := List (Nat × List String)

namespace NameRuns

/-- The words that are written as one small letter, in the order of the letters. -/
def frequentWords : List String :=
  ["LETTER", "WITH", "CAPITAL", "SMALL", "FORM", "ARROW", "SIGN", "RIGHT", "ABOVE", "ISOLATED",
    "RIGHTWARDS", "DOUBLE", "BELOW", "FINAL", "LEFT", "AND", "VERTICAL", "LEFTWARDS", "INITIAL",
    "THREE", "TRIANGLE-HEADED", "STROKE", "SYMBOL", "BLACK", "HORIZONTAL", "WHITE"]

/-- The word that a word of an entry stands for. -/
def wordOf (written : Text) : Text :=
  match written with
  | [c] => if 'a' ≤ c ∧ c ≤ 'z' then (frequentWords.getD (c.toNat - 'a'.toNat) "").toList else [c]
  | _ => written

/-- The words of a name, when those of the name before it are known. -/
def wordsAfter (before : List Text) (entry : Text) : List Text :=
  match entry with
  | c :: rest =>
      if 'a' ≤ c ∧ c ≤ 'z' then
        before.take (c.toNat - 'a'.toNat + 1) ++ (splitOn ' ' rest).map wordOf
      else (splitOn ' ' entry).map wordOf
  | [] => []

/-- The number written by decimal digits. -/
def decimal (digits : Text) : Nat :=
  digits.foldl (fun n c => n * 10 + (c.toNat - '0'.toNat)) 0

/-- The words of a name with `k` added to the number at the end of the last one. -/
def countOn (words : List Text) (k : Nat) : List Text :=
  let last := words.getLastD []
  let digits := (last.reverse.takeWhile Char.isDigit).reverse
  words.dropLast ++
    [last.take (last.length - digits.length) ++ ofNatPadded digits.length (decimal digits + k)]

/-- The words of the names that an entry stands for, and those of the last name by then; a character
without a name has no words. -/
def namesAfter (before : List Text) (entry : Text) : List (List Text) × List Text :=
  match entry with
  | '+' :: count => ((List.range' 1 (decimal count)).map (countOn before), countOn before (decimal count))
  | '-' :: count => (List.replicate (decimal count) [], before)
  | _ => ([wordsAfter before entry], wordsAfter before entry)

/-- The words of the names that entries stand for, after a given name. -/
def namesFrom (before : List Text) : List Text → List (List Text)
  | [] => []
  | entry :: rest =>
      let (names, last) := namesAfter before entry
      names ++ namesFrom last rest

/-- The code point of the name with given words. -/
def find? (words : List Text) (runs : NameRuns) : Option Nat :=
  runs.findSome? fun (start, lines) =>
    ((namesFrom [] (lines.flatMap fun line => splitOn ';' line.toList)).idxOf? words).map (start + ·)

end NameRuns

end Text
end Literate
