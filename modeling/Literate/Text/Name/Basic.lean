import Literate.Text.Name.Aliases
import Literate.Text.Name.Scripts
import Literate.Text.Name.Supplementary
import Literate.Text.Name.Symbols
import Literate.Text.Ranges

/-!
# Names of characters

Every character has at most one name and perhaps some aliases.  Most names are
found in tables, where capitals make no difference.  The names of the Hangul
syllables, of the unified ideographs and of some other characters, which end in
their code points, follow rules instead.
-/

namespace Literate
namespace Text

/-- The initial consonants of Hangul syllables. -/
def syllableInitials : List Text :=
  ["G", "GG", "N", "D", "DD", "R", "M", "B", "BB", "S", "SS", "", "J", "JJ", "C", "K", "T", "P", "H"]

/-- The vowels of Hangul syllables. -/
def syllableVowels : List Text :=
  ["A", "AE", "YA", "YAE", "EO", "E", "YEO", "YE", "O", "WA", "WAE", "OE", "YO", "U", "WEO", "WE",
   "WI", "YU", "EU", "YI", "I"]

/-- The final consonants of Hangul syllables. -/
def syllableFinals : List Text :=
  ["", "G", "GG", "GS", "N", "NJ", "NH", "D", "L", "LG", "LM", "LB", "LS", "LT", "LP", "LH", "M",
   "B", "BS", "S", "SS", "NG", "J", "C", "K", "T", "P", "H"]

/-- The number of the longest part that a text begins with, and what follows it. -/
def longestPart? (parts : List Text) (t : Text) : Option (Nat × Text) :=
  (parts.zipIdx.foldl (fun (best : Option (Nat × Nat × Text)) (part, number) =>
    match dropPrefix? part t, best with
    | none, _ => best
    | some rest, none => some (part.length, number, rest)
    | some rest, some (length, _, _) =>
        if length < part.length then some (part.length, number, rest) else best) none).map Prod.snd

/-- The code point of the Hangul syllable with a transcription. -/
def syllable? (t : Text) : Option Nat := do
  let (initial, t) ← longestPart? syllableInitials t
  let (vowel, t) ← longestPart? syllableVowels t
  let (final, t) ← longestPart? syllableFinals t
  if t.isEmpty then
    some (0xac00 + (initial * syllableVowels.length + vowel) * syllableFinals.length + final)
  else none

/-- The unified ideographs. -/
def ideographRanges : Ranges :=
  [(0x3400, 0x4dbf), (0x4e00, 0x9fff), (0x20000, 0x2a6df), (0x2a700, 0x2b738), (0x2b740, 0x2b81d),
   (0x2b820, 0x2cea1), (0x2ceb0, 0x2ebe0), (0x30000, 0x3134a)]

/-- The code point of the unified ideograph with a number of four or five hexadecimal digits. -/
def ideograph? (digits : Text) : Option Nat := do
  let n ← hexNumber? digits
  if (digits.length = 4 ∨ digits.length = 5) ∧ digits.all (fun c => c == c.toUpper) = true ∧
      Ranges.mem n ideographRanges = true then some n
  else none

/-- The characters of which each is named by a beginning and its own code point. -/
def numberedNames : List (Text × Ranges) :=
  [("CJK COMPATIBILITY IDEOGRAPH-", [(0xf900, 0xfa6d), (0xfa70, 0xfad9), (0x2f800, 0x2fa1d)]),
   ("KHITAN SMALL SCRIPT CHARACTER-", [(0x18b00, 0x18cd5)]),
   ("NUSHU CHARACTER-", [(0x1b170, 0x1b2fb)])]

/-- The code point of the character with a name in capitals that ends in it. -/
def numbered? (name : Text) : Option Nat :=
  numberedNames.findSome? fun (beginning, ranges) => do
    let digits ← dropPrefix? beginning name
    let n ← hexNumber? digits
    if digits = (ofHex 4 n).map Char.toUpper ∧ Ranges.mem n ranges = true then some n else none

/-- The code point of the character with a name. -/
def codePointNamed? (name : Text) : Option Nat :=
  match dropPrefix? "HANGUL SYLLABLE " name, dropPrefix? "CJK UNIFIED IDEOGRAPH-" name with
  | some transcription, _ => syllable? transcription
  | none, some digits => ideograph? digits
  | none, none =>
      let name := name.map Char.toUpper
      (numbered? name).or
        ([scriptNames, symbolNames, supplementaryNames, aliasNames].findSome?
          (NameRuns.find? (splitOn ' ' name)))

end Text
end Literate
