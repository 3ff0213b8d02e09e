import Literate.Text.Basic

/-!
# Keywords regardless of case

A keyword is written in lower-case letters and marks.  A letter of it stands
for both of its cases; `i` stands also for the dotted capital and the dotless
small letter, `s` for the long s, and `k` for the Kelvin sign, which are the
characters whose case forms meet these letters.
-/

namespace Literate
namespace Text

/-- The characters beyond ASCII that count as a form of an ASCII letter. -/
def letterVariants : List (Char × List Char) :=
  [('i', ['\u0130', '\u0131']), ('k', ['\u212a']), ('s', ['\u017f'])]

/-- Whether a character is a form of the keyword's character. -/
def isFormOf (key c : Char) : Bool :=
  c == key || c.toLower == key || ((letterVariants.lookup key).getD []).contains c

/-- What follows the keyword when the text begins with a form of it. -/
def dropKeyword? : Text → Text → Option Text
  | [], t => some t
  | _ :: _, [] => none
  | k :: ks, c :: cs => if isFormOf k c then dropKeyword? ks cs else none

/-- Whether the text is a form of the keyword. -/
def isKeyword (key t : Text) : Bool :=
  dropKeyword? key t == some []

end Text
end Literate
