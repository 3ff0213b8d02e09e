import Literate.Text.Basic

/-!
# Tables of code points

A property of characters is given by an increasing list of closed ranges of
code points.  A look-up walks the list and stops at the first range that starts
beyond the character.
-/

namespace Literate
namespace Text

/-- A table of code points: closed ranges in increasing order. -/
abbrev Ranges := List (Nat × Nat)

/-- Whether the code point lies in one of the ranges. -/
def Ranges.mem (n : Nat) : Ranges → Bool
  | [] => false
  | (low, high) :: rest =>
      if n < low then false else n ≤ high || Ranges.mem n rest

end Text
end Literate
