import Literate.Text.Case
import Literate.Text.Quoted

/-!
# Code points

An escape can write half of a surrogate pair, which is no character.  A text
that is made from escapes is therefore a list of code points.

**Result.**  A text and its code points carry the same information
(`toText_ofText`).  In the other direction, a pair of surrogates stands for one
character, and a surrogate on its own for the replacement character.
-/

namespace Literate

/-- A text made from escapes: a list of code points. -/
abbrev CodePoints := List Nat

namespace CodePoints

/-- The code points of a text. -/
def ofText (t : Text) : CodePoints :=
  t.map Char.toNat

/-- Whether a code point is the first half of a pair. -/
def isHighSurrogate (n : Nat) : Bool :=
  0xd800 ≤ n && n ≤ 0xdbff

/-- Whether a code point is the second half of a pair. -/
def isLowSurrogate (n : Nat) : Bool :=
  0xdc00 ≤ n && n ≤ 0xdfff

/-- Whether a code point is half of a pair and no character. -/
def isSurrogate (n : Nat) : Bool :=
  isHighSurrogate n || isLowSurrogate n

/-- The code point that a pair stands for. -/
def ofPair (high low : Nat) : Nat :=
  0x10000 + (high - 0xd800) * 0x400 + (low - 0xdc00)

/-- The character of a code point; a surrogate is replaced. -/
def toChar (n : Nat) : Char :=
  if n.isValidChar then Char.ofNat n else '\ufffd'

/-- The text that code points show. -/
def toText : CodePoints → Text
  | [] => []
  | [n] => [toChar n]
  | n :: m :: rest =>
      if isHighSurrogate n && isLowSurrogate m then toChar (ofPair n m) :: toText rest
      else toChar n :: toText (m :: rest)

/-- The code points with the characters between surrogates changed by a function on texts. -/
def mapText (f : Text → Text) (points : CodePoints) : CodePoints :=
  go points []
where
  /-- Collects the characters since the last surrogate, in reverse. -/
  go : CodePoints → Text → CodePoints
    | [], run => ofText (f run.reverse)
    | n :: rest, run =>
        if isSurrogate n then ofText (f run.reverse) ++ n :: go rest []
        else go rest (toChar n :: run)

/-- The code points in lower case. -/
def lower (points : CodePoints) : CodePoints :=
  points.mapText Text.lower

/-- The code points in upper case. -/
def upper (points : CodePoints) : CodePoints :=
  points.mapText Text.upper

/-- A code point inside a text quoted with `mark`. -/
def quotePoint (mark : Char) (n : Nat) : Text :=
  if isSurrogate n then '\\' :: 'u' :: Text.ofHex 4 n else Text.quoteChar mark (toChar n)

/-- The quoted form of code points. -/
def quoted (points : CodePoints) : Text :=
  let mark := Text.quoteMark (points.map toChar)
  mark :: points.flatMap (quotePoint mark) ++ [mark]

/-- No character is a surrogate. -/
theorem isSurrogate_toNat (c : Char) : isSurrogate c.toNat = false := by
  have h := c.valid
  simp only [UInt32.isValidChar, Nat.isValidChar] at h
  simp only [isSurrogate, isHighSurrogate, isLowSurrogate, Char.toNat, Bool.or_eq_false_iff,
    Bool.and_eq_false_iff, decide_eq_false_iff_not]
  omega

/-- The character of a character's code point is the character. -/
theorem toChar_toNat (c : Char) : toChar c.toNat = c := by
  have h : c.toNat.isValidChar := c.valid
  simp only [toChar, h, if_true]
  exact Char.ofNat_toNat c

/-- The code points of a text show the text. -/
theorem toText_ofText : ∀ t : Text, toText (ofText t) = t
  | [] => rfl
  | [c] => by simp [ofText, toText, toChar_toNat]
  | c :: d :: rest => by
      have high : isHighSurrogate c.toNat = false :=
        (Bool.or_eq_false_iff.mp (isSurrogate_toNat c)).1
      have ih := toText_ofText (d :: rest)
      simp only [ofText, List.map_cons] at ih ⊢
      rw [toText, ih]
      simp [high, toChar_toNat]

end CodePoints
end Literate
