import Literate.Text.Blank
import Literate.Text.Digit

/-!
# Numerals

Numerals as people write them: blanks around them, a sign in front, and decimal
digits of any script.  A whole number may be written in another base after a
zero and a letter.  A number with a fraction is a numeral with a point and an
exponent, an infinity, or not a number.
-/

namespace Literate
namespace Text

/-- Whether a blank may stand around a numeral; the information separators may not. -/
def isNumeralBlank (c : Char) : Bool :=
  isBlank c && !('\x1c' ≤ c && c ≤ '\x1f')

/-- A text without the blanks that may stand around a numeral. -/
def trimNumeral (t : Text) : Text :=
  ((t.dropWhile isNumeralBlank).reverse.dropWhile isNumeralBlank).reverse

/-- Whether a text begins with a minus sign, and the text after a sign. -/
def cutSign : Text → Bool × Text
  | c :: cs => if c = '-' then (true, cs) else if c = '+' then (false, cs) else (false, c :: cs)
  | [] => (false, [])

/-- The letter that announces a base after a zero. -/
def baseLetter (base : Nat) : Option Char :=
  [(2, 'b'), (8, 'o'), (16, 'x')].lookup base

/-- The digits of a numeral without the letter that announces its base. -/
def dropBase (base : Nat) (t : Text) : Text :=
  match t with
  | '0' :: c :: rest => if baseLetter base = some c.toLower then rest else t
  | _ => t

/-- The whole number that a numeral of a base writes; a decimal one must not have too many digits. -/
def integerIn? (base : Nat) (t : Text) : Option Int := do
  let (negative, unsigned) := cutSign (trimNumeral t)
  let digits := dropBase base unsigned
  if digits.isEmpty ∨ (base = 10 ∧ digitLimit < digits.length) then none
  else do
    let n ← numberIn? base digits
    some (if negative then -(Int.ofNat n) else n)

/-- The floating-point number nearest to `digits · 10 ^ power`. -/
def nearestFloat (digits : Nat) (power : Int) : Float :=
  let order := Int.ofNat (ofNat digits).length + power
  if digits = 0 ∨ order < -330 then 0.0
  else if 310 < order then 1.0 / 0.0
  else Float.ofScientific digits (decide (power < 0)) power.natAbs

/-- The exponent at the end of a numeral. -/
def exponent? : Text → Option Int
  | [] => some 0
  | e :: rest =>
      if e = 'e' ∨ e = 'E' then
        let (negative, digits) := cutSign rest
        if digits.isEmpty then none
        else (numberIn? 10 digits).map fun n => if negative then -(Int.ofNat n) else n
      else none

/-- The number that a numeral without sign and blanks writes. -/
def unsignedFloat? (t : Text) : Option Float :=
  let word := t.map Char.toLower
  if word = "inf" ∨ word = "infinity" then some (1.0 / 0.0)
  else if word = "nan" then some (0.0 / 0.0)
  else do
    let whole := t.takeWhile isDigit
    let (fraction, rest) := match t.drop whole.length with
      | '.' :: more => (more.takeWhile isDigit, more.dropWhile isDigit)
      | other => ([], other)
    let digits := whole ++ fraction
    if digits.isEmpty then none
    else do
      let n ← numberIn? 10 digits
      let exponent ← exponent? rest
      some (nearestFloat n (exponent - Int.ofNat fraction.length))

/-- The number with a fraction that a numeral writes. -/
def float? (t : Text) : Option Float :=
  let (negative, unsigned) := cutSign (trimNumeral t)
  (unsignedFloat? unsigned).map fun x => if negative then -x else x

end Text
end Literate
