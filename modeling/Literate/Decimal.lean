import Literate.Text.Basic

/-!
# Decimal text of binary fractions

A binary floating-point number is written with the fewest decimal digits that
read back as the same number; of several such numerals the nearest is taken,
and a tie goes to the even digit.

**Method.**  The numbers that read back as `m · 2 ^ q` form an interval around
it.  For one digit, two digits and so on, the two neighbours of the number on
the grid of that many digits are tested for lying in the interval, in exact
arithmetic.
-/

namespace Literate
namespace Decimal

/-- A decimal numeral: its digits as a number, and the power of ten they are multiplied by. -/
structure Numeral where
  /-- The digits as a number. -/
  digits : Nat
  /-- The power of ten. -/
  exponent : Int
deriving DecidableEq

/-- The parts of a floating-point number. -/
inductive Parts
  /-- Not a number. -/
  | nan
  /-- An infinity with its sign. -/
  | infinite (negative : Bool)
  /-- A number `m · 2 ^ q` with its sign; `least` says that `m` is the least of its binary order. -/
  | finite (negative : Bool) (m : Nat) (q : Int) (least : Bool)
deriving DecidableEq

/-- The parts of the number with given bits. -/
def partsOfBits (bits : Nat) : Parts :=
  let negative := bits / Nat.pow 2 63 % 2 == 1
  let order := bits / Nat.pow 2 52 % Nat.pow 2 11
  let fraction := bits % Nat.pow 2 52
  if order = Nat.pow 2 11 - 1 then
    if fraction = 0 then .infinite negative else .nan
  else if order = 0 then .finite negative fraction (-1074) false
  else
    .finite negative (fraction + Nat.pow 2 52) (Int.ofNat order - 1075)
      (fraction == 0 && decide (1 < order))

/-- `n · 2 ^ a · 10 ^ b` as a fraction. -/
def scaled (n : Nat) (a b : Int) : Nat × Nat :=
  (n * Nat.pow 2 a.toNat * Nat.pow 10 b.toNat, Nat.pow 2 (-a).toNat * Nat.pow 10 (-b).toNat)

/-- The number of decimal places by which a positive fraction below one has to be shifted to reach one. -/
def placesBelowOne (numerator denominator : Nat) : Nat → Nat → Nat
  | 0, places => places
  | fuel + 1, places =>
      if denominator ≤ numerator * Nat.pow 10 places then places
      else placesBelowOne numerator denominator fuel (places + 1)

/-- The decimal order of a positive number: the greatest power of ten not above it. -/
def order (m : Nat) (q : Int) : Int :=
  let (numerator, denominator) := scaled m q 0
  if denominator ≤ numerator then
    Int.ofNat ((Text.ofNat (numerator / denominator)).length - 1)
  else
    -(Int.ofNat (placesBelowOne numerator denominator 400 1))

/-- The neighbour of `m · 2 ^ q` on the grid of a number of digits that reads back as it, if there is one. -/
def onGrid? (m : Nat) (q : Int) (least : Bool) (top : Int) (count : Nat) : Option Numeral :=
  let unit := top - Int.ofNat count + 1
  let quarter := fun n => scaled n (q - 2) (-unit)
  let (middle, denominator) := quarter (4 * m)
  let low := (quarter (4 * m - (if least then 1 else 2))).1
  let high := (quarter (4 * m + 2)).1
  let inside := fun c =>
    let x := c * denominator
    if m % 2 = 0 then decide (low ≤ x ∧ x ≤ high) else decide (low < x ∧ x < high)
  let below := middle / denominator
  let above := below + 1
  let toBelow := middle - below * denominator
  let toAbove := above * denominator - middle
  let nearer := if toBelow < toAbove ∨ (toBelow = toAbove ∧ below % 2 = 0) then below else above
  if inside nearer then some ⟨nearer, unit⟩
  else if inside below then some ⟨below, unit⟩
  else if inside above then some ⟨above, unit⟩
  else none

/-- The shortest numeral that reads back as `m · 2 ^ q`. -/
def shortest (m : Nat) (q : Int) (least : Bool) : Numeral :=
  let top := order m q
  ((List.range 17).findSome? fun n => onGrid? m q least top (n + 1)).getD ⟨m, 0⟩

/-- A numeral without zeros at its end. -/
def Numeral.trim : Nat → Numeral → Numeral
  | 0, n => n
  | fuel + 1, n =>
      if n.digits ≠ 0 ∧ n.digits % 10 = 0 then Numeral.trim fuel ⟨n.digits / 10, n.exponent + 1⟩
      else n

/-- How numerals are laid out. -/
structure Layout where
  /-- The least decimal order that is written without an exponent. -/
  leastPlain : Int
  /-- The decimal order from which on an exponent is written. -/
  firstScientific : Int
  /-- The least number of digits in an exponent. -/
  exponentWidth : Nat

/-- A positive numeral laid out: positional for moderate orders, with an exponent otherwise. -/
def Layout.write (layout : Layout) (n : Numeral) : Text :=
  let n := n.trim 20
  let digits := Text.ofNat n.digits
  let top := n.exponent + Int.ofNat digits.length - 1
  if top < layout.leastPlain ∨ layout.firstScientific ≤ top then
    let mantissa : Text := match digits with
      | first :: second :: rest => first :: '.' :: second :: rest
      | _ => digits
    let sign : Text := if top < 0 then "-" else "+"
    mantissa ++ "e" ++ sign ++ Text.ofNatPadded layout.exponentWidth top.natAbs
  else if top < 0 then
    "0." ++ List.replicate (-top - 1).toNat '0' ++ digits
  else
    let whole := top.toNat + 1
    let padded := digits ++ List.replicate (whole - digits.length) '0'
    let fraction := padded.drop whole
    padded.take whole ++ "." ++ (if fraction.isEmpty then ['0'] else fraction)

end Decimal
end Literate
