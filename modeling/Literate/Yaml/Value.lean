import Literate.Decimal
import Literate.Yaml.Timestamp

/-!
# Values of a YAML text

A value is a scalar or refers to a collection by its number, so that the same
collection can be part of several others and even of itself.

**Text of a value.**  Each value has a text of its own and a text inside a
collection, which differ for texts and times.  A collection inside itself is
shown by dots.  A number with too many digits has no text.
-/

namespace Literate
namespace Yaml

/-- A value. -/
inductive Value
  | null
  | bool (b : Bool)
  | int (n : Int)
  | float (x : Float)
  | text (points : CodePoints)
  | bytes (content : List UInt8)
  | time (t : Timestamp)
  /-- The collection with a number. -/
  | ref (number : Nat)
deriving Inhabited

/-- A collection of values. -/
inductive Collection
  | list (items : List Value)
  | mapping (pairs : List (Value × Value))
  | set (items : List Value)
  /-- A key with its value, in an ordered list of pairs. -/
  | pair (key value : Value)
deriving Inhabited

/-- A value with the collections that it is made of. -/
structure Data where
  /-- The value. -/
  root : Value
  /-- The collections by their numbers. -/
  collections : Array Collection := #[]

section Keys

/-- A number as a whole number, when it is one. -/
def Value.whole? : Value → Option Int
  | .int n => some n
  | .bool b => some (if b then 1 else 0)
  | .float x =>
      match Decimal.partsOfBits x.toBits.toNat with
      | .finite negative m q _ =>
          let size : Option Nat :=
            if 0 ≤ q then some (m * Nat.pow 2 q.toNat)
            else if m % Nat.pow 2 (-q).toNat = 0 then some (m / Nat.pow 2 (-q).toNat)
            else none
          size.map fun n => if negative then -(Int.ofNat n) else n
      | _ => none
  | _ => none

/-- Whether two keys are the same key.  Numbers are compared as numbers. -/
def Value.sameKey (a b : Value) : Bool :=
  match a.whole?, b.whole? with
  | some x, some y => x == y
  | none, none =>
      match a, b with
      | .null, .null => true
      | .text s, .text t => s == t
      | .float x, .float y => x == y || (x.isNaN && y.isNaN)
      | .bytes s, .bytes t => s == t
      | .time s, .time t => s.same t
      | _, _ => false
  | _, _ => false

/-- Whether a value can be a key: a collection cannot. -/
def Value.canBeKey : Value → Bool
  | .ref _ => false
  | _ => true

/-- The pairs of a mapping after one more: a known key keeps its place. -/
def putPair (key value : Value) : List (Value × Value) → List (Value × Value)
  | [] => [(key, value)]
  | (k, v) :: rest =>
      if k.sameKey key then (k, value) :: rest else (k, v) :: putPair key value rest

end Keys

section Display

/-- Numbers with a fraction: positional from a ten-thousandth up to ten quadrillions, with an exponent of at
least two digits otherwise. -/
def floatLayout : Decimal.Layout where
  leastPlain := -4
  firstScientific := 16
  exponentWidth := 2

/-- The text of a number with a fraction. -/
def floatText (x : Float) : Text :=
  match Decimal.partsOfBits x.toBits.toNat with
  | .nan => "nan"
  | .infinite negative => if negative then "-inf" else "inf"
  | .finite negative m q least =>
      let sign : Text := if negative then "-" else []
      if m = 0 then sign ++ "0.0" else sign ++ floatLayout.write (Decimal.shortest m q least)

/-- The quotation mark around bytes inside a collection. -/
def bytesMark (content : List UInt8) : UInt8 :=
  if content.contains 39 && !content.contains 34 then 34 else 39

/-- A byte between quotation marks. -/
def byteDisplay (mark b : UInt8) : Text :=
  if b = mark ∨ b = 92 then ['\\', Char.ofNat b.toNat]
  else if b = 9 then "\\t"
  else if b = 10 then "\\n"
  else if b = 13 then "\\r"
  else if 32 ≤ b ∧ b < 127 then [Char.ofNat b.toNat]
  else "\\x" ++ Text.ofHex 2 b.toNat

/-- Bytes between quotation marks. -/
def bytesDisplay (content : List UInt8) : Text :=
  let mark := bytesMark content
  'b' :: Char.ofNat mark.toNat :: content.flatMap (byteDisplay mark) ++ [Char.ofNat mark.toNat]

/-- The text of a scalar inside a collection; a collection has none of its own. -/
def Value.scalarDisplay? : Value → Option Text
  | .null => some "None"
  | .bool b => some (if b then "True" else "False")
  | .int n => Text.ofInt? n
  | .float x => some (floatText x)
  | .text points => some points.quoted
  | .bytes content => some (bytesDisplay content)
  | .time t => some t.display
  | .ref _ => none

/-- A collection inside itself. -/
def Collection.dots : Collection → Text
  | .list _ => "[...]"
  | .mapping _ => "\x7b...\x7d"
  | .set _ => "set(...)"
  | .pair _ _ => "(...)"

/-- A collection whose values are shown by a function. -/
def Collection.displayWith (display : Value → Option Text) : Collection → Option Text
  | .list items => do some ("[" ++ Text.join ", " (← items.mapM display) ++ "]")
  | .mapping pairs => do
      let shown ← pairs.mapM fun (key, value) => do
        some ((← display key) ++ ": " ++ (← display value))
      some ("\x7b" ++ Text.join ", " shown ++ "\x7d")
  | .set items =>
      if items.isEmpty then some "set()"
      else do some ("\x7b" ++ Text.join ", " (← items.mapM display) ++ "\x7d")
  | .pair key value => do some ("(" ++ (← display key) ++ ", " ++ (← display value) ++ ")")

namespace Data

/-- The collection with a number. -/
def collection? (data : Data) (number : Nat) : Option Collection :=
  data.collections[number]?

/-- The text of a value inside the collections with the numbers `outside`.  The depth bounds their
number. -/
def displayIn (data : Data) : Nat → List Nat → Value → Option Text
  | 0, _, value => value.scalarDisplay?
  | depth + 1, outside, value =>
      match value with
      | .ref number => do
          let found ← data.collection? number
          if outside.contains number then some found.dots
          else found.displayWith (data.displayIn depth (number :: outside))
      | other => other.scalarDisplay?

/-- The text of a value inside a collection. -/
def display (data : Data) (value : Value) : Option Text :=
  data.displayIn (data.collections.size + 1) [] value

/-- The text of a value on its own; `none` for a number with too many digits. -/
def textOf (data : Data) : Value → Option Text
  | .text points => some points.toText
  | .time t => some t.toText
  | other => data.display other

/-- The pairs of a mapping; `none` for anything else. -/
def pairs? (data : Data) : Value → Option (List (Value × Value))
  | .ref number =>
      match data.collection? number with
      | some (.mapping pairs) => some pairs
      | _ => none
  | _ => none

/-- The items of a list; `none` for anything else. -/
def items? (data : Data) : Value → Option (List Value)
  | .ref number =>
      match data.collection? number with
      | some (.list items) => some items
      | _ => none
  | _ => none

/-- Whether a value counts as nothing: null, no, zero, or something empty. -/
def isNothing (data : Data) : Value → Bool
  | .null => true
  | .bool b => !b
  | .int n => n == 0
  | .float x => x == 0.0
  | .text points => points.isEmpty
  | .bytes content => content.isEmpty
  | .time _ => false
  | .ref number =>
      match data.collection? number with
      | some (.list items) => items.isEmpty
      | some (.mapping pairs) => pairs.isEmpty
      | some (.set items) => items.isEmpty
      | _ => false

end Data

end Display

end Yaml
end Literate
