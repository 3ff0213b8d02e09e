/-!
# Text

A text is the list of its code points.  Every function of the library that
reads or writes text is a function on such lists, so that it can be followed by
structural recursion; strings appear only where the outside world is met.

**Contents.**  Joining, cutting and splitting at a character, removal of an
expected beginning, and decimal numerals.
-/

namespace Literate

/-- A text is the list of its code points. -/
abbrev Text := List Char

/-- A string literal stands for the list of its characters. -/
instance stringCoe : Coe String (List Char) := ⟨String.toList⟩

namespace Text

/-- The texts one after another with `sep` between neighbours. -/
def join (sep : Text) : List Text → Text
  | [] => []
  | [t] => t
  | t :: u :: rest => t ++ sep ++ join sep (u :: rest)

/-- The pieces of a text between the occurrences of one character. -/
def splitOn (sep : Char) : Text → List Text
  | [] => [[]]
  | c :: cs =>
      if c = sep then
        [] :: splitOn sep cs
      else
        match splitOn sep cs with
        | [] => [[c]]
        | piece :: pieces => (c :: piece) :: pieces

/-- The text before the first `sep`, and the text after it when there is one. -/
def cut (sep : Char) : Text → Text × Option Text
  | [] => ([], none)
  | c :: cs =>
      if c = sep then
        ([], some cs)
      else
        let (before, after) := cut sep cs
        (c :: before, after)

/-- What follows `expected` when the text begins with it. -/
def dropPrefix? : Text → Text → Option Text
  | [], t => some t
  | _ :: _, [] => none
  | e :: es, c :: cs => if e = c then dropPrefix? es cs else none

/-- Whether `part` occurs somewhere in the text. -/
def includes (part : Text) : Text → Bool
  | [] => part.isEmpty
  | c :: cs => (dropPrefix? part (c :: cs)).isSome || includes part cs

/-- The text with every occurrence of one character replaced by a text. -/
def substitute (old : Char) (new : Text) (t : Text) : Text :=
  t.flatMap fun c => if c = old then new else [c]

/-- The last piece of a text after its last line feed. -/
def lastLine (t : Text) : Text :=
  (splitOn '\n' t).getLastD []

/-- The decimal numeral of a natural number. -/
def ofNat (n : Nat) : Text :=
  Nat.toDigits 10 n

/-- The decimal numeral of an integer, with a minus sign for the negative ones. -/
def ofInt : Int → Text
  | .ofNat n => ofNat n
  | .negSucc n => '-' :: ofNat (n + 1)

/-- The lower-case hexadecimal numeral of `n` in at least `width` places. -/
def ofHex (width n : Nat) : Text :=
  let digits := Nat.toDigits 16 n
  List.replicate (width - digits.length) '0' ++ digits

/-- The value of a hexadecimal digit. -/
def hexDigit? (c : Char) : Option Nat :=
  if c.isDigit then some (c.toNat - '0'.toNat)
  else if 'a' ≤ c ∧ c ≤ 'f' then some (c.toNat - 'a'.toNat + 10)
  else if 'A' ≤ c ∧ c ≤ 'F' then some (c.toNat - 'A'.toNat + 10)
  else none

/-- The number written by hexadecimal digits. -/
def hexNumber? (digits : Text) : Option Nat :=
  digits.foldl (fun acc c => do return (← acc) * 16 + (← hexDigit? c)) (some 0)

/-- The decimal numeral of `n` in at least `width` places. -/
def ofNatPadded (width n : Nat) : Text :=
  let digits := ofNat n
  List.replicate (width - digits.length) '0' ++ digits

/-- The number of bytes of the text's UTF-8 form. -/
def byteLength (t : Text) : Nat :=
  t.foldr (fun c size => c.utf8Size + size) 0

/-- The order of texts by their code points. -/
def precedes : Text → Text → Bool
  | [], _ => true
  | _ :: _, [] => false
  | a :: as, b :: bs => if a = b then precedes as bs else a < b

end Text

end Literate
