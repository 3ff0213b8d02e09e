import Literate.Text.Blank
import Literate.Text.Digit

/-!
# Assignments of variables

The `var` argument of a block lists assignments `name=value` between commas.
Commas between quotation marks do not count.  A value between equal quotation
marks is a text; any other value is a number when it is written like one, and a
text otherwise.
-/

namespace Literate

/-- An assignment of a value to a variable. -/
structure Assignment where
  /-- The variable. -/
  name : Text
  /-- The value without quotation marks. -/
  value : Text
  /-- Whether the value is a number. -/
  isNumber : Bool
deriving DecidableEq

namespace Assignment

/-- The open quotation mark after one more character. -/
def nextQuote (quote : Option Char) (c : Char) : Option Char :=
  if c = '"' ∨ c = '\x27' then
    match quote with
    | none => some c
    | some q => if q = c then none else some q
  else quote

/-- The pieces of a text between the commas that stand outside quotation marks. -/
def splitItems (quote : Option Char) : Text → List Text
  | [] => [[]]
  | c :: cs =>
      if c = ',' ∧ quote = none then
        [] :: splitItems none cs
      else
        match splitItems (nextQuote quote c) cs with
        | [] => [[c]]
        | item :: items => (c :: item) :: items

/-- The text after an optional sign. -/
def dropSign : Text → Text
  | c :: cs => if c = '+' ∨ c = '-' then cs else c :: cs
  | [] => []

/-- Whether a text is empty or the exponent of a number. -/
def isExponent : Text → Bool
  | [] => true
  | c :: cs =>
      let digits := dropSign cs
      (c == 'e' || c == 'E') && !digits.isEmpty && digits.all Text.isDigit

/-- Whether a text is a number: a sign, digits with a point before, between or after them, and an
exponent, where only the digits are required. -/
def isNumeral (t : Text) : Bool :=
  let unsigned := dropSign t
  let whole := unsigned.takeWhile Text.isDigit
  match unsigned.dropWhile Text.isDigit with
  | '.' :: rest =>
      !(whole.isEmpty && (rest.takeWhile Text.isDigit).isEmpty) &&
        isExponent (rest.dropWhile Text.isDigit)
  | rest => !whole.isEmpty && isExponent rest

/-- The assignment written in one item; an item without a name or an equals sign is none. -/
def ofItem? (item : Text) : Option Assignment :=
  match Text.cut '=' item with
  | (_, none) => none
  | (name, some value) =>
      let name := Text.trim name
      let value := Text.trim value
      if name.isEmpty then none
      else if Text.unquote value = value then some ⟨name, value, isNumeral value⟩
      else some ⟨name, Text.unquote value, false⟩

/-- The assignments written in a text. -/
def parse (t : Text) : List Assignment :=
  ((splitItems none t).map Text.trim).filterMap fun item =>
    if item.isEmpty then none else ofItem? item

end Assignment
end Literate
