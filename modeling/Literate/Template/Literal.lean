import Literate.Text.CodePoints
import Literate.Text.Digit
import Literate.Text.Name.Basic

/-!
# Literals of a template

A whole number is written in decimal digits of any script, or in another base
after `0b`, `0o` or `0x`; single bars may divide its digits.  A text stands
between quotation marks and may hold escapes.
-/

namespace Literate
namespace Template

section Numbers

/-- The digits that a text begins with, single bars between them left out, and what follows them. -/
def digitRun (isDigit : Char → Bool) : Text → Text × Text
  | [] => ([], [])
  | [c] => if isDigit c then ([c], []) else ([], [c])
  | c :: d :: cs =>
      if isDigit c then
        let (digits, rest) := digitRun isDigit (d :: cs)
        (c :: digits, rest)
      else if c = '_' ∧ isDigit d = true then digitRun isDigit (d :: cs)
      else ([], c :: d :: cs)

/-- Whether a character is a digit of a base; a base below ten takes plain digits only. -/
def isDigitIn (base : Nat) (c : Char) : Bool :=
  match if base < 10 then Text.hexDigit? c else Text.digitIn? base c with
  | some d => decide (d < base)
  | none => false

/-- The base that a letter after a zero announces. -/
def baseOf (letter : Char) : Option Nat :=
  [('b', 2), ('o', 8), ('x', 16)].lookup letter.toLower

/-- The whole number that a text with the mark of its base begins with. -/
def basedNumber? : Text → Option (Nat × Text)
  | '0' :: letter :: rest => do
      let base ← baseOf letter
      match digitRun (isDigitIn base) rest with
      | ([], _) => none
      | (digits, after) => some ((Text.numberIn? base digits).getD 0, after)
  | _ => none

/-- The decimal digits that a text begins with, and what follows them.  Only zeros come after a zero. -/
def decimalRun? (t : Text) : Option (Text × Text) :=
  match t with
  | '0' :: _ => some (digitRun (· == '0') t)
  | c :: _ => if c.isDigit then some (digitRun Text.isDigit t) else none
  | [] => none

end Numbers

section Texts

/-- The characters up to the closing quotation mark, escapes kept, and what follows it. -/
def quotedRun (mark : Char) : Text → Option (Text × Text)
  | [] => none
  | c :: cs =>
      if c = mark then some ([], cs)
      else if c = '\\' then
        match cs with
        | [] => none
        | e :: more => (quotedRun mark more).map fun (run, rest) => (c :: e :: run, rest)
      else (quotedRun mark cs).map fun (run, rest) => (c :: run, rest)

/-- The escapes of one letter. -/
def simpleEscapes : List (Char × Text) :=
  [('\\', "\\"), ('\x27', "'"), ('"', "\""), ('a', "\x07"), ('b', "\x08"), ('f', "\x0c"),
   ('n', "\n"), ('r', "\r"), ('t', "\t"), ('v', "\x0b"), ('\n', [])]

/-- The letter and the digits that would escape a character beyond ASCII. -/
def escapeOf (c : Char) : Text :=
  if c.toNat < 0x100 then 'x' :: Text.ofHex 2 c.toNat
  else if c.toNat < 0x10000 then 'u' :: Text.ofHex 4 c.toNat
  else 'U' :: Text.ofHex 8 c.toNat

/-- The code points that the text after a backslash stands for, and the number of characters of the escape;
`none` for a broken one.  A backslash before a character that needs no escape is kept. -/
def escape? (t : Text) : Option (CodePoints × Nat) :=
  match t with
  | [] => none
  | e :: rest =>
      match simpleEscapes.lookup e with
      | some replacement => some (CodePoints.ofText replacement, 1)
      | none =>
          let octal := (t.take 3).takeWhile (isDigitIn 8)
          let width := if e = 'x' then 2 else if e = 'u' then 4 else if e = 'U' then 8 else 0
          if !octal.isEmpty then do some ([← Text.numberIn? 8 octal], octal.length)
          else if e = 'N' then do
            let (name, _) ← match rest with
              | '\x7b' :: after => match Text.cut '\x7d' after with
                | (name, some left) => some (name, left)
                | (_, none) => none
              | _ => none
            some ([← Text.codePointNamed? name], name.length + 3)
          else if width ≠ 0 then
            if rest.length < width then none
            else do
              let n ← Text.hexNumber? (rest.take width)
              if n < 0x110000 then some ([n], width + 1) else none
          else if e.toNat < 0x80 then some (CodePoints.ofText ['\\', e], 1)
          else some (CodePoints.ofText ('\\' :: escapeOf e), 1)

/-- The code points that a quoted run stands for; `none` when an escape is broken.  `skip` counts the
characters that an escape has used up. -/
def unescapeFrom (skip : Nat) : Text → Option CodePoints
  | [] => some []
  | c :: cs =>
      match skip with
      | skip + 1 => unescapeFrom skip cs
      | 0 =>
          if c = '\\' then do
            let (points, length) ← escape? cs
            (unescapeFrom length cs).map (points ++ ·)
          else (unescapeFrom 0 cs).map (c.toNat :: ·)

/-- The code points that a quoted run stands for; `none` when an escape is broken. -/
def unescape (t : Text) : Option CodePoints :=
  unescapeFrom 0 t

end Texts

end Template
end Literate
