import Literate.Failure
import Literate.Text.CodePoints

/-!
# Tokens of a YAML text

The tokens that a YAML text is made of, and the cursor that moves over its
characters and knows its line and its column.
-/

namespace Literate
namespace Yaml

/-- Why a YAML text has no value. -/
inductive Error
  /-- It is not written correctly. -/
  | malformed
  /-- One of its scalars has no value. -/
  | scalar (cause : ScalarError)
deriving DecidableEq

/-- What a directive says. -/
inductive Directive
  /-- The version of the language. -/
  | version (major minor : Nat)
  /-- What a tag handle stands for. -/
  | handle (name meaning : Text)
  /-- Something else, which is ignored. -/
  | other
deriving DecidableEq

/-- A token. -/
inductive Token
  | directive (d : Directive)
  | documentStart
  | documentEnd
  | blockSequenceStart
  | blockMappingStart
  | blockEnd
  | flowSequenceStart
  | flowSequenceEnd
  | flowMappingStart
  | flowMappingEnd
  | blockEntry
  | flowEntry
  | key
  | value
  | alias (name : Text)
  | anchor (name : Text)
  /-- A tag with its handle, if it has one. -/
  | tag (handle : Option Text) (suffix : Text)
  /-- A scalar; plain ones are written without quotation marks. -/
  | scalar (content : CodePoints) (plain : Bool)
deriving DecidableEq

/-- Whether a character ends a line. -/
def isBreak (c : Char) : Bool :=
  c == '\r' || c == '\n' || c == '\x85' || c == '\u2028' || c == '\u2029'

/-- Whether a character ends a word: a space, a tab or the end of a line. -/
def isGap (c : Char) : Bool :=
  c == ' ' || c == '\t' || isBreak c

/-- Whether a character may stand in a YAML text at all. -/
def isAllowed (c : Char) : Bool :=
  let n := c.toNat
  n == 9 || n == 10 || n == 13 || n == 0x85 || (0x20 ≤ n && n ≤ 0x7e) || (0xa0 ≤ n && n ≤ 0xd7ff) ||
    (0xe000 ≤ n && n ≤ 0xfffd) || 0x10000 ≤ n

/-- A place in a text. -/
structure Cursor where
  /-- The text from here on. -/
  rest : Text
  /-- The number of characters before. -/
  index : Nat := 0
  /-- The number of lines before. -/
  line : Nat := 0
  /-- The number of characters before on this line. -/
  column : Nat := 0

namespace Cursor

/-- The cursor after one character. -/
def next (cursor : Cursor) : Cursor :=
  match cursor.rest with
  | [] => cursor
  | c :: rest =>
      let ends := isBreak c && !(c == '\r' && rest.head? == some '\n')
      { rest := rest
        index := cursor.index + 1
        line := if ends then cursor.line + 1 else cursor.line
        column :=
          if ends then 0
          else if c = '\ufeff' then cursor.column
          else cursor.column + 1 }

/-- The cursor after a number of characters. -/
def forward : Nat → Cursor → Cursor
  | 0, cursor => cursor
  | n + 1, cursor => forward n cursor.next

/-- The character `n` places ahead. -/
def peek? (cursor : Cursor) (n : Nat) : Option Char :=
  cursor.rest[n]?

/-- Whether the character `n` places ahead exists and is as said. -/
def sees (cursor : Cursor) (n : Nat) (p : Char → Bool) : Bool :=
  match cursor.peek? n with
  | some c => p c
  | none => false

/-- Whether the text ends `n` places ahead or has there a character as said. -/
def endsOr (cursor : Cursor) (n : Nat) (p : Char → Bool) : Bool :=
  match cursor.peek? n with
  | some c => p c
  | none => true

/-- The characters ahead that are as said. -/
def run (cursor : Cursor) (p : Char → Bool) : Text :=
  cursor.rest.takeWhile p

/-- The cursor after the characters that are as said. -/
def skip (cursor : Cursor) (p : Char → Bool) : Cursor :=
  cursor.forward (cursor.run p).length

/-- The text of the line end ahead, and the cursor after it. -/
def lineBreak (cursor : Cursor) : Text × Cursor :=
  match cursor.rest with
  | '\r' :: '\n' :: _ => ("\n", cursor.forward 2)
  | c :: _ =>
      if c = '\r' ∨ c = '\n' ∨ c = '\x85' then ("\n", cursor.next)
      else if c = '\u2028' ∨ c = '\u2029' then ([c], cursor.next)
      else ([], cursor)
  | [] => ([], cursor)

/-- Whether a document marker stands ahead. -/
def atMarker (cursor : Cursor) (mark : Text) : Bool :=
  (Text.dropPrefix? mark cursor.rest).isSome && cursor.endsOr mark.length isGap

/-- Whether a document starts or ends ahead. -/
def atSeparator (cursor : Cursor) : Bool :=
  cursor.atMarker "---" || cursor.atMarker "..."

end Cursor

end Yaml
end Literate
