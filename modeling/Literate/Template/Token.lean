import Literate.Template.Literal
import Literate.Text.Blank
import Literate.Text.Identifier
import Literate.Text.Lines

/-!
# Tokens of a template

A template is plain text with three kinds of tag: an output between double
braces, a statement between braces with percent signs, and a comment between
braces with hash signs.  A minus sign at the inner side of a tag removes the
blanks next to the tag.

**Result.**  The tokens of a template in order.  Where no token can be read, the
list ends with a token that says so.  Line ends are unified first, and one line
end at the end of the template is dropped.
-/

namespace Literate
namespace Template

/-- The two kinds of tag with tokens inside. -/
inductive TagKind
  | output
  | statement
deriving DecidableEq

/-- A token. -/
inductive Token
  /-- Text that stands for itself. -/
  | plain (t : Text)
  /-- The beginning of a tag. -/
  | opening (kind : TagKind)
  /-- The end of a tag. -/
  | closing (kind : TagKind)
  /-- A name. -/
  | name (t : Text)
  /-- A text between quotation marks. -/
  | text (points : CodePoints)
  /-- A whole number. -/
  | number (n : Nat)
  /-- An operator or a bracket. -/
  | symbol (t : Text)
  /-- The place of a number with too many digits. -/
  | tooLong
  /-- The place of something that is no token. -/
  | broken
deriving DecidableEq

/-- The operators and brackets, longer ones first. -/
def symbols : List Text :=
  ["//", "**", "==", "!=", ">=", "<=", "+", "-", "/", "*", "%", "~", "[", "]", "(", ")",
   "\x7b", "\x7d", ">", "<", "=", ".", ":", "|", ",", ";"]

/-- What follows the end of a tag when the text begins with one. -/
def tagEnd? (kind : TagKind) (t : Text) : Option Text :=
  let mark : Text := match kind with
    | .output => "\x7d\x7d"
    | .statement => "%\x7d"
  match Text.dropPrefix? ('-' :: mark) t with
  | some rest => some (Text.trimLeft rest)
  | none =>
      match kind, Text.dropPrefix? ('+' :: mark) t with
      | .statement, some rest => some rest
      | _, _ => Text.dropPrefix? mark t

/-- Whether a character belongs to a name. -/
def isNameChar (c : Char) : Bool :=
  Text.isWord c || Text.isJoining c

/-- The number token that a text begins with, and what follows it. -/
def numberToken? (t : Text) : Option (Token × Text) :=
  match basedNumber? t with
  | some (n, rest) => some (.number n, rest)
  | none => do
      let (digits, rest) ← decimalRun? t
      if Text.digitLimit < digits.length then some (.tooLong, rest)
      else some (.number ((Text.numberIn? 10 digits).getD 0), rest)

/-- The first token of a text that does not begin with a blank, and what follows it. -/
def token (t : Text) : Token × Text :=
  match numberToken? t with
  | some found => found
  | none =>
  match t with
  | [] => (.broken, [])
  | c :: cs =>
      if isNameChar c then
        let name := t.takeWhile isNameChar
        (if Text.isIdentifier name then .name name else .broken, t.drop name.length)
      else if c = '"' ∨ c = '\x27' then
        match quotedRun c cs with
        | none => (.broken, cs)
        | some (run, rest) =>
            match unescape run with
            | some points => (.text points, rest)
            | none => (.broken, rest)
      else
        match symbols.find? fun symbol => (Text.dropPrefix? symbol t).isSome with
        | some symbol => (.symbol symbol, t.drop symbol.length)
        | none => (.broken, cs)

/-- The open brackets after one more token; `none` for a bracket that does not fit. -/
def balance (opened : List Text) : Token → Option (List Text)
  | .symbol t =>
      if t = "(" then some (")" :: opened)
      else if t = "[" then some ("]" :: opened)
      else if t = "\x7b" then some ("\x7d" :: opened)
      else if t = ")" ∨ t = "]" ∨ t = "\x7d" then
        match opened with
        | expected :: rest => if expected = t then some rest else none
        | [] => none
      else some opened
  | _ => some opened

/-- What follows a comment; nothing follows one that begins at the very end. -/
def afterComment? : Text → Option Text
  | [] => none
  | c :: cs =>
      match Text.dropPrefix? "-#\x7d" (c :: cs), Text.dropPrefix? "#\x7d" (c :: cs) with
      | some rest, _ => some (Text.trimLeft rest)
      | none, some rest => some rest
      | none, none => afterComment? cs

/-- The tokens with plain text put in front. -/
def pushPlain (t : Text) (tokens : List Token) : List Token :=
  if t.isEmpty then tokens else .plain t :: tokens

mutual

/-- The tokens from a place in plain text on; `plain` is what was read since the last tag, reversed. -/
def plainTokens : Nat → Text → Text → List Token
  | 0, _, _ => []
  | fuel + 1, plain, t =>
      match t with
      | [] => pushPlain plain.reverse []
      | '\x7b' :: c :: cs =>
          if c = '\x7b' ∨ c = '%' ∨ c = '#' then
            let before := if cs.head? = some '-' then Text.trimRight plain.reverse else plain.reverse
            let inside := match cs with
              | s :: more => if s = '-' ∨ s = '+' then more else cs
              | [] => []
            let rest :=
              if c = '#' then
                match inside, afterComment? inside with
                | [], _ => []
                | _, some after => plainTokens fuel [] after
                | _, none => [.broken]
              else
                let kind := if c = '%' then TagKind.statement else .output
                .opening kind :: tagTokens fuel kind [] inside
            pushPlain before rest
          else plainTokens fuel ('\x7b' :: plain) (c :: cs)
      | c :: cs => plainTokens fuel (c :: plain) cs

/-- The tokens from a place in a tag on.  The end of the tag counts only outside brackets. -/
def tagTokens : Nat → TagKind → List Text → Text → List Token
  | 0, _, _, _ => []
  | fuel + 1, kind, opened, t =>
      match opened.isEmpty, tagEnd? kind t with
      | true, some rest => .closing kind :: plainTokens fuel [] rest
      | _, _ =>
      match t with
      | [] => []
      | c :: cs =>
          if Text.isBlank c then tagTokens fuel kind opened cs
          else
            let (first, rest) := token t
            match balance opened first with
            | some opened =>
                if first = .broken ∨ first = .tooLong then [first]
                else first :: tagTokens fuel kind opened rest
            | none => [.broken]

end

/-- The text of a template with unified line ends and without one line end at its end. -/
def normalise (t : Text) : Text :=
  let unified := Text.unifyLineEnds t
  if unified.getLast? = some '\n' then unified.dropLast else unified

/-- The tokens of a template. -/
def tokens (t : Text) : List Token :=
  let source := normalise t
  plainTokens (source.length + 1) [] source

end Template
end Literate
