import Literate.Text.Numeral
import Literate.Text.Utf8
import Literate.Yaml.Token

/-!
# Reading scalars, names and tags

The parts of a YAML text that are longer than one character: scalars in their
three styles, the names of anchors, tags and directives.  Each reader takes the
cursor at the first character and gives the cursor behind the last.
-/

namespace Literate
namespace Yaml

/-- Characters of the names of anchors, handles and directives. -/
def isNameChar (c : Char) : Bool :=
  c.isAlphanum || c == '-' || c == '_'

/-- Characters of the written form of a tag. -/
def isTagChar (c : Char) : Bool :=
  isNameChar c || ("-;/?:@&=+$,_.!~*'()[]%" : Text).contains c

/-- The number written by the next hexadecimal digits. -/
def hexAhead? (cursor : Cursor) (width : Nat) : Option Nat :=
  let digits := cursor.rest.take width
  if digits.length = width then Text.hexNumber? digits else none

/-- The cursor after the blanks and the comment at the end of a line. -/
def ignoredLine (cursor : Cursor) : Except Error Cursor :=
  let cursor := cursor.skip (· == ' ')
  let cursor := if cursor.sees 0 (· == '#') then cursor.skip (fun c => !isBreak c) else cursor
  if cursor.endsOr 0 isBreak then .ok cursor.lineBreak.2 else .error .malformed

section Tags

/-- The bytes written by percent signs, and the cursor behind them. -/
def percentBytes : Nat → Cursor → Except Error (List UInt8 × Cursor)
  | 0, _ => .error .malformed
  | fuel + 1, cursor =>
      if cursor.sees 0 (· == '%') then do
        let cursor := cursor.next
        match hexAhead? cursor 2 with
        | none => .error .malformed
        | some n =>
            let (bytes, after) ← percentBytes fuel (cursor.forward 2)
            .ok (n.toUInt8 :: bytes, after)
      else .ok ([], cursor)

/-- The written form of a tag. -/
def tagText : Nat → Cursor → Except Error (Text × Cursor)
  | 0, _ => .error .malformed
  | fuel + 1, cursor =>
      if cursor.sees 0 (· == '%') then do
        let (bytes, after) ← percentBytes fuel cursor
        match Text.decode? ⟨bytes.toArray⟩ with
        | none => .error .malformed
        | some t =>
            let (more, last) ← tagText fuel after
            .ok (t ++ more, last)
      else
        match cursor.rest with
        | c :: _ =>
            if isTagChar c then do
              let (more, last) ← tagText fuel cursor.next
              .ok (c :: more, last)
            else .ok ([], cursor)
        | [] => .ok ([], cursor)

/-- The written form of a tag, which must not be missing. -/
def tagUri (cursor : Cursor) : Except Error (Text × Cursor) := do
  if cursor.sees 0 isTagChar then tagText (cursor.rest.length + 1) cursor else .error .malformed

/-- The handle of a tag, which stands between exclamation marks or is a single one. -/
def tagHandle (cursor : Cursor) : Except Error (Text × Cursor) :=
  match cursor.rest with
  | '!' :: ' ' :: _ => .ok ("!", cursor.next)
  | '!' :: rest =>
      let name := rest.takeWhile isNameChar
      if rest[name.length]? = some '!' then
        .ok ('!' :: name ++ ['!'], cursor.forward (name.length + 2))
      else .error .malformed
  | _ => .error .malformed

/-- Whether a later exclamation mark makes the beginning of a tag a handle. -/
def hasHandle (cursor : Cursor) : Bool :=
  (cursor.rest.drop 1 |>.takeWhile fun c => !(c == ' ' || isBreak c)).contains '!'

/-- A tag. -/
def readTag (cursor : Cursor) : Except Error (Token × Cursor) := do
  let (token, after) ←
    if cursor.sees 1 (· == '<') then do
      let (uri, after) ← tagUri (cursor.forward 2)
      if after.sees 0 (· == '>') then pure (Token.tag none uri, after.next) else .error .malformed
    else if cursor.endsOr 1 isGap then
      pure (Token.tag none "!", cursor.next)
    else do
      let (handle, after) ← if hasHandle cursor then tagHandle cursor else pure ("!", cursor.next)
      let (suffix, last) ← tagUri after
      pure (Token.tag (some handle) suffix, last)
  if after.endsOr 0 (fun c => c == ' ' || isBreak c) then .ok (token, after) else .error .malformed

/-- The name of an anchor or an alias. -/
def readAnchor (cursor : Cursor) : Except Error (Text × Cursor) :=
  let start := cursor.next
  let name := start.run isNameChar
  let after := start.forward name.length
  if name.isEmpty then .error .malformed
  else if after.endsOr 0 (fun c => isGap c || ("?:,]\x7d%@`" : Text).contains c) then .ok (name, after)
  else .error .malformed

/-- A number in a directive. -/
def directiveNumber (cursor : Cursor) : Except Error (Nat × Cursor) :=
  let digits := cursor.run Char.isDigit
  if digits.isEmpty then .error .malformed
  else
    match Text.integerIn? 10 digits with
    | some n => .ok (n.toNat, cursor.forward digits.length)
    | none => .error (.scalar .badValue)

/-- A directive up to the end of its line. -/
def readDirective (cursor : Cursor) : Except Error (Directive × Cursor) := do
  let start := cursor.next
  let name := start.run isNameChar
  let after := start.forward name.length
  let ends := fun (c : Cursor) => c.endsOr 0 fun c => c == ' ' || isBreak c
  if name.isEmpty || !ends after then .error .malformed
  else if name = "YAML" then do
    let (major, point) ← directiveNumber (after.skip (· == ' '))
    if !point.sees 0 (· == '.') then .error .malformed
    else do
      let (minor, last) ← directiveNumber point.next
      if !ends last then .error .malformed
      else .ok (.version major minor, ← ignoredLine last)
  else if name = "TAG" then do
    let (handle, point) ← tagHandle (after.skip (· == ' '))
    if !point.sees 0 (· == ' ') then .error .malformed
    else do
      let (meaning, last) ← tagUri (point.skip (· == ' '))
      if !ends last then .error .malformed
      else .ok (.handle handle meaning, ← ignoredLine last)
  else .ok (.other, ← ignoredLine (after.skip fun c => !isBreak c))

end Tags

section Quoted

/-- The characters that a letter after a backslash stands for. -/
def escapes : List (Char × Char) :=
  [('0', '\x00'), ('a', '\x07'), ('b', '\x08'), ('t', '\t'), ('\t', '\t'), ('n', '\n'),
   ('v', '\x0b'), ('f', '\x0c'), ('r', '\r'), ('e', '\x1b'), (' ', ' '), ('"', '"'), ('\\', '\\'),
   ('/', '/'), ('N', '\x85'), ('_', '\xa0'), ('L', '\u2028'), ('P', '\u2029')]

/-- The line ends between two lines of a quoted scalar. -/
def quotedBreaks : Nat → Cursor → Except Error (Text × Cursor)
  | 0, _ => .error .malformed
  | fuel + 1, cursor =>
      if cursor.atSeparator then .error .malformed
      else
        let cursor := cursor.skip fun c => c == ' ' || c == '\t'
        if cursor.sees 0 isBreak then do
          let (first, after) := cursor.lineBreak
          let (more, last) ← quotedBreaks fuel after
          .ok (first ++ more, last)
        else .ok ([], cursor)

/-- What a line end and the line ends after it become inside a scalar: one is folded into a space. -/
def foldBreaks (first more : Text) : Text :=
  if first = "\n" then (if more.isEmpty then " " else more) else first ++ more

/-- The code point written by hexadecimal digits. -/
def escapedPoint (n : Nat) : Except Error Nat :=
  if n < 0x110000 then .ok n
  else if n < 0x80000000 then .error (.scalar .badValue)
  else .error (.scalar .tooGreat)

/-- The rest of a quoted scalar up to its closing mark. -/
def quotedRest (mark : Char) : Nat → Cursor → Except Error (CodePoints × Cursor)
  | 0, _ => .error .malformed
  | fuel + 1, cursor =>
      let continueAt := fun (points : CodePoints) (next : Cursor) => do
        let (more, last) ← quotedRest mark fuel next
        .ok (points ++ more, last)
      match cursor.rest with
      | [] => .error .malformed
      | c :: rest =>
          if c = mark then
            if mark = '\x27' ∧ rest.head? = some '\x27' then continueAt [c.toNat] (cursor.forward 2)
            else .ok ([], cursor.next)
          else if isGap c then
            let spaces := cursor.run fun c => c == ' ' || c == '\t'
            let after := cursor.forward spaces.length
            if after.sees 0 isBreak then do
              let (first, afterBreak) := after.lineBreak
              let (breaks, next) ← quotedBreaks fuel afterBreak
              continueAt (CodePoints.ofText (foldBreaks first breaks)) next
            else continueAt (CodePoints.ofText spaces) after
          else if c = '\\' ∧ mark = '"' then
            match rest with
            | [] => .error .malformed
            | e :: _ =>
                match escapes.lookup e with
                | some replacement => continueAt [replacement.toNat] (cursor.forward 2)
                | none =>
                    let width := if e = 'x' then 2 else if e = 'u' then 4 else if e = 'U' then 8 else 0
                    if width ≠ 0 then
                      match hexAhead? (cursor.forward 2) width with
                      | none => .error .malformed
                      | some n => do
                          let point ← escapedPoint n
                          continueAt [point] (cursor.forward (2 + width))
                    else if isBreak e then do
                      let (breaks, next) ← quotedBreaks fuel cursor.next.lineBreak.2
                      continueAt (CodePoints.ofText breaks) next
                    else .error .malformed
          else continueAt [c.toNat] cursor.next

/-- A quoted scalar. -/
def readQuoted (cursor : Cursor) : Except Error (CodePoints × Cursor) :=
  match cursor.rest with
  | mark :: _ => quotedRest mark (cursor.rest.length + 1) cursor.next
  | [] => .error .malformed

end Quoted

section Block

/-- How the end of a block scalar is treated. -/
inductive Chomping
  /-- One line end is kept. -/
  | clip
  /-- No line end is kept. -/
  | strip
  /-- All line ends are kept. -/
  | keep
deriving DecidableEq

/-- The treatment that a sign asks for. -/
def chomping? : Option Char → Option Chomping
  | some '+' => some .keep
  | some '-' => some .strip
  | _ => none

/-- The indentation that a digit asks for. -/
def increment? : Option Char → Option Nat
  | some c => if c.isDigit then some (c.toNat - '0'.toNat) else none
  | none => none

/-- The sign and the digit in the first line of a block scalar, in either order. -/
def blockIndicators (cursor : Cursor) : Except Error (Chomping × Option Nat × Cursor) :=
  let (chomping, increment, after) :=
    match chomping? (cursor.peek? 0), increment? (cursor.peek? 0) with
    | some chomping, _ =>
        match increment? (cursor.peek? 1) with
        | some n => (chomping, some n, cursor.forward 2)
        | none => (chomping, none, cursor.next)
    | none, some n =>
        match chomping? (cursor.peek? 1) with
        | some chomping => (chomping, some n, cursor.forward 2)
        | none => (.clip, some n, cursor.next)
    | none, none => (.clip, none, cursor)
  if increment = some 0 then .error .malformed
  else if after.endsOr 0 (fun c => c == ' ' || isBreak c) then .ok (chomping, increment, after)
  else .error .malformed

/-- The empty lines before the first line of a block scalar, and the greatest indentation among them and of
that line. -/
def blockIndentation : Nat → Nat → Cursor → Text × Nat × Cursor
  | 0, deepest, cursor => ([], deepest, cursor)
  | fuel + 1, deepest, cursor =>
      if cursor.sees 0 (· == ' ') then
        blockIndentation fuel (max deepest cursor.next.column) cursor.next
      else if cursor.sees 0 isBreak then
        let (first, after) := cursor.lineBreak
        let (more, deepest, last) := blockIndentation fuel deepest after
        (first ++ more, deepest, last)
      else ([], deepest, cursor)

/-- The cursor after the spaces up to a column. -/
def indentTo (column : Nat) (cursor : Cursor) : Cursor :=
  let spaces := cursor.run (· == ' ')
  cursor.forward (min spaces.length (column - cursor.column))

/-- The empty lines inside a block scalar. -/
def blockBreaks (column : Nat) : Nat → Cursor → Text × Cursor
  | 0, cursor => ([], cursor)
  | fuel + 1, cursor =>
      let cursor := indentTo column cursor
      if cursor.sees 0 isBreak then
        let (first, after) := cursor.lineBreak
        let (more, last) := blockBreaks column fuel after
        (first ++ more, last)
      else ([], cursor)

/-- The lines of a block scalar from the cursor on, after the line ends `breaks`. -/
def blockLines (folded : Bool) (chomping : Chomping) (column : Nat) :
    Nat → Text → Cursor → Text × Cursor
  | 0, _, cursor => ([], cursor)
  | fuel + 1, breaks, cursor =>
      let startsPlain := cursor.sees 0 fun c => !(c == ' ' || c == '\t')
      let line := cursor.run fun c => !isBreak c
      let (ending, after) := (cursor.forward line.length).lineBreak
      let (nextBreaks, next) := blockBreaks column (fuel + 1) after
      if next.column = column ∧ !next.rest.isEmpty then
        let joins := folded && ending == "\n" && startsPlain &&
          next.sees 0 fun c => !(c == ' ' || c == '\t')
        let separator : Text :=
          if joins then (if nextBreaks.isEmpty then " " else []) else ending
        let (more, last) := blockLines folded chomping column fuel nextBreaks next
        (breaks ++ line ++ separator ++ more, last)
      else
        let tail := match chomping with
          | .strip => []
          | .clip => ending
          | .keep => ending ++ nextBreaks
        (breaks ++ line ++ tail, next)

/-- A block scalar inside a block of a given indentation. -/
def readBlock (folded : Bool) (indent : Int) (cursor : Cursor) : Except Error (Text × Cursor) := do
  let (chomping, increment, after) ← blockIndicators cursor.next
  let start ← ignoredLine after
  let least := (max (indent + 1) 1).toNat
  let fuel := start.rest.length + 1
  let (breaks, column, first) :=
    match increment with
    | none =>
        let (breaks, deepest, first) := blockIndentation fuel 0 start
        (breaks, max least deepest, first)
    | some n =>
        let column := least + n - 1
        let (breaks, first) := blockBreaks column fuel start
        (breaks, column, first)
  if first.column = column ∧ !first.rest.isEmpty then
    .ok (blockLines folded chomping column fuel breaks first)
  else
    .ok (if chomping = .keep then breaks else [], first)

end Block

section Plain

/-- Whether a character ends a plain scalar inside brackets. -/
def isFlowMark (c : Char) : Bool :=
  (",?[]\x7b\x7d" : Text).contains c

/-- The number of characters up to the end of a word of a plain scalar. -/
def plainLength (inFlow : Bool) : Text → Nat
  | [] => 0
  | c :: cs =>
      let colonEnds := match cs with
        | [] => true
        | d :: _ => isGap d || (inFlow && (",[]\x7b\x7d" : Text).contains d)
      if isGap c || (c == ':' && colonEnds) || (inFlow && isFlowMark c) then 0
      else 1 + plainLength inFlow cs

/-- The line ends and indentation between two lines of a plain scalar; `none` before a document marker. -/
def plainBreaks : Nat → Cursor → Option (Text × Cursor)
  | 0, _ => none
  | fuel + 1, cursor =>
      if cursor.sees 0 (· == ' ') then plainBreaks fuel cursor.next
      else if cursor.sees 0 isBreak then do
        let (first, after) := cursor.lineBreak
        if after.atSeparator then none
        else do
          let (more, last) ← plainBreaks fuel after
          some (first ++ more, last)
      else some ([], cursor)

/-- What stands between two words of a plain scalar. -/
structure PlainGap where
  /-- The text that the gap becomes; empty when the scalar ends. -/
  text : Text
  /-- Whether the gap holds a line end. -/
  breaks : Bool
  /-- The cursor behind the gap. -/
  cursor : Cursor

/-- The gap after a word of a plain scalar. -/
def plainGap (fuel : Nat) (cursor : Cursor) : PlainGap :=
  let spaces := cursor.run (· == ' ')
  let after := cursor.forward spaces.length
  if after.sees 0 isBreak then
    let (first, next) := after.lineBreak
    if next.atSeparator then ⟨[], true, next⟩
    else
      match plainBreaks fuel next with
      | some (more, last) => ⟨foldBreaks first more, true, last⟩
      | none => ⟨[], true, lastMarker fuel next⟩
  else ⟨spaces, false, after⟩
where
  /-- The cursor at the document marker that ends the gap. -/
  lastMarker : Nat → Cursor → Cursor
    | 0, cursor => cursor
    | fuel + 1, cursor =>
        if cursor.sees 0 (· == ' ') then lastMarker fuel cursor.next
        else if cursor.sees 0 isBreak then
          let after := cursor.lineBreak.2
          if after.atSeparator then after else lastMarker fuel after
        else cursor

/-- A plain scalar that has been read. -/
structure PlainScalar where
  /-- Its content. -/
  content : Text
  /-- Whether a key may start behind it, because a line has ended. -/
  allowsKey : Bool
  /-- The cursor behind it. -/
  cursor : Cursor

/-- The words of a plain scalar after the gap `gap`. -/
def plainWords (inFlow : Bool) (indent : Int) : Nat → PlainGap → PlainScalar
  | 0, gap => ⟨[], gap.breaks, gap.cursor⟩
  | fuel + 1, gap =>
      let cursor := gap.cursor
      if cursor.sees 0 (· == '#') then ⟨[], gap.breaks, cursor⟩
      else
        let length := plainLength inFlow cursor.rest
        if length = 0 then ⟨[], gap.breaks, cursor⟩
        else
          let word := cursor.rest.take length
          let next := plainGap (fuel + 1) (cursor.forward length)
          if next.text.isEmpty || next.cursor.sees 0 (· == '#') ||
              (!inFlow && decide ((next.cursor.column : Int) < indent)) then
            ⟨gap.text ++ word, next.breaks, next.cursor⟩
          else
            let rest := plainWords inFlow indent fuel next
            { rest with content := gap.text ++ word ++ rest.content }

/-- A plain scalar inside a block of a given indentation. -/
def readPlain (inFlow : Bool) (indent : Int) (cursor : Cursor) : PlainScalar :=
  plainWords inFlow (indent + 1) (cursor.rest.length + 1) ⟨[], false, cursor⟩

end Plain

end Yaml
end Literate
