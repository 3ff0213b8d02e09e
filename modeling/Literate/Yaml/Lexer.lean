import Literate.Yaml.Scalar

/-!
# From a YAML text to its tokens

The lexer reads one token after another.  Whether a scalar is a key shows only
when a colon follows, so the lexer leaves a mark where a key may start and notes
later which marks are keys; when the text is read, the marks are replaced.

**Broken texts.**  Where reading fails, the tokens before the failure still
count, up to the first place of which it is not yet known whether a key starts
there.

**Indentation.**  Outside brackets the column of a key or of a list entry opens
a block, and a smaller column closes it.
-/

namespace Literate
namespace Yaml

/-- A token, or a place where a key may start. -/
inductive Item
  | token (t : Token)
  | mark (number : Nat)
deriving DecidableEq

/-- A place where a key may start. -/
structure Candidate where
  /-- The number of its mark. -/
  number : Nat
  /-- Whether it has to be a key, because it stands where only a key can. -/
  required : Bool
  /-- Where it stands. -/
  index : Nat
  /-- Its line. -/
  line : Nat
  /-- Its column. -/
  column : Nat

/-- The state of the lexer between two tokens. -/
structure Lexer where
  /-- Where it is. -/
  cursor : Cursor
  /-- The number of open brackets. -/
  flowLevel : Nat := 0
  /-- The column of the innermost block, -1 outside blocks. -/
  indent : Int := -1
  /-- The columns of the blocks around it. -/
  indents : List Int := []
  /-- Whether a key may start here. -/
  allowsKey : Bool := true
  /-- The places where a key may have started, by the number of open brackets. -/
  candidates : List (Nat × Candidate) := []
  /-- The number of the next mark. -/
  nextMark : Nat := 0
  /-- The marks that turned out to be keys, and whether they open a block. -/
  keys : List (Nat × Bool) := []
  /-- What has been read, the last item first. -/
  items : List Item := []

namespace Lexer

/-- Adds a token. -/
def push (lexer : Lexer) (t : Token) : Lexer :=
  { lexer with items := .token t :: lexer.items }

/-- Whether the lexer is between brackets. -/
def inFlow (lexer : Lexer) : Bool :=
  lexer.flowLevel != 0

/-- The column as an integer. -/
def column (lexer : Lexer) : Int :=
  lexer.cursor.column

/-- The greatest distance between the start of a key and its colon. -/
def keyLimit : Nat := 1024

/-- Whether a place is too far away for a key. -/
def isStale (lexer : Lexer) (candidate : Candidate) : Bool :=
  candidate.line != lexer.cursor.line ||
    decide (keyLimit < lexer.cursor.index - candidate.index)

/-- Forgets the places that are too far away for a key; a required one is an error. -/
def dropStale (lexer : Lexer) : Except Error Lexer :=
  if lexer.candidates.any fun entry => lexer.isStale entry.2 && entry.2.required then
    .error .malformed
  else .ok { lexer with candidates := lexer.candidates.filter fun entry => !lexer.isStale entry.2 }

/-- Forgets the place on the present level; a required one is an error. -/
def dropCandidate (lexer : Lexer) : Except Error Lexer :=
  match lexer.candidates.lookup lexer.flowLevel with
  | some candidate =>
      if candidate.required then .error .malformed
      else
        .ok { lexer with candidates := lexer.candidates.filter fun entry => entry.1 != lexer.flowLevel }
  | none => .ok lexer

/-- Notes that a key may start here, if that is so. -/
def addCandidate (lexer : Lexer) : Except Error Lexer :=
  if lexer.allowsKey then do
    let lexer ← lexer.dropCandidate
    let candidate : Candidate :=
      { number := lexer.nextMark
        required := !lexer.inFlow && lexer.indent == lexer.column
        index := lexer.cursor.index
        line := lexer.cursor.line
        column := lexer.cursor.column }
    .ok { lexer with
      candidates := (lexer.flowLevel, candidate) :: lexer.candidates
      nextMark := lexer.nextMark + 1
      items := .mark lexer.nextMark :: lexer.items }
  else .ok lexer

/-- Closes the blocks that reach further right than a column. -/
def closeBlocks (lexer : Lexer) (column : Int) : Lexer :=
  if lexer.inFlow then lexer else go lexer.indents lexer
where
  /-- Walks down the columns of the open blocks. -/
  go : List Int → Lexer → Lexer
    | [], lexer => lexer
    | outer :: rest, lexer =>
        if column < lexer.indent then
          go rest { lexer.push .blockEnd with indent := outer, indents := rest }
        else lexer

/-- Opens a block at a column, and says whether it is a new one. -/
def openBlock (lexer : Lexer) (column : Int) : Lexer × Bool :=
  if lexer.indent < column then
    ({ lexer with indent := column, indents := lexer.indent :: lexer.indents }, true)
  else (lexer, false)

/-- Moves over a number of characters. -/
def forward (lexer : Lexer) (n : Nat) : Lexer :=
  { lexer with cursor := lexer.cursor.forward n }

/-- Moves over spaces, comments and line ends. -/
def skipGaps : Nat → Lexer → Lexer
  | 0, lexer => lexer
  | fuel + 1, lexer =>
      let cursor := lexer.cursor.skip (· == ' ')
      let cursor := if cursor.sees 0 (· == '#') then cursor.skip (fun c => !isBreak c) else cursor
      if cursor.sees 0 isBreak then
        skipGaps fuel
          { lexer with cursor := cursor.lineBreak.2, allowsKey := lexer.allowsKey || !lexer.inFlow }
      else { lexer with cursor := cursor }

/-- A single token in place of the next characters, which no key may contain. -/
def documentMark (lexer : Lexer) (t : Token) : Except Error Lexer := do
  let lexer ← (lexer.closeBlocks (-1)).dropCandidate
  .ok ({ lexer with allowsKey := false }.forward 3 |>.push t)

/-- A directive. -/
def directive (lexer : Lexer) : Except Error Lexer := do
  let lexer ← (lexer.closeBlocks (-1)).dropCandidate
  let (d, cursor) ← readDirective lexer.cursor
  .ok ({ lexer with allowsKey := false, cursor := cursor }.push (.directive d))

/-- An opening bracket. -/
def openFlow (lexer : Lexer) (t : Token) : Except Error Lexer := do
  let lexer ← lexer.addCandidate
  .ok ({ lexer with flowLevel := lexer.flowLevel + 1, allowsKey := true }.forward 1 |>.push t)

/-- A closing bracket. -/
def closeFlow (lexer : Lexer) (t : Token) : Except Error Lexer := do
  let lexer ← lexer.dropCandidate
  match lexer.flowLevel with
  | 0 => .error .malformed
  | level + 1 => .ok ({ lexer with flowLevel := level, allowsKey := false }.forward 1 |>.push t)

/-- A comma between brackets. -/
def flowEntry (lexer : Lexer) : Except Error Lexer := do
  let lexer ← { lexer with allowsKey := true }.dropCandidate
  .ok (lexer.forward 1 |>.push .flowEntry)

/-- The dash of a list entry. -/
def blockEntry (lexer : Lexer) : Except Error Lexer := do
  let lexer ←
    if lexer.inFlow then pure lexer
    else if !lexer.allowsKey then .error .malformed
    else
      let (opened, isNew) := lexer.openBlock lexer.column
      pure (if isNew then opened.push .blockSequenceStart else opened)
  let lexer ← { lexer with allowsKey := true }.dropCandidate
  .ok (lexer.forward 1 |>.push .blockEntry)

/-- The question mark of a key. -/
def explicitKey (lexer : Lexer) : Except Error Lexer := do
  let lexer ←
    if lexer.inFlow then pure lexer
    else if !lexer.allowsKey then .error .malformed
    else
      let (opened, isNew) := lexer.openBlock lexer.column
      pure (if isNew then opened.push .blockMappingStart else opened)
  let lexer ← { lexer with allowsKey := !lexer.inFlow }.dropCandidate
  .ok (lexer.forward 1 |>.push .key)

/-- The colon of a value. -/
def keyValue (lexer : Lexer) : Except Error Lexer := do
  match lexer.candidates.lookup lexer.flowLevel with
  | some candidate =>
      let (opened, isNew) :=
        if lexer.inFlow then (lexer, false) else lexer.openBlock candidate.column
      let lexer :=
        { opened with
          candidates := opened.candidates.filter fun entry => entry.1 != opened.flowLevel
          keys := (candidate.number, isNew) :: opened.keys
          allowsKey := false }
      .ok (lexer.forward 1 |>.push .value)
  | none =>
      let lexer ←
        if lexer.inFlow then pure lexer
        else if !lexer.allowsKey then .error .malformed
        else
          let (opened, isNew) := lexer.openBlock lexer.column
          pure (if isNew then opened.push .blockMappingStart else opened)
      let lexer ← { lexer with allowsKey := !lexer.inFlow }.dropCandidate
      .ok (lexer.forward 1 |>.push .value)

/-- A token that may start a key and that is read by a reader. -/
def nodeToken (lexer : Lexer) (read : Cursor → Except Error (Token × Cursor)) : Except Error Lexer := do
  let lexer ← lexer.addCandidate
  let (t, cursor) ← read lexer.cursor
  .ok ({ lexer with allowsKey := false, cursor := cursor }.push t)

/-- A block scalar. -/
def blockScalar (lexer : Lexer) (folded : Bool) : Except Error Lexer := do
  let lexer ← { lexer with allowsKey := true }.dropCandidate
  let (content, cursor) ← readBlock folded lexer.indent lexer.cursor
  .ok ({ lexer with cursor := cursor }.push
    (.scalar (CodePoints.ofText content) false))

/-- A plain scalar. -/
def plainScalar (lexer : Lexer) : Except Error Lexer := do
  let lexer ← lexer.addCandidate
  let plain := readPlain lexer.inFlow lexer.indent lexer.cursor
  .ok ({ lexer with cursor := plain.cursor, allowsKey := plain.allowsKey }.push
    (.scalar (CodePoints.ofText plain.content) true))

/-- Whether a plain scalar may start with the character ahead. -/
def startsPlain (lexer : Lexer) (c : Char) : Bool :=
  !(isGap c || ("-?:,[]\x7b\x7d#&*!|>'\"%@`" : Text).contains c) ||
    (!lexer.cursor.endsOr 1 isGap && (c == '-' || (!lexer.inFlow && (c == '?' || c == ':'))))

/-- Reads the token that begins with a character. -/
def readToken (lexer : Lexer) (c : Char) : Except Error Lexer :=
  let atStart := lexer.cursor.column == 0
  let alone := lexer.cursor.endsOr 1 isGap
  if c = '%' ∧ atStart then lexer.directive
  else if atStart ∧ lexer.cursor.atMarker "---" then lexer.documentMark .documentStart
  else if atStart ∧ lexer.cursor.atMarker "..." then lexer.documentMark .documentEnd
  else if c = '[' then lexer.openFlow .flowSequenceStart
  else if c = '\x7b' then lexer.openFlow .flowMappingStart
  else if c = ']' then lexer.closeFlow .flowSequenceEnd
  else if c = '\x7d' then lexer.closeFlow .flowMappingEnd
  else if c = ',' then lexer.flowEntry
  else if c = '-' ∧ alone then lexer.blockEntry
  else if c = '?' ∧ (lexer.inFlow ∨ alone) then lexer.explicitKey
  else if c = ':' ∧ (lexer.inFlow ∨ alone) then lexer.keyValue
  else if c = '*' then
    lexer.nodeToken fun cursor => do
      let (name, after) ← readAnchor cursor
      .ok (.alias name, after)
  else if c = '&' then
    lexer.nodeToken fun cursor => do
      let (name, after) ← readAnchor cursor
      .ok (.anchor name, after)
  else if c = '!' then lexer.nodeToken readTag
  else if c = '|' ∧ !lexer.inFlow then lexer.blockScalar false
  else if c = '>' ∧ !lexer.inFlow then lexer.blockScalar true
  else if c = '\x27' ∨ c = '"' then
    lexer.nodeToken fun cursor => do
      let (content, after) ← readQuoted cursor
      .ok (.scalar content false, after)
  else if lexer.startsPlain c then lexer.plainScalar
  else .error .malformed

/-- Reads the next token; at the end of the text there is none, and the open blocks are closed. -/
def step (lexer : Lexer) : Except Error (Lexer × Bool) := do
  let lexer ← (lexer.skipGaps (lexer.cursor.rest.length + 1)).dropStale
  let lexer := lexer.closeBlocks lexer.column
  match lexer.cursor.rest with
  | [] => do .ok (← (lexer.closeBlocks (-1)).dropCandidate, true)
  | c :: _ => do .ok (← lexer.readToken c, false)

/-- Reads the tokens up to the end of the text or up to a failure. -/
def readAll : Nat → Lexer → Lexer × Option Error
  | 0, lexer => (lexer, some .malformed)
  | fuel + 1, lexer =>
      match lexer.step with
      | .error cause => (lexer, some cause)
      | .ok (next, true) => (next, none)
      | .ok (next, false) => readAll fuel next

/-- The tokens that an item stands for when the marks that are keys are known. -/
def itemTokens (keys : List (Nat × Bool)) : Item → List Token
  | .token t => [t]
  | .mark number =>
      match keys.lookup number with
      | some true => [.blockMappingStart, .key]
      | some false => [.key]
      | none => []

/-- The items before the first place where a key may still turn out to start. -/
def readyItems (lexer : Lexer) : List Item :=
  let pending := lexer.candidates.filterMap fun entry =>
    if lexer.isStale entry.2 then none else some (Item.mark entry.2.number)
  lexer.items.reverse.takeWhile fun item => !pending.contains item

end Lexer

/-- The tokens of a text, and why no more can be read where reading fails. -/
structure TokenStream where
  /-- The tokens in order. -/
  tokens : List Token
  /-- Why the tokens end before the text does. -/
  failure : Option Error := none

/-- The tokens of a YAML text. -/
def TokenStream.ofText (t : Text) : TokenStream :=
  if !t.all isAllowed then { tokens := [], failure := some .malformed }
  else
    let start : Cursor := { rest := t }
    let start := if start.sees 0 (· == '\ufeff') then start.next else start
    let (lexer, failure) := Lexer.readAll (t.length + 2) { cursor := start }
    let items := if failure.isNone then lexer.items.reverse else lexer.readyItems
    { tokens := items.flatMap (Lexer.itemTokens lexer.keys), failure := failure }

end Yaml
end Literate
