import Literate.Dictionary
import Literate.Yaml.Lexer
import Literate.Yaml.Tag

/-!
# Nodes of a YAML text

The tokens of a text make up one document, which is a graph of scalars,
sequences and mappings.  Nodes refer to one another by their numbers, so that
an alias is the number of the node it names, even of one that is still being
read.

**Errors.**  The tokens are looked at one by one and in order.  Whatever is
wrong with the tokens before a failure of the text counts before the failure.
-/

namespace Literate
namespace Yaml

/-- The number of a node. -/
abbrev NodeId := Nat

/-- What a node holds. -/
inductive Content
  /-- A scalar. -/
  | scalar (points : CodePoints)
  /-- Nodes in order. -/
  | sequence (items : List NodeId)
  /-- Keys with their values, in order. -/
  | mapping (pairs : List (NodeId × NodeId))
deriving Inhabited

/-- A node. -/
structure Node where
  /-- Its tag. -/
  tag : Tag
  /-- What it holds. -/
  content : Content

/-- The nodes of a document by their numbers. -/
abbrev Graph := Array Node

/-- The state of a parser between two tokens. -/
structure Parser where
  /-- The tokens ahead. -/
  tokens : List Token
  /-- Why there are no more tokens, unless the text ends. -/
  failure : Option Error
  /-- What tag handles stand for. -/
  handles : Dictionary Text Text
  /-- What anchors name. -/
  anchors : Dictionary Text NodeId := Dictionary.empty
  /-- The nodes read so far. -/
  graph : Graph := #[]

/-- A computation on tokens that may find them malformed. -/
abbrev Parse := StateT Parser (Except Error)

/-- The tag handles that are known from the start. -/
def standardHandles : Dictionary Text Text :=
  ⟨[("!", "!"), ("!!", tagNamespace)]⟩

namespace Parse

/-- The computation that finds the tokens malformed. -/
def refuse {α : Type} : Parse α :=
  throw .malformed

/-- The next token, which is left where it is; `none` at the end of the text. -/
def peek : Parse (Option Token) := do
  let parser ← get
  match parser.tokens, parser.failure with
  | t :: _, _ => return some t
  | [], none => return none
  | [], some cause => throw cause

/-- Moves over one token. -/
def advance : Parse Unit :=
  modify fun parser => { parser with tokens := parser.tokens.drop 1 }

/-- Moves over a token if it is the next one. -/
def accept (t : Token) : Parse Bool := do
  if (← peek) = some t then
    advance
    return true
  else return false

/-- Moves over a token that must be the next one. -/
def expect (t : Token) : Parse Unit := do
  if !(← accept t) then refuse

/-- Whether the next token is one of some. -/
def isNext (choices : List Token) : Parse Bool := do
  match ← peek with
  | some t => return choices.contains t
  | none => return false

/-- Adds a node and gives its number. -/
def addNode (tag : Tag) (content : Content) : Parse NodeId := do
  let parser ← get
  set { parser with graph := parser.graph.push ⟨tag, content⟩ }
  return parser.graph.size

/-- Makes a node hold something else. -/
def setContent (id : NodeId) (content : Content) : Parse Unit :=
  modify fun parser =>
    { parser with graph := parser.graph.modify id fun node => { node with content := content } }

/-- The empty scalar that stands where nothing is written. -/
def emptyScalar : Parse NodeId :=
  addNode .null (.scalar [])

/-- The anchor ahead. -/
def anchor? : Parse (Option Text) := do
  match ← peek with
  | some (.anchor name) => do
      advance
      return some name
  | _ => return none

/-- The tag ahead: its handle and the text after it. -/
def tag? : Parse (Option (Option Text × Text)) := do
  match ← peek with
  | some (.tag handle suffix) => do
      advance
      return some (handle, suffix)
  | _ => return none

/-- The full name of a tag, whose handle must be known. -/
def tagName : Option (Option Text × Text) → Parse (Option Text)
  | none => return none
  | some (none, suffix) => return some suffix
  | some (some handle, suffix) => do
      match (← get).handles.get? handle with
      | some meaning => return some (meaning ++ suffix)
      | none => refuse

/-- The anchor and the tag ahead, in either order. -/
def properties : Parse (Option Text × Option Text) := do
  match ← anchor? with
  | some name => return (some name, ← tagName (← tag?))
  | none =>
      match ← tag? with
      | none => return (none, none)
      | some t => do
          let name ← anchor?
          return (name, ← tagName (some t))

/-- The tag of a sequence or mapping. -/
def collectionTag (t : Option Text) (standard : Tag) : Tag :=
  match t with
  | some name => if name = "!" then standard else Tag.ofName name
  | none => standard

/-- The tag of a scalar. -/
def scalarTag (t : Option Text) (content : CodePoints) (plain : Bool) : Tag :=
  let inferred := Tag.infer (content.map CodePoints.toChar)
  match t with
  | some name => if name = "!" then inferred else Tag.ofName name
  | none => if plain then inferred else .str

/-- Checks that an anchor is new. -/
def checkAnchor (name : Option Text) : Parse Unit := do
  match name with
  | none => return ()
  | some name => if (← get).anchors.contains name then refuse

/-- Adds a node with an anchor, which must be new. -/
def addAnchored (name : Option Text) (tag : Tag) (content : Content) : Parse NodeId := do
  checkAnchor name
  let id ← addNode tag content
  match name with
  | none => return id
  | some name => do
      modify fun parser => { parser with anchors := parser.anchors.insert name id }
      return id

/-- The node that an alias names. -/
def aliased (name : Text) : Parse NodeId := do
  match (← get).anchors.get? name with
  | some id => return id
  | none => refuse

mutual

/-- A node.  Outside brackets it may be a block; as a value it may be a list at the column of its key. -/
def node : Nat → (block indentless : Bool) → Parse NodeId
  | 0, _, _ => refuse
  | fuel + 1, block, indentless => do
      match ← peek with
      | some (.alias name) => do
          advance
          aliased name
      | _ => do
          let (name, t) ← properties
          let sequence := fun (items : Parse (List NodeId)) => do
            let id ← addAnchored name (collectionTag t .seq) (.sequence [])
            setContent id (.sequence (← items))
            return id
          let mapping := fun (pairs : Parse (List (NodeId × NodeId))) => do
            let id ← addAnchored name (collectionTag t .map) (.mapping [])
            setContent id (.mapping (← pairs))
            return id
          let scalar := fun (content : CodePoints) (plain : Bool) =>
            addAnchored name (scalarTag t content plain) (.scalar content)
          let missing := if name.isSome || t.isSome then scalar [] true else refuse
          match ← peek with
          | some .blockEntry => if indentless then sequence (indentlessItems fuel) else missing
          | some (.scalar content plain) => do
              advance
              scalar content plain
          | some .flowSequenceStart => do
              advance
              sequence (flowItems fuel true)
          | some .flowMappingStart => do
              advance
              mapping (flowPairs fuel true)
          | some .blockSequenceStart =>
              if block then do
                advance
                sequence (blockItems fuel)
              else missing
          | some .blockMappingStart =>
              if block then do
                advance
                mapping (blockPairs fuel)
              else missing
          | _ => missing

/-- The entries of a block sequence. -/
def blockItems : Nat → Parse (List NodeId)
  | 0 => refuse
  | fuel + 1 => do
      if ← accept .blockEntry then
        let item ←
          if ← isNext [.blockEntry, .blockEnd] then emptyScalar else node fuel true false
        return item :: (← blockItems fuel)
      else
        expect .blockEnd
        return []

/-- The entries of a sequence at the column of its key. -/
def indentlessItems : Nat → Parse (List NodeId)
  | 0 => refuse
  | fuel + 1 => do
      if ← accept .blockEntry then
        let item ←
          if ← isNext [.blockEntry, .key, .value, .blockEnd] then emptyScalar
          else node fuel true false
        return item :: (← indentlessItems fuel)
      else return []

/-- The pairs of a block mapping. -/
def blockPairs : Nat → Parse (List (NodeId × NodeId))
  | 0 => refuse
  | fuel + 1 => do
      if ← accept .key then
        let key ←
          if ← isNext [.key, .value, .blockEnd] then emptyScalar else node fuel true true
        let value ← blockValue fuel
        return (key, value) :: (← blockPairs fuel)
      else
        expect .blockEnd
        return []

/-- The value of a pair of a block mapping. -/
def blockValue : Nat → Parse NodeId
  | 0 => refuse
  | fuel + 1 => do
      if ← accept .value then
        if ← isNext [.key, .value, .blockEnd] then emptyScalar else node fuel true true
      else emptyScalar

/-- The key of a pair between brackets, which end with a token. -/
def flowKey : Nat → (closing : Token) → Parse NodeId
  | 0, _ => refuse
  | fuel + 1, closing => do
      if ← isNext [.value, .flowEntry, closing] then emptyScalar else node fuel false false

/-- The value of a pair between brackets, which end with a token. -/
def flowValue : Nat → (closing : Token) → Parse NodeId
  | 0, _ => refuse
  | fuel + 1, closing => do
      if ← accept .value then
        if ← isNext [.flowEntry, closing] then emptyScalar else node fuel false false
      else emptyScalar

/-- The entries of a sequence between brackets. -/
def flowItems : Nat → (first : Bool) → Parse (List NodeId)
  | 0, _ => refuse
  | fuel + 1, first => do
      if ← accept .flowSequenceEnd then return []
      else
        if !first then expect .flowEntry
        if ← accept .key then
          let pair ← addNode .map (.mapping [])
          let key ← flowKey fuel .flowSequenceEnd
          let value ← flowValue fuel .flowSequenceEnd
          setContent pair (.mapping [(key, value)])
          return pair :: (← flowItems fuel false)
        else if ← accept .flowSequenceEnd then return []
        else
          let item ← node fuel false false
          return item :: (← flowItems fuel false)

/-- The pairs of a mapping between braces. -/
def flowPairs : Nat → (first : Bool) → Parse (List (NodeId × NodeId))
  | 0, _ => refuse
  | fuel + 1, first => do
      if ← accept .flowMappingEnd then return []
      else
        if !first then expect .flowEntry
        if ← accept .key then
          let key ← flowKey fuel .flowMappingEnd
          let value ← flowValue fuel .flowMappingEnd
          return (key, value) :: (← flowPairs fuel false)
        else if ← accept .flowMappingEnd then return []
        else
          let key ← node fuel false false
          let value ← emptyScalar
          return (key, value) :: (← flowPairs fuel false)

end

/-- The directives of a document: a version at most once, each handle at most once. -/
def directives : Nat → (versioned : Bool) → Dictionary Text Text → Parse (Dictionary Text Text)
  | 0, _, _ => refuse
  | fuel + 1, versioned, handles => do
      match ← peek with
      | some (.directive d) => do
          advance
          match d with
          | .version major _ =>
              if versioned || major != 1 then refuse else directives fuel true handles
          | .handle name meaning =>
              if handles.contains name then refuse
              else directives fuel versioned (handles.insert name meaning)
          | .other => directives fuel versioned handles
      | _ => return handles

/-- Moves over document ends. -/
def skipDocumentEnds : Nat → Parse Unit
  | 0 => return ()
  | fuel + 1 => do
      if ← accept .documentEnd then skipDocumentEnds fuel

/-- The content of a document after its start. -/
def documentContent (fuel : Nat) : Parse NodeId := do
  match ← peek with
  | none => emptyScalar
  | some (.directive _) => emptyScalar
  | some .documentStart => emptyScalar
  | some .documentEnd => emptyScalar
  | some _ => node fuel true false

/-- The only document of a text, if there is one. -/
def document (fuel : Nat) : Parse (Option NodeId) := do
  let root ←
    match ← peek with
    | none => pure none
    | some t => do
        let explicit := match t with
          | .directive _ => true
          | .documentStart => true
          | _ => false
        if explicit then do
          let handles ← directives fuel false Dictionary.empty
          modify fun parser => { parser with handles := standardHandles.update handles }
          expect .documentStart
          pure (some (← documentContent fuel))
        else pure (some (← node fuel true false))
  if root.isSome then skipDocumentEnds fuel
  match ← peek with
  | none => return root
  | some _ => do
      let _ ← directives fuel false Dictionary.empty
      expect .documentStart
      refuse

end Parse

/-- The nodes of a document with the number of its root. -/
structure NodeTree where
  /-- The nodes. -/
  graph : Graph
  /-- The number of the root; `none` when the text holds no document. -/
  root : Option NodeId

/-- The nodes of a YAML text. -/
def NodeTree.ofText (t : Text) : Except Error NodeTree := do
  let stream := TokenStream.ofText t
  let fuel := 4 * stream.tokens.length + 8
  let (root, parser) ← (Parse.document fuel).run
    { tokens := stream.tokens, failure := stream.failure, handles := standardHandles }
  .ok { graph := parser.graph, root := root }

end Yaml
end Literate
