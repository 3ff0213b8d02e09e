import Literate.Yaml.Node
import Literate.Yaml.Value

/-!
# From nodes to values

The value of a node depends on its tag.  Scalars have their values at once; a
collection is made empty and filled later, after those that were made before
it, so that a node may be part of itself.

**Mappings.**  Keys keep the order in which they are written.  Merged mappings
come first, and a later value of a key replaces an earlier one.
-/

namespace Literate
namespace Yaml

section Scalars

/-- The error of a scalar. -/
def scalarError {α : Type} (cause : ScalarError) : Except Error α :=
  .error (.scalar cause)

/-- A value that a scalar must have. -/
def required {α : Type} : Option α → Except Error α
  | some value => .ok value
  | none => scalarError .badValue

/-- A whole number: octal after a zero, binary and hexadecimal with a letter, or parts to the base sixty. -/
def integer (t : Text) : Except Error Int := do
  let (negative, unsigned) := Text.cutSign (t.filter (· != '_'))
  let n ← match unsigned with
    | [] => scalarError .noDigits
    | ['0'] => .ok 0
    | '0' :: 'b' :: rest => required (Text.integerIn? 2 rest)
    | '0' :: 'x' :: rest => required (Text.integerIn? 16 rest)
    | '0' :: _ => required (Text.integerIn? 8 unsigned)
    | _ => do
        let parts ← (Text.splitOn ':' unsigned).mapM fun part => required (Text.integerIn? 10 part)
        .ok (parts.foldl (fun total part => total * 60 + part) 0)
  .ok (if negative then -n else n)

/-- The least whole number that no number with a fraction comes near. -/
def floatBound : Nat := Nat.pow 2 1024 - Nat.pow 2 970

/-- The sum of parts, the last of which counts `unit`, the one before sixty times as much, and so on; the
parts come in reverse. -/
def sexagesimal (total : Float) (unit : Nat) : List Float → Except Error Float
  | [] => .ok total
  | part :: rest =>
      if floatBound ≤ unit then scalarError .tooGreat
      else sexagesimal (total + part * Float.ofNat unit) (unit * 60) rest

/-- A number with a fraction, or parts to the base sixty. -/
def fraction (t : Text) : Except Error Float := do
  let bare := Text.lower (t.filter (· != '_'))
  let (negative, unsigned) := Text.cutSign bare
  if bare.isEmpty then scalarError .noDigits
  else if unsigned = ".nan" then .ok (0.0 / 0.0)
  else do
    let x ←
      if unsigned = ".inf" then .ok (1.0 / 0.0)
      else if unsigned.contains ':' then do
        let parts ← (Text.splitOn ':' unsigned).mapM fun part => required (Text.float? part)
        sexagesimal 0.0 1 parts.reverse
      else required (Text.float? unsigned)
    .ok (if negative then -x else x)

/-- The six bits of a character of the base-64 alphabet. -/
def sixBits? (c : Char) : Option Nat :=
  if 'A' ≤ c ∧ c ≤ 'Z' then some (c.toNat - 65)
  else if 'a' ≤ c ∧ c ≤ 'z' then some (c.toNat - 71)
  else if c.isDigit then some (c.toNat + 4)
  else if c = '+' then some 62
  else if c = '/' then some 63
  else none

/-- The six-bit groups of a text in base 64.  Four groups make up three bytes; `place` counts the groups
since the last full three bytes, and `pads` the padding since the last group.  The data ends with enough
padding or, without any, when the bytes are full; other characters are passed over. -/
def sixBitGroups? (place pads : Nat) : Text → Option (List Nat)
  | [] => if place = 0 then some [] else none
  | c :: cs =>
      if c = '=' then
        if place < 2 then sixBitGroups? place pads cs
        else if 4 ≤ place + pads + 1 then some []
        else sixBitGroups? place (pads + 1) cs
      else
        match sixBits? c with
        | some bits => (sixBitGroups? ((place + 1) % 4) 0 cs).map (bits :: ·)
        | none => sixBitGroups? place pads cs

/-- The bytes of six-bit groups; bits that fill no byte are dropped. -/
def bytesOfGroups : List Nat → List UInt8
  | a :: b :: c :: d :: rest =>
      let n := ((a * 64 + b) * 64 + c) * 64 + d
      (n / 65536).toUInt8 :: (n / 256).toUInt8 :: n.toUInt8 :: bytesOfGroups rest
  | [a, b, c] =>
      let n := (a * 64 + b) * 64 + c
      [(n / 1024).toUInt8, (n / 4).toUInt8]
  | [a, b] => [((a * 64 + b) / 16).toUInt8]
  | _ => []

/-- The bytes written in base 64. -/
def binary (t : Text) : Except Error (List UInt8) :=
  if t.any fun c => decide (127 < c.toNat) then .error .malformed
  else
    match sixBitGroups? 0 0 t with
    | some groups => .ok (bytesOfGroups groups)
    | none => .error .malformed

/-- A truth value. -/
def boolean (t : Text) : Except Error Bool :=
  match booleanWords.lookup (Text.lower t) with
  | some b => .ok b
  | none => scalarError .notBoolean

/-- How scalars with a tag are read; `none` when the tag asks for a collection or for nothing known. -/
def scalarReader? : Tag → Option (CodePoints → Except Error Value)
  | .null => some fun _ => .ok .null
  | .bool => some fun points => (boolean (points.map CodePoints.toChar)).map .bool
  | .int => some fun points => (integer (points.map CodePoints.toChar)).map .int
  | .float => some fun points => (fraction (points.map CodePoints.toChar)).map .float
  | .binary => some fun points => (binary (points.map CodePoints.toChar)).map .bytes
  | .timestamp => some fun points => (Timestamp.ofText (points.map CodePoints.toChar)).map .time
  | .str => some fun points => .ok (.text points)
  | _ => none

end Scalars

/-- What is known while values are made from nodes. -/
structure Workshop where
  /-- The nodes; merged mappings are put into them. -/
  graph : Graph
  /-- The collections made so far, filled or not. -/
  collections : Array Collection := #[]
  /-- The nodes whose collections have been made, with the numbers of the collections. -/
  made : List (NodeId × Nat) := []
  /-- The collections that wait to be filled, with their nodes, the last made first. -/
  waiting : List (NodeId × Nat) := []

/-- A computation that makes values. -/
abbrev Make := StateT Workshop (Except Error)

namespace Make

/-- The computation that finds a node unusable. -/
def refuse {α : Type} : Make α :=
  throw .malformed

/-- The node with a number. -/
def node (id : NodeId) : Make Node := do
  match (← get).graph[id]? with
  | some node => return node
  | none => refuse

/-- Changes a node. -/
def modifyNode (id : NodeId) (f : Node → Node) : Make Unit :=
  modify fun workshop => { workshop with graph := workshop.graph.modify id f }

section Merging

/-- Gives a key that stands for the default the tag of an ordinary text. -/
def nameDefault (pair : NodeId × NodeId) : Make Unit :=
  modifyNode pair.1 fun key =>
    if key.tag = .default then { key with tag := .str } else key

/-- The pairs of a mapping. -/
def pairsOf (id : NodeId) : Make (List (NodeId × NodeId)) := do
  match (← node id).content with
  | .mapping pairs => return pairs
  | _ => refuse

/-- Whether the key of a pair is the one that merges other mappings. -/
def isMerge (pair : NodeId × NodeId) : Make Bool := do
  return (← node pair.1).tag = .merge

/-- The place of the first merging pair. -/
def mergePlace? : List (NodeId × NodeId) → Make (Option Nat)
  | [] => return none
  | pair :: rest => do
      if ← isMerge pair then return some 0
      else return (← mergePlace? rest).map (· + 1)

mutual

/-- Puts merged mappings into a mapping, in front of its own pairs, beginning at a place of it; `merged`
holds the pairs found before.  The fuel bounds the number of merging pairs. -/
def flattenFrom : Nat → NodeId → Nat → List (NodeId × NodeId) → Make Unit
  | 0, _, _, _ => refuse
  | fuel + 1, id, place, merged => do
      let pairs ← pairsOf id
      match ← mergePlace? (pairs.drop place) with
      | none => do
          (pairs.drop place).forM nameDefault
          modifyNode id fun node => { node with content := .mapping (merged ++ pairs) }
      | some ahead => do
          ((pairs.drop place).take ahead).forM nameDefault
          let place := place + ahead
          modifyNode id fun node => { node with content := .mapping (pairs.eraseIdx place) }
          let found ← match pairs[place]? with
            | some (_, source) => mergedPairs fuel source
            | none => refuse
          flattenFrom fuel id place (merged ++ found)

/-- The pairs that a merged node brings: those of a mapping, or of several, the first one last, so that it
prevails. -/
def mergedPairs : Nat → NodeId → Make (List (NodeId × NodeId))
  | 0, _ => refuse
  | fuel + 1, source => do
      match (← node source).content with
      | .mapping _ => do
          flattenFrom fuel source 0 []
          pairsOf source
      | .sequence items => do
          let found ← items.mapM fun item => do
            let _ ← pairsOf item
            flattenFrom fuel item 0 []
            pairsOf item
          return found.reverse.flatten
      | .scalar _ => refuse

end

/-- Puts merged mappings into a mapping, in front of its own pairs. -/
def flatten (id : NodeId) : Make Unit := do
  let pairCount := (← get).graph.foldl (fun count node =>
    match node.content with
    | .mapping pairs => count + pairs.length
    | _ => count) 0
  flattenFrom (2 * pairCount + 2) id 0 []

end Merging

section Making

/-- The content of a scalar, or of the default value of a mapping.  The fuel bounds the number of mappings
inside one another. -/
def scalarContent : Nat → NodeId → Make CodePoints
  | 0, _ => throw (.scalar .endless)
  | fuel + 1, id => do
      match (← node id).content with
      | .scalar points => return points
      | .sequence _ => refuse
      | .mapping pairs => do
          match ← pairs.findM? fun pair => do return (← node pair.1).tag = .default with
          | some (_, value) => scalarContent fuel value
          | none => refuse

/-- The empty collection that a tag asks for. -/
def emptyCollection? : Tag → Option Collection
  | .seq => some (.list [])
  | .omap => some (.list [])
  | .pairs => some (.list [])
  | .map => some (.mapping [])
  | .set => some (.set [])
  | _ => none

/-- Adds a collection and gives its number. -/
def addCollection (collection : Collection) : Make Nat := do
  let workshop ← get
  set { workshop with collections := workshop.collections.push collection }
  return workshop.collections.size

/-- The value of a node.  A collection is made the first time, and waits to be filled. -/
def value (id : NodeId) : Make Value := do
  match (← get).made.lookup id with
  | some number => return .ref number
  | none => do
      let found ← node id
      match emptyCollection? found.tag with
      | some collection => do
          let number ← addCollection collection
          modify fun workshop =>
            { workshop with
              made := (id, number) :: workshop.made
              waiting := (id, number) :: workshop.waiting }
          return .ref number
      | none => do
          match scalarReader? found.tag with
          | none => refuse
          | some read => do
              let points ← scalarContent ((← get).graph.size + 1) id
              match found.tag, found.content with
              | .timestamp, .mapping _ => throw (.scalar .notScalar)
              | _, _ => read points

/-- The values of the pairs of a mapping after those already made. -/
def mappingValues (done : List (Value × Value)) : List (NodeId × NodeId) → Make (List (Value × Value))
  | [] => return done
  | (k, v) :: rest => do
      let key ← value k
      if key.canBeKey then mappingValues (putPair key (← value v) done) rest else refuse

/-- The values of a mapping after merging. -/
def mappingOf (id : NodeId) : Make (List (Value × Value)) := do
  match (← node id).content with
  | .mapping _ => do
      flatten id
      mappingValues [] (← pairsOf id)
  | _ => refuse

/-- The value of an entry of an ordered list of pairs, a mapping of one pair. -/
def pairValue (id : NodeId) : Make Value := do
  match (← node id).content with
  | .mapping [(k, v)] => do
      let key ← value k
      let item ← value v
      return .ref (← addCollection (.pair key item))
  | _ => refuse

/-- The collection of a node, filled. -/
def filled (id : NodeId) : Make Collection := do
  let found ← node id
  match found.tag, found.content with
  | .seq, .sequence items => return .list (← items.mapM value)
  | .omap, .sequence items => return .list (← items.mapM pairValue)
  | .pairs, .sequence items => return .list (← items.mapM pairValue)
  | .map, _ => return .mapping (← mappingOf id)
  | .set, _ => return .set ((← mappingOf id).map Prod.fst)
  | _, _ => refuse

/-- Fills collections, in the order in which they were made. -/
def fillEach : List (NodeId × Nat) → Make Unit
  | [] => return ()
  | (id, number) :: rest => do
      let collection ← filled id
      modify fun workshop =>
        { workshop with collections := workshop.collections.setIfInBounds number collection }
      fillEach rest

/-- Fills the collections that wait, and those made meanwhile.  The fuel bounds the number of rounds. -/
def fillAll : Nat → Make Unit
  | 0 => return ()
  | fuel + 1 => do
      let waiting := (← get).waiting.reverse
      if waiting.isEmpty then return ()
      else do
        modify fun workshop => { workshop with waiting := [] }
        fillEach waiting
        fillAll fuel

/-- The value of a node with its collections filled. -/
def whole (id : NodeId) : Make Value := do
  let v ← value id
  fillAll ((← get).graph.size + 1)
  return v

end Making

end Make

/-- Reads the value of a text. -/
abbrev Loader := Text → Except Error Data

/-- The value of a YAML text; a text without a document has no value. -/
def load (t : Text) : Except Error Data := do
  let tree ← NodeTree.ofText t
  match tree.root with
  | none => .ok { root := .null }
  | some id => do
      let (root, workshop) ← (Make.whole id).run { graph := tree.graph }
      .ok { root := root, collections := workshop.collections }

end Yaml
end Literate
