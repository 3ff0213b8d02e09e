import Literate.Params
import Literate.Path

/-!
# Blocks

A block passes through three forms: as the document shows it, where a name may
be missing; as it is collected, with a name and its place in the document; and
as it is rendered, with the text that goes into its destination.
-/

namespace Literate

/-- Where a block comes from. -/
structure Link where
  /-- The file of the document, if it has one. -/
  path : Option Path := none
  /-- The line on which the block begins, counted from one. -/
  line : Int := 1
  /-- The heading that the block stands under. -/
  heading : Option Text := none
deriving DecidableEq, Inhabited

/-- The link target that points back at the block: its heading, or else its line. -/
def Link.target (link : Link) : Text :=
  let file : Text := (link.path.map Path.name).getD []
  let place : Text :=
    match link.heading with
    | some (c :: title) => '*' :: c :: title
    | _ => Text.ofInt link.line
  "file:" ++ file ++ "::" ++ place

/-- A block as it stands in a document. -/
structure DocumentBlock where
  /-- The language, empty when none is given. -/
  language : Text
  /-- The name given in front of the block. -/
  name : Option Text
  /-- The header arguments, inherited ones included. -/
  params : Params
  /-- The body. -/
  body : Text
  /-- Where the block stands. -/
  link : Link
deriving DecidableEq, Inhabited

/-- A block collected from a document: every block has a name. -/
structure Block where
  /-- The language, empty when none is given. -/
  language : Text
  /-- The name. -/
  name : Text
  /-- The header arguments. -/
  params : Params
  /-- The body as written. -/
  body : Text
  /-- Where the block stands. -/
  link : Link
  /-- Its number in the document, counted from one. -/
  index : Nat := 0
deriving DecidableEq, Inhabited

/-- A block together with the text that goes into its destination. -/
structure RenderedBlock where
  /-- The block. -/
  source : Block
  /-- The text. -/
  text : Text
deriving DecidableEq, Inhabited

namespace RenderedBlock

/-- The name of the block. -/
abbrev name (b : RenderedBlock) : Text := b.source.name

/-- The language of the block. -/
abbrev language (b : RenderedBlock) : Text := b.source.language

/-- The header arguments of the block. -/
abbrev params (b : RenderedBlock) : Params := b.source.params

/-- Where the block stands. -/
abbrev link (b : RenderedBlock) : Link := b.source.link

end RenderedBlock

end Literate
