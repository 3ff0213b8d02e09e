import Literate.Template.Constant

/-!
# Templates

A template is a sequence of outputs and conditions; an output is a sequence of
plain texts and expressions.  A template is read and checked once and then
filled in with the values of its variables.

**Engines.**  What is made with templates does not depend on how they are
written: it takes the engine that reads them as a parameter.
-/

namespace Literate
namespace Template

/-- A piece of an output. -/
inductive Piece
  /-- Text that stands for itself. -/
  | plain (t : Text)
  /-- The value of an expression. -/
  | value (e : Expr)

/-- A part of a template. -/
inductive Node
  /-- What is written in any case. -/
  | output (pieces : List Piece)
  /-- One of two sequences, as a condition says. -/
  | cond (test : Expr) (yes no : List Node)

section Parsing

/-- The words that go on with a condition or end it. -/
def conditionWords : List Text := ["elif", "else", "endif"]

/-- The tokens after a colon that may stand here. -/
def dropColon : List Token → List Token
  | .symbol t :: rest => if t = ":" then rest else .symbol t :: rest
  | tokens => tokens

/-- The pieces up to the next statement. -/
def parsePieces : Nat → List Token → Except TemplateError (Parsed (List Piece))
  | 0, _ => .error .malformed
  | fuel + 1, tokens =>
      match tokens with
      | .plain t :: rest => do
          let (pieces, after) ← parsePieces fuel rest
          .ok (.plain t :: pieces, after)
      | .opening .output :: rest => do
          let (e, after) ← parseExpr (5 * rest.length + 8) rest
          let (pieces, last) ← parsePieces fuel (← expect (.closing .output) after)
          .ok (.value e :: pieces, last)
      | _ => .ok ([], tokens)

mutual

/-- The parts up to the end or up to a word that belongs to an open condition. -/
def parseNodes : Nat → List Token → Except TemplateError (Parsed (List Node))
  | 0, _ => .error .malformed
  | fuel + 1, tokens => do
      let (pieces, rest) ← parsePieces (tokens.length + 1) tokens
      let before := if pieces.isEmpty then [] else [Node.output pieces]
      match rest with
      | [] => .ok (before, [])
      | .opening .statement :: .name word :: inside =>
          if conditionWords.contains word then .ok (before, .name word :: inside)
          else if word = "if" then do
            let (node, after) ← parseCondition fuel inside
            let (nodes, last) ← parseNodes fuel after
            .ok (before ++ node :: nodes, last)
          else .error .malformed
      | .opening .statement :: inside => .error (unexpected inside)
      | _ => .error .malformed

/-- A condition after its first word, up to and including its end. -/
def parseCondition : Nat → List Token → Except TemplateError (Parsed Node)
  | 0, _ => .error .malformed
  | fuel + 1, tokens => do
      let (test, after) ← parseExpr (5 * tokens.length + 8) tokens
      let (yes, rest) ← parseNodes fuel (← expect (.closing .statement) (dropColon after))
      match rest with
      | .name word :: more =>
          if word = "elif" then do
            let (inner, last) ← parseCondition fuel more
            .ok (.cond test yes [inner], last)
          else if word = "else" then do
            let (no, final) ← parseNodes fuel (← expect (.closing .statement) (dropColon more))
            let last ← expect (.closing .statement) (← expect (.name "endif") final)
            .ok (.cond test yes no, last)
          else do .ok (.cond test yes [], ← expect (.closing .statement) more)
      | _ => .error .malformed

end

end Parsing

section Checking

/-- Checks that a constant piece has a text. -/
def Piece.checkConstant : Piece → Except TemplateError Unit
  | .plain _ => .ok ()
  | .value e => do
      match ← e.constant? with
      | some v => do let _ ← v.toText
      | none => .ok ()

/-- Checks a piece that is not constant. -/
def Piece.checkVariable (inCondition : Bool) : Piece → Except TemplateError Unit
  | .plain _ => .ok ()
  | .value e => do
      match ← e.constant? with
      | some _ => .ok ()
      | none => (← e.fold).check inCondition

mutual

/-- Checks one part: of an output, the constant pieces first. -/
def Node.check (inCondition : Bool) : Node → Except TemplateError Unit
  | .output pieces => do
      pieces.forM Piece.checkConstant
      pieces.forM (Piece.checkVariable inCondition)
  | .cond test yes no => do
      (← test.fold).check true
      checkNodes true yes
      checkNodes true no

/-- Checks several parts. -/
def checkNodes (inCondition : Bool) : List Node → Except TemplateError Unit
  | [] => .ok ()
  | node :: rest => do
      node.check inCondition
      checkNodes inCondition rest

end

end Checking

section Rendering

/-- The text of one piece. -/
def Piece.render (bindings : Bindings) : Piece → Except TemplateError CodePoints
  | .plain t => .ok (CodePoints.ofText t)
  | .value e => do (← e.eval bindings).toText

/-- The text of several pieces. -/
def renderPieces (bindings : Bindings) : List Piece → Except TemplateError CodePoints
  | [] => .ok []
  | piece :: rest => do
      let first ← piece.render bindings
      .ok (first ++ (← renderPieces bindings rest))

mutual

/-- The text of one part. -/
def Node.render (bindings : Bindings) : Node → Except TemplateError CodePoints
  | .output pieces => renderPieces bindings pieces
  | .cond test yes no => do
      if (← test.eval bindings).isTrue then renderNodes bindings yes
      else renderNodes bindings no

/-- The text of several parts. -/
def renderNodes (bindings : Bindings) : List Node → Except TemplateError CodePoints
  | [] => .ok []
  | node :: rest => do
      let first ← node.render bindings
      .ok (first ++ (← renderNodes bindings rest))

end

end Rendering

end Template

/-- A template that has been read. -/
structure Template where
  /-- Its parts. -/
  nodes : List Template.Node

namespace Template

/-- The template written in a text. -/
def parse (t : Text) : Except TemplateError Template := do
  let all := tokens t
  match ← parseNodes (all.length + 1) all with
  | (nodes, []) => do
      checkNodes false nodes
      .ok ⟨nodes⟩
  | _ => .error .malformed

/-- The text of a template with values for its variables. -/
def render (template : Template) (bindings : Bindings) : Except TemplateError Text := do
  .ok (← renderNodes bindings template.nodes).toText

/-- An engine of templates.  It reads a template once and fills it in with values any number of times.  What
comes out may depend on chance, for which a seed stands. -/
structure Engine where
  /-- Reads a template, which then makes a text of a seed and the values of its variables. -/
  read : Text → Except TemplateError (Nat → Bindings → Except TemplateError Text)

/-- The engine of the templates above, in which chance has no part. -/
def Engine.standard : Engine where
  read t := do
    let template ← parse t
    .ok fun _ bindings => template.render bindings

end Template

end Literate
