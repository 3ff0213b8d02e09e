import Literate.Emission

/-!
# Decoration

Blocks are decorated by templates that an engine reads.  With an engine that is
deterministic a decoration does not depend on chance (`ofTexts_seed`).

**Standard decoration.**  The standard templates say that a block stands between a comment with a link back to
it and a comment with a reference to its name.  They are read once and for all
(`ofTexts_standard`); what they make of a block is a text of its own, which does not
depend on anything but the link, the name and the comment style (`render_standard`).

**Main statements.**
* `ofTexts_seed`: where chance has no part, every run decorates alike.
* `ofTexts_standard`: the standard templates can be read.
* `render_standard`: what is written for a block.
-/

namespace Literate

namespace CodePoints

theorem ofText_append
    (t u : Text) :
    ofText (t ++ u) = ofText t ++ ofText u :=
  List.map_append

end CodePoints

namespace Template

variable {bindings : Bindings} {pieces : List Piece} {rest : CodePoints}

theorem renderPieces_plain
    (t : Text)
    (hrest : renderPieces bindings pieces = .ok rest) :
    renderPieces bindings (.plain t :: pieces) = .ok (CodePoints.ofText t ++ rest) := by
  simp [renderPieces, Piece.render, hrest, bind, Except.bind]

theorem renderPieces_var
    {name t : Text}
    (hname : bindings.lookup name = some (.text (CodePoints.ofText t)))
    (hrest : renderPieces bindings pieces = .ok rest) :
    renderPieces bindings (.value (.var name) :: pieces) = .ok (CodePoints.ofText t ++ rest) := by
  have hpiece : (Piece.value (.var name)).render bindings = .ok (CodePoints.ofText t) := by
    rw [Piece.render, Expr.eval, hname]
    rfl
  simp [renderPieces, hpiece, hrest, bind, Except.bind]

/-- A template without conditions makes the text of its pieces. -/
theorem render_output
    {t : Text}
    (h : renderPieces bindings pieces = .ok (CodePoints.ofText t)) :
    (Template.mk [.output pieces]).render bindings = .ok t := by
  simp [render, renderNodes, Node.render, h, bind, Except.bind, CodePoints.toText_ofText]

theorem Engine.read_standard
    {t : Text} {template : Template}
    (h : parse t = .ok template) :
    Engine.standard.read t = .ok fun _ => template.render := by
  unfold Engine.standard
  dsimp only
  rw [h]
  rfl

/-- Chance has no part in what the templates of an engine make. -/
def Engine.IsDeterministic (engine : Engine) : Prop :=
  ∀ t template, engine.read t = .ok template → ∀ seed seed', template seed = template seed'

theorem Engine.standard_isDeterministic : Engine.standard.IsDeterministic := by
  intro t template hread seed seed'
  unfold Engine.standard at hread
  dsimp only at hread
  cases hparsed : parse t with
  | error cause =>
      rw [hparsed] at hread
      cases hread
  | ok parsed =>
      rw [hparsed] at hread
      cases hread
      rfl

end Template

namespace Decoration

/-- A deterministic engine decorates alike in every run. -/
theorem ofTexts_seed
    {engine : Template.Engine} (comments : Bool) (opening closing : Text)
    (styles : Dictionary Text CommentStyle) (seed seed' : Nat)
    (h : engine.IsDeterministic) :
    ofTexts comments opening closing styles engine seed =
      ofTexts comments opening closing styles engine seed' := by
  unfold ofTexts
  cases hfirst : engine.read opening with
  | error cause =>
      rfl
  | ok first =>
      cases hlast : engine.read closing with
      | error cause =>
          rfl
      | ok last =>
          dsimp only [bind, Except.bind]
          rw [h opening first hfirst seed seed', h closing last hlast (seed + 1) (seed' + 1)]

/-- The template of the link back to a block. -/
def backLinkTemplate : Template :=
  ⟨[.output [.plain "[[", .value (.var "link"), .plain "][", .value (.var "name"), .plain "]]"]]⟩

/-- The template of the text that tells where a block ends. -/
def endNoteTemplate : Template :=
  ⟨[.output [.plain "<<", .value (.var "name"), .plain ">> ends here"]]⟩

/-- The decoration of the standard templates. -/
def standard (comments : Bool) (styles : Dictionary Text CommentStyle) : Decoration where
  comments := comments
  opening := backLinkTemplate.render
  closing := endNoteTemplate.render
  styles := Language.commentStylesWith styles

theorem tokens_standardOpening :
    Template.tokens standardOpening =
      [.plain "[[", .opening .output, .name "link", .closing .output, .plain "][", .opening .output,
        .name "name", .closing .output, .plain "]]"] := by
  decide +kernel

theorem tokens_standardClosing :
    Template.tokens standardClosing =
      [.plain "<<", .opening .output, .name "name", .closing .output, .plain ">> ends here"] := by
  decide +kernel

theorem parse_standardOpening : Template.parse standardOpening = .ok backLinkTemplate := by
  rw [Template.parse, tokens_standardOpening]
  rfl

theorem parse_standardClosing : Template.parse standardClosing = .ok endNoteTemplate := by
  rw [Template.parse, tokens_standardClosing]
  rfl

/-- The standard templates can be read. -/
theorem ofTexts_standard
    (comments : Bool) (styles : Dictionary Text CommentStyle) :
    ofTexts comments standardOpening standardClosing styles = .ok (standard comments styles) := by
  rw [ofTexts, Template.Engine.read_standard parse_standardOpening,
    Template.Engine.read_standard parse_standardClosing]
  rfl

/-- A text written as a comment in the language of a block. -/
def comment (styles : Dictionary Text CommentStyle) (block : RenderedBlock) (text : Text) : Text :=
  let style := Language.commentStyleIn (Language.commentStylesWith styles) block.language
  style.opening ++ text ++ style.closing

/-- The link back to a block. -/
def backLink (block : RenderedBlock) : Text :=
  "[[" ++ block.link.target ++ "][" ++ block.name ++ "]]"

/-- The text that tells where a block ends. -/
def endNote (block : RenderedBlock) : Text :=
  "<<" ++ block.name ++ ">> ends here"

/-- A text between the two comments of a block, each on a line of its own. -/
def enclose (styles : Dictionary Text CommentStyle) (block : RenderedBlock) (text : Text) : Text :=
  comment styles block (backLink block) ++ "\n" ++ text ++ comment styles block (endNote block) ++ "\n"

/-- The text of a block with a line feed after it; a block without text makes no line between comments. -/
def bodyLines (block : RenderedBlock) : Text :=
  if block.text.isEmpty then [] else block.text ++ "\n"

/-- What is written for a block. -/
def rendered (comments : Bool) (styles : Dictionary Text CommentStyle) (block : RenderedBlock) : Text :=
  if comments && block.params.wantsComments then enclose styles block (bodyLines block)
  else block.text ++ "\n"

section Standard

variable (comments : Bool) (styles : Dictionary Text CommentStyle) (block : RenderedBlock)

theorem render_backLinkTemplate :
    backLinkTemplate.render (bindings block) = .ok (backLink block) := by
  apply Template.render_output
  rw [Template.renderPieces_plain _ (Template.renderPieces_var rfl (Template.renderPieces_plain _
    (Template.renderPieces_var rfl (Template.renderPieces_plain _ rfl))))]
  simp only [backLink, CodePoints.ofText_append, List.append_assoc, List.append_nil]

theorem render_endNoteTemplate :
    endNoteTemplate.render (bindings block) = .ok (endNote block) := by
  apply Template.render_output
  rw [Template.renderPieces_plain _ (Template.renderPieces_var rfl (Template.renderPieces_plain _ rfl))]
  simp only [endNote, CodePoints.ofText_append, List.append_assoc, List.append_nil]

/-- The standard templates never fail. -/
theorem render_standard :
    (standard comments styles).render block = .ok (rendered comments styles block) := by
  have hopening : (standard comments styles).commentLine backLinkTemplate.render block =
      .ok (comment styles block (backLink block)) := by
    rw [commentLine, render_backLinkTemplate]
    rfl
  have hclosing : (standard comments styles).commentLine endNoteTemplate.render block =
      .ok (comment styles block (endNote block)) := by
    rw [commentLine, render_endNoteTemplate]
    rfl
  have hcomments : (standard comments styles).comments = comments := rfl
  cases hwants : comments && block.params.wantsComments with
  | true =>
      rw [render, rendered, hcomments, hwants, if_pos rfl, if_pos rfl]
      change ((standard comments styles).commentLine backLinkTemplate.render block >>= fun first =>
        (standard comments styles).commentLine endNoteTemplate.render block >>= fun last => _) = _
      rw [hopening, hclosing]
      cases htext : block.text <;> simp [enclose, bodyLines, htext, Text.join, bind, Except.bind]
  | false =>
      rw [render, rendered, hcomments, hwants, if_neg Bool.false_ne_true, if_neg Bool.false_ne_true]
      cases htext : block.text <;> simp [Text.join]

end Standard

end Decoration
end Literate
