import Literate.Proofs.Cleaning.Undo
import Literate.Proofs.Document.Labels

/-!
# Comments that cleaning recognises

The comments around a block are made of its labels: the name of the document's file, the
title of its heading, and its own name.  Cleaning finds a comment again by the mark in
it.  A bracket in a label breaks the mark, although nothing in a document keeps
brackets out of labels: titles such as `Task [1/2]` are common.

**One mark.**  Every mark starts with one of two texts (`starts`).  Where neither of them
can be found but at the beginning of a comment (`IsTame`), the comment is a marker line
only through the mark at its beginning, and then that mark is the whole link, or the
whole reference (`eq_backLink_of_isMark`, `eq_reference_of_isMark`).

**Main statements.**
* `exists_mark_of_drops`: a line that is dropped holds a mark.
* `clean_drops_comments`: which comments around the blocks of a document are dropped.
* `clean_keeps_backLink`: one that is not.
-/

namespace Literate

namespace Cleaning

/-- Whatever stands around the line, cleaning takes it away and leaves the rest as it would be without it. -/
def Drops (line : Text) : Prop :=
  ∀ before after : Text, (∀ c ∈ before.getLast?, c = '\n') →
    clean (before ++ line ++ "\n" ++ after) = clean before ++ clean after

/-- The texts that marks start with. -/
def starts : List Text :=
  ["[[file:", "<<"]

/-- A mark may begin inside the text. -/
def Opens (t : Text) : Prop :=
  ∃ start ∈ starts, start <:+: t

instance instDecidableOpens (t : Text) : Decidable (Opens t) :=
  List.decidableBEx (fun start => start <:+: t) starts

/-- Whether the first character of a text that may not stand inside brackets closes them and has another
such character, or the bracket that is put behind the text, right behind it. -/
def closesEarly (isInner : Char → Bool) (close : Char) (t : Text) : Bool :=
  match (t ++ [close]).dropWhile isInner with
  | c :: d :: _ => c == close && !isInner d
  | _ => false

section Lines

variable {line : Text}

theorem drops_of_isMarker
    (hline : ∀ c ∈ line, Text.isLineEnd c = false)
    (hmarker : isMarker line = true) :
    Drops line := by
  intro before after hbefore
  rw [List.append_assoc, List.append_assoc, clean_append _ hbefore, ← List.append_assoc,
    (clean_marker after hline hmarker).1]

/-- A line that is dropped holds a mark, and the mark has no line ends. -/
theorem exists_mark_of_drops
    (h : Drops line) :
    ∃ mark, IsMark mark ∧ mark <:+: line ∧ ∀ c ∈ mark, Text.isLineEnd c = false := by
  have hclean : clean (line ++ "\n") = [] := by
    have hnil : clean [] = [] := rfl
    simpa [hnil] using h [] [] (by simp)
  have hcount : markerCount (line ++ "\n") ≠ 0 := by
    intro hnone
    rw [clean_of_markerCount hnone] at hclean
    simp at hclean
  obtain ⟨whole, hwhole⟩ := List.exists_mem_of_length_pos (Nat.pos_of_ne_zero hcount)
  obtain ⟨hmem, hmarker⟩ := List.mem_filter.mp hwhole
  rw [isMarker_withoutEnd hmem, isMarker_iff] at hmarker
  obtain ⟨mark, hmark, hpart⟩ := hmarker
  have hline : mark <:+: line ++ "\n" := by
    refine hpart.trans ((List.takeWhile_prefix _).isInfix.trans ?_)
    rw [← Text.flatten_linesWithEnds (line ++ "\n")]
    exact List.infix_of_mem_flatten hmem
  refine ⟨mark, hmark, hmark.infix_of_append (by simp [Text.isLineEnd_newline]) hline, ?_⟩
  intro c hc
  simpa using List.mem_takeWhile_imp (hpart.subset hc)

end Lines

section Starts

variable {mark t u v : Text} {c : Char}

theorem IsMark.exists_start
    (h : IsMark mark) :
    ∃ start ∈ starts, start <+: mark := by
  cases h with
  | link hlink =>
      refine ⟨"[[file:", by simp [starts], ?_⟩
      cases hlink with
      | plain target hne htarget =>
          exact ⟨target ++ "]]", by simp⟩
      | described target description hne htarget hdescription =>
          exact ⟨target ++ "][" ++ description ++ "]]", by simp⟩
  | reference name hchars hname =>
      exact ⟨"<<", by simp [starts], name ++ ">>", by simp [Piece.text]⟩

theorem not_opens_of_isPart
    (hpart : t <:+: u)
    (h : ¬ Opens u) :
    ¬ Opens t := by
  rintro ⟨start, hstart, ht⟩
  exact h ⟨start, hstart, ht.trans hpart⟩

/-- Around a character that no start has, starts are on either side of it. -/
theorem not_opens_append_cons
    (hc : ∀ start ∈ starts, c ∉ start)
    (hu : ¬ Opens u)
    (hv : ¬ Opens v) :
    ¬ Opens (u ++ c :: v) := by
  rintro ⟨start, hstart, hpart⟩
  rcases Text.isPart_of_start (List.prefix_refl start) (hc start hstart) hpart with hleft | hright
  · exact hu ⟨start, hstart, hleft⟩
  · exact hv ⟨start, hstart, hright⟩

/-- A mark in a comment is at its beginning when nothing else in the comment opens one. -/
theorem IsMark.isPrefix_of_isPart
    {opening : Text} {first : Char}
    (hmark : IsMark mark)
    (hc : ∀ start ∈ starts, c ∉ start)
    (hopening : ¬ Opens opening)
    (hu : ¬ Opens u)
    (hv : ¬ Opens v)
    (h : mark <:+: opening ++ ' ' :: (first :: (u ++ c :: v))) :
    mark <+: first :: (u ++ c :: v) := by
  obtain ⟨start, hstart, hprefix⟩ := hmark.exists_start
  have hspace : ∀ start ∈ starts, ' ' ∉ start := by
    decide
  rcases Text.isPart_of_start hprefix (hspace start hstart) h with hleft | hright
  · exact absurd ⟨start, hstart, hleft⟩ hopening
  · rcases List.infix_cons_iff.mp hright with hhere | hlater
    · exact hhere
    · exact absurd ⟨start, hstart, hprefix.isInfix.trans hlater⟩ (not_opens_append_cons hc hu hv)

end Starts

section Closing

variable {isInner : Char → Bool} {close : Char} {x t v w : Text}

/-- Two ways of closing brackets are the same when the text between them does not close them early. -/
theorem eq_of_closesEarly
    {d : Char}
    (hclose : isInner close = false)
    (hd : isInner d = false)
    (hx : ∀ c ∈ x, isInner c = true)
    (ht : closesEarly isInner close t = false)
    (h : x ++ close :: d :: w = t ++ close :: v) :
    x = t ∧ d :: w = v := by
  rcases List.append_eq_append_iff.mp h with ⟨rest, hrest, htail⟩ | ⟨rest, hrest, htail⟩
  · cases rest with
    | nil =>
        exact ⟨by simpa using hrest.symm, (List.cons.inj htail).2⟩
    | cons e rest =>
        -- the text would close early, right behind the inner characters
        exfalso
        obtain ⟨rfl, hdw⟩ := List.cons.inj htail
        have hdrop : (t ++ [close]).dropWhile isInner = close :: (rest ++ [close]) := by
          rw [hrest, List.append_assoc, List.dropWhile_append_of_pos hx, List.cons_append,
            List.dropWhile_cons_of_neg (by simp [hclose])]
        have hnext : ∃ more, rest ++ [close] = d :: more := by
          cases rest with
          | nil =>
              exact ⟨[], by simp [(List.cons.inj hdw).1]⟩
          | cons e rest =>
              exact ⟨rest ++ [close], by simp [(List.cons.inj hdw).1]⟩
        obtain ⟨more, hmore⟩ := hnext
        rw [closesEarly, hdrop, hmore] at ht
        simp [hd] at ht
  · cases rest with
    | nil =>
        exact ⟨by simpa using hrest, (List.cons.inj htail).2.symm⟩
    | cons e rest =>
        obtain ⟨rfl, -⟩ := List.cons.inj htail
        have hinner := hx close (by simp [hrest])
        rw [hclose] at hinner
        cases hinner

end Closing

end Cleaning

namespace Language

/-- A comment style is plain when no mark can begin in what it puts around a text, and it has no line ends. -/
structure IsPlain (style : CommentStyle) : Prop where
  /-- The text comes behind a space. -/
  space : style.opening.getLast? = some ' '
  /-- No mark begins before the space. -/
  opening : ¬ Cleaning.Opens style.opening.dropLast
  /-- No mark begins behind the text that tells where a block ends. -/
  closing : ¬ Cleaning.Opens (" ends here" ++ style.closing)
  /-- There are no line ends. -/
  lines : ∀ c ∈ style.opening ++ style.closing, Text.isLineEnd c = false

instance instDecidableIsPlain (style : CommentStyle) : Decidable (IsPlain style) :=
  have : Decidable (∀ c ∈ style.opening ++ style.closing, Text.isLineEnd c = false) :=
    List.decidableBAll _ _
  decidable_of_iff
    (style.opening.getLast? = some ' ' ∧ ¬ Cleaning.Opens style.opening.dropLast ∧
      ¬ Cleaning.Opens (" ends here" ++ style.closing) ∧
      ∀ c ∈ style.opening ++ style.closing, Text.isLineEnd c = false)
    ⟨fun ⟨hspace, hopening, hclosing, hlines⟩ => ⟨hspace, hopening, hclosing, hlines⟩,
      fun ⟨hspace, hopening, hclosing, hlines⟩ => ⟨hspace, hopening, hclosing, hlines⟩⟩

/-- The comment styles known from the start are plain. -/
theorem isPlain_commentStyleIn
    (language : Text) :
    IsPlain (commentStyleIn (commentStylesWith Dictionary.empty) language) := by
  have hall : ∀ style ∈ hash :: commentStyles.entries.map Prod.snd, IsPlain style := by
    decide +kernel
  apply hall
  change (commentStyles.get? language).getD hash ∈ _
  cases hstyle : commentStyles.get? language with
  | none =>
      exact List.mem_cons_self
  | some style =>
      exact List.mem_cons_of_mem _ (List.mem_map.mpr ⟨_, Dictionary.mem_entries_of_get? hstyle, rfl⟩)

end Language

namespace Decoration

open Cleaning

/-- No mark can begin in the labels of a block but where its comments begin one, nor can it end there before
its time. -/
structure IsTame (block : Block) : Prop where
  /-- No mark begins in the place that the block links to. -/
  target : ¬ Opens block.link.target
  /-- No mark begins in the name behind a square bracket. -/
  link_name : ¬ Opens ('[' :: block.name)
  /-- No mark begins in the name behind an angle bracket. -/
  note_name : ¬ Opens ('<' :: block.name)
  /-- The place does not end the link. -/
  target_closes : closesEarly isLinkChar ']' block.link.target = false
  /-- The name does not end the link. -/
  link_closes : closesEarly isLinkChar ']' block.name = false
  /-- The name does not end the reference. -/
  note_closes : closesEarly Reference.isNameChar '>' block.name = false

section Marks

variable {block : RenderedBlock} {mark rest : Text}

/-- The only mark at the beginning of a link back to a block is the whole link. -/
theorem eq_backLink_of_isMark
    (htame : IsTame block.source)
    (hmark : IsMark mark)
    (h : mark <+: backLink block ++ rest) :
    mark = backLink block ∧ (∀ c ∈ block.link.target, isLinkChar c = true) ∧
      ∀ c ∈ block.name, isLinkChar c = true := by
  obtain ⟨after, hafter⟩ := h
  have hbracket : isLinkChar ']' = false := by
    decide
  have hopen : isLinkChar '[' = false := by
    decide
  have hfile : ∀ {t : Text}, (∀ c ∈ t, isLinkChar c = true) → ∀ c ∈ "file:" ++ t, isLinkChar c = true := by
    intro t ht c hc
    rcases List.mem_append.mp hc with hc | hc
    · have hall : ("file:" : Text).all isLinkChar = true := by
        decide
      exact List.all_eq_true.mp hall c hc
    · exact ht c hc
  cases hmark with
  | link hlink =>
      cases hlink with
      | plain target hne htarget =>
          have hsplit : ("file:" ++ target) ++ ']' :: ']' :: after =
              block.link.target ++ ']' :: ('[' :: (block.name ++ "]]" ++ rest)) := by
            simpa [backLink] using hafter
          have hsame := eq_of_closesEarly hbracket hbracket (hfile htarget) htame.target_closes hsplit
          simp at hsame
      | described target description hne htarget hdescription =>
          have hsplit : ("file:" ++ target) ++ ']' :: '[' :: (description ++ "]]" ++ after) =
              block.link.target ++ ']' :: ('[' :: (block.name ++ "]]" ++ rest)) := by
            simpa [backLink] using hafter
          obtain ⟨hplace, hbehind⟩ :=
            eq_of_closesEarly hbracket hopen (hfile htarget) htame.target_closes hsplit
          have hinside : description ++ ']' :: ']' :: after = block.name ++ ']' :: (']' :: rest) := by
            simpa using hbehind
          obtain ⟨rfl, -⟩ :=
            eq_of_closesEarly hbracket hbracket hdescription htame.link_closes hinside
          refine ⟨?_, hplace ▸ hfile htarget, hdescription⟩
          simp [backLink, ← hplace]
  | reference name hchars hname =>
      simp [Piece.text, backLink] at hafter

/-- The only mark at the beginning of the text that tells where a block ends is the whole reference. -/
theorem eq_reference_of_isMark
    (htame : IsTame block.source)
    (hmark : IsMark mark)
    (h : mark <+: endNote block ++ rest) :
    ∀ c ∈ block.name, c ≠ '<' ∧ c ≠ '>' := by
  obtain ⟨after, hafter⟩ := h
  have hangle : Reference.isNameChar '>' = false := by
    decide
  cases hmark with
  | link hlink =>
      cases hlink <;> simp [endNote] at hafter
  | reference name hchars hname =>
      have hsplit : name ++ '>' :: '>' :: after = block.name ++ '>' :: ('>' :: (" ends here" ++ rest)) := by
        simpa [Piece.text, endNote] using hafter
      obtain ⟨rfl, -⟩ := eq_of_closesEarly hangle hangle hchars htame.note_closes hsplit
      intro c hc
      simpa [Reference.isNameChar] using hchars c hc

end Marks

section Comments

variable {block : RenderedBlock}

/-- Comments of the styles known from the start are texts behind a space, where only the text can hold a
mark. -/
theorem exists_comment_eq
    (block : RenderedBlock) :
    ∃ opening closing : Text, ¬ Opens opening ∧ ¬ Opens (" ends here" ++ closing) ∧
      (∀ c ∈ comment Dictionary.empty block [], Text.isLineEnd c = false) ∧
      ∀ text, comment Dictionary.empty block text = opening ++ ' ' :: (text ++ closing) := by
  have hplain := Language.isPlain_commentStyleIn block.language
  obtain ⟨opening, hopening⟩ := List.getLast?_eq_some_iff.mp hplain.space
  refine ⟨opening, _, ?_, hplain.closing, ?_, ?_⟩
  · simpa [hopening] using hplain.opening
  · simpa [comment] using hplain.lines
  · intro text
    simp [comment, hopening]

/-- A link back to a block that is dropped with its line has neither brackets nor line ends inside. -/
theorem isCaption_of_drops
    (htame : IsTame block.source)
    (h : Drops (comment Dictionary.empty block (backLink block))) :
    IsCaption block.link.target ∧ IsCaption block.name := by
  obtain ⟨mark, hmark, hpart, hends⟩ := exists_mark_of_drops h
  obtain ⟨opening, closing, hopening, hclosing, -, hcomment⟩ := exists_comment_eq block
  have hbracket : ∀ start ∈ starts, ']' ∉ start := by
    decide
  have htarget : ¬ Opens ('[' :: block.link.target) := by
    rintro ⟨start, hstart, hinside⟩
    rcases List.infix_cons_iff.mp hinside with hhere | hlater
    · have hshape : ∃ place, block.link.target = 'f' :: place := ⟨_, rfl⟩
      obtain ⟨place, hplace⟩ := hshape
      rw [hplace] at hhere
      simp only [starts, List.mem_cons, List.not_mem_nil, or_false] at hstart
      rcases hstart with rfl | rfl <;> simp at hhere
    · exact htame.target ⟨start, hstart, hlater⟩
  have hbehind : ¬ Opens ('[' :: block.name ++ ']' :: (']' :: closing)) := by
    have hclose : ¬ Opens closing := not_opens_of_isPart (List.suffix_append _ _).isInfix hclosing
    have hlast : ¬ Opens ([] ++ ']' :: closing) :=
      not_opens_append_cons hbracket (by decide) hclose
    exact not_opens_append_cons hbracket htame.link_name hlast
  have hshape : backLink block ++ closing =
      '[' :: ('[' :: block.link.target ++ ']' :: ('[' :: block.name ++ ']' :: (']' :: closing))) := by
    simp [backLink]
  rw [hcomment, hshape] at hpart
  have hprefix := hmark.isPrefix_of_isPart hbracket hopening htarget hbehind hpart
  rw [← hshape] at hprefix
  obtain ⟨rfl, hplaceChars, hnameChars⟩ := eq_backLink_of_isMark htame hmark hprefix
  have hcaption : ∀ {t : Text}, t <:+: backLink block → (∀ c ∈ t, isLinkChar c = true) → IsCaption t := by
    intro t ht hchars c hc
    have hchar := hchars c hc
    simp only [isLinkChar, Bool.not_eq_true', Bool.or_eq_false_iff, beq_eq_false_iff_ne] at hchar
    exact ⟨hchar.1.1, hchar.1.2, hends c (ht.subset hc)⟩
  exact ⟨hcaption ⟨"[[", "][" ++ block.name ++ "]]", by simp [backLink]⟩ hplaceChars,
    hcaption ⟨"[[" ++ block.link.target ++ "][", "]]", by simp [backLink]⟩ hnameChars⟩

/-- A name whose reference is dropped with its line has no angle brackets. -/
theorem name_of_drops
    (htame : IsTame block.source)
    (h : Drops (comment Dictionary.empty block (endNote block))) :
    ∀ c ∈ block.name, c ≠ '<' ∧ c ≠ '>' := by
  obtain ⟨mark, hmark, hpart, -⟩ := exists_mark_of_drops h
  obtain ⟨opening, closing, hopening, hclosing, -, hcomment⟩ := exists_comment_eq block
  have hangle : ∀ start ∈ starts, '>' ∉ start := by
    decide
  have hbehind : ¬ Opens ([] ++ '>' :: (" ends here" ++ closing)) :=
    not_opens_append_cons hangle (by decide) hclosing
  have hshape : endNote block ++ closing =
      '<' :: ('<' :: block.name ++ '>' :: ([] ++ '>' :: (" ends here" ++ closing))) := by
    simp [endNote]
  rw [hcomment, hshape] at hpart
  have hprefix := hmark.isPrefix_of_isPart hangle hopening htame.note_name hbehind hpart
  rw [← hshape] at hprefix
  exact eq_reference_of_isMark htame hmark hprefix

end Comments

/-- The labels of a block of a document in a file make a link: they have no square brackets, and the name of
the file stays on one line. -/
structure IsLinkable (path : Path) (block : Block) : Prop where
  /-- The name of the file has no line ends. -/
  lines : ∀ c ∈ path.name, Text.isLineEnd c = false
  /-- None of the labels has square brackets. -/
  brackets : ∀ c ∈ path.name ++ block.link.heading.getD [] ++ block.name, c ≠ '[' ∧ c ≠ ']'

section Documents

variable {document : Document} {language : Option Text} {block : Block}

/-- The name of the file and the title of the heading are in the place that a block links to. -/
theorem mem_target
    {link : Link} {path : Path} {c : Char}
    (hpath : link.path = some path)
    (hc : c ∈ path.name ++ link.heading.getD []) :
    c ∈ link.target := by
  unfold Link.target
  rw [hpath]
  rcases List.mem_append.mp hc with hfile | hheading
  · simp [hfile]
  · cases htitle : link.heading with
    | none =>
        simp [htitle] at hheading
    | some title =>
        cases title with
        | nil =>
            simp [htitle] at hheading
        | cons d title =>
            simp only [htitle, Option.getD_some, List.mem_cons] at hheading
            simp [hheading]

/-- **Cleaning recognises comments.**  For every block of a document in a file that asks for comments, the
standard templates write two of them in the style of its language.  The first is dropped when no label has
square brackets and the second when the name has no angle brackets; unless marks begin or end inside the labels
by chance, they are dropped in no other case. -/
theorem clean_drops_comments
    (path : Path) (text : Text)
    (hpath : document.path = some path)
    (hblock : block ∈ document.collect language)
    (hcomments : block.params.wantsComments = true) :
    ∃ decoration first last,
      ofTexts true standardOpening standardClosing Dictionary.empty = .ok decoration ∧
      decoration.commentLine decoration.opening ⟨block, text⟩ = .ok first ∧
      decoration.commentLine decoration.closing ⟨block, text⟩ = .ok last ∧
      decoration.render ⟨block, text⟩ =
        .ok (first ++ "\n" ++ bodyLines ⟨block, text⟩ ++ last ++ "\n") ∧
      (IsLinkable path block → Drops first) ∧
      ((∀ c ∈ block.name, c ≠ '<' ∧ c ≠ '>') → Drops last) ∧
      (IsTame block →
        (Drops first → IsLinkable path block) ∧ (Drops last → ∀ c ∈ block.name, c ≠ '<' ∧ c ≠ '>')) := by
  have hlabel := Document.isLabelled_of_mem_collect hblock
  have hlinkPath : block.link.path = some path := hlabel.path.trans hpath
  obtain ⟨-, -, -, -, hstyle, -⟩ := exists_comment_eq ⟨block, text⟩
  refine ⟨_, comment Dictionary.empty ⟨block, text⟩ (backLink ⟨block, text⟩),
    comment Dictionary.empty ⟨block, text⟩ (endNote ⟨block, text⟩),
    ofTexts_standard true Dictionary.empty, ?_, ?_, ?_, ?_, ?_, ?_⟩
  · change Decoration.commentLine _ backLinkTemplate.render _ = _
    rw [commentLine, render_backLinkTemplate]
    rfl
  · change Decoration.commentLine _ endNoteTemplate.render _ = _
    rw [commentLine, render_endNoteTemplate]
    rfl
  · rw [render_standard, rendered, hcomments]
    rfl
  · intro hlinkable
    have hname : IsCaption block.name := fun c hc =>
      ⟨(hlinkable.brackets c (by simp [hc])).1, (hlinkable.brackets c (by simp [hc])).2, hlabel.name c hc⟩
    have hheading : ∀ heading ∈ block.link.heading, IsCaption heading := by
      intro heading hmem c hc
      have hin : c ∈ path.name ++ block.link.heading.getD [] ++ block.name := by
        simp [Option.mem_def.mp hmem, hc]
      exact ⟨(hlinkable.brackets c hin).1, (hlinkable.brackets c hin).2, hlabel.heading heading hmem c hc⟩
    have hfile : ∀ p ∈ block.link.path, IsCaption p.name := by
      intro p hp c hc
      obtain rfl : path = p := Option.some.inj (hlinkPath.symm.trans hp)
      exact ⟨(hlinkable.brackets c (by simp [hc])).1, (hlinkable.brackets c (by simp [hc])).2,
        hlinkable.lines c hc⟩
    exact drops_of_isMarker (isLineEnd_backLink hstyle hname hheading hfile)
      (isMarker_backLink hname hheading hfile)
  · intro hangles
    exact drops_of_isMarker (isLineEnd_endNote hstyle hlabel.name)
      (isMarker_endNote (isName_of_trim hlabel.name_ne hlabel.name_trim hlabel.name) hangles)
  · intro htame
    refine ⟨fun hdrops => ?_, name_of_drops htame⟩
    obtain ⟨htarget, hname⟩ := isCaption_of_drops htame hdrops
    refine ⟨fun c hc => (htarget c (mem_target hlinkPath (by simp [hc]))).2.2, fun c hc => ?_⟩
    rcases List.mem_append.mp hc with hplace | hc
    · have hchar := htarget c (mem_target hlinkPath hplace)
      exact ⟨hchar.1, hchar.2.1⟩
    · exact ⟨(hname c hc).1, (hname c hc).2.1⟩

/-- The title of the first heading is broken by its brackets, so that the link below it is kept; the reference
between angle brackets is dropped. -/
theorem clean_drops_comments_cookie :
    let path : Path := ⟨.root, ["d", "a.org"]⟩
    let document : Document :=
      { text := "* Task [1/2]\n#+name: x y\n#+begin_src html :comments yes\n<p>\n#+end_src\n"
        path := some path }
    let block : Block :=
      { language := "html"
        name := "x y"
        params := ⟨[("comments", "yes")]⟩
        body := "<p>"
        link := ⟨some path, 3, some "Task [1/2]"⟩
        index := 1 }
    block ∈ document.collect none ∧ IsTame block ∧
      ∃ decoration first last,
        ofTexts true standardOpening standardClosing Dictionary.empty = .ok decoration ∧
        decoration.commentLine decoration.opening ⟨block, "<p>"⟩ = .ok first ∧
        decoration.commentLine decoration.closing ⟨block, "<p>"⟩ = .ok last ∧
        ¬ Drops first ∧ Drops last := by
  intro path document block
  have hblock : block ∈ document.collect none := by
    decide +kernel
  have htame : IsTame block :=
    ⟨by decide +kernel, by decide +kernel, by decide +kernel, by decide +kernel, by decide +kernel,
      by decide +kernel⟩
  obtain ⟨decoration, first, last, hdecoration, hfirst, hlast, -, -, hdrops, hkeeps⟩ :=
    clean_drops_comments path "<p>" rfl hblock (by decide +kernel)
  have hangles : ∀ c ∈ block.name, c ≠ '<' ∧ c ≠ '>' := by
    have hall : block.name.all (fun c => c != '<' && c != '>') = true := by
      decide
    intro c hc
    simpa using List.all_eq_true.mp hall c hc
  refine ⟨hblock, htame, decoration, first, last, hdecoration, hfirst, hlast, ?_, hdrops hangles⟩
  intro hfirstDrops
  have hbracket := ((hkeeps htame).1 hfirstDrops).brackets '[' (by decide +kernel)
  exact hbracket.1 rfl

/-- A heading that counts its tasks leaves its link in the cleaned text. -/
theorem clean_keeps_backLink :
    let document : Document :=
      { text := "* Task [1/2]\n#+begin_src sh :comments yes\nx\n#+end_src\n", path := some ⟨.root, ["a.org"]⟩ }
    let block : Block :=
      { language := "sh"
        name := "block-1"
        params := ⟨[("comments", "yes")]⟩
        body := "x"
        link := ⟨document.path, 2, some "Task [1/2]"⟩
        index := 1 }
    let text : Text := "# [[file:a.org::*Task [1/2]][block-1]]\nx\n# <<block-1>> ends here\n"
    document.collect none = [block] ∧
      (∃ decoration, ofTexts true standardOpening standardClosing Dictionary.empty = .ok decoration ∧
        decoration.render ⟨block, "x"⟩ = .ok text) ∧
      clean text = "# [[file:a.org::*Task [1/2]][block-1]]\nx\n" := by
  intro document block text
  refine ⟨by decide +kernel, ⟨_, ofTexts_standard true Dictionary.empty, ?_⟩, by decide +kernel⟩
  rw [render_standard]
  exact congrArg Except.ok (by decide +kernel)

end Documents

end Decoration
end Literate
