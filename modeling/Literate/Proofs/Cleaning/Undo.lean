import Literate.Proofs.Cleaning.Markers
import Literate.Proofs.Emission.Decoration
import Literate.Proofs.Emission.Replay
import Literate.Proofs.Emission.Run
import Literate.Proofs.Text.Ascii
import Literate.Proofs.Text.Trimming
import Mathlib.Tactic.MkIffOfInductiveProp

/-!
# Cleaning undoes decoration

The comment before a block holds a file link, the comment after it a reference, so
that both are marker lines.  When the block itself has none, cleaning takes away the
comments and nothing else.

**Contents.**  What is shown of one block (`clean_rendered`) is carried over to the
content of a whole file (`clean_decorated`): empty lines between blocks and the first
line of the file are kept, and every chunk ends with a line feed, so that cleaning
goes from chunk to chunk.

**Main statements.**
* `isMarker_backLink`, `isMarker_endNote`: the comments of a block are marker lines.
* `clean_decorated`: a file written with comments, cleaned.
* `clean_undoes_decoration`: the same of what an emitter leaves on disk.
-/

namespace Literate

namespace Decoration

/-- Whether a text can stand in a link: it has no brackets and no line ends. -/
def IsCaption (t : Text) : Prop :=
  ∀ c ∈ t, c ≠ '[' ∧ c ≠ ']' ∧ Text.isLineEnd c = false

instance instDecidableIsCaption (t : Text) : Decidable (IsCaption t) :=
  List.decidableBAll (fun c => c ≠ '[' ∧ c ≠ ']' ∧ Text.isLineEnd c = false) t

/-- A block whose decoration can be told from its text. -/
@[mk_iff]
structure Undoable (styles : Dictionary Text CommentStyle) (block : RenderedBlock) : Prop where
  /-- It has a text. -/
  text_ne : block.text ≠ []
  /-- Its text has no carriage returns. -/
  text_return : '\r' ∉ block.text
  /-- Its text has no marker lines. -/
  text_unmarked : Cleaning.Unmarked block.text
  /-- The first line it asks for has no carriage returns. -/
  shebang_return : '\r' ∉ block.params.shebang
  /-- The first line it asks for has no marker lines. -/
  shebang_unmarked : Cleaning.Unmarked block.params.shebang
  /-- It has a name. -/
  name_ne : block.name ≠ []
  /-- No blanks are around its name. -/
  name_trim : Text.trim block.name = block.name
  /-- Its name can stand in a reference. -/
  name_chars : ∀ c ∈ block.name, c ≠ '<' ∧ c ≠ '>'
  /-- Its name can stand in a link. -/
  name : IsCaption block.name
  /-- Its heading can stand in a link. -/
  heading : ∀ heading ∈ block.link.heading, IsCaption heading
  /-- The file name of its document can stand in a link. -/
  file : ∀ path ∈ block.link.path, IsCaption path.name
  /-- Comments of its language are written on one line. -/
  style : ∀ c ∈ comment styles block [], Text.isLineEnd c = false

instance instDecidableUndoable (styles : Dictionary Text CommentStyle) (block : RenderedBlock) :
    Decidable (Undoable styles block) :=
  -- membership is decided along the texts, never over all characters
  have : Decidable (∀ c ∈ block.name, c ≠ '<' ∧ c ≠ '>') := List.decidableBAll _ _
  have : Decidable (∀ c ∈ comment styles block [], Text.isLineEnd c = false) := List.decidableBAll _ _
  decidable_of_iff _ (undoable_iff styles block).symm

section Captions

theorem IsCaption.append
    {t u : Text}
    (ht : IsCaption t)
    (hu : IsCaption u) :
    IsCaption (t ++ u) := by
  intro c hc
  rcases List.mem_append.mp hc with hc | hc
  · exact ht c hc
  · exact hu c hc

theorem isCaption_ofNat
    (n : Nat) :
    IsCaption (Text.ofNat n) := by
  intro c hc
  have hdigit := Text.toNat_of_isDigit (Nat.isDigit_of_mem_toDigits (by decide) (by decide) hc)
  refine ⟨?_, ?_, ?_⟩
  · rintro rfl
    simp at hdigit
  · rintro rfl
    simp at hdigit
  · simp only [Text.isLineEnd, Text.lineEndRanges, Text.Ranges.mem]
    grind

theorem isCaption_ofInt
    (n : Int) :
    IsCaption (Text.ofInt n) := by
  cases n with
  | ofNat n =>
      exact isCaption_ofNat n
  | negSucc n =>
      have hminus : IsCaption ['-'] := by
        intro c hc
        rw [List.mem_singleton.mp hc]
        decide
      exact hminus.append (isCaption_ofNat (n + 1))

/-- A link target is a file link whose other characters can stand in a link. -/
theorem exists_target_eq
    {link : Link}
    (hheading : ∀ heading ∈ link.heading, IsCaption heading)
    (hfile : ∀ path ∈ link.path, IsCaption path.name) :
    ∃ place, link.target = "file:" ++ place ∧ place ≠ [] ∧ IsCaption place := by
  have hcolons : IsCaption "::" := by
    intro c hc
    obtain rfl : c = ':' := by simpa using hc
    decide
  have hname : IsCaption ((link.path.map Path.name).getD []) := by
    cases hpath : link.path with
    | none =>
        exact fun c hc => nomatch hc
    | some path =>
        exact hfile path hpath
  have hplace : ∃ place, link.target =
      "file:" ++ (link.path.map Path.name).getD [] ++ "::" ++ place ∧ IsCaption place := by
    unfold Link.target
    split
    · rename_i c title htitle
      have hstar : IsCaption ['*'] := by
        intro c hc
        rw [List.mem_singleton.mp hc]
        decide
      exact ⟨_, rfl, hstar.append (hheading _ htitle)⟩
    · exact ⟨_, rfl, isCaption_ofInt _⟩
  obtain ⟨place, htarget, hplace⟩ := hplace
  refine ⟨(link.path.map Path.name).getD [] ++ "::" ++ place, ?_, by simp,
    (hname.append hcolons).append hplace⟩
  rw [htarget]
  simp only [List.append_assoc]

end Captions

section Comments

variable {styles : Dictionary Text CommentStyle} {block : RenderedBlock}

theorem isLinkChar_of_isCaption
    {t : Text}
    (h : IsCaption t) :
    ∀ c ∈ t, Cleaning.isLinkChar c = true := by
  intro c hc
  obtain ⟨hopen, hclose, hend⟩ := h c hc
  have hnewline : c ≠ '\n' := by
    rintro rfl
    rw [Text.isLineEnd_newline] at hend
    cases hend
  simp [Cleaning.isLinkChar, hopen, hclose, hnewline]

theorem isMark_backLink
    (hname : IsCaption block.name)
    (hheading : ∀ heading ∈ block.link.heading, IsCaption heading)
    (hfile : ∀ path ∈ block.link.path, IsCaption path.name) :
    Cleaning.IsMark (backLink block) := by
  obtain ⟨place, htarget, hne, hplace⟩ := exists_target_eq hheading hfile
  have hlink : backLink block = "[[file:" ++ place ++ "][" ++ block.name ++ "]]" := by
    simp [backLink, htarget]
  rw [hlink]
  exact .link (.described place block.name hne (isLinkChar_of_isCaption hplace)
    (isLinkChar_of_isCaption hname))

theorem isName_of_trim
    {name : Text}
    (hne : name ≠ [])
    (htrim : Text.trim name = name)
    (hends : ∀ c ∈ name, Text.isLineEnd c = false) :
    Reference.isName name = true := by
  obtain ⟨hhead, hlast⟩ := Text.trim_eq_self_iff.mp htrim
  cases name with
  | nil =>
      exact absurd rfl hne
  | cons c rest =>
      have hnewline : '\n' ∉ rest := by
        intro hmem
        have hend := hends '\n' (by simp [hmem])
        rw [Text.isLineEnd_newline] at hend
        cases hend
      simp only [List.head?_cons, Option.mem_def, Option.some.injEq, forall_eq'] at hhead
      simp only [List.getLast?_cons, Option.mem_def, Option.some.injEq, forall_eq'] at hlast
      simp [Reference.isName, hhead, hlast, hnewline]

theorem isMarker_comment
    {mark text : Text}
    (hmark : Cleaning.IsMark mark)
    (h : mark <+: text) :
    Cleaning.isMarker (comment styles block text) = true := by
  rw [Cleaning.isMarker_iff]
  exact ⟨mark, hmark, h.isInfix.trans ⟨_, _, rfl⟩⟩

/-- The comment before a block is a marker line. -/
theorem isMarker_backLink
    (hname : IsCaption block.name)
    (hheading : ∀ heading ∈ block.link.heading, IsCaption heading)
    (hfile : ∀ path ∈ block.link.path, IsCaption path.name) :
    Cleaning.isMarker (comment styles block (backLink block)) = true :=
  isMarker_comment (isMark_backLink hname hheading hfile) (List.prefix_refl _)

/-- The comment after a block is a marker line. -/
theorem isMarker_endNote
    (hname : Reference.isName block.name = true)
    (hchars : ∀ c ∈ block.name, c ≠ '<' ∧ c ≠ '>') :
    Cleaning.isMarker (comment styles block (endNote block)) = true := by
  have hinner : ∀ c ∈ block.name, Reference.isNameChar c = true := by
    intro c hc
    simpa [Reference.isNameChar] using hchars c hc
  refine isMarker_comment (.reference block.name hinner hname) ⟨" ends here", ?_⟩
  simp [Piece.text, endNote]

/-- A text without line ends is a comment without line ends. -/
theorem isLineEnd_comment
    {text : Text}
    (hstyle : ∀ c ∈ comment styles block [], Text.isLineEnd c = false)
    (htext : ∀ c ∈ text, Text.isLineEnd c = false) :
    ∀ c ∈ comment styles block text, Text.isLineEnd c = false := by
  intro c hc
  have hempty := hstyle c
  simp only [comment, List.append_nil, List.mem_append] at hc hempty
  rcases hc with (hc | hc) | hc
  · exact hempty (Or.inl hc)
  · exact htext c hc
  · exact hempty (Or.inr hc)

theorem isLineEnd_backLink
    (hstyle : ∀ c ∈ comment styles block [], Text.isLineEnd c = false)
    (hname : IsCaption block.name)
    (hheading : ∀ heading ∈ block.link.heading, IsCaption heading)
    (hfile : ∀ path ∈ block.link.path, IsCaption path.name) :
    ∀ c ∈ comment styles block (backLink block), Text.isLineEnd c = false := by
  obtain ⟨place, htarget, -, hplace⟩ := exists_target_eq hheading hfile
  have hlink : backLink block = "[[file:" ++ place ++ "][" ++ block.name ++ "]]" := by
    simp [backLink, htarget]
  apply isLineEnd_comment hstyle
  intro c hc
  simp only [hlink, List.mem_append] at hc
  rcases hc with (((hc | hc) | hc) | hc) | hc
  · exact Text.isLineEnd_of_mem (t := "[[file:") (by decide) hc
  · exact (hplace c hc).2.2
  · exact Text.isLineEnd_of_mem (t := "][") (by decide) hc
  · exact (hname c hc).2.2
  · exact Text.isLineEnd_of_mem (t := "]]") (by decide) hc

theorem isLineEnd_endNote
    (hstyle : ∀ c ∈ comment styles block [], Text.isLineEnd c = false)
    (hname : ∀ c ∈ block.name, Text.isLineEnd c = false) :
    ∀ c ∈ comment styles block (endNote block), Text.isLineEnd c = false := by
  apply isLineEnd_comment hstyle
  intro c hc
  simp only [endNote, List.mem_append] at hc
  rcases hc with (hc | hc) | hc
  · exact Text.isLineEnd_of_mem (t := "<<") (by decide) hc
  · exact hname c hc
  · exact Text.isLineEnd_of_mem (t := ">> ends here") (by decide) hc

/-- Both comments of a block that can be told from its text are marker lines. -/
theorem Undoable.isMarker_comments
    (h : Undoable styles block) :
    (∀ c ∈ comment styles block (backLink block), Text.isLineEnd c = false) ∧
      Cleaning.isMarker (comment styles block (backLink block)) = true ∧
      (∀ c ∈ comment styles block (endNote block), Text.isLineEnd c = false) ∧
      Cleaning.isMarker (comment styles block (endNote block)) = true := by
  have hends : ∀ c ∈ block.name, Text.isLineEnd c = false := fun c hc => (h.name c hc).2.2
  exact ⟨isLineEnd_backLink h.style h.name h.heading h.file, isMarker_backLink h.name h.heading h.file,
    isLineEnd_endNote h.style hends,
    isMarker_endNote (isName_of_trim h.name_ne h.name_trim hends) h.name_chars⟩

end Comments

section Blocks

variable {styles : Dictionary Text CommentStyle} {block : RenderedBlock}

/-- What is written for a block ends with a line feed. -/
theorem getLast?_rendered
    (t : Text) (comments : Bool) (styles : Dictionary Text CommentStyle) (block : RenderedBlock) :
    ∀ c ∈ (t ++ rendered comments styles block).getLast?, c = '\n' := by
  obtain ⟨front, hfront⟩ : ∃ front, rendered comments styles block = front ++ ['\n'] := by
    unfold rendered
    split
    · exact ⟨_, rfl⟩
    · exact ⟨_, rfl⟩
  rw [hfront, ← List.append_assoc]
  simp

/-- Cleaning takes away the two comments around a text that has no markers itself. -/
theorem clean_enclose
    {t : Text}
    (h : Undoable styles block)
    (ht : Cleaning.Unmarked t)
    (hend : ∀ c ∈ t.getLast?, c = '\n') :
    Cleaning.clean (enclose styles block t) = t ∧ Cleaning.markerCount (enclose styles block t) = 2 := by
  obtain ⟨htext, hcount⟩ := Cleaning.clean_eq_self ht
  obtain ⟨hopening, hlink, hclosing, hnote⟩ := h.isMarker_comments
  obtain ⟨hlast, hlastCount⟩ := Cleaning.clean_marker [] hclosing hnote
  obtain ⟨hfirst, hfirstCount⟩ :=
    Cleaning.clean_marker (t ++ (comment styles block (endNote block) ++ ("\n" : Text) ++ []))
      hopening hlink
  have henclose : enclose styles block t =
      comment styles block (backLink block) ++ ("\n" : Text) ++
        (t ++ (comment styles block (endNote block) ++ ("\n" : Text) ++ [])) := by
    simp only [enclose, List.append_nil, List.append_assoc]
  constructor
  · rw [henclose, hfirst, Cleaning.clean_append _ hend, htext, hlast]
    exact List.append_nil t
  · rw [henclose, hfirstCount, Cleaning.markerCount_append _ hend, hcount, hlastCount]
    rfl

/-- Cleaning takes away the comments of a block and nothing else. -/
theorem clean_rendered
    (h : Undoable styles block) :
    Cleaning.clean (rendered true styles block) = rendered false styles block ∧
      Cleaning.markerCount (rendered true styles block) =
        if block.params.wantsComments then 2 else 0 := by
  have hbody : bodyLines block = block.text ++ "\n" := by
    simp [bodyLines, h.text_ne]
  cases hwants : block.params.wantsComments with
  | false =>
      simpa [rendered, hwants] using Cleaning.clean_eq_self h.text_unmarked.concat_newline
  | true =>
      have hrendered : rendered true styles block = enclose styles block (block.text ++ "\n") := by
        simp [rendered, hwants, hbody]
      rw [hrendered]
      exact clean_enclose h h.text_unmarked.concat_newline (by simp)

end Blocks

section Files

open Emitter

variable {styles : Dictionary Text CommentStyle} {blocks : List RenderedBlock}

/-- The content of a file made of blocks with the standard templates. -/
def fileText (comments : Bool) (styles : Dictionary Text CommentStyle) (blocks : List RenderedBlock) :
    Text :=
  shebangLine blocks ++ joined (blocks.map fun block => (block, rendered comments styles block))

theorem content_standard
    (comments : Bool) (styles : Dictionary Text CommentStyle) (blocks : List RenderedBlock) :
    content (standard comments styles) blocks = .ok (fileText comments styles blocks) := by
  have hrender : (standard comments styles).render =
      fun block => pure (rendered comments styles block) :=
    funext fun block => render_standard comments styles block
  rw [content, hrender, List.mapM_pure, fileText, List.map_prod_left_eq_zip]
  rfl

/-- Blocks after the first, each with the empty line before it. -/
theorem clean_paddedBlocks
    (h : ∀ block ∈ blocks, Undoable styles block) :
    Cleaning.clean (blocks.flatMap fun block => padding block ++ rendered true styles block) =
        (blocks.flatMap fun block => padding block ++ rendered false styles block) ∧
      Cleaning.markerCount (blocks.flatMap fun block => padding block ++ rendered true styles block) =
        2 * (blocks.filter fun block => block.params.wantsComments).length := by
  induction blocks with
  | nil =>
      exact ⟨rfl, rfl⟩
  | cons block rest ih =>
      simp only [List.forall_mem_cons] at h
      obtain ⟨hrest, hrestCount⟩ := ih h.2
      obtain ⟨hfirst, hfirstCount⟩ := clean_rendered h.1
      have hpadding : Cleaning.Unmarked (padding block) := by
        unfold padding
        split <;> decide
      obtain ⟨hpad, hpadCount⟩ := Cleaning.clean_eq_self hpadding
      have hpadEnd : ∀ c ∈ (padding block).getLast?, c = '\n' := by
        unfold padding
        split <;> simp
      have hend := getLast?_rendered (padding block) true styles block
      rw [List.flatMap_cons, List.flatMap_cons]
      constructor
      · rw [Cleaning.clean_append _ hend, Cleaning.clean_append _ hpadEnd, hpad, hfirst, hrest]
      · rw [Cleaning.markerCount_append _ hend, Cleaning.markerCount_append _ hpadEnd, hpadCount,
          hfirstCount, hrestCount]
        cases hwants : block.params.wantsComments <;> simp [hwants]
        omega

theorem getLast?_shebangLine
    (blocks : List RenderedBlock) :
    ∀ c ∈ (shebangLine blocks).getLast?, c = '\n' := by
  unfold shebangLine
  split <;> simp

/-- The first line of a file has no markers. -/
theorem unmarked_shebangLine
    (h : ∀ block ∈ blocks, Undoable styles block) :
    Cleaning.Unmarked (shebangLine blocks) := by
  unfold shebangLine
  split
  · rename_i line hline
    obtain ⟨block, hblock, rfl⟩ := List.mem_map.mp (List.mem_of_find?_eq_some hline)
    exact (h block hblock).shebang_unmarked.concat_newline
  · decide

/-- A file written with comments is, once cleaned, the file written without them. -/
theorem clean_fileText
    (h : ∀ block ∈ blocks, Undoable styles block) :
    Cleaning.clean (fileText true styles blocks) = fileText false styles blocks ∧
      Cleaning.markerCount (fileText true styles blocks) =
        2 * (blocks.filter fun block => block.params.wantsComments).length := by
  obtain ⟨hline, hlineCount⟩ := Cleaning.clean_eq_self (unmarked_shebangLine h)
  have hlineEnd := getLast?_shebangLine blocks
  suffices hjoined :
      Cleaning.clean (joined (blocks.map fun block => (block, rendered true styles block))) =
          joined (blocks.map fun block => (block, rendered false styles block)) ∧
        Cleaning.markerCount (joined (blocks.map fun block => (block, rendered true styles block))) =
          2 * (blocks.filter fun block => block.params.wantsComments).length by
    constructor
    · rw [fileText, Cleaning.clean_append _ hlineEnd, hline, hjoined.1, fileText]
    · rw [fileText, Cleaning.markerCount_append _ hlineEnd, hlineCount, hjoined.2, Nat.zero_add]
  cases blocks with
  | nil =>
      exact ⟨rfl, rfl⟩
  | cons block rest =>
      simp only [List.forall_mem_cons] at h
      obtain ⟨hrest, hrestCount⟩ := clean_paddedBlocks h.2
      obtain ⟨hfirst, hfirstCount⟩ := clean_rendered h.1
      have hend := getLast?_rendered [] true styles block
      rw [List.nil_append] at hend
      simp only [List.map_cons, joined, List.flatMap_map]
      constructor
      · rw [Cleaning.clean_append _ hend, hfirst, hrest]
      · rw [Cleaning.markerCount_append _ hend, hfirstCount, hrestCount]
        cases hwants : block.params.wantsComments <;> simp [hwants]
        omega

end Files

section Runs

open Emitter

/-- A new emitter that writes blocks to a path leaves a text there. -/
structure Leaves (decoration : Decoration) (blocks : List RenderedBlock) (text : Text) : Prop where
  /-- The text is the content that the blocks make. -/
  content : content decoration blocks = .ok text
  /-- The text is there whenever the emitter succeeds and there are blocks. -/
  written : ∀ (p : Path) (world world' : World) (emitter : Emitter),
    blocks ≠ [] → p.IsNormal → world.Consistent →
    (({ decoration := decoration } : Emitter).emitAll (blocks.map (Target.mk p)) :
      StateM World _).run world = ((emitter, .ok ()), world') →
    world'.files.at? p.parts = some (.file (Text.encode text) (mode blocks) .present)
  /-- The emitter succeeds when the path leads into an existing directory and to no directory. -/
  succeeds : ∀ (p : Path) (world : World),
    p.IsNormal → world.Consistent → world.Reaches p → ¬ world.files.IsDirectory p.parts →
    ∃ emitter world', (({ decoration := decoration } : Emitter).emitAll (blocks.map (Target.mk p)) :
      StateM World _).run world = ((emitter, .ok ()), world')

variable {styles : Dictionary Text CommentStyle} {blocks : List RenderedBlock}

theorem noReturns_standard
    {block : RenderedBlock} (comments : Bool)
    (h : Undoable styles block) :
    NoReturns (standard comments styles) block := by
  refine ⟨fun text htext => ?_, h.shebang_return⟩
  have hcomment : ∀ {line : Text}, (∀ c ∈ line, Text.isLineEnd c = false) → '\r' ∉ line := by
    intro line hline hreturn
    have hend := hline _ hreturn
    rw [Text.isLineEnd_return] at hend
    cases hend
  obtain ⟨hopeningEnds, -, hclosingEnds, -⟩ := h.isMarker_comments
  have hopening := hcomment hopeningEnds
  have hclosing := hcomment hclosingEnds
  have hbody := h.text_return
  rw [render_standard] at htext
  cases htext
  unfold rendered
  split
  · simp [enclose, bodyLines, hopening, hclosing, hbody, h.text_ne]
  · simp [hbody]

theorem leaves_standard
    (comments : Bool)
    (h : ∀ block ∈ blocks, Undoable styles block) :
    Leaves (standard comments styles) blocks (fileText comments styles blocks) := by
  have hcontent := content_standard comments styles blocks
  refine ⟨hcontent, ?_, ?_⟩
  · intro p world world' emitter hne hp hworld hrun
    exact emitAll_onePath hp hworld hne (fun block hblock => noReturns_standard comments (h block hblock))
      hcontent hrun
  · intro p world hp hworld hreach hplace
    apply emitAll_of_reaches _ (settles_nil _ hworld)
    · simp [hreach, hplace]
    · exact fun target _ => ⟨_, render_standard comments styles target.block⟩
    · simp [hp.isRooted]

/-- **Cleaning undoes decoration.**  Blocks that are written to one path with the standard templates leave
a file there, with comments or without; the file with comments becomes the file without them when it is cleaned,
and two lines are dropped for every block that asks for comments. -/
theorem clean_undoes_decoration
    (styles : Dictionary Text CommentStyle) (blocks : List RenderedBlock)
    (h : ∀ block ∈ blocks, Undoable styles block) :
    ∃ on off decorated plain,
      ofTexts true standardOpening standardClosing styles = .ok on ∧
      ofTexts false standardOpening standardClosing styles = .ok off ∧
      Leaves on blocks decorated ∧
      Leaves off blocks plain ∧
      Cleaning.clean decorated = plain ∧
      Cleaning.markerCount decorated =
        2 * (blocks.filter fun block => block.params.wantsComments).length := by
  obtain ⟨hclean, hcount⟩ := clean_fileText h
  exact ⟨_, _, _, _, ofTexts_standard true styles, ofTexts_standard false styles,
    leaves_standard true h, leaves_standard false h, hclean, hcount⟩

/-- Comments with and without an end, an empty line and a first line between blocks. -/
theorem clean_undoes_decoration_two_languages :
    let first : RenderedBlock :=
      ⟨{ language := "c", name := "head er", params := ⟨[("comments", "yes")]⟩, body := [],
         link := ⟨some ⟨.root, ["d", "a.org"]⟩, 3, some "One"⟩ }, "x\n"⟩
    let second : RenderedBlock :=
      ⟨{ language := "sh", name := "b", params := ⟨[("shebang", "#!/bin/sh")]⟩, body := [], link := {} },
        "y"⟩
    let third : RenderedBlock :=
      ⟨{ language := "sh", name := "b", params := ⟨[("comments", "yes"), ("padline", "no")]⟩, body := [],
         link := {} }, "z"⟩
    let blocks := [first, second, third]
    let decorated : Text :=
      "#!/bin/sh\n/* [[file:a.org::*One][head er]] */\nx\n\n/* <<head er>> ends here */\n\ny\n" ++
        "# [[file:::1][b]]\nz\n# <<b>> ends here\n"
    (∀ block ∈ blocks, Undoable Dictionary.empty block) ∧
      ∃ on, ofTexts true standardOpening standardClosing Dictionary.empty = .ok on ∧
        Leaves on blocks decorated ∧
        Cleaning.clean decorated = "#!/bin/sh\nx\n\n\ny\nz\n" ∧
        Cleaning.markerCount decorated = 4 := by
  intro first second third blocks decorated
  have hblocks : ∀ block ∈ blocks, Undoable Dictionary.empty block := by
    decide +kernel
  obtain ⟨on, off, text, plain, hon, hoff, hleaves, hplain, hclean, hcount⟩ :=
    clean_undoes_decoration Dictionary.empty blocks hblocks
  have htext : fileText true Dictionary.empty blocks = decorated := by
    decide +kernel
  have hplainText : fileText false Dictionary.empty blocks = ("#!/bin/sh\nx\n\n\ny\nz\n" : Text) := by
    decide +kernel
  obtain rfl : standard true Dictionary.empty = on := Except.ok.inj ((ofTexts_standard _ _).symm.trans hon)
  obtain rfl : standard false Dictionary.empty = off :=
    Except.ok.inj ((ofTexts_standard _ _).symm.trans hoff)
  obtain rfl : decorated = text :=
    htext.symm.trans (Except.ok.inj ((content_standard _ _ _).symm.trans hleaves.content))
  obtain rfl : ("#!/bin/sh\nx\n\n\ny\nz\n" : Text) = plain :=
    hplainText.symm.trans (Except.ok.inj ((content_standard _ _ _).symm.trans hplain.content))
  exact ⟨hblocks, _, hon, hleaves, hclean, hcount⟩

end Runs

end Decoration
end Literate
