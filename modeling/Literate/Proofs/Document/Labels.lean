import Literate.Document.Basic
import Literate.Proofs.Document.Inheritance
import Literate.Proofs.Document.Naming
import Literate.Proofs.Text.Ascii
import Literate.Proofs.Text.Lines

/-!
# The labels of collected blocks

A collected block carries a name and the title of the heading above it.  Both are read
off single lines of the document, so that no line ends are in them, and a name has no
blanks around it.  A block without a name is named after its number.

**Main statements.**
* `title_isPart`, `name_isPart`: titles and names are parts of their lines.
* `isLabelled_of_mem_collect`: what is known of the labels of every collected block.
-/

namespace Literate

namespace Text

/-- What follows a keyword is the end of the text. -/
theorem dropKeyword?_isSuffix
    {key t rest : Text}
    (h : dropKeyword? key t = some rest) :
    rest <:+ t := by
  fun_induction dropKeyword? key t with
  | case1 t =>
      obtain rfl : t = rest := Option.some.inj h
      exact List.suffix_refl t
  | case2 =>
      cases h
  | case3 k ks c cs _ ih =>
      exact (ih h).trans (List.suffix_cons c cs)
  | case4 =>
      cases h

end Text

namespace Document

section Lines

variable {line : Text}

theorem withoutTags_isPrefix
    (t : Text) :
    withoutTags t <+: t := by
  have hdrop : ∀ p q : Char → Bool, ((t.reverse.dropWhile p).dropWhile q).reverse <+: t := by
    intro p q
    have hsuffix : (t.reverse.dropWhile p).dropWhile q <:+ t.reverse :=
      (List.dropWhile_suffix q).trans (List.dropWhile_suffix p)
    simpa using List.reverse_prefix.mpr hsuffix
  unfold withoutTags
  dsimp only
  split
  · exact hdrop _ _
  · exact List.prefix_refl t

/-- The title of a heading is a part of its line. -/
theorem title_isPart
    {level : Nat} {title : Text}
    (h : heading? line = some (level, title)) :
    title <:+: line := by
  unfold heading? at h
  dsimp only at h
  split at h
  · rename_i c rest hrest
    split at h
    · cases h
      have hline : rest <:+: line :=
        (List.suffix_cons c rest).isInfix.trans (hrest ▸ (List.dropWhile_suffix _).isInfix)
      exact (Text.trim_isPart _).trans
        ((withoutTags_isPrefix _).isInfix.trans ((Text.trim_isPart rest).trans hline))
    · cases h
  · cases h

/-- A name is a part of the line that gives it. -/
theorem name_isPart
    {name : Text}
    (h : name? line = some name) :
    name <:+: line := by
  obtain ⟨value, hvalue, rfl⟩ := Option.map_eq_some_iff.mp h
  have hline : Text.trimLeft line <:+ line := List.dropWhile_suffix Text.isBlank
  exact (Text.trim_isPart value).trans ((Text.dropKeyword?_isSuffix hvalue).trans hline).isInfix

theorem trim_of_name?
    {name : Text}
    (h : name? line = some name) :
    Text.trim name = name := by
  obtain ⟨value, -, rfl⟩ := Option.map_eq_some_iff.mp h
  exact Text.trim_trim value

end Lines

section Scans

variable {context : ScanContext} {lines : List Text}

theorem text_mem_of_mem_placeFrom
    {standing : Standing} {line : PlacedLine}
    (h : line ∈ placeFrom standing lines) :
    line.text ∈ lines := by
  induction lines generalizing standing with
  | nil =>
      cases h
  | cons first rest ih =>
      rcases List.mem_cons.mp h with rfl | h
      · exact List.mem_cons_self
      · exact List.mem_cons_of_mem first (ih h)

theorem heading?_of_placedLine
    {line : PlacedLine} {heading : Nat × Text}
    (h : line.heading? = some heading) :
    heading? line.text = some heading := by
  unfold PlacedLine.heading? at h
  split at h
  · cases h
  · rename_i hclass _
    cases h
    exact classify_eq_heading_iff.mp hclass
  · cases h

/-- The innermost title of an outline stands on a line that has been read. -/
theorem exists_line_of_outline
    {title : Text}
    (h : (stateAfter context lines).outline.head?.map Heading.title = some title) :
    ∃ line ∈ lines, title <:+: line := by
  rw [heading_stateAfter] at h
  obtain ⟨ancestor, hancestor, rfl⟩ := Option.map_eq_some_iff.mp h
  obtain ⟨line, hline, hheading⟩ := exists_heading_of_mem_ancestors (List.mem_of_head? hancestor)
  exact ⟨line.text, text_mem_of_mem_placeFrom hline, title_isPart (heading?_of_placedLine hheading)⟩

/-- The name that waits for a block was given by a line that has been read. -/
theorem exists_line_of_pending
    {name : Text}
    (h : (stateAfter context lines).pending = some name) :
    name ≠ [] ∧ ∃ line ∈ lines, name? line = some name := by
  have htake : (stateAfter context (lines.take lines.length)).pending = some name := by
    rwa [List.take_length]
  obtain ⟨i, -, hgives, -⟩ := (pending_stateAfter_iff le_rfl).mp htake
  obtain ⟨line, hline, hname⟩ := Option.bind_eq_some_iff.mp hgives.named
  exact ⟨hgives.nonempty, line, List.mem_of_getElem? hline, hname⟩

/-- Titles and names of the blocks of a scan stand on its lines. -/
theorem exists_lines_of_mem_blocks
    {block : DocumentBlock}
    (h : block ∈ (scanFrom context {} lines).blocks) :
    block.link.path = context.path ∧
      (∀ title ∈ block.link.heading, ∃ line ∈ lines, title <:+: line) ∧
      ∀ name ∈ block.name, name ≠ [] ∧ ∃ line ∈ lines, name? line = some name := by
  obtain ⟨before, line, body, last, after, language, rest, rfl, -, -, -, rfl⟩ := exists_beginning h
  have hbefore : ∀ {l : Text}, l ∈ before → l ∈ before ++ line :: (body ++ last :: after) :=
    fun hl => List.mem_append_left _ hl
  refine ⟨rfl, ?_, ?_⟩
  · intro title htitle
    obtain ⟨l, hl, hpart⟩ := exists_line_of_outline htitle
    exact ⟨l, hbefore hl, hpart⟩
  · intro name hname
    obtain ⟨hne, l, hl, hgiven⟩ := exists_line_of_pending hname
    exact ⟨hne, l, hbefore hl, hgiven⟩

end Scans

/-- What every collected block says about where it comes from. -/
structure IsLabelled (document : Document) (block : Block) : Prop where
  /-- It links to the file of the document. -/
  path : block.link.path = document.path
  /-- The title of its heading has no line ends. -/
  heading : ∀ title ∈ block.link.heading, ∀ c ∈ title, Text.isLineEnd c = false
  /-- Its name has no line ends. -/
  name : ∀ c ∈ block.name, Text.isLineEnd c = false
  /-- It has a name. -/
  name_ne : block.name ≠ []
  /-- No blanks are around its name. -/
  name_trim : Text.trim block.name = block.name

section Collecting

theorem exists_of_mem_numberBlocks
    {block : Block} {number : Nat} {blocks : List DocumentBlock}
    (h : block ∈ numberBlocks number blocks) :
    ∃ source ∈ blocks, ∃ n, block = nameBlock source n := by
  induction blocks generalizing number with
  | nil =>
      cases h
  | cons first rest ih =>
      rcases List.mem_cons.mp h with rfl | h
      · exact ⟨first, List.mem_cons_self, number, rfl⟩
      · obtain ⟨source, hsource, hblock⟩ := ih h
        exact ⟨source, List.mem_cons_of_mem first hsource, hblock⟩

/-- The name after a number has no blanks in it. -/
theorem isBlank_numberName
    (n : Nat) :
    ∀ c ∈ "block-" ++ Text.ofNat n, Text.isBlank c = false := by
  intro c hc
  rcases List.mem_append.mp hc with hc | hc
  · have hall : ("block-" : Text).all (fun d => !Text.isBlank d) = true := by
      decide
    simpa using List.all_eq_true.mp hall c hc
  · have hdigit := Text.toNat_of_isDigit (Nat.isDigit_of_mem_toDigits (by decide) (by decide) hc)
    exact Text.isBlank_eq_false_of_toNat (by omega) (by omega)

/-- The labels of every collected block. -/
theorem isLabelled_of_mem_collect
    {document : Document} {language : Option Text} {block : Block}
    (h : block ∈ document.collect language) :
    IsLabelled document block := by
  obtain ⟨source, hsource, n, rfl⟩ := exists_of_mem_numberBlocks (List.mem_filter.mp h).1
  obtain ⟨hpath, hheading, hname⟩ := exists_lines_of_mem_blocks hsource
  have hends : ∀ {part line : Text}, line ∈ Text.lines document.text → part <:+: line →
      ∀ c ∈ part, Text.isLineEnd c = false :=
    fun hline hpart c hc => Text.isLineEnd_of_mem_lines hline c (hpart.subset hc)
  have htitle : ∀ title ∈ source.link.heading, ∀ c ∈ title, Text.isLineEnd c = false := by
    intro title htitle
    obtain ⟨line, hline, hpart⟩ := hheading title htitle
    exact hends hline hpart
  cases hsome : source.name with
  | none =>
      have hnumber : (nameBlock source n).name = "block-" ++ Text.ofNat n := by
        rw [nameBlock, hsome]
        rfl
      refine ⟨hpath, htitle, ?_, ?_, ?_⟩
      · rw [hnumber]
        exact fun c hc => Text.isLineEnd_eq_false_of_isBlank (isBlank_numberName n c hc)
      · rw [hnumber]
        simp
      · rw [hnumber, Text.trim_eq_self_iff]
        exact ⟨fun c hc => isBlank_numberName n c (List.mem_of_head? hc),
          fun c hc => isBlank_numberName n c (List.mem_of_getLast? hc)⟩
  | some name =>
      obtain ⟨hne, line, hline, hgiven⟩ := hname name hsome
      have hsame : (nameBlock source n).name = name := by
        rw [nameBlock, hsome]
        rfl
      refine ⟨hpath, htitle, ?_, ?_, ?_⟩
      · rw [hsame]
        exact hends hline (name_isPart hgiven)
      · rwa [hsame]
      · rw [hsame]
        exact trim_of_name? hgiven

end Collecting

end Document
end Literate
