import Literate.Proofs.Document.Extents
import Literate.Proofs.Text.Lines
import Literate.Proofs.Text.Splitting

/-!
# Where blocks stand in a text

The scan goes through the lines of a document, and the line that a block links to
and the body that is read are made of lines.  This module finds them again in the
text itself.

**Passages.**  A text is cut around a block into what comes before it, its first
line with its end, the lines of its body with their ends, the line that ends it,
and what comes after (`Passage`).

**Ends of lines.**  A line ends at ten characters, of which the line feed is one.
All of them count for the number of a line, and all of them become line feeds in
a body.  A document whose other characters of this kind stand in front of a block
has therefore more lines than line feeds, and one in a body is not kept.

**Main statements.**
* `exists_of_lines_cons`, `exists_cut_of_lines`: a text without carriage returns is cut
  where any of its lines begins.
* `join_lines`: lines that are joined with line feeds are the text with line feeds for the
  ends of its lines.
* `scanned_follows_line_ends`: the numbers and the bodies of blocks by the ends of lines.
-/

namespace Literate

namespace Text

/-- A new line begins after a text that is empty or ends with the end of a line. -/
def EndsLine (t : Text) : Prop :=
  ∀ c ∈ t.getLast?, isLineEnd c = true

/-- A line feed for a character that ends a line. -/
def toLineFeed (c : Char) : Char :=
  if isLineEnd c then '\n' else c

section LineFeeds

variable {t : Text}

/-- A text has line feeds for the ends of its lines when it has no others. -/
theorem map_toLineFeed_eq_self_iff :
    t.map toLineFeed = t ↔ ∀ c ∈ t, isLineEnd c = true → c = '\n' := by
  induction t with
  | nil =>
      simp
  | cons c t ih =>
      rw [List.map_cons, List.cons.injEq, ih, List.forall_mem_cons]
      refine and_congr_left fun _ => ?_
      by_cases hc : isLineEnd c = true
      · simp [toLineFeed, hc, eq_comm]
      · simp [toLineFeed, hc]

/-- A text has as many line feeds as ends of lines when it has no others. -/
theorem countP_isLineEnd_eq_count_iff :
    t.countP isLineEnd = t.count '\n' ↔ ∀ c ∈ t, isLineEnd c = true → c = '\n' := by
  have hle : ∀ u : Text, u.count '\n' ≤ u.countP isLineEnd := by
    intro u
    refine List.countP_mono_left fun c _ hc => ?_
    rw [beq_iff_eq.mp hc]
    exact isLineEnd_newline
  induction t with
  | nil =>
      simp
  | cons c t ih =>
      have hrest := hle t
      rw [List.forall_mem_cons]
      refine Iff.trans ?_ (and_congr_right fun _ => ih)
      by_cases hc : isLineEnd c = true
      · rw [List.countP_cons_of_pos hc]
        by_cases hfeed : c = '\n'
        · simp [hfeed, List.count_cons_self]
        · rw [List.count_cons_of_ne hfeed]
          simp only [hc, hfeed, forall_const, false_and, iff_false]
          omega
      · have hfeed : c ≠ '\n' := fun heq => hc (heq ▸ isLineEnd_newline)
        rw [List.countP_cons_of_neg hc, List.count_cons_of_ne hfeed]
        simp [hc]

end LineFeeds

section Cutting

variable {t line : Text} {more earlier later : List Text}

/-- The first line of a text is all of it, or is followed by its end and the other lines. -/
theorem exists_of_lines_cons
    (hreturn : '\r' ∉ t)
    (h : lines t = line :: more) :
    t = line ∧ more = [] ∨
      ∃ c rest, isLineEnd c = true ∧ t = line ++ c :: rest ∧ lines rest = more := by
  have hcut := isCut_linesWithEnds t
  rw [lines_eq_map_withoutEnd] at h
  generalize linesWithEnds t = whole at hcut h
  cases hcut with
  | nil =>
      cases h
  | last _ hne hline =>
      obtain ⟨rfl, rfl⟩ := List.cons.inj h
      have hall : withoutEnd t = t :=
        List.takeWhile_eq_self_iff.mpr fun c hc => by simp [hline c hc]
      exact Or.inl ⟨hall.symm, rfl⟩
  | @cons first ends rest whole hline hends hpair hrest =>
      obtain ⟨rfl, rfl⟩ := List.cons.inj h
      cases hends with
      | pair =>
          simp at hreturn
      | single c hc =>
          have hfirst : withoutEnd (first ++ [c]) = first := by
            rw [withoutEnd, List.takeWhile_append_of_pos fun d hd => by simp [hline d hd]]
            simp [hc]
          refine Or.inr ⟨c, rest, hc, ?_, ?_⟩
          · rw [hfirst, List.append_assoc, List.singleton_append]
          · rw [lines_eq_map_withoutEnd, hrest.eq_linesWithEnds]

/-- A text without carriage returns is cut where one of its lines begins.  The lines before are as many as
the ends of lines before. -/
theorem exists_cut_of_lines
    (hreturn : '\r' ∉ t)
    (h : lines t = earlier ++ later)
    (hlater : later ≠ []) :
    ∃ before rest, t = before ++ rest ∧ EndsLine before ∧ lines before = earlier ∧ lines rest = later ∧
      before.countP isLineEnd = earlier.length := by
  induction earlier generalizing t with
  | nil =>
      exact ⟨[], t, rfl, by simp [EndsLine], rfl, h, rfl⟩
  | cons line earlier ih =>
      rcases exists_of_lines_cons hreturn h with ⟨-, hnil⟩ | ⟨c, rest, hc, rfl, hrest⟩
      · exact absurd (List.append_eq_nil_iff.mp hnil).2 hlater
      · have hline : ∀ d ∈ line, isLineEnd d = false :=
          isLineEnd_of_mem_lines (by rw [h]; exact List.mem_cons_self)
        have hafter : '\r' ∉ rest := fun hmem => hreturn (by simp [hmem])
        have hc' : c ≠ '\r' := fun heq => hreturn (by simp [heq])
        obtain ⟨before, last, rfl, hends, hearlier, hlast, hcount⟩ := ih hafter hrest
        refine ⟨line ++ c :: before, last, by simp, ?_, ?_, hlast, ?_⟩
        · intro d hd
          cases before with
          | nil =>
              simp at hd
              rwa [← hd]
          | cons e before =>
              exact hends d (by simpa [List.getLast?_append] using hd)
        · rw [lines_append_lineEnd _ hline hc hc', hearlier]
        · have hnone : line.countP isLineEnd = 0 :=
            List.countP_eq_zero.mpr fun d hd => by simp [hline d hd]
          rw [List.countP_append, hnone, List.countP_cons_of_pos hc, hcount]
          simp

/-- Lines that are joined with line feeds are the text they come from with line feeds for the ends of its
lines, apart from the last end. -/
theorem join_lines
    (hreturn : '\r' ∉ t)
    (hends : EndsLine t) :
    join "\n" (lines t) = t.dropLast.map toLineFeed := by
  induction hlines : lines t generalizing t with
  | nil =>
      rw [lines_eq_nil_iff] at hlines
      subst hlines
      rfl
  | cons line more ih =>
      have hline : ∀ d ∈ line, isLineEnd d = false :=
        isLineEnd_of_mem_lines (hlines ▸ List.mem_cons_self)
      have hsame : line.map toLineFeed = line :=
        map_toLineFeed_eq_self_iff.mpr fun d hd hend => by simp [hline d hd] at hend
      rcases exists_of_lines_cons hreturn hlines with ⟨rfl, -⟩ | ⟨c, rest, hc, rfl, hrest⟩
      · -- a text that is one line without an end does not end with one
        have hlast : ∀ d ∈ t.getLast?, False := fun d hd => by
          have hend := hends d hd
          rw [hline d (List.mem_of_getLast? hd)] at hend
          cases hend
        cases ht : t.getLast? with
        | none =>
            rw [List.getLast?_eq_none_iff] at ht
            subst ht
            cases hlines
        | some d =>
            exact absurd ht (hlast d)
      · have hafter : '\r' ∉ rest := fun hmem => hreturn (by simp [hmem])
        cases rest with
        | nil =>
            obtain rfl : more = [] := hrest.symm
            simpa [join] using hsame.symm
        | cons d rest =>
            have hne : more ≠ [] := by
              rintro rfl
              cases lines_eq_nil_iff.mp hrest
            have hlast : EndsLine (d :: rest) := fun e he => hends e (by simpa [List.getLast?_append] using he)
            rw [join_cons_of_ne_nil _ _ hne, ih hafter hlast hrest]
            simp [List.dropLast_append_of_ne_nil, hsame, toLineFeed, hc]

end Cutting

end Text

namespace Document

/-- A text cut around a block. -/
structure Passage where
  /-- What comes before the first line of the block. -/
  before : Text
  /-- The first line. -/
  first : Text
  /-- What ends the first line. -/
  stop : Char
  /-- The lines of the body, each with its end. -/
  inside : Text
  /-- The line that ends the block. -/
  last : Text
  /-- What comes after, beginning with the end of that line. -/
  after : Text

namespace Passage

/-- The whole text. -/
def text (passage : Passage) : Text :=
  passage.before ++ (passage.first ++ passage.stop :: (passage.inside ++ (passage.last ++ passage.after)))

/-- The text is cut where lines begin and end. -/
structure IsLined (passage : Passage) : Prop where
  /-- The first line begins where a line may begin. -/
  before : Text.EndsLine passage.before
  /-- It is one line. -/
  first : ∀ c ∈ passage.first, Text.isLineEnd c = false
  /-- It has an end. -/
  stop : Text.isLineEnd passage.stop = true
  /-- Every line of the body has an end. -/
  inside : Text.EndsLine passage.inside
  /-- The last line is one line. -/
  last : ∀ c ∈ passage.last, Text.isLineEnd c = false
  /-- It goes up to the end of a line or of the text. -/
  after : ∀ c ∈ passage.after.head?, Text.isLineEnd c = true

/-- The lines of the body without what ends the last of them. -/
def body (passage : Passage) : Text :=
  passage.inside.dropLast

end Passage

/-- A comma protects the line: after its indentation it begins with commas and a mark. -/
def IsProtected (line : Text) : Prop :=
  ∃ rest, Text.trimLeft line = ',' :: rest ∧ BeginsMark (rest.dropWhile (· == ','))

theorem unescapeLine_of_not_isProtected
    {line : Text}
    (h : ¬ IsProtected line) :
    unescapeLine line = line := by
  unfold unescapeLine
  split
  · rename_i rest htrim
    have hmark : ¬ BeginsMark (rest.dropWhile (· == ',')) := fun hmark => h ⟨rest, htrim, hmark⟩
    exact if_neg hmark
  · rfl

/-- Whether the rest of the first line of a block asks to keep the indentation. -/
def keepsIndent (rest : Text) : Bool :=
  (Text.fields (Header.splitSwitches true rest).1).contains "-i"

/-- A block stands in a passage of a text. -/
structure Stands (block : DocumentBlock) (passage : Passage) (rest : Text) : Prop where
  /-- The text is cut where lines begin and end. -/
  lined : passage.IsLined
  /-- The language stands on the first line, and `rest` follows it. -/
  begins : blockBegin? passage.first = some (block.language, rest)
  /-- The last line ends the block. -/
  ends : isBlockEnd passage.last = true
  /-- No line of the body does. -/
  inside : ∀ line ∈ Text.lines passage.inside, isBlockEnd line = false
  /-- The line that the block links to is the one after as many ends of lines. -/
  line : block.link.line = 1 + passage.before.countP Text.isLineEnd
  /-- The body is made of the lines in between. -/
  body : block.body = bodyOfLines (keepsIndent rest) (Text.lines passage.inside)

section Standing

variable {document : Document} {block : DocumentBlock}

/-- A list is cut at two of its places. -/
theorem eq_append_cons_append_cons
    {lines : List Text} {first last : Nat} {line line' : Text}
    (hlt : first < last)
    (hfirst : lines[first]? = some line)
    (hlast : lines[last]? = some line') :
    lines = lines.take first ++ line ::
      ((lines.take last).drop (first + 1) ++ line' :: lines.drop (last + 1)) := by
  obtain ⟨hfirst_lt, rfl⟩ := List.getElem?_eq_some_iff.mp hfirst
  obtain ⟨hlast_lt, rfl⟩ := List.getElem?_eq_some_iff.mp hlast
  have hbetween : lines.drop (first + 1) = (lines.take last).drop (first + 1) ++ lines.drop last := by
    conv_lhs => rw [← List.take_append_drop last lines]
    rw [List.drop_append_of_le_length (by rw [List.length_take]; omega)]
  rw [← List.drop_eq_getElem_cons hlast_lt, ← hbetween, ← List.drop_eq_getElem_cons hfirst_lt,
    List.take_append_drop]

/-- Every block stands in a passage of its document. -/
theorem exists_stands
    (hreturn : '\r' ∉ document.text)
    (h : block ∈ document.scanned.blocks) :
    ∃ passage rest, passage.text = document.text ∧ Stands block passage rest := by
  obtain ⟨-, hnumber, hends, rest, hbegin, hbody⟩ := occupies_extent h
  generalize block.extent (Text.lines document.text) = extent at hnumber hends hbegin hbody
  obtain ⟨first, hfirst, hbegin⟩ := Option.bind_eq_some_iff.mp hbegin
  obtain ⟨last, hlast, hend⟩ := exists_of_isAt hends.ends
  have hsplit := eq_append_cons_append_cons hends.lt hfirst hlast
  -- the text is cut in front of the first line, behind it, in front of the last line, and behind it
  obtain ⟨before, fromFirst, htext, hbefore, -, hfromFirst, hcount⟩ :=
    Text.exists_cut_of_lines hreturn hsplit (List.cons_ne_nil _ _)
  have hreturn₁ : '\r' ∉ fromFirst := fun hmem => hreturn (by simp [htext, hmem])
  rcases Text.exists_of_lines_cons hreturn₁ hfromFirst with ⟨-, hnil⟩ | ⟨stop, fromBody, hstop, rfl, hfromBody⟩
  · simp at hnil
  have hreturn₂ : '\r' ∉ fromBody := fun hmem => hreturn₁ (by simp [hmem])
  obtain ⟨inside, fromLast, rfl, hinside, hlines, hfromLast, -⟩ :=
    Text.exists_cut_of_lines hreturn₂ hfromBody (List.cons_ne_nil _ _)
  have hreturn₃ : '\r' ∉ fromLast := fun hmem => hreturn₂ (by simp [hmem])
  obtain ⟨after, rfl, hafter⟩ : ∃ after, fromLast = last ++ after ∧
      ∀ c ∈ after.head?, Text.isLineEnd c = true := by
    rcases Text.exists_of_lines_cons hreturn₃ hfromLast with ⟨rfl, -⟩ | ⟨c, after, hc, rfl, -⟩
    · exact ⟨[], by simp, by simp⟩
    · exact ⟨c :: after, rfl, by simpa using hc⟩
  have honline : ∀ {line}, line ∈ Text.lines document.text → ∀ c ∈ line, Text.isLineEnd c = false :=
    fun hline => Text.isLineEnd_of_mem_lines hline
  refine ⟨⟨before, first, stop, inside, last, after⟩, rest, htext.symm, ?_, hbegin, hend, ?_, ?_, ?_⟩
  · exact ⟨hbefore, honline (List.mem_of_getElem? hfirst), hstop, hinside, honline (List.mem_of_getElem? hlast),
      hafter⟩
  · intro line hline
    rw [hlines] at hline
    obtain ⟨k, hk⟩ := List.mem_iff_getElem?.mp hline
    rw [List.getElem?_drop, List.getElem?_take] at hk
    split at hk
    · rename_i hlt
      rw [← isAt_of_getElem? isBlockEnd hk]
      exact hends.inside _ (by omega) hlt
    · cases hk
  · have hlength : extent.first ≤ (Text.lines document.text).length :=
      (List.getElem?_eq_some_iff.mp hfirst).1.le
    rw [hnumber, hcount, List.length_take, Nat.min_eq_left hlength]
    omega
  · rw [hlines]
    exact hbody

/-- **Ends of lines.**  In a document without carriage returns every block stands in a passage of the text.  The
line that it links to is the one after as many ends of lines, and a body that keeps its indentation and has no
protected lines is the text between, with line feeds for the ends of its lines.  The number is that of the line
feeds before, and the body is the text, exactly when these parts have no other ends of lines. -/
theorem scanned_follows_line_ends
    (document : Document)
    (hreturn : '\r' ∉ document.text)
    (block : DocumentBlock)
    (hblock : block ∈ document.scanned.blocks) :
    ∃ passage rest, passage.text = document.text ∧ Stands block passage rest ∧
      (block.link.line = 1 + passage.before.count '\n' ↔
        ∀ c ∈ passage.before, Text.isLineEnd c = true → c = '\n') ∧
      (keepsIndent rest = true → (∀ line ∈ Text.lines passage.inside, ¬ IsProtected line) →
        block.body = passage.body.map Text.toLineFeed ∧
        (block.body = passage.body ↔ ∀ c ∈ passage.body, Text.isLineEnd c = true → c = '\n')) := by
  obtain ⟨passage, rest, htext, hstands⟩ := exists_stands hreturn hblock
  refine ⟨passage, rest, htext, hstands, ?_, fun hkeeps hplain => ?_⟩
  · rw [← Text.countP_isLineEnd_eq_count_iff, hstands.line]
    omega
  · have hfree : '\r' ∉ passage.inside := fun hmem => hreturn (by simp [← htext, Passage.text, hmem])
    have hsame : (Text.lines passage.inside).map unescapeLine = Text.lines passage.inside :=
      (List.map_congr_left fun line hline => unescapeLine_of_not_isProtected (hplain line hline)).trans
        (List.map_id _)
    have hbody : block.body = passage.body.map Text.toLineFeed := by
      rw [hstands.body, hkeeps, bodyOfLines, if_pos rfl, hsame, Text.join_lines hfree hstands.lined.inside]
      rfl
    exact ⟨hbody, by rw [hbody, Text.map_toLineFeed_eq_self_iff]⟩

/-- Behind a form feed, and with a vertical tab in its body. -/
theorem scanned_follows_line_ends_form_feed :
    let document : Document :=
      { text := "#+begin_src sh\na\n#+end_src\nx\x0cy\n#+begin_src sh -i\n\tb\x0bc\n#+end_src\n" }
    let block : DocumentBlock :=
      { language := "sh"
        name := none
        params := Dictionary.empty
        body := "\tb\nc"
        link := { path := none, line := 6, heading := none } }
    '\r' ∉ document.text ∧ block ∈ document.scanned.blocks ∧
      ∃ passage rest, passage.text = document.text ∧ Stands block passage rest ∧
        (block.link.line = 1 + passage.before.count '\n' ↔
          ∀ c ∈ passage.before, Text.isLineEnd c = true → c = '\n') ∧
        (keepsIndent rest = true → (∀ line ∈ Text.lines passage.inside, ¬ IsProtected line) →
          block.body = passage.body.map Text.toLineFeed ∧
          (block.body = passage.body ↔ ∀ c ∈ passage.body, Text.isLineEnd c = true → c = '\n')) := by
  intro document block
  have hreturn : '\r' ∉ document.text := by
    decide
  have hblock : block ∈ document.scanned.blocks := by
    decide +kernel
  exact ⟨hreturn, hblock, scanned_follows_line_ends document hreturn block hblock⟩

/-- A form feed and a vertical tab: the line feeds before the block are fewer than the lines, and the body is not
the text between. -/
theorem scanned_line_after_form_feed :
    let document : Document := { text := "a\x0cb\n#+begin_src sh -i\nx\x0by\n#+end_src\n" }
    let passage : Passage := ⟨"a\x0cb\n", "#+begin_src sh -i", '\n', "x\x0by\n", "#+end_src", "\n"⟩
    passage.text = document.text ∧ '\r' ∉ document.text ∧ ',' ∉ document.text ∧
      blockBegin? passage.first = some (("sh" : Text), (" -i" : Text)) ∧ keepsIndent " -i" = true ∧
      (document.scanned.blocks.map fun block => (block.link.line, block.body)) = [(3, ("x\ny" : Text))] ∧
      1 + passage.before.count '\n' = 2 ∧ passage.body = "x\x0by" := by
  decide +kernel

end Standing

end Document
end Literate
