import Literate.Proofs.Document.Escaping
import Literate.Proofs.Text.Splitting

/-!
# The indentation of bodies

A body that does not keep its indentation loses what its lines have in common.
How deep a block is indented as a whole does therefore not matter.

**Margins.**  The margin of lines is the longest text of spaces and tabs that all
of them begin with, where lines of spaces and tabs only are left out (`IsMargin`).
Such lines become empty, and every other line loses the margin.

**Protection.**  The comma that protects a line is taken away after the margin.
`unescape` does so in a whole text: a comma goes when only blanks, which may be
line feeds, stand between the beginning of some line and it, and further commas
and a mark follow.  Going line by line comes to the same (`unescape_join`).

**Main statements.**
* `isPrefix_commonPrefix_iff`, `isMargin_margin`, `IsMargin.eq`: the margin that is
  computed is the margin.
* `dedent_indented`: more indentation changes nothing.
* `bodyOfLines_ignores_indentation`: what a body is made of, however deep it stands.
-/

namespace Literate

namespace Text

section CommonBeginnings

variable {s t u w : Text}

/-- A text begins two others when it begins their common beginning. -/
theorem isPrefix_commonPrefix_iff :
    u <+: commonPrefix s t ↔ u <+: s ∧ u <+: t := by
  fun_induction commonPrefix s t generalizing u with
  | case1 a s t ih =>
      cases u with
      | nil =>
          simp
      | cons c u =>
          simp only [List.cons_prefix_cons, ih]
          tauto
  | case2 a s b t hne =>
      cases u with
      | nil =>
          simp
      | cons c u =>
          simp only [List.cons_prefix_cons, List.prefix_nil, reduceCtorEq, false_iff]
          rintro ⟨⟨rfl, -⟩, rfl, -⟩
          exact hne rfl
  | case3 s t hnil =>
      cases u with
      | nil =>
          simp
      | cons c u =>
          simp only [List.prefix_nil, reduceCtorEq, false_iff]
          rintro ⟨⟨s', rfl⟩, t', rfl⟩
          exact hnil _ _ _ _ rfl rfl

theorem isPrefix_foldl_commonPrefix_iff
    (first : Text) (rest : List Text) :
    u <+: rest.foldl commonPrefix first ↔ u <+: first ∧ ∀ t ∈ rest, u <+: t := by
  induction rest generalizing first with
  | nil =>
      simp
  | cons second rest ih =>
      rw [List.foldl_cons, ih, isPrefix_commonPrefix_iff, List.forall_mem_cons, and_assoc]

/-- What begins the indentation of a line begins the line and is made of spaces and tabs. -/
theorem isPrefix_indentOf_iff :
    u <+: indentOf t ↔ u <+: t ∧ ∀ c ∈ u, isIndent c = true := by
  constructor
  · intro h
    refine ⟨h.trans (List.takeWhile_prefix isIndent), fun c hc => ?_⟩
    exact List.mem_takeWhile_imp (h.subset hc)
  · rintro ⟨⟨rest, rfl⟩, hindent⟩
    rw [indentOf, List.takeWhile_append_of_pos hindent]
    exact List.prefix_append u _

/-- What begins a text behind other text is a beginning of the other text or goes on behind it. -/
theorem isPrefix_append_cases
    (h : u <+: w ++ t) :
    u <+: w ∨ ∃ v, u = w ++ v ∧ v <+: t := by
  rcases List.prefix_or_prefix_of_prefix h (List.prefix_append w t) with hu | ⟨v, rfl⟩
  · exact Or.inl hu
  · exact Or.inr ⟨v, rfl, (List.prefix_append_right_inj w).mp h⟩

end CommonBeginnings

section Margins

variable {lines : List Text} {m m' w : Text}

/-- The longest text of spaces and tabs that all lines begin with which hold anything else. -/
structure IsMargin (lines : List Text) (m : Text) : Prop where
  /-- It is made of spaces and tabs. -/
  indents : ∀ c ∈ m, isIndent c = true
  /-- All those lines begin with it. -/
  begins : ∀ line ∈ lines, line.all isIndent = false → m <+: line
  /-- Where there are such lines, every other text like it is one of its beginnings. -/
  longest : (∃ line ∈ lines, line.all isIndent = false) →
    ∀ other, (∀ c ∈ other, isIndent c = true) →
      (∀ line ∈ lines, line.all isIndent = false → other <+: line) → other <+: m

/-- There is one margin only. -/
theorem IsMargin.eq
    (h : IsMargin lines m)
    (h' : IsMargin lines m')
    (hsome : ∃ line ∈ lines, line.all isIndent = false) :
    m = m' := by
  have hle : m <+: m' := h'.longest hsome m h.indents h.begins
  have hge : m' <+: m := h.longest hsome m' h'.indents h'.begins
  exact hle.eq_of_length (Nat.le_antisymm hle.length_le hge.length_le)

theorem isPrefix_margin_iff
    (hsome : ∃ line ∈ lines, line.all isIndent = false) :
    m <+: margin lines ↔ ∀ line ∈ lines, line.all isIndent = false → m <+: indentOf line := by
  have hmem : ∀ line, line ∈ lines.filter (fun line => !line.all isIndent) ↔
      line ∈ lines ∧ line.all isIndent = false := by
    simp
  unfold margin
  cases hlines : lines.filter fun line => !line.all isIndent with
  | nil =>
      obtain ⟨line, hline⟩ := hsome
      rw [← hmem, hlines] at hline
      cases hline
  | cons first rest =>
      rw [List.map_cons, isPrefix_foldl_commonPrefix_iff, ← List.forall_mem_cons (p := (m <+: ·)),
        ← List.map_cons, ← hlines, List.forall_mem_map]
      simp only [hmem, and_imp]

/-- The margin that is computed is the margin. -/
theorem isMargin_margin
    (lines : List Text) :
    IsMargin lines (margin lines) := by
  by_cases hsome : ∃ line ∈ lines, line.all isIndent = false
  · have hbegins := (isPrefix_margin_iff hsome).mp (List.prefix_refl _)
    obtain ⟨line, hline, hfull⟩ := hsome
    refine ⟨?_, ?_, ?_⟩
    · exact (isPrefix_indentOf_iff.mp (hbegins line hline hfull)).2
    · exact fun line hline hfull => (isPrefix_indentOf_iff.mp (hbegins line hline hfull)).1
    · intro hsome other hindent hother
      exact (isPrefix_margin_iff hsome).mpr fun line hline hfull =>
        isPrefix_indentOf_iff.mpr ⟨hother line hline hfull, hindent⟩
  · have hnone : lines.filter (fun line => !line.all isIndent) = [] := by
      simpa using hsome
    rw [margin, hnone]
    exact ⟨by simp, fun line _ _ => List.nil_prefix, fun h => absurd h hsome⟩

theorem all_isIndent_append
    (hw : ∀ c ∈ w, isIndent c = true) (line : Text) :
    (w ++ line).all isIndent = line.all isIndent := by
  rw [List.all_append, List.all_eq_true.mpr hw, Bool.true_and]

/-- Lines that are indented more have a margin that is longer by as much. -/
theorem IsMargin.indented
    (h : IsMargin lines m)
    (hw : ∀ c ∈ w, isIndent c = true) :
    IsMargin (lines.map (w ++ ·)) (w ++ m) := by
  refine ⟨?_, ?_, ?_⟩
  · exact List.forall_mem_append.mpr ⟨hw, h.indents⟩
  · rw [List.forall_mem_map]
    intro line hline hfull
    rw [all_isIndent_append hw] at hfull
    exact (List.prefix_append_right_inj w).mpr (h.begins line hline hfull)
  · rintro ⟨indented, hindented, hfull⟩ other hindent hother
    obtain ⟨line, hline, rfl⟩ := List.mem_map.mp hindented
    simp only [List.forall_mem_map, all_isIndent_append hw] at hfull hother
    rcases isPrefix_append_cases (hother line hline hfull) with hshort | ⟨v, rfl, -⟩
    · exact hshort.trans (List.prefix_append w m)
    · refine (List.prefix_append_right_inj w).mpr (h.longest ⟨line, hline, hfull⟩ v ?_ ?_)
      · exact fun c hc => hindent c (List.mem_append_right w hc)
      · exact fun line hline hfull => (List.prefix_append_right_inj w).mp (hother line hline hfull)

/-- A line without the margin of the lines it stands among. -/
def withoutMargin (m line : Text) : Text :=
  if line.all isIndent then [] else line.drop m.length

theorem dedent_eq_map
    (h : IsMargin lines m) :
    dedent lines = lines.map (withoutMargin m) := by
  refine List.map_congr_left fun line hline => ?_
  cases hfull : line.all isIndent with
  | true =>
      simp [withoutMargin, hfull]
  | false =>
      rw [withoutMargin, hfull, (isMargin_margin lines).eq h ⟨line, hline, hfull⟩]

/-- More indentation changes nothing. -/
theorem dedent_indented
    (lines : List Text)
    (hw : ∀ c ∈ w, isIndent c = true) :
    dedent (lines.map (w ++ ·)) = dedent lines := by
  have hmargin := isMargin_margin lines
  rw [dedent_eq_map hmargin, dedent_eq_map (hmargin.indented hw), List.map_map]
  refine List.map_congr_left fun line _ => ?_
  simp only [Function.comp_apply, withoutMargin, all_isIndent_append hw, List.length_append,
    ← List.drop_drop, List.drop_left]

theorem not_mem_of_mem_dedent
    {line : Text} {c : Char}
    (hlines : ∀ line ∈ lines, c ∉ line)
    (h : line ∈ dedent lines) :
    c ∉ line := by
  obtain ⟨whole, hwhole, rfl⟩ := List.mem_map.mp h
  split
  · exact List.not_mem_nil
  · exact fun hc => hlines whole hwhole (List.mem_of_mem_drop hc)

end Margins

end Text

namespace Document

/-- The text without the commas that protect its lines.  `fresh` says that only blanks stand between the
beginning of some line and here. -/
def unescapeFrom : Bool → Text → Text
  | _, [] => []
  | fresh, c :: cs =>
      if fresh ∧ c = ',' ∧ BeginsMark (cs.dropWhile (· == ',')) then unescapeFrom false cs
      else c :: unescapeFrom (c == '\n' || (fresh && Text.isBlank c)) cs

/-- The text without the commas that protect its lines. -/
def unescape (t : Text) : Text :=
  unescapeFrom true t

section Protection

variable {line t : Text}

theorem unescapeFrom_newline
    (fresh : Bool) (t : Text) :
    unescapeFrom fresh ('\n' :: t) = '\n' :: unescape t := by
  simp [unescapeFrom, unescape]

/-- Behind a character that is not blank a line has no protection. -/
theorem unescapeFrom_false_append
    (t : Text)
    (hline : '\n' ∉ line) :
    unescapeFrom false (line ++ t) = line ++ unescapeFrom false t := by
  induction line with
  | nil =>
      rfl
  | cons c line ih =>
      simp only [List.mem_cons, not_or] at hline
      have hc : (c == '\n') = false := by
        simpa using Ne.symm hline.1
      rw [List.cons_append, unescapeFrom, hc]
      simp [ih hline.2]

/-- A mark stands on one line. -/
theorem beginsMark_append_iff
    (ht : ∀ c ∈ t.head?, c = '\n') :
    BeginsMark ((line ++ t).dropWhile (· == ',')) ↔ BeginsMark (line.dropWhile (· == ',')) := by
  rw [List.dropWhile_append]
  cases line.dropWhile (· == ',') with
  | nil =>
      cases t with
      | nil =>
          rfl
      | cons c t =>
          obtain rfl : c = '\n' := ht c rfl
          simp [BeginsMark, Text.dropPrefix?]
  | cons c rest =>
      cases rest with
      | nil =>
          cases t with
          | nil =>
              rfl
          | cons d t =>
              obtain rfl : d = '\n' := ht d rfl
              simp [BeginsMark, Text.dropPrefix?]
      | cons d rest =>
          have hkeyword : (Text.dropPrefix? ['#', '+'] (c :: d :: (rest ++ t))).isSome =
              (Text.dropPrefix? ['#', '+'] (c :: d :: rest)).isSome := by
            simp only [Text.dropPrefix?]
            split_ifs <;> rfl
          simp [BeginsMark, hkeyword]

theorem unescapeLine_blank_cons
    {c : Char} (line : Text)
    (hc : Text.isBlank c = true) :
    unescapeLine (c :: line) = c :: unescapeLine line := by
  have htrim : Text.trimLeft (c :: line) = Text.trimLeft line := by
    simp [Text.trimLeft, hc]
  unfold unescapeLine
  rw [htrim]
  split
  · dsimp only
    split
    · simp [hc]
    · rfl
  · rfl

/-- A line at the beginning of a text loses the comma that protects it. -/
theorem unescapeFrom_line_append
    (hline : '\n' ∉ line)
    (ht : ∀ c ∈ t.head?, c = '\n') :
    unescapeFrom true (line ++ t) = unescapeLine line ++ unescapeFrom false t := by
  induction line with
  | nil =>
      cases t with
      | nil =>
          rfl
      | cons c t =>
          obtain rfl : c = '\n' := ht c rfl
          rw [List.nil_append, unescapeFrom_newline, unescapeFrom_newline]
          rfl
  | cons c line ih =>
      simp only [List.mem_cons, not_or] at hline
      have hc : (c == '\n') = false := by
        simpa using Ne.symm hline.1
      have hrest := unescapeFrom_false_append t hline.2
      simp only [List.cons_append, unescapeFrom, beginsMark_append_iff ht, hc, Bool.false_or, Bool.true_and]
      cases hblank : Text.isBlank c with
      | true =>
          have hcomma : c ≠ ',' := by
            rintro rfl
            exact absurd hblank (by decide)
          rw [unescapeLine_blank_cons line hblank, if_neg (by simp [hcomma]), ih hline.2]
          rfl
      | false =>
          have htrim : Text.trimLeft (c :: line) = c :: line := Text.trimLeft_cons line hblank
          by_cases hcomma : c = ','
          · subst hcomma
            by_cases hmark : BeginsMark (line.dropWhile (· == ','))
            · have hunescape : unescapeLine (',' :: line) = line := by
                rw [unescapeLine, htrim]
                exact (if_pos hmark).trans (by simp [hblank])
              rw [if_pos ⟨trivial, rfl, hmark⟩, hunescape, hrest]
            · have hunescape : unescapeLine (',' :: line) = ',' :: line := by
                rw [unescapeLine, htrim]
                exact if_neg hmark
              rw [if_neg (fun h => hmark h.2.2), hunescape, hrest]
              rfl
          · have hunescape : unescapeLine (c :: line) = c :: line := by
              rw [unescapeLine, htrim]
              split
              · rename_i hcons
                exact absurd (List.cons.inj hcons).1 hcomma
              · rfl
            rw [if_neg (fun h => hcomma h.2.1), hunescape, hrest]
            rfl

/-- A text whose lines are taken one by one loses the same commas. -/
theorem unescape_join
    {lines : List Text}
    (hlines : ∀ line ∈ lines, '\n' ∉ line) :
    unescape (Text.join "\n" lines) = Text.join "\n" (lines.map unescapeLine) := by
  induction lines with
  | nil =>
      rfl
  | cons line rest ih =>
      obtain ⟨hline, hrest⟩ := List.forall_mem_cons.mp hlines
      cases rest with
      | nil =>
          have hlast := @unescapeFrom_line_append line [] hline (by simp)
          simpa [unescape, Text.join, unescapeFrom] using hlast
      | cons next rest =>
          have hnext : (next :: rest).map unescapeLine ≠ [] := by
            simp
          rw [Text.join_cons_of_ne_nil _ line (List.cons_ne_nil next rest), List.map_cons,
            Text.join_cons_of_ne_nil _ (unescapeLine line) hnext, ← ih hrest, unescape, List.append_assoc,
            unescapeFrom_line_append hline (by simp), List.append_assoc]
          exact congrArg (unescapeLine line ++ ·) (unescapeFrom_newline false _)

end Protection

/-- **Indentation does not matter.**  However deep all lines of a body are indented, its text is the same.  It
is made of the lines between line feeds, from which the margin is taken, and lines of spaces and tabs only are
emptied; from the whole of that, the commas that protect lines are taken away. -/
theorem bodyOfLines_ignores_indentation
    (lines : List Text) (w : Text)
    (hlines : ∀ line ∈ lines, '\n' ∉ line)
    (hw : ∀ c ∈ w, Text.isIndent c = true) :
    bodyOfLines false (lines.map (w ++ ·)) = bodyOfLines false lines ∧
      bodyOfLines false lines = unescape (Text.join "\n" (Text.dedent lines)) ∧
      ∃ m, Text.IsMargin lines m ∧ Text.dedent lines = lines.map (Text.withoutMargin m) ∧
        (lines ≠ [] →
          Text.splitOn '\n' (Text.join "\n" (Text.dedent lines)) = lines.map (Text.withoutMargin m)) := by
  have hfree : ∀ line ∈ Text.dedent lines, '\n' ∉ line :=
    fun line hline => Text.not_mem_of_mem_dedent hlines hline
  have hmargin := Text.isMargin_margin lines
  have hdedent := Text.dedent_eq_map hmargin
  refine ⟨?_, (unescape_join hfree).symm, Text.margin lines, hmargin, hdedent, fun hne => ?_⟩
  · simp [bodyOfLines, Text.dedent_indented lines hw]
  · rw [← hdedent]
    exact Text.splitOn_join (by simpa [Text.dedent] using hne) hfree

/-- Tabs and spaces that agree in part, a line of one space, and a protected star, all of it indented more. -/
theorem bodyOfLines_ignores_indentation_mixed :
    let lines : List Text := [("\t ,* a" : Text), (" " : Text), ("\t\tb" : Text)]
    let w : Text := " \t"
    (∀ line ∈ lines, '\n' ∉ line) ∧ (∀ c ∈ w, Text.isIndent c = true) ∧
      bodyOfLines false (lines.map (w ++ ·)) = " * a\n\n\tb" ∧
      ∃ m, Text.IsMargin lines m ∧ lines.map (Text.withoutMargin m) = [(" ,* a" : Text), [], ("\tb" : Text)] := by
  intro lines w
  have hlines : ∀ line ∈ lines, '\n' ∉ line := by
    decide
  have hw : ∀ c ∈ w, Text.isIndent c = true := List.all_eq_true.mp (by decide)
  have hbody : bodyOfLines false lines = " * a\n\n\tb" := by
    decide
  have hdedent : Text.dedent lines = [(" ,* a" : Text), [], ("\tb" : Text)] := by
    decide
  obtain ⟨hsame, -, m, hmargin, hshort, -⟩ := bodyOfLines_ignores_indentation lines w hlines hw
  exact ⟨hlines, hw, hsame.trans hbody, m, hmargin, hshort.symm.trans hdedent⟩

end Document
end Literate
