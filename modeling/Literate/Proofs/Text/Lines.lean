import Literate.Text.Lines

/-!
# Lines of a text

Lines that hold no line end are read back from the text that puts a line feed
after each of them, and a text without carriage returns is read back as it is.

**Ends.**  A text is made of its lines with their ends (`flatten_linesWithEnds`),
and its lines are these without their ends (`lines_eq_map_withoutEnd`).  They are the
one way to cut the text where its lines end (`IsCut`).

**Main statements.**
* `lines_unlines`: lines that hold no line end are read back.
* `linesWithEnds_append`, `lines_append`: after a line feed a new line begins.
* `linesWithEnds_unifyLineEnds`: unifying line ends changes the ends of lines only.
* `isCut_linesWithEnds`, `IsCut.eq_linesWithEnds`: the cut of a text into lines.
-/

namespace Literate
namespace Text

/-- The text made of lines, with a line feed after each of them. -/
def unlines (ls : List Text) : Text :=
  ls.flatMap fun line => line ++ ['\n']

theorem isLineEnd_eq_false_of_isBlank
    {c : Char}
    (h : isBlank c = false) :
    isLineEnd c = false := by
  simp only [isBlank, blankRanges, Ranges.mem] at h
  simp only [isLineEnd, lineEndRanges, Ranges.mem]
  grind

theorem isLineEnd_of_mem
    {t : Text} {c : Char}
    (h : t.all (fun d => !isLineEnd d) = true)
    (hc : c ∈ t) :
    isLineEnd c = false := by
  simpa using List.all_eq_true.mp h c hc

theorem lines_cons_of_not_lineEnd
    {c : Char} {t line : Text} {rest : List Text}
    (hc : isLineEnd c = false)
    (h : lines t = line :: rest) :
    lines (c :: t) = (c :: line) :: rest := by
  have hreturn : c ≠ '\r' := by
    rintro rfl
    simp [isLineEnd, lineEndRanges, Ranges.mem] at hc
  rw [lines]
  · simp [hc, h]
  · intro cs hcr
    exact absurd hcr hreturn

/-- A character that ends a line, other than a carriage return, ends an empty one at the beginning. -/
theorem lines_cons_lineEnd
    {c : Char} (t : Text)
    (hc : isLineEnd c = true)
    (hreturn : c ≠ '\r') :
    lines (c :: t) = [] :: lines t := by
  rw [lines]
  · simp [hc]
  · intro cs h
    exact absurd h hreturn

theorem lines_cons_newline
    (t : Text) :
    lines ('\n' :: t) = [] :: lines t :=
  lines_cons_lineEnd t (by decide) (by decide)

/-- A line without line ends and what ends it, other than a carriage return, are read as one line. -/
theorem lines_append_lineEnd
    {line : Text} {c : Char} (t : Text)
    (h : ∀ d ∈ line, isLineEnd d = false)
    (hc : isLineEnd c = true)
    (hreturn : c ≠ '\r') :
    lines (line ++ c :: t) = line :: lines t := by
  induction line with
  | nil =>
      exact lines_cons_lineEnd t hc hreturn
  | cons d line ih =>
      obtain ⟨hd, hline⟩ := List.forall_mem_cons.mp h
      exact lines_cons_of_not_lineEnd hd (ih hline)

/-- A line without line ends and the line feed after it are read as one line. -/
theorem lines_append_newline
    {line : Text} (t : Text)
    (h : ∀ c ∈ line, isLineEnd c = false) :
    lines (line ++ '\n' :: t) = line :: lines t :=
  lines_append_lineEnd t h (by decide) (by decide)

/-- Lines that hold no line end are read back. -/
theorem lines_unlines
    {ls : List Text}
    (h : ∀ line ∈ ls, ∀ c ∈ line, isLineEnd c = false) :
    lines (unlines ls) = ls := by
  induction ls with
  | nil =>
      rfl
  | cons line ls ih =>
      simp only [List.mem_cons, forall_eq_or_imp] at h
      have hsplit : unlines (line :: ls) = line ++ '\n' :: unlines ls := by
        simp [unlines]
      rw [hsplit, lines_append_newline _ h.1, ih h.2]

/-- Unifying line ends changes nothing in a text without carriage returns. -/
theorem unifyLineEnds_eq_self
    {t : Text}
    (h : '\r' ∉ t) :
    unifyLineEnds t = t := by
  induction t with
  | nil =>
      rfl
  | cons c t ih =>
      simp only [List.mem_cons, not_or] at h
      have hreturn : c ≠ '\r' := Ne.symm h.1
      rw [unifyLineEnds, if_neg hreturn, ih h.2]
      intro cs hcr
      exact absurd hcr hreturn

/-- A line without its end. -/
def withoutEnd (line : Text) : Text :=
  line.takeWhile fun c => !isLineEnd c

theorem isLineEnd_newline : isLineEnd '\n' = true := by
  decide

theorem isLineEnd_return : isLineEnd '\r' = true := by
  decide

/-- The lines of a text are those with their ends, without them. -/
theorem lines_eq_map_withoutEnd
    (t : Text) :
    lines t = (linesWithEnds t).map withoutEnd := by
  fun_induction linesWithEnds t with
  | case1 =>
      rfl
  | case2 cs ih =>
      simp [lines, ih, withoutEnd, isLineEnd_return]
  | case3 c cs hpair hend ih =>
      rw [lines]
      · simp [hend, ih, withoutEnd]
      · exact hpair
  | case4 c cs hpair hend hnil ih =>
      rw [lines]
      · simp [hend, ih, hnil, withoutEnd]
      · exact hpair
  | case5 c cs hpair hend line rest hcons ih =>
      rw [lines]
      · simp [hend, ih, hcons, withoutEnd]
      · exact hpair

theorem isLineEnd_of_mem_lines
    {t line : Text}
    (h : line ∈ lines t) :
    ∀ c ∈ line, isLineEnd c = false := by
  rw [lines_eq_map_withoutEnd] at h
  obtain ⟨whole, -, rfl⟩ := List.mem_map.mp h
  intro c hc
  simpa using List.all_eq_true.mp List.all_takeWhile c hc

/-- Nothing of a text is lost in its lines. -/
theorem flatten_linesWithEnds
    (t : Text) :
    (linesWithEnds t).flatten = t := by
  fun_induction linesWithEnds t with
  | case1 =>
      rfl
  | case2 cs ih =>
      simp [ih]
  | case3 c cs hpair hend ih =>
      simp [ih]
  | case4 c cs hpair hend hnil ih =>
      rw [hnil] at ih
      simp [← ih]
  | case5 c cs hpair hend line rest hcons ih =>
      rw [hcons] at ih
      simp [← ih]

theorem linesWithEnds_eq_nil_iff
    {t : Text} :
    linesWithEnds t = [] ↔ t = [] := by
  constructor
  · intro h
    rw [← flatten_linesWithEnds t, h]
    rfl
  · rintro rfl
    rfl

/-- After a text that ends with a line feed a new line begins. -/
theorem linesWithEnds_append
    {t : Text} (u : Text)
    (h : ∀ c ∈ t.getLast?, c = '\n') :
    linesWithEnds (t ++ u) = linesWithEnds t ++ linesWithEnds u := by
  fun_induction linesWithEnds t with
  | case1 =>
      rfl
  | case2 cs ih =>
      have hrest : ∀ c ∈ cs.getLast?, c = '\n' := by
        cases cs <;> simp_all
      simp [linesWithEnds, ih hrest]
  | case3 c cs hpair hend ih =>
      have hrest : ∀ c ∈ cs.getLast?, c = '\n' := by
        cases cs <;> simp_all
      rw [List.cons_append, linesWithEnds]
      · simp [hend, ih hrest]
      · rintro ds rfl hds
        cases cs with
        | nil =>
            simp at h
        | cons d cs =>
            cases hds
            exact hpair cs rfl rfl
  | case4 c cs hpair hend hnil ih =>
      exfalso
      rw [linesWithEnds_eq_nil_iff] at hnil
      subst hnil
      obtain rfl : c = '\n' := h c (by simp)
      exact hend isLineEnd_newline
  | case5 c cs hpair hend line rest hcons ih =>
      have hrest : ∀ c ∈ cs.getLast?, c = '\n' := by
        cases cs <;> simp_all
      have hreturn : c ≠ '\r' := by
        rintro rfl
        exact hend isLineEnd_return
      rw [List.cons_append, linesWithEnds]
      · simp [hend, ih hrest, hcons]
      · intro ds hc
        exact absurd hc hreturn

/-- A line without line ends and the line feed after it are one line with its end. -/
theorem linesWithEnds_line
    {line : Text}
    (h : ∀ c ∈ line, isLineEnd c = false) :
    linesWithEnds (line ++ ['\n']) = [line ++ ['\n']] := by
  induction line with
  | nil =>
      simp [linesWithEnds, isLineEnd_newline]
  | cons c line ih =>
      simp only [List.mem_cons, forall_eq_or_imp] at h
      have hreturn : c ≠ '\r' := by
        rintro rfl
        rw [isLineEnd_return] at h
        cases h.1
      rw [List.cons_append, linesWithEnds]
      · simp [h.1, ih h.2]
      · intro ds hc
        exact absurd hc hreturn

theorem lines_append
    {t : Text} (u : Text)
    (h : ∀ c ∈ t.getLast?, c = '\n') :
    lines (t ++ u) = lines t ++ lines u := by
  simp only [lines_eq_map_withoutEnd, linesWithEnds_append u h, List.map_append]

/-- A line consists of characters that end no line, and after them of its end. -/
theorem isLineEnd_of_mem_end
    {t line : Text}
    (hline : line ∈ linesWithEnds t) :
    ∀ c ∈ line.dropWhile (fun c => !isLineEnd c), isLineEnd c = true := by
  fun_induction linesWithEnds t generalizing line with
  | case1 =>
      cases hline
  | case2 cs ih =>
      rcases List.mem_cons.mp hline with rfl | hrest
      · simp [isLineEnd_return, isLineEnd_newline]
      · exact ih hrest
  | case3 c cs hpair hend ih =>
      rcases List.mem_cons.mp hline with rfl | hrest
      · simp [hend]
      · exact ih hrest
  | case4 c cs hpair hend hnil ih =>
      rw [List.mem_singleton] at hline
      subst hline
      simp [hend]
  | case5 c cs hpair hend first rest hcons ih =>
      rcases List.mem_cons.mp hline with rfl | hrest
      · simpa [hend] using ih (hcons ▸ List.mem_cons_self)
      · exact ih (hcons ▸ List.mem_cons_of_mem _ hrest)

/-- Unifying line ends leaves the lines what they are, apart from their ends. -/
theorem linesWithEnds_unifyLineEnds
    (t : Text) :
    linesWithEnds (unifyLineEnds t) = (linesWithEnds t).map unifyLineEnds := by
  fun_induction linesWithEnds t with
  | case1 =>
      rfl
  | case2 cs ih =>
      simp [unifyLineEnds, linesWithEnds, isLineEnd_newline, ih]
  | case3 c cs hpair hend ih =>
      rw [unifyLineEnds]
      · by_cases hc : c = '\r'
        · simp [hc, linesWithEnds, isLineEnd_newline, ih, unifyLineEnds]
        · simp [hc, linesWithEnds, hend, ih, unifyLineEnds]
      · exact hpair
  | case4 c cs hpair hend hnil ih =>
      have hreturn : c ≠ '\r' := by
        rintro rfl
        exact hend isLineEnd_return
      rw [linesWithEnds_eq_nil_iff] at hnil
      subst hnil
      simp [unifyLineEnds, linesWithEnds, hend, hreturn]
  | case5 c cs hpair hend line rest hcons ih =>
      have hreturn : c ≠ '\r' := by
        rintro rfl
        exact hend isLineEnd_return
      rw [hcons] at ih
      simp [unifyLineEnds, linesWithEnds, hend, hreturn, ih]

/-- No carriage return is left when line ends are unified. -/
theorem return_notMem_unifyLineEnds
    (t : Text) :
    '\r' ∉ unifyLineEnds t := by
  fun_induction unifyLineEnds t with
  | case1 =>
      simp
  | case2 cs ih =>
      simp [ih]
  | case3 c cs hpair ih =>
      by_cases hc : c = '\r'
      · simp [hc, ih]
      · simp [hc, Ne.symm hc, ih]

theorem withoutEnd_unifyLineEnds
    (t : Text) :
    withoutEnd (unifyLineEnds t) = withoutEnd t := by
  fun_induction unifyLineEnds t with
  | case1 =>
      rfl
  | case2 cs ih =>
      simp [withoutEnd, isLineEnd_return, isLineEnd_newline]
  | case3 c cs hpair ih =>
      by_cases hc : c = '\r'
      · simp [hc, withoutEnd, isLineEnd_return, isLineEnd_newline]
      · simp only [withoutEnd] at ih ⊢
        rw [if_neg hc, List.takeWhile_cons, List.takeWhile_cons, ih]

theorem lines_eq_nil_iff
    {t : Text} :
    lines t = [] ↔ t = [] := by
  rw [lines_eq_map_withoutEnd, List.map_eq_nil_iff, linesWithEnds_eq_nil_iff]

/-- A line feed at the end of a text ends its last line or makes an empty one. -/
theorem lines_concat_newline
    (t : Text) :
    lines (t ++ ['\n']) = lines t ∨ lines (t ++ ['\n']) = lines t ++ [[]] := by
  fun_induction lines t with
  | case1 =>
      exact Or.inr (lines_cons_newline [])
  | case2 cs ih =>
      simpa [lines] using ih
  | case3 c cs hpair hend ih =>
      by_cases hreturn : c = '\r' ∧ cs = []
      · obtain ⟨rfl, rfl⟩ := hreturn
        exact Or.inl rfl
      · rw [List.cons_append, lines]
        · simpa [hend] using ih
        · rintro ds rfl hds
          cases cs with
          | nil =>
              exact hreturn ⟨rfl, rfl⟩
          | cons d cs =>
              cases hds
              exact hpair cs rfl rfl
  | case4 c cs hpair hend hnil ih =>
      rw [lines_eq_nil_iff] at hnil
      subst hnil
      have hline : ∀ d ∈ [c], isLineEnd d = false := by
        simpa using hend
      exact Or.inl (lines_append_newline [] hline)
  | case5 c cs hpair hend first rest hcons ih =>
      have hline : isLineEnd c = false := by
        simpa using hend
      rw [hcons] at ih
      rcases ih with hsame | hmore
      · exact Or.inl (lines_cons_of_not_lineEnd hline hsame)
      · exact Or.inr (lines_cons_of_not_lineEnd hline hmore)

section Cuts

/-- What ends a line: one character, or a carriage return with a line feed after it. -/
inductive IsEnd : Text → Prop
  /-- One character. -/
  | single (c : Char) (hc : isLineEnd c = true) : IsEnd [c]
  /-- A carriage return and a line feed. -/
  | pair : IsEnd ['\r', '\n']

/-- A text cut into its lines, each with its end.  Only the last line may have none, and a carriage return is
not cut off from a line feed after it. -/
inductive IsCut : Text → List Text → Prop
  /-- The empty text has no lines. -/
  | nil : IsCut [] []
  /-- A last line without an end. -/
  | last (line : Text) (hne : line ≠ []) (hline : ∀ c ∈ line, isLineEnd c = false) : IsCut line [line]
  /-- A line with its end in front of the others. -/
  | cons (line ends : Text) {rest : Text} {lines : List Text}
      (hline : ∀ c ∈ line, isLineEnd c = false)
      (hends : IsEnd ends)
      (hpair : ends = ['\r'] → rest.head? ≠ some '\n')
      (hrest : IsCut rest lines) :
      IsCut (line ++ ends ++ rest) ((line ++ ends) :: lines)

/-- The last character of an end ends a line. -/
theorem IsEnd.exists_concat
    {ends : Text}
    (h : IsEnd ends) :
    ∃ front c, ends = front ++ [c] ∧ isLineEnd c = true := by
  cases h with
  | single c hc =>
      exact ⟨[], c, rfl, hc⟩
  | pair =>
      exact ⟨['\r'], '\n', rfl, isLineEnd_newline⟩

theorem linesWithEnds_cons_of_not_lineEnd
    {c : Char} {t line : Text} {rest : List Text}
    (hc : isLineEnd c = false)
    (h : linesWithEnds t = line :: rest) :
    linesWithEnds (c :: t) = (c :: line) :: rest := by
  have hreturn : c ≠ '\r' := by
    rintro rfl
    rw [isLineEnd_return] at hc
    cases hc
  rw [linesWithEnds]
  · simp [hc, h]
  · intro cs hcr
    exact absurd hcr hreturn

/-- An end at the beginning of a text is a line. -/
theorem linesWithEnds_append_of_isEnd
    {ends : Text} (rest : Text)
    (hends : IsEnd ends)
    (hpair : ends = ['\r'] → rest.head? ≠ some '\n') :
    linesWithEnds (ends ++ rest) = ends :: linesWithEnds rest := by
  cases hends with
  | pair =>
      rfl
  | single c hc =>
      rw [List.singleton_append, linesWithEnds]
      · simp [hc]
      · rintro cs rfl rfl
        exact hpair rfl rfl

/-- The lines of a text with their ends are a cut. -/
theorem isCut_linesWithEnds
    (t : Text) :
    IsCut t (linesWithEnds t) := by
  fun_induction linesWithEnds t with
  | case1 =>
      exact .nil
  | case2 cs ih =>
      exact .cons [] ['\r', '\n'] (by simp) .pair (by simp) ih
  | case3 c cs hpair hend ih =>
      refine .cons [] [c] (by simp) (.single c hend) ?_ ih
      intro hc hhead
      cases cs with
      | nil =>
          cases hhead
      | cons d cs =>
          exact hpair cs (List.singleton_inj.mp hc) (by rw [Option.some.inj hhead])
  | case4 c cs hpair hend hnil ih =>
      rw [linesWithEnds_eq_nil_iff] at hnil
      subst hnil
      exact .last [c] (by simp) (by simpa using hend)
  | case5 c cs hpair hend line rest hcons ih =>
      have hc : isLineEnd c = false := by
        simpa using hend
      rw [hcons] at ih
      cases ih with
      | last _ hne hline =>
          exact .last (c :: cs) (by simp) (List.forall_mem_cons.mpr ⟨hc, hline⟩)
      | cons line ends hline hends hpair' hrest =>
          exact .cons (c :: line) ends (List.forall_mem_cons.mpr ⟨hc, hline⟩) hends hpair' hrest

/-- There is no other cut. -/
theorem IsCut.eq_linesWithEnds
    {t : Text} {lines : List Text}
    (h : IsCut t lines) :
    lines = linesWithEnds t := by
  induction h with
  | nil =>
      rfl
  | last line hne hline =>
      induction line with
      | nil =>
          exact absurd rfl hne
      | cons c line ih =>
          rw [List.forall_mem_cons] at hline
          cases line with
          | nil =>
              simp [linesWithEnds, hline.1]
          | cons d line =>
              exact (linesWithEnds_cons_of_not_lineEnd hline.1 (ih (by simp) hline.2).symm).symm
  | @cons line ends rest lines hline hends hpair hrest ih =>
      subst ih
      induction line with
      | nil =>
          exact (linesWithEnds_append_of_isEnd rest hends hpair).symm
      | cons c line ih =>
          rw [List.forall_mem_cons] at hline
          exact (linesWithEnds_cons_of_not_lineEnd hline.1 (ih hline.2).symm).symm

end Cuts

end Text
end Literate
