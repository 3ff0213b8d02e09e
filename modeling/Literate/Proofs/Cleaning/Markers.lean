import Literate.Cleaning.Basic
import Literate.Proofs.Reference
import Literate.Proofs.Text.Lines
import Mathlib.Data.List.Infix

/-!
# Marker lines

A line is a marker when it holds a mark: a file link, with a description or
without one, or a reference.  Neither kind of mark ends with the end of a line, so
that it does not matter whether a line is looked at with its end or without it.

**Cleaning.**  Cleaning works line by line.  It takes a text apart wherever a line
ends with a line feed (`clean_append`, `markerCount_append`).

**Main statements.**
* `isMarker_iff`: a marker is a line that holds a mark.
* `isMarker_withoutEnd`: the end of a line does not matter.
* `clean_eq_self`: a text without marker lines is clean.
-/

namespace Literate

namespace Text

theorem dropPrefix?_eq_some_iff
    {expected t rest : Text} :
    dropPrefix? expected t = some rest ↔ t = expected ++ rest := by
  induction expected generalizing t with
  | nil =>
      simp [dropPrefix?, eq_comm]
  | cons e expected ih =>
      cases t with
      | nil =>
          simp [dropPrefix?]
      | cons c t =>
          by_cases hc : e = c
          · simp [dropPrefix?, hc, ih]
          · simp [dropPrefix?, hc, Ne.symm hc]

/-- A part whose beginning lacks a certain character begins before the character or lies behind it. -/
theorem isPart_of_start
    {start m u v : Text} {c : Char}
    (hstart : start <+: m)
    (hc : c ∉ start)
    (h : m <:+: u ++ c :: v) :
    start <:+: u ∨ m <:+: v := by
  obtain ⟨tail, rfl⟩ := hstart
  obtain ⟨before, after, hsplit⟩ := h
  rw [← List.append_assoc, List.append_assoc _ tail] at hsplit
  rcases List.append_eq_append_iff.mp hsplit with ⟨between, hu, -⟩ | ⟨between, hbefore, hafter⟩
  · exact Or.inl ⟨before, between, hu.symm⟩
  · cases between with
    | nil =>
        exact Or.inl ⟨before, [], by simpa using hbefore⟩
    | cons d between =>
        obtain ⟨rfl, rfl⟩ := List.cons.inj hafter
        rcases List.append_eq_append_iff.mp hbefore with ⟨first, -, hm⟩ | ⟨first, -, hm⟩
        · exact absurd (hm ▸ List.mem_append_right first List.mem_cons_self) hc
        · cases first with
          | nil =>
              obtain rfl : c :: between = start := hm
              exact absurd List.mem_cons_self hc
          | cons d first =>
              obtain ⟨rfl, rfl⟩ := List.cons.inj hm
              exact Or.inr ⟨first, after, by simp⟩

end Text

namespace Reference

/-- A text holds a reference when a name between its marks stands in it. -/
theorem occursIn_iff
    {t : Text} :
    occursIn t = true ↔
      ∃ name, (∀ c ∈ name, isNameChar c = true) ∧ isName name = true ∧
        (Piece.reference name).text <:+: t := by
  induction t with
  | nil =>
      simp [occursIn, Piece.text]
  | cons c cs ih =>
      have hstart : (parse? (c :: cs)).isSome = true ↔
          ∃ name, (∀ d ∈ name, isNameChar d = true) ∧ isName name = true ∧
            (Piece.reference name).text <+: c :: cs := by
        constructor
        · intro h
          obtain ⟨⟨name, after⟩, hparse⟩ := Option.isSome_iff_exists.mp h
          obtain ⟨hsplit, hchars, hname⟩ := parse?_eq_some_iff.mp hparse
          exact ⟨name, hchars, hname, after, by simp [Piece.text, hsplit]⟩
        · rintro ⟨name, hchars, hname, after, hsplit⟩
          have hwhole : c :: cs = '<' :: '<' :: (name ++ '>' :: '>' :: after) := by
            simp [← hsplit, Piece.text]
          rw [parse?_eq_some_iff.mpr ⟨hwhole, hchars, hname⟩]
          rfl
      rw [occursIn, Bool.or_eq_true, hstart, ih]
      simp only [List.infix_cons_iff, and_or_left, exists_or]

end Reference

namespace Cleaning

/-- A file link: a target, and a description in brackets or none. -/
inductive IsLink : Text → Prop
  /-- A link without a description. -/
  | plain (target : Text)
      (hne : target ≠ [])
      (htarget : ∀ c ∈ target, isLinkChar c = true) :
      IsLink ("[[file:" ++ target ++ "]]")
  /-- A link with a description. -/
  | described (target description : Text)
      (hne : target ≠ [])
      (htarget : ∀ c ∈ target, isLinkChar c = true)
      (hdescription : ∀ c ∈ description, isLinkChar c = true) :
      IsLink ("[[file:" ++ target ++ "][" ++ description ++ "]]")

/-- What marks a line: a file link or a reference. -/
inductive IsMark : Text → Prop
  /-- A file link. -/
  | link {t : Text} (h : IsLink t) : IsMark t
  /-- A reference. -/
  | reference (name : Text)
      (hchars : ∀ c ∈ name, Reference.isNameChar c = true)
      (hname : Reference.isName name = true) :
      IsMark (Piece.reference name).text

section Marks

theorem takeWhile_isLinkChar
    {t : Text} (rest : Text)
    (h : ∀ c ∈ t, isLinkChar c = true) :
    (t ++ ']' :: rest).takeWhile isLinkChar = t ∧
      (t ++ ']' :: rest).dropWhile isLinkChar = ']' :: rest := by
  have hbracket : isLinkChar ']' = false := by
    decide
  rw [List.takeWhile_append_of_pos h, List.dropWhile_append_of_pos h]
  simp [hbracket]

theorem startsLink_iff
    {t : Text} :
    startsLink t = true ↔ ∃ link, IsLink link ∧ link <+: t := by
  constructor
  · intro h
    unfold startsLink at h
    split at h
    · cases h
    · rename_i rest hrest
      rw [Text.dropPrefix?_eq_some_iff] at hrest
      have hsplit := List.takeWhile_append_dropWhile (p := isLinkChar) (l := rest)
      have htarget : ∀ c ∈ rest.takeWhile isLinkChar, isLinkChar c = true :=
        fun c hc => List.mem_takeWhile_imp hc
      obtain ⟨hne, hend⟩ := Bool.and_eq_true_iff.mp h
      simp only [Bool.not_eq_true', List.isEmpty_eq_false_iff] at hne
      generalize rest.takeWhile isLinkChar = target at hsplit htarget hne
      split at hend
      · rename_i after hafter
        rw [hafter] at hsplit
        unfold endsLink at hend
        split at hend
        · rename_i last
          exact ⟨_, IsLink.plain target hne htarget, last, by simp [hrest, ← hsplit]⟩
        · rename_i inside
          obtain ⟨last, hlast⟩ := Option.isSome_iff_exists.mp hend
          rw [Text.dropPrefix?_eq_some_iff] at hlast
          have hinside := List.takeWhile_append_dropWhile (p := isLinkChar) (l := inside)
          have hdescription : ∀ c ∈ inside.takeWhile isLinkChar, isLinkChar c = true :=
            fun c hc => List.mem_takeWhile_imp hc
          rw [hlast] at hinside
          generalize inside.takeWhile isLinkChar = description at hinside hdescription
          exact ⟨_, IsLink.described target description hne htarget hdescription, last,
            by simp [hrest, ← hsplit, ← hinside]⟩
        · cases hend
      · cases hend
  · rintro ⟨link, hlink, after, rfl⟩
    cases hlink with
    | plain target hne htarget =>
        have hstart : Text.dropPrefix? "[[file:" ("[[file:" ++ target ++ "]]" ++ after) =
            some (target ++ ']' :: (']' :: after)) := by
          rw [Text.dropPrefix?_eq_some_iff]
          simp
        obtain ⟨htake, hdrop⟩ := takeWhile_isLinkChar (']' :: after) htarget
        unfold startsLink
        rw [hstart]
        dsimp only
        rw [htake, hdrop]
        simp [hne, endsLink]
    | described target description hne htarget hdescription =>
        have hstart : Text.dropPrefix? "[[file:"
            ("[[file:" ++ target ++ "][" ++ description ++ "]]" ++ after) =
              some (target ++ ']' :: ('[' :: (description ++ ']' :: (']' :: after)))) := by
          rw [Text.dropPrefix?_eq_some_iff]
          simp
        obtain ⟨htake, hdrop⟩ :=
          takeWhile_isLinkChar ('[' :: (description ++ ']' :: (']' :: after))) htarget
        obtain ⟨-, hlast⟩ := takeWhile_isLinkChar (']' :: after) hdescription
        unfold startsLink
        rw [hstart]
        dsimp only
        rw [htake, hdrop]
        simp [hne, endsLink, hlast, Text.dropPrefix?]

theorem hasLink_iff
    {t : Text} :
    hasLink t = true ↔ ∃ link, IsLink link ∧ link <:+: t := by
  induction t with
  | nil =>
      refine iff_of_false (by simp [hasLink]) ?_
      rintro ⟨link, hlink, hinfix⟩
      rw [List.infix_nil] at hinfix
      cases hlink <;> simp at hinfix
  | cons c cs ih =>
      rw [hasLink, Bool.or_eq_true, startsLink_iff, ih]
      simp only [List.infix_cons_iff, and_or_left, exists_or]

/-- A marker is a line that holds a mark. -/
theorem isMarker_iff
    {line : Text} :
    isMarker line = true ↔ ∃ mark, IsMark mark ∧ mark <:+: line := by
  rw [isMarker, Bool.or_eq_true, hasLink_iff, Reference.occursIn_iff]
  constructor
  · rintro (⟨link, hlink, hinfix⟩ | ⟨name, hchars, hname, hinfix⟩)
    · exact ⟨link, .link hlink, hinfix⟩
    · exact ⟨_, .reference name hchars hname, hinfix⟩
  · rintro ⟨mark, hmark, hinfix⟩
    cases hmark with
    | link hlink =>
        exact Or.inl ⟨mark, hlink, hinfix⟩
    | reference name hchars hname =>
        exact Or.inr ⟨name, hchars, hname, hinfix⟩

/-- A mark does not end with the end of a line. -/
theorem IsMark.exists_concat
    {mark : Text}
    (h : IsMark mark) :
    ∃ front last, mark = front ++ [last] ∧ Text.isLineEnd last = false := by
  cases h with
  | link hlink =>
      cases hlink with
      | plain target hne htarget =>
          exact ⟨"[[file:" ++ target ++ "]", ']', by simp, by decide⟩
      | described target description hne htarget hdescription =>
          exact ⟨"[[file:" ++ target ++ "][" ++ description ++ "]", ']', by simp, by decide⟩
  | reference name hchars hname =>
      exact ⟨'<' :: '<' :: (name ++ ['>']), '>', by simp [Piece.text], by decide⟩

/-- A mark that stands in a line with its end stands in the line. -/
theorem IsMark.infix_of_append
    {mark line ends : Text}
    (hmark : IsMark mark)
    (hends : ∀ c ∈ ends, Text.isLineEnd c = true)
    (h : mark <:+: line ++ ends) :
    mark <:+: line := by
  obtain ⟨before, after, hsplit⟩ := h
  obtain ⟨front, last, rfl, hlast⟩ := hmark.exists_concat
  rcases List.append_eq_append_iff.mp hsplit with ⟨between, hline, -⟩ | ⟨between, hbefore, hends'⟩
  · exact ⟨before, between, hline.symm⟩
  · -- the mark would reach into the end of the line with its last character
    rcases List.eq_nil_or_concat between with rfl | ⟨start, c, rfl⟩
    · exact ⟨before, [], by simpa using hbefore⟩
    · exfalso
      have hc : last = c := by
        have hlasts := congrArg List.getLast? hbefore
        simpa using hlasts
      have hmem : c ∈ ends := by
        rw [hends']
        simp
      rw [hc, hends c hmem] at hlast
      cases hlast

theorem isMarker_append_end
    (line : Text) {ends : Text}
    (h : ∀ c ∈ ends, Text.isLineEnd c = true) :
    isMarker (line ++ ends) = isMarker line := by
  rw [Bool.eq_iff_iff, isMarker_iff, isMarker_iff]
  constructor
  · rintro ⟨mark, hmark, hinfix⟩
    exact ⟨mark, hmark, hmark.infix_of_append h hinfix⟩
  · rintro ⟨mark, hmark, hinfix⟩
    exact ⟨mark, hmark, hinfix.trans (List.prefix_append line ends).isInfix⟩

/-- Whether a line is a marker does not depend on its end. -/
theorem isMarker_withoutEnd
    {t line : Text}
    (h : line ∈ Text.linesWithEnds t) :
    isMarker line = isMarker (Text.withoutEnd line) := by
  have hsplit : Text.withoutEnd line ++ line.dropWhile (fun c => !Text.isLineEnd c) = line :=
    List.takeWhile_append_dropWhile
  rw [← isMarker_append_end (Text.withoutEnd line) (Text.isLineEnd_of_mem_end h), hsplit]

end Marks

section Texts

variable {t : Text}

/-- After a line feed cleaning begins anew. -/
theorem clean_append
    (u : Text)
    (h : ∀ c ∈ t.getLast?, c = '\n') :
    clean (t ++ u) = clean t ++ clean u := by
  rw [clean, Text.linesWithEnds_append u h, List.filter_append, List.flatten_append]
  rfl

theorem markerCount_append
    (u : Text)
    (h : ∀ c ∈ t.getLast?, c = '\n') :
    markerCount (t ++ u) = markerCount t + markerCount u := by
  rw [markerCount, Text.linesWithEnds_append u h, List.filter_append, List.length_append]
  rfl

/-- A marker line is dropped and counted. -/
theorem clean_marker
    {line : Text} (u : Text)
    (hline : ∀ c ∈ line, Text.isLineEnd c = false)
    (hmarker : isMarker line = true) :
    clean (line ++ "\n" ++ u) = clean u ∧ markerCount (line ++ "\n" ++ u) = 1 + markerCount u := by
  have hlines := Text.linesWithEnds_line hline
  have hwhole : isMarker (line ++ ['\n']) = true := by
    rw [isMarker_append_end line (by simp [Text.isLineEnd_newline]), hmarker]
  constructor
  · rw [clean_append u (by simp)]
    change ((Text.linesWithEnds (line ++ ['\n'])).filter _).flatten ++ clean u = clean u
    rw [hlines]
    simp [hwhole]
  · rw [markerCount_append u (by simp)]
    change ((Text.linesWithEnds (line ++ ['\n'])).filter _).length + markerCount u = _
    rw [hlines]
    simp [hwhole]

/-- No line of the text is a marker. -/
def Unmarked (t : Text) : Prop :=
  ∀ line ∈ Text.lines t, isMarker line = false

instance instDecidableUnmarked (t : Text) : Decidable (Unmarked t) :=
  List.decidableBAll (fun line => isMarker line = false) (Text.lines t)

theorem isMarker_of_unmarked
    (h : Unmarked t) :
    ∀ line ∈ Text.linesWithEnds t, isMarker line = false := by
  intro line hline
  rw [isMarker_withoutEnd hline]
  apply h
  rw [Text.lines_eq_map_withoutEnd]
  exact List.mem_map_of_mem hline

/-- Without marker lines there is nothing to drop. -/
theorem clean_of_markerCount
    (h : markerCount t = 0) :
    clean t = t := by
  rw [markerCount, List.length_eq_zero_iff, List.filter_eq_nil_iff] at h
  have hall : (Text.linesWithEnds t).filter (fun line => !isMarker line) = Text.linesWithEnds t := by
    rw [List.filter_eq_self]
    intro line hline
    simpa using h line hline
  rw [clean, hall, Text.flatten_linesWithEnds]

/-- A text without marker lines is clean. -/
theorem clean_eq_self
    (h : Unmarked t) :
    clean t = t ∧ markerCount t = 0 := by
  have hcount : markerCount t = 0 := by
    rw [markerCount, List.length_eq_zero_iff, List.filter_eq_nil_iff]
    intro line hline
    rw [isMarker_of_unmarked h line hline]
    exact Bool.false_ne_true
  exact ⟨clean_of_markerCount hcount, hcount⟩

/-- A line feed at the end makes no marker line. -/
theorem Unmarked.concat_newline
    (h : Unmarked t) :
    Unmarked (t ++ "\n") := by
  have hempty : isMarker [] = false := by
    decide
  intro line hline
  change line ∈ Text.lines (t ++ ['\n']) at hline
  rcases Text.lines_concat_newline t with hsame | hmore
  · rw [hsame] at hline
    exact h line hline
  · rw [hmore] at hline
    rcases List.mem_append.mp hline with hline | hline
    · exact h line hline
    · rw [List.mem_singleton] at hline
      rw [hline, hempty]

end Texts

end Cleaning
end Literate
