import Literate.Proofs.Text.Splitting
import Literate.Reference
import Mathlib.Data.List.TakeWhile
import Mathlib.Tactic.ByContra

/-!
# What the pieces of a text are

**Recognition.**  `parse?_eq_some_iff` says when a text begins with a reference;
everything else about `parse?` follows from it.

**Main statements.**
* `text_pieces`: nothing of a text is lost in its pieces.
* `names_eq_flatMap_lines`: the references of a text are those of its lines,
  since no reference goes beyond the end of a line.
* `names_eq_nil_of_includes`: a text without `<<` has no references.
-/

namespace Literate

/-- The text that a piece was cut from. -/
def Piece.text : Piece → Text
  | .literal t => t
  | .reference name => '<' :: '<' :: (name ++ ['>', '>'])

namespace Reference

@[simp] theorem filterMap_literal
    (t : Text) (ps : List Piece) :
    (Piece.literal t :: ps).filterMap Piece.name? = ps.filterMap Piece.name? := by
  rfl

@[simp] theorem filterMap_reference
    (name : Text) (ps : List Piece) :
    (Piece.reference name :: ps).filterMap Piece.name? =
      name :: ps.filterMap Piece.name? := by
  rfl

theorem not_isNameChar_gt : isNameChar '>' = false := by
  decide

/-- A reference is a name between its marks. -/
theorem parse?_eq_some_iff
    {t name after : Text} :
    parse? t = some (name, after)
      ↔
    t = '<' :: '<' :: (name ++ '>' :: '>' :: after) ∧
      (∀ c ∈ name, isNameChar c = true) ∧
      isName name = true := by
  constructor
  · intro h
    unfold parse? at h
    split at h
    · rename_i rest
      split at h
      · rename_i tail htail
        simp only [Option.ite_none_right_eq_some, Option.some.injEq, Prod.mk.injEq] at h
        obtain ⟨hname, rfl, rfl⟩ := h
        refine ⟨?_, ?_, hname⟩
        · rw [← htail, List.takeWhile_append_dropWhile]
        · intro c hc
          exact List.mem_takeWhile_imp hc
      · simp at h
    · simp at h
  · rintro ⟨rfl, hchars, hname⟩
    have hdrop :
        (name ++ '>' :: '>' :: after).dropWhile isNameChar = '>' :: '>' :: after := by
      rw [List.dropWhile_append_of_pos hchars]
      simp [not_isNameChar_gt]
    have htake :
        (name ++ '>' :: '>' :: after).takeWhile isNameChar = name := by
      rw [List.takeWhile_append_of_pos hchars]
      simp [not_isNameChar_gt]
    simp [parse?, hdrop, htake, hname]

/-- What follows a reference does not matter for it. -/
theorem parse?_append
    {t name after : Text} (u : Text)
    (h : parse? t = some (name, after)) :
    parse? (t ++ u) = some (name, after ++ u) := by
  obtain ⟨rfl, hchars, hname⟩ := parse?_eq_some_iff.mp h
  exact parse?_eq_some_iff.mpr ⟨by simp, hchars, hname⟩

theorem not_mem_newline_of_isName
    {name : Text}
    (h : isName name = true) :
    '\n' ∉ name := by
  cases name with
  | nil =>
      simp
  | cons c cs =>
      simp only [isName, Bool.and_eq_true, Bool.not_eq_true'] at h
      obtain ⟨⟨hfirst, -⟩, hrest⟩ := h
      have hc : c ≠ '\n' := by
        rintro rfl
        simp [show Text.isBlank '\n' = true from by decide] at hfirst
      simpa [Ne.symm hc] using hrest

theorem pieces_of_parse?
    {c : Char} {cs name after : Text}
    (h : parse? (c :: cs) = some (name, after)) :
    pieces (c :: cs) = .reference name :: pieces after := by
  rw [pieces]
  split
  · rename_i name' after' h'
    rw [h] at h'
    cases h'
    rfl
  · rename_i h'
    rw [h] at h'
    cases h'

theorem pieces_of_not_parse?
    {c : Char} {cs : Text}
    (h : parse? (c :: cs) = none) :
    pieces (c :: cs) = pushLiteral c (pieces cs) := by
  rw [pieces]
  split
  · rename_i name' after' h'
    rw [h] at h'
    cases h'
  · rfl

theorem filterMap_pushLiteral
    (c : Char) (ps : List Piece) :
    (pushLiteral c ps).filterMap Piece.name? = ps.filterMap Piece.name? := by
  cases ps with
  | nil =>
      simp [pushLiteral]
  | cons p ps =>
      cases p <;> simp [pushLiteral]

theorem flatMap_text_pushLiteral
    (c : Char) (ps : List Piece) :
    (pushLiteral c ps).flatMap Piece.text = c :: ps.flatMap Piece.text := by
  cases ps with
  | nil =>
      simp [pushLiteral, Piece.text]
  | cons p ps =>
      cases p <;> simp [pushLiteral, Piece.text]

theorem names_nil : names [] = [] := by
  simp [names, pieces]

theorem names_of_parse?
    {c : Char} {cs name after : Text}
    (h : parse? (c :: cs) = some (name, after)) :
    names (c :: cs) = name :: names after := by
  simp [names, pieces_of_parse? h]

theorem names_of_not_parse?
    {c : Char} {cs : Text}
    (h : parse? (c :: cs) = none) :
    names (c :: cs) = names cs := by
  simp [names, pieces_of_not_parse? h, filterMap_pushLiteral]

/-- Nothing is lost: the pieces make up the text. -/
theorem text_pieces
    (t : Text) :
    (pieces t).flatMap Piece.text = t := by
  fun_induction pieces t with
  | case1 =>
      rfl
  | case2 c cs name after h ih =>
      obtain ⟨hsplit, -⟩ := parse?_eq_some_iff.mp h
      simp [Piece.text, ih, hsplit]
  | case3 c cs h ih =>
      rw [flatMap_text_pushLiteral, ih]

/-- A text without an opening mark has no references. -/
theorem names_eq_nil_of_includes
    (t : Text)
    (h : Text.includes "<<" t = false) :
    names t = [] := by
  induction t with
  | nil =>
      exact names_nil
  | cons c cs ih =>
      simp only [Text.includes, Bool.or_eq_false_iff] at h
      have hnone : parse? (c :: cs) = none := by
        by_contra hsome
        obtain ⟨⟨name, after⟩, hparse⟩ := Option.ne_none_iff_exists'.mp hsome
        obtain ⟨hsplit, -⟩ := parse?_eq_some_iff.mp hparse
        rw [hsplit] at h
        simp [Text.dropPrefix?] at h
      rw [names_of_not_parse? hnone]
      exact ih h.2

/-- The references of a text are those of its lines. -/
theorem names_eq_flatMap_lines
    (t : Text) :
    names t = (Text.splitOn '\n' t).flatMap names := by
  fun_induction pieces t with
  | case1 =>
      simp [Text.splitOn, names_nil]
  | case2 c cs name after h ih =>
      obtain ⟨hsplit, hchars, hname⟩ := parse?_eq_some_iff.mp h
      obtain ⟨line, lines, rest, hlines, -⟩ := Text.exists_splitOn_eq '\n' after
      have hfree : '\n' ∉ '<' :: '<' :: (name ++ ['>', '>']) := by
        simp [not_mem_newline_of_isName hname]
      have hcut := Text.splitOn_append hfree hlines
      have hfirst :
          names ('<' :: '<' :: (name ++ ['>', '>']) ++ line) = name :: names line :=
        names_of_parse? (parse?_eq_some_iff.mpr ⟨by simp, hchars, hname⟩)
      have hwhole : c :: cs = ('<' :: '<' :: (name ++ ['>', '>'])) ++ after := by
        simp [hsplit]
      rw [names_of_parse? h, ih, hlines, hwhole, hcut]
      rw [List.flatMap_cons, List.flatMap_cons, hfirst, List.cons_append]
  | case3 c cs h ih =>
      rw [names_of_not_parse? h, ih]
      by_cases hc : c = '\n'
      · subst hc
        rw [Text.splitOn_cons_sep, List.flatMap_cons, names_nil, List.nil_append]
      · obtain ⟨line, lines, rest, hlines, happend⟩ := Text.exists_splitOn_eq '\n' cs
        have hnone : parse? (c :: line) = none := by
          by_contra hsome
          obtain ⟨⟨name, after⟩, hparse⟩ := Option.ne_none_iff_exists'.mp hsome
          have hlonger := parse?_append rest hparse
          rw [List.cons_append, ← happend, h] at hlonger
          cases hlonger
        rw [Text.splitOn_cons hc hlines, hlines, List.flatMap_cons, List.flatMap_cons,
          names_of_not_parse? hnone]

end Reference
end Literate
