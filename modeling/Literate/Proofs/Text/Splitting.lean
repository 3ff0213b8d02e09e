import Literate.Text.Basic

/-!
# Splitting and joining

Cutting a text at a character and joining the pieces with that character are
inverse to each other, as long as no piece holds the character.

**Main statements.**
* `join_splitOn`: joining the pieces gives the text back.
* `mem_of_mem_splitOn`: the pieces hold no other characters.
* `splitOn_cons_sep`, `splitOn_cons`, `splitOn_append`, `splitOn_append_append`:
  the pieces after one or more characters have been put in front.
* `not_mem_of_mem_splitOn`: no piece holds the character.
* `join_append`: texts that are joined in two parts.
* `splitOn_join`: pieces that are joined are found again.
* `count_join`: how often the character stands in the joined text.
-/

namespace Literate
namespace Text

theorem splitOn_ne_nil
    (sep : Char) (t : Text) :
    splitOn sep t ≠ [] := by
  cases t with
  | nil =>
      simp [splitOn]
  | cons c cs =>
      unfold splitOn
      split
      · simp
      · split <;> simp

theorem splitOn_cons_sep
    (sep : Char) (t : Text) :
    splitOn sep (sep :: t) = [] :: splitOn sep t := by
  simp [splitOn]

theorem splitOn_cons
    {sep c : Char} {t piece : Text} {pieces : List Text}
    (hc : c ≠ sep)
    (h : splitOn sep t = piece :: pieces) :
    splitOn sep (c :: t) = (c :: piece) :: pieces := by
  simp [splitOn, hc, h]

/-- Text without the character goes to the front of the first piece. -/
theorem splitOn_append
    {sep : Char} {u t piece : Text} {pieces : List Text}
    (hu : sep ∉ u)
    (h : splitOn sep t = piece :: pieces) :
    splitOn sep (u ++ t) = (u ++ piece) :: pieces := by
  induction u with
  | nil =>
      exact h
  | cons c u ih =>
      have hc : c ≠ sep := by
        rintro rfl
        simp at hu
      have hrest : sep ∉ u := fun hmem => hu (List.mem_cons_of_mem c hmem)
      exact splitOn_cons hc (ih hrest)

theorem splitOn_of_not_mem
    {sep : Char} {t : Text}
    (h : sep ∉ t) :
    splitOn sep t = [t] := by
  have hsplit : splitOn sep (t ++ []) = [t ++ []] := splitOn_append h rfl
  rwa [List.append_nil] at hsplit

/-- Text goes to the end of the last piece as far as the first character that cuts it. -/
theorem splitOn_append_append
    {sep : Char} (u : Text) {t piece : Text} {pieces : List Text}
    (h : splitOn sep t = piece :: pieces) :
    splitOn sep (u ++ t) =
      (splitOn sep u).dropLast ++ ((splitOn sep u).getLastD [] ++ piece) :: pieces := by
  induction u with
  | nil =>
      exact h
  | cons c u ih =>
      obtain ⟨first, others, hu⟩ := List.exists_cons_of_ne_nil (splitOn_ne_nil sep u)
      rw [hu] at ih
      by_cases hc : c = sep
      · subst hc
        rw [List.cons_append, splitOn_cons_sep, splitOn_cons_sep, ih, hu]
        rfl
      · cases others with
        | nil =>
            rw [splitOn_cons hc hu]
            exact splitOn_cons hc ih
        | cons second others =>
            rw [splitOn_cons hc hu]
            exact splitOn_cons hc ih

/-- No piece holds the character. -/
theorem not_mem_of_mem_splitOn
    {sep : Char} {t piece : Text}
    (h : piece ∈ splitOn sep t) :
    sep ∉ piece := by
  induction t generalizing piece with
  | nil =>
      rw [List.mem_singleton.mp h]
      exact List.not_mem_nil
  | cons c t ih =>
      by_cases hc : c = sep
      · subst hc
        rw [splitOn_cons_sep] at h
        rcases List.mem_cons.mp h with rfl | hrest
        · exact List.not_mem_nil
        · exact ih hrest
      · obtain ⟨first, others, hsplit⟩ := List.exists_cons_of_ne_nil (splitOn_ne_nil sep t)
        rw [splitOn_cons hc hsplit] at h
        rw [hsplit] at ih
        rcases List.mem_cons.mp h with rfl | hrest
        · simp only [List.mem_cons, not_or]
          exact ⟨fun heq => hc heq.symm, ih List.mem_cons_self⟩
        · exact ih (List.mem_cons_of_mem first hrest)

/-- Every text has a first piece, which it begins with. -/
theorem exists_splitOn_eq
    (sep : Char) (t : Text) :
    ∃ piece pieces rest,
      splitOn sep t = piece :: pieces ∧ t = piece ++ rest := by
  induction t with
  | nil =>
      exact ⟨[], [], [], rfl, rfl⟩
  | cons c cs ih =>
      by_cases hc : c = sep
      · subst hc
        exact ⟨[], splitOn c cs, c :: cs, splitOn_cons_sep c cs, rfl⟩
      · obtain ⟨piece, pieces, rest, hsplit, happend⟩ := ih
        refine ⟨c :: piece, pieces, rest, splitOn_cons hc hsplit, ?_⟩
        rw [happend, List.cons_append]

theorem join_cons_of_ne_nil
    (sep t : Text) {rest : List Text}
    (h : rest ≠ []) :
    join sep (t :: rest) = t ++ sep ++ join sep rest := by
  cases rest with
  | nil =>
      exact absurd rfl h
  | cons u rest =>
      rfl

theorem join_cons_append
    (sep u t : Text) (rest : List Text) :
    join sep ((u ++ t) :: rest) = u ++ join sep (t :: rest) := by
  cases rest with
  | nil =>
      rfl
  | cons v rest =>
      simp [join]

/-- What is joined before the last texts is followed by the separator each time. -/
theorem join_append
    (sep : Text) (texts : List Text) {others : List Text}
    (h : others ≠ []) :
    join sep (texts ++ others) = texts.flatMap (· ++ sep) ++ join sep others := by
  induction texts with
  | nil =>
      rfl
  | cons first texts ih =>
      rw [List.cons_append, join_cons_of_ne_nil _ _ (by simp [h]), ih]
      simp

/-- Joining the pieces with the character gives the text back. -/
theorem join_splitOn
    (sep : Char) (t : Text) :
    join [sep] (splitOn sep t) = t := by
  induction t with
  | nil =>
      rfl
  | cons c cs ih =>
      by_cases hc : c = sep
      · subst hc
        rw [splitOn_cons_sep, join_cons_of_ne_nil _ _ (splitOn_ne_nil c cs), ih]
        rfl
      · obtain ⟨first, others, rest, hsplit, -⟩ := exists_splitOn_eq sep cs
        rw [splitOn_cons hc hsplit]
        rw [hsplit] at ih
        rw [← ih]
        exact join_cons_append [sep] [c] first others

theorem count_join
    (sep : Char) (pieces : List Text) :
    (join [sep] pieces).count sep = pieces.flatten.count sep + (pieces.length - 1) := by
  induction pieces with
  | nil =>
      rfl
  | cons piece pieces ih =>
      cases pieces with
      | nil =>
          simp [join]
      | cons next rest =>
          have hcount : (piece :: next :: rest).flatten.count sep =
              piece.count sep + (next :: rest).flatten.count sep := by
            rw [List.flatten_cons, List.count_append]
          rw [join_cons_of_ne_nil _ _ (List.cons_ne_nil next rest), List.count_append,
            List.count_append, ih, hcount, List.count_singleton_self]
          simp only [List.length_cons]
          omega

theorem mem_join
    (sep : Text) {piece : Text} {pieces : List Text} {c : Char}
    (hpiece : piece ∈ pieces)
    (hc : c ∈ piece) :
    c ∈ join sep pieces := by
  induction pieces with
  | nil =>
      cases hpiece
  | cons first rest ih =>
      cases rest with
      | nil =>
          rwa [List.mem_singleton.mp hpiece] at hc
      | cons next rest =>
          rw [join_cons_of_ne_nil _ _ (List.cons_ne_nil next rest)]
          rcases List.mem_cons.mp hpiece with rfl | hrest
          · exact List.mem_append_left _ (List.mem_append_left _ hc)
          · exact List.mem_append_right _ (ih hrest)

/-- Pieces that do not hold the character are found again in the joined text. -/
theorem splitOn_join
    {sep : Char} {pieces : List Text}
    (hne : pieces ≠ [])
    (h : ∀ piece ∈ pieces, sep ∉ piece) :
    splitOn sep (join [sep] pieces) = pieces := by
  induction pieces with
  | nil =>
      exact absurd rfl hne
  | cons piece rest ih =>
      obtain ⟨hpiece, hrest⟩ := List.forall_mem_cons.mp h
      cases rest with
      | nil =>
          exact splitOn_of_not_mem hpiece
      | cons next rest =>
          rw [join_cons_of_ne_nil _ _ (List.cons_ne_nil next rest), List.append_assoc, List.singleton_append,
            splitOn_append hpiece (splitOn_cons_sep sep _), ih (List.cons_ne_nil next rest) hrest,
            List.append_nil]

/-- The characters of the pieces are those of the text. -/
theorem mem_of_mem_splitOn
    {sep c : Char} {t piece : Text}
    (hpiece : piece ∈ splitOn sep t)
    (hc : c ∈ piece) :
    c ∈ t := by
  rw [← join_splitOn sep t]
  exact mem_join [sep] hpiece hc

end Text
end Literate
