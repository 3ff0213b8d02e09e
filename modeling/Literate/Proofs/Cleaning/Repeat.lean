import Literate.Proofs.Cleaning.Markers

/-!
# Cleaning again

Cleaning drops lines and keeps the others with their ends.  Where a line that ended with
a carriage return comes to stand before an empty line that ended with a line feed, the two
become one line, so that what is left has other lines than those that were kept.  No mark
can arise from this: a mark in a line has no line ends inside, and any two lines
that were kept are held apart by the end of the first.

**Main statements.**
* `exists_isPart_of_filter`: a part without line ends of some lines of a text, put
  together, is a part of one of them.
* `markerCount_clean`: cleaning leaves no marker lines.
* `clean_is_idempotent`: what cleaning keeps, what it counts, and that it does so once.
-/

namespace Literate
namespace Cleaning

section Repeat

variable {t : Text} {lines : List Text}

/-- A line holds a mark. -/
def HoldsMark (line : Text) : Prop :=
  ∃ mark, IsMark mark ∧ mark <:+: line

instance instDecidableHoldsMark (line : Text) : Decidable (HoldsMark line) :=
  decidable_of_iff _ isMarker_iff

/-- A part without line ends of some lines of a text, put together, is a part of one of them. -/
theorem exists_isPart_of_filter
    {m : Text} (keep : Text → Bool)
    (hcut : Text.IsCut t lines)
    (hne : m ≠ [])
    (hm : ∀ c ∈ m, Text.isLineEnd c = false)
    (h : m <:+: (lines.filter keep).flatten) :
    ∃ line ∈ lines.filter keep, m <:+: line := by
  induction hcut with
  | nil =>
      exact absurd (List.infix_nil.mp h) hne
  | last line hline hends =>
      cases hkeep : keep line with
      | false =>
          rw [List.filter_cons_of_neg (by simp [hkeep])] at h
          exact absurd (List.infix_nil.mp h) hne
      | true =>
          rw [List.filter_cons_of_pos hkeep] at h ⊢
          exact ⟨line, by simp, by simpa using h⟩
  | cons line ends hline hends hpair hrest ih =>
      cases hkeep : keep (line ++ ends) with
      | false =>
          rw [List.filter_cons_of_neg (by simp [hkeep])] at h ⊢
          exact ih h
      | true =>
          -- the end of the line keeps its characters apart from those of the lines behind it
          obtain ⟨front, c, rfl, hc⟩ := hends.exists_concat
          rw [List.filter_cons_of_pos hkeep] at h ⊢
          rw [List.flatten_cons, ← List.append_assoc, List.append_assoc _ [c], List.singleton_append] at h
          have hnot : c ∉ m := by
            intro hmem
            rw [hm c hmem] at hc
            cases hc
          rcases Text.isPart_of_start (List.prefix_refl m) hnot h with hfront | hbehind
          · refine ⟨_, List.mem_cons_self, hfront.trans ?_⟩
            rw [← List.append_assoc]
            exact (List.prefix_append _ _).isInfix
          · obtain ⟨other, hother, hpart⟩ := ih hbehind
            exact ⟨other, List.mem_cons_of_mem _ hother, hpart⟩

/-- Cleaning leaves no marker lines, although lines may have grown together. -/
theorem markerCount_clean
    (t : Text) :
    markerCount (clean t) = 0 := by
  rw [markerCount, List.length_eq_zero_iff, List.filter_eq_nil_iff]
  intro line hline hmarker
  rw [isMarker_withoutEnd hline, isMarker_iff] at hmarker
  obtain ⟨mark, hmark, hpart⟩ := hmarker
  have hends : ∀ c ∈ mark, Text.isLineEnd c = false := by
    intro c hc
    simpa using List.mem_takeWhile_imp (hpart.subset hc)
  have hne : mark ≠ [] := by
    obtain ⟨front, last, rfl, -⟩ := hmark.exists_concat
    simp
  have hclean : mark <:+: clean t := by
    refine hpart.trans ((List.takeWhile_prefix _).isInfix.trans ?_)
    rw [← Text.flatten_linesWithEnds (clean t)]
    exact List.infix_of_mem_flatten hline
  obtain ⟨kept, hkept, hholds⟩ :=
    exists_isPart_of_filter _ (Text.isCut_linesWithEnds t) hne hends hclean
  have hnot := (List.mem_filter.mp hkept).2
  rw [isMarker_iff.mpr ⟨mark, hmark, hholds⟩] at hnot
  cases hnot

/-- **Cleaning twice is cleaning once.**  A text has one cut into lines with their ends.  Cleaning puts together
those that hold no mark, in order, and counts the others; in what it leaves there is nothing more to drop. -/
theorem clean_is_idempotent
    (t : Text) :
    ∃ lines, (∀ others, Text.IsCut t others ↔ others = lines) ∧
      clean t = (lines.filter fun line => ¬ HoldsMark line).flatten ∧
      markerCount t = (lines.filter fun line => HoldsMark line).length ∧
      clean (clean t) = clean t ∧
      markerCount (clean t) = 0 := by
  have hsame : ∀ line : Text, isMarker line = decide (HoldsMark line) := by
    intro line
    rw [Bool.eq_iff_iff, isMarker_iff, decide_eq_true_iff, HoldsMark]
  refine ⟨Text.linesWithEnds t, fun others => ⟨Text.IsCut.eq_linesWithEnds, ?_⟩, ?_, ?_,
    clean_of_markerCount (markerCount_clean t), markerCount_clean t⟩
  · rintro rfl
    exact Text.isCut_linesWithEnds t
  · simp only [clean, hsame, decide_not]
  · rw [markerCount, List.filter_congr fun line _ => hsame line]

/-- A carriage return that is kept meets a line feed that is kept, so that two lines become one. -/
example :
    clean "a\r<<x>>\n\nb" = "a\r\nb" ∧
      Text.linesWithEnds "a\r<<x>>\n\nb" = ["a\r", "<<x>>\n", "\n", "b"] ∧
      Text.linesWithEnds "a\r\nb" = ["a\r\n", "b"] := by
  decide +kernel

end Repeat

end Cleaning
end Literate
