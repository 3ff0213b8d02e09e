import Literate.Text.Blank
import Mathlib.Data.List.DropRight

/-!
# Trimming

Trimming takes the blanks away from both ends of a text and nothing else.

**Main statements.**
* `trim_eq_self_iff`: a text is trimmed when neither its first nor its last
  character is blank.
* `trim_blanks_append`, `trim_append_blanks`: blanks at the ends do not matter.
* `exists_trimRight_append`: what is cut off at the end is blank.
* `trimRight_append`: nothing is cut off before a character that is not blank.
* `trim_trim`: trimming twice is trimming once.
-/

namespace Literate
namespace Text

theorem isBlank_space :
    isBlank ' ' = true := by
  decide

theorem trimLeft_cons
    {c : Char} (t : Text)
    (h : isBlank c = false) :
    trimLeft (c :: t) = c :: t := by
  simp [trimLeft, h]

theorem trimLeft_blanks_append
    {blanks : Text} (t : Text)
    (h : ∀ c ∈ blanks, isBlank c = true) :
    trimLeft (blanks ++ t) = trimLeft t :=
  List.dropWhile_append_of_pos h

theorem trimLeft_append
    {t : Text} (u : Text)
    (h : ¬ ∀ c ∈ t, isBlank c = true) :
    trimLeft (t ++ u) = trimLeft t ++ u := by
  have hne : t.dropWhile isBlank ≠ [] := fun hnil => h (List.dropWhile_eq_nil_iff.mp hnil)
  rw [trimLeft, List.dropWhile_append, if_neg (by simpa using hne)]
  rfl

/-- Left trimming changes nothing exactly when the first character is not blank. -/
theorem trimLeft_eq_self_iff
    {t : Text} :
    trimLeft t = t ↔ ∀ c ∈ t.head?, isBlank c = false := by
  cases t with
  | nil =>
      simp [trimLeft]
  | cons c cs =>
      simp only [List.head?_cons, Option.mem_def, Option.some.injEq, forall_eq']
      constructor
      · intro h
        by_contra hblank
        rw [Bool.not_eq_false] at hblank
        have hle : (trimLeft cs).length ≤ cs.length :=
          (List.dropWhile_sublist isBlank).length_le
        have hlength := congrArg List.length h
        simp only [trimLeft, List.dropWhile_cons, hblank, if_true, List.length_cons] at hlength hle
        omega
      · exact trimLeft_cons cs

theorem trimRight_eq_rdropWhile
    (t : Text) :
    trimRight t = t.rdropWhile isBlank := by
  rfl

theorem trimRight_isPrefix
    (t : Text) :
    trimRight t <+: t :=
  List.rdropWhile_prefix isBlank t

/-- Right trimming changes nothing exactly when the last character is not blank. -/
theorem trimRight_eq_self_iff
    {t : Text} :
    trimRight t = t ↔ ∀ c ∈ t.getLast?, isBlank c = false := by
  rw [trimRight_eq_rdropWhile, List.rdropWhile_eq_self_iff]
  constructor
  · intro h c hc
    have hne : t ≠ [] := by
      rintro rfl
      simp at hc
    rw [List.getLast?_eq_some_getLast hne, Option.mem_some_iff] at hc
    rw [← hc]
    simpa using h hne
  · intro h hne
    simpa using h (t.getLast hne) (List.getLast?_eq_some_getLast hne)

/-- What right trimming cuts off is blank. -/
theorem exists_trimRight_append
    (t : Text) :
    ∃ blanks, (∀ c ∈ blanks, isBlank c = true) ∧ t = trimRight t ++ blanks := by
  refine ⟨t.rtakeWhile isBlank, ?_, ?_⟩
  · intro c hc
    exact List.mem_rtakeWhile_imp hc
  · exact List.rdropWhile_append_rtakeWhile.symm

theorem trimRight_append_blanks
    (t : Text) {blanks : Text}
    (h : ∀ c ∈ blanks, isBlank c = true) :
    trimRight (t ++ blanks) = trimRight t := by
  have hreverse : ∀ c ∈ blanks.reverse, isBlank c = true := by
    simpa using h
  rw [trimRight, List.reverse_append, List.dropWhile_append_of_pos hreverse]
  rfl

/-- Right trimming stops at a character that is not blank. -/
theorem trimRight_append
    {u : Text} (t : Text)
    (h : ∀ c ∈ u.getLast?, isBlank c = false) :
    trimRight (u ++ t) = u ++ trimRight t := by
  obtain ⟨blanks, hblanks, ht⟩ := exists_trimRight_append t
  have hlast : trimRight (u ++ trimRight t) = u ++ trimRight t := by
    rw [trimRight_eq_self_iff]
    intro c hc
    by_cases hnil : trimRight t = []
    · rw [hnil, List.append_nil] at hc
      exact h c hc
    · have hidem : trimRight (trimRight t) = trimRight t :=
        List.rdropWhile_idempotent isBlank t
      rw [List.getLast?_append_of_ne_nil _ hnil] at hc
      exact trimRight_eq_self_iff.mp hidem c hc
  calc
    trimRight (u ++ t) = trimRight ((u ++ trimRight t) ++ blanks) := by
      rw [List.append_assoc, ← ht]
    _ = trimRight (u ++ trimRight t) := trimRight_append_blanks _ hblanks
    _ = u ++ trimRight t := hlast

theorem trim_blanks_append
    {blanks : Text} (t : Text)
    (h : ∀ c ∈ blanks, isBlank c = true) :
    trim (blanks ++ t) = trim t := by
  rw [trim, trimLeft_blanks_append t h]
  rfl

theorem trim_space_cons
    (t : Text) :
    trim (' ' :: t) = trim t := by
  have hspace : ∀ c ∈ [' '], isBlank c = true := by
    simp [isBlank_space]
  exact trim_blanks_append t hspace

theorem trim_append_blanks
    (t : Text) {blanks : Text}
    (h : ∀ c ∈ blanks, isBlank c = true) :
    trim (t ++ blanks) = trim t := by
  by_cases hall : ∀ c ∈ t, isBlank c = true
  · have hleft : trimLeft t = [] := List.dropWhile_eq_nil_iff.mpr hall
    have hright : trimLeft blanks = [] := List.dropWhile_eq_nil_iff.mpr h
    rw [trim, trim, trimLeft_blanks_append blanks hall, hleft, hright]
  · rw [trim, trimLeft_append _ hall, trimRight_append_blanks _ h]
    rfl

/-- A trimmed text is a part of the text. -/
theorem trim_isPart
    (t : Text) :
    trim t <:+: t := by
  have hleft : trimLeft t <:+ t := List.dropWhile_suffix isBlank
  exact (trimRight_isPrefix (trimLeft t)).isInfix.trans hleft.isInfix

/-- A text is trimmed when neither its first nor its last character is blank. -/
theorem trim_eq_self_iff
    {t : Text} :
    trim t = t
      ↔
    (∀ c ∈ t.head?, isBlank c = false) ∧ ∀ c ∈ t.getLast?, isBlank c = false := by
  constructor
  · intro h
    have hleft : trimLeft t = t := by
      have hsuffix : trimLeft t <:+ t := List.dropWhile_suffix isBlank
      have hlength := congrArg List.length h
      have hle : (trim t).length ≤ (trimLeft t).length :=
        (trimRight_isPrefix (trimLeft t)).length_le
      have hle' := hsuffix.length_le
      exact hsuffix.eq_of_length (by omega)
    refine ⟨trimLeft_eq_self_iff.mp hleft, ?_⟩
    rw [trim, hleft] at h
    exact trimRight_eq_self_iff.mp h
  · rintro ⟨hfirst, hlast⟩
    rw [trim, trimLeft_eq_self_iff.mpr hfirst, trimRight_eq_self_iff.mpr hlast]

/-- Trimming twice is trimming once. -/
theorem trim_trim
    (t : Text) :
    trim (trim t) = trim t := by
  have hleft : trimLeft (trimLeft t) = trimLeft t := List.dropWhile_idempotent isBlank t
  have hfirst : trimLeft (trim t) = trim t := by
    rw [trimLeft_eq_self_iff] at hleft ⊢
    intro c hc
    obtain ⟨blanks, hblanks⟩ := trimRight_isPrefix (trimLeft t)
    apply hleft
    rw [← hblanks]
    exact List.mem_head?_append_of_mem_head? hc
  have hlast : trimRight (trimRight (trimLeft t)) = trimRight (trimLeft t) :=
    List.rdropWhile_idempotent isBlank (trimLeft t)
  rw [trim, hfirst]
  exact hlast

end Text
end Literate
