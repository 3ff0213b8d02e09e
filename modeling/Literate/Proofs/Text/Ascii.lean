import Literate.Text.Blank
import Literate.Text.Case

/-!
# ASCII characters

The code points of the ASCII letters and digits, and what follows for the tables
of blanks and of lower-case forms.

**Main statements.**
* `isBlank_eq_false_of_toNat`: a visible ASCII character is not blank.
* `lower_eq_self`: ASCII text without capitals is its own lower case.
-/

namespace Literate
namespace Text

theorem toNat_of_isLower
    {c : Char}
    (h : c.isLower = true) :
    97 ≤ c.toNat ∧ c.toNat ≤ 122 := by
  obtain ⟨hlow, hhigh⟩ := Bool.and_eq_true_iff.mp h
  exact ⟨UInt32.le_iff_toNat_le.mp (of_decide_eq_true hlow),
    UInt32.le_iff_toNat_le.mp (of_decide_eq_true hhigh)⟩

theorem toNat_of_isUpper
    {c : Char}
    (h : c.isUpper = true) :
    65 ≤ c.toNat ∧ c.toNat ≤ 90 := by
  obtain ⟨hlow, hhigh⟩ := of_decide_eq_true h
  exact ⟨UInt32.le_iff_toNat_le.mp hlow, UInt32.le_iff_toNat_le.mp hhigh⟩

theorem toNat_of_isDigit
    {c : Char}
    (h : c.isDigit = true) :
    48 ≤ c.toNat ∧ c.toNat ≤ 57 := by
  simp only [Char.isDigit, Bool.and_eq_true, decide_eq_true_eq, ge_iff_le,
    UInt32.le_iff_toNat_le] at h
  exact h

theorem toNat_of_isAlpha
    {c : Char}
    (h : c.isAlpha = true) :
    65 ≤ c.toNat ∧ c.toNat ≤ 122 := by
  rcases Bool.or_eq_true _ _ ▸ h with hupper | hlower
  · have := toNat_of_isUpper hupper
    omega
  · have := toNat_of_isLower hlower
    omega

/-- A visible ASCII character is not blank. -/
theorem isBlank_eq_false_of_toNat
    {c : Char}
    (hlow : 32 < c.toNat)
    (hhigh : c.toNat < 127) :
    isBlank c = false := by
  simp only [isBlank, blankRanges, Ranges.mem]
  grind

theorem isBlank_eq_false_of_isAlpha
    {c : Char}
    (h : c.isAlpha = true) :
    isBlank c = false := by
  have hrange := toNat_of_isAlpha h
  exact isBlank_eq_false_of_toNat (by omega) (by omega)

theorem isAlpha_eq_false_of_isBlank
    {c : Char}
    (h : isBlank c = true) :
    c.isAlpha = false := by
  cases halpha : c.isAlpha with
  | false =>
      rfl
  | true =>
      rw [isBlank_eq_false_of_isAlpha halpha] at h
      cases h

/-- The table of lower-case forms holds no ASCII character but the capitals. -/
theorem shiftBy_lowerRuns
    {n : Nat}
    (hn : n < 128)
    (h : ¬ (65 ≤ n ∧ n ≤ 90)) :
    shiftBy n lowerRuns = n := by
  rw [lowerRuns, shiftBy]
  split
  · rfl
  · rw [if_neg (by omega), shiftBy, if_pos (by omega)]

theorem lowerChar_eq_self
    {c : Char} (before after : Text)
    (hn : c.toNat < 128)
    (h : ¬ (65 ≤ c.toNat ∧ c.toNat ≤ 90)) :
    lowerChar before c after = [c] := by
  have hsigma : c ≠ 'Σ' := by
    rintro rfl
    simp at hn
  have hdotted : c ≠ 'İ' := by
    rintro rfl
    simp at hn
  rw [lowerChar, if_neg hsigma, if_neg hdotted, shiftBy_lowerRuns hn h, Char.ofNat_toNat]

theorem lower_go_eq_self
    {t : Text} (before : Text)
    (h : ∀ c ∈ t, c.toNat < 128 ∧ ¬ (65 ≤ c.toNat ∧ c.toNat ≤ 90)) :
    lower.go before t = t := by
  induction t generalizing before with
  | nil =>
      rfl
  | cons c cs ih =>
      simp only [List.mem_cons, forall_eq_or_imp] at h
      rw [lower.go, lowerChar_eq_self before cs h.1.1 h.1.2, ih (c :: before) h.2]
      rfl

/-- ASCII text without capitals is its own lower case. -/
theorem lower_eq_self
    {t : Text}
    (h : ∀ c ∈ t, c.toNat < 128 ∧ ¬ (65 ≤ c.toNat ∧ c.toNat ≤ 90)) :
    lower t = t :=
  lower_go_eq_self [] h

end Text
end Literate
