import Literate.Document.Scan
import Literate.Proofs.Text.Ascii
import Literate.Proofs.Text.Trimming

/-!
# Protecting body lines

A body line that could be taken for a heading or a keyword is protected by a
comma after its indentation.  A line that already begins with such commas gets
one more, so that taking one comma away always gives the line back.

**Main statements.**
* `unescapeLine_protectLine`: protection is undone when the body is read.
* `keyword?_protectLine`: a protected line shows no keyword, whatever it was.
-/

namespace Literate

namespace Text

/-- A mark that stands before the letters has no second form. -/
theorem eq_of_isFormOf
    {key c : Char}
    (hkey : key.toNat < 65)
    (h : isFormOf key c = true) :
    c = key := by
  have hletter : ∀ letter : Char, 65 ≤ letter.toNat → (key == letter) = false := by
    intro letter hlow
    rw [beq_eq_false_iff_ne]
    rintro rfl
    omega
  have hvariants : letterVariants.lookup key = none := by
    simp [letterVariants, List.lookup_cons, hletter 'i' (by decide), hletter 'k' (by decide),
      hletter 's' (by decide)]
  have hplain : c = key ∨ c.toLower = key := by
    simpa [isFormOf, hvariants] using h
  rcases hplain with rfl | hlower
  · rfl
  · unfold Char.toLower at hlower
    split at hlower
    · rename_i hupper
      have hrange := toNat_of_isUpper (decide_eq_true hupper)
      have hcode : (c.toNat + 32) % 2 ^ 32 = key.toNat :=
        congrArg Char.toNat hlower
      omega
    · exact hlower

theorem isFormOf_self
    (c : Char) :
    isFormOf c c = true := by
  simp [isFormOf]

theorem dropKeyword?_append
    (key t : Text) :
    dropKeyword? key (key ++ t) = some t := by
  induction key with
  | nil =>
      cases t <;> rfl
  | cons c key ih =>
      rw [List.cons_append, dropKeyword?, if_pos (isFormOf_self c), ih]

theorem exists_of_dropKeyword?
    {c : Char} {key t rest : Text}
    (hc : c.toNat < 65)
    (h : dropKeyword? (c :: key) t = some rest) :
    ∃ u, t = c :: u ∧ dropKeyword? key u = some rest := by
  cases t with
  | nil =>
      cases h
  | cons d u =>
      rw [dropKeyword?] at h
      split at h
      · rename_i hform
        exact ⟨u, by rw [eq_of_isFormOf hc hform], h⟩
      · cases h

end Text

namespace Document

/-- What a body line must not begin with, after its indentation and any commas. -/
def BeginsMark (t : Text) : Prop :=
  t.head? = some '*' ∨ (Text.dropPrefix? "#+" t).isSome

instance : DecidablePred BeginsMark :=
  fun _ => inferInstanceAs (Decidable (_ ∨ _))

/-- A body line with one more comma after its indentation where it needs protection. -/
def protectLine (line : Text) : Text :=
  if BeginsMark ((Text.trimLeft line).dropWhile (· == ',')) then
    line.takeWhile Text.isBlank ++ ',' :: Text.trimLeft line
  else line

theorem trimLeft_protected
    (line : Text) :
    Text.trimLeft (line.takeWhile Text.isBlank ++ ',' :: Text.trimLeft line) =
      ',' :: Text.trimLeft line := by
  rw [Text.trimLeft_blanks_append, Text.trimLeft_cons _ (by decide)]
  intro c hc
  exact List.mem_takeWhile_imp hc

theorem takeWhile_protected
    (line t : Text) :
    (line.takeWhile Text.isBlank ++ ',' :: t).takeWhile Text.isBlank =
      line.takeWhile Text.isBlank := by
  rw [List.takeWhile_append_of_pos]
  · simp [show Text.isBlank ',' = false by decide]
  · intro c hc
    exact List.mem_takeWhile_imp hc

/-- Protection is undone when the body is read. -/
theorem unescapeLine_protectLine
    (line : Text) :
    unescapeLine (protectLine line) = line := by
  unfold protectLine
  split
  · rename_i hmark
    have hreturn : line.takeWhile Text.isBlank ++ Text.trimLeft line = line :=
      List.takeWhile_append_dropWhile
    rw [unescapeLine, trimLeft_protected]
    refine (if_pos hmark).trans ?_
    rw [takeWhile_protected, hreturn]
  · rename_i hmark
    unfold unescapeLine
    split
    · rename_i rest htrim
      have hrest : ¬ BeginsMark (rest.dropWhile (· == ',')) := by
        simpa [htrim] using hmark
      exact if_neg hrest
    · rfl

/-- A protected line shows no keyword, whatever it was. -/
theorem keyword?_protectLine
    (key line : Text) :
    keyword? ('#' :: '+' :: key) (protectLine line) = none := by
  unfold protectLine keyword?
  split
  · have hcomma : Text.isFormOf '#' ',' = false := by
      decide
    rw [trimLeft_protected, Text.dropKeyword?, hcomma]
    rfl
  · rename_i hmark
    cases hkeyword : Text.dropKeyword? ('#' :: '+' :: key) (Text.trimLeft line) with
    | none =>
        rfl
    | some rest =>
        obtain ⟨u, htrim, hplus⟩ := Text.exists_of_dropKeyword? (by decide) hkeyword
        obtain ⟨t, rfl, -⟩ := Text.exists_of_dropKeyword? (by decide) hplus
        refine absurd (Or.inr ?_) hmark
        simp [htrim, Text.dropPrefix?]

/-- Protection brings in no line end. -/
theorem isLineEnd_protectLine
    {line : Text}
    (h : ∀ c ∈ line, Text.isLineEnd c = false) :
    ∀ c ∈ protectLine line, Text.isLineEnd c = false := by
  intro c hc
  unfold protectLine at hc
  split at hc
  · simp only [List.mem_append, List.mem_cons] at hc
    rcases hc with hindent | rfl | hrest
    · exact h c ((List.takeWhile_prefix _).subset hindent)
    · decide
    · exact h c ((List.dropWhile_suffix _).subset hrest)
  · exact h c hc

end Document
end Literate
