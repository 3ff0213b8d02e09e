import Literate.Proofs.Assignment
import Literate.Proofs.Transformer.Layout

/-!
# Python numbers

The variables of a Python block become assignments in front of its body.  A value
that is written like a number stands there as it is.

**Grammar.**  The numeric literals are those of the language reference: decimal
integers, which begin with zero only when they are zero, and floating-point
literals, which may.  Their digits are ASCII, and single underscores may stand
between them.  A sign in front is an operator of the language (`SignedNumber`).

**Numerals.**  Every decimal digit of Unicode is a digit of a numeral, and a numeral may
begin with zeros.  These are the two ways in which a numeral is no number of the
language.

**Main statements.**
* `unsigned_of_isNumeral`: the form of numerals.
* `SignedNumber.isNumberChar`, `SignedNumber.not_hasIdleZero`: what numbers do not have.
* `python_number_iff`: the right-hand side of an assignment is the numeral, and when it is
  a number.
-/

namespace Literate
namespace Python

section Grammar

/-- The signs that may stand in front of a number or of an exponent; there need not be one. -/
def signs : List Text :=
  [[], ['+'], ['-']]

/-- Digits; a single underscore may stand between two of them. -/
inductive DigitPart : Text → Prop
  /-- One digit. -/
  | single {d : Char} (hd : d.isDigit = true) : DigitPart [d]
  /-- A digit in front of others. -/
  | digit {d : Char} {rest : Text} (hd : d.isDigit = true) (hrest : DigitPart rest) : DigitPart (d :: rest)
  /-- A digit and an underscore in front of others. -/
  | grouped {d : Char} {rest : Text} (hd : d.isDigit = true) (hrest : DigitPart rest) :
      DigitPart (d :: '_' :: rest)

/-- A decimal integer. -/
inductive DecInteger : Text → Prop
  /-- Any number of zeros. -/
  | zero {t : Text} (h : DigitPart t) (hzeros : ∀ c ∈ t, c = '0' ∨ c = '_') : DecInteger t
  /-- Digits of which the first is not zero. -/
  | nonzero {t : Text} (h : DigitPart t) (hfirst : t.head? ≠ some '0') : DecInteger t

/-- A number with a point. -/
inductive PointFloat : Text → Prop
  /-- Digits behind the point, and before it as well or not. -/
  | fraction {whole fraction : Text} (hwhole : whole = [] ∨ DigitPart whole) (hfraction : DigitPart fraction) :
      PointFloat (whole ++ '.' :: fraction)
  /-- Digits before the point only. -/
  | point {whole : Text} (hwhole : DigitPart whole) : PointFloat (whole ++ ['.'])

/-- The exponent of a number. -/
inductive Exponent : Text → Prop
  /-- A letter, a sign or none, and digits. -/
  | intro {e : Char} {sign digits : Text} (he : e = 'e' ∨ e = 'E') (hsign : sign ∈ signs)
      (hdigits : DigitPart digits) : Exponent (e :: (sign ++ digits))

/-- A floating-point literal. -/
inductive FloatNumber : Text → Prop
  /-- A number with a point. -/
  | point {t : Text} (h : PointFloat t) : FloatNumber t
  /-- A number with an exponent, and with a point or not. -/
  | exponent {mantissa exponent : Text} (hmantissa : DigitPart mantissa ∨ PointFloat mantissa)
      (hexponent : Exponent exponent) : FloatNumber (mantissa ++ exponent)

/-- A numeric literal with a sign or without. -/
inductive SignedNumber : Text → Prop
  /-- A decimal integer. -/
  | integer {sign t : Text} (hsign : sign ∈ signs) (h : DecInteger t) : SignedNumber (sign ++ t)
  /-- A floating-point literal. -/
  | float {sign t : Text} (hsign : sign ∈ signs) (h : FloatNumber t) : SignedNumber (sign ++ t)

end Grammar

/-- A numeral is an integer that begins with a zero and is not zero. -/
structure HasIdleZero (t : Text) : Prop where
  /-- It has neither a point nor an exponent. -/
  integer : ∀ c ∈ Assignment.dropSign t, Text.isDigit c = true
  /-- Its first digit is zero. -/
  zero : (Assignment.dropSign t).head? = some '0'
  /-- Not all of them are. -/
  nonzero : ∃ c ∈ Assignment.dropSign t, c ≠ '0'

section Digits

variable {t : Text} {c : Char}

theorem digitPart_of_forall
    (hne : t ≠ [])
    (h : ∀ c ∈ t, c.isDigit = true) :
    DigitPart t := by
  induction t with
  | nil =>
      exact absurd rfl hne
  | cons d t ih =>
      obtain ⟨hd, ht⟩ := List.forall_mem_cons.mp h
      cases t with
      | nil =>
          exact .single hd
      | cons e t =>
          exact .digit hd (ih (List.cons_ne_nil e t) ht)

/-- The characters of digit groups. -/
theorem DigitPart.mem
    (h : DigitPart t)
    (hc : c ∈ t) :
    c.isDigit = true ∨ c = '_' := by
  induction h with
  | single hd =>
      exact Or.inl (List.mem_singleton.mp hc ▸ hd)
  | digit hd _ ih =>
      rcases List.mem_cons.mp hc with rfl | hrest
      · exact Or.inl hd
      · exact ih hrest
  | grouped hd _ ih =>
      rcases List.mem_cons.mp hc with rfl | hrest
      · exact Or.inl hd
      rcases List.mem_cons.mp hrest with rfl | hrest
      · exact Or.inr rfl
      · exact ih hrest

theorem DigitPart.exists_head
    (h : DigitPart t) :
    ∃ d rest, t = d :: rest ∧ d.isDigit = true := by
  cases h with
  | single hd =>
      exact ⟨_, _, rfl, hd⟩
  | digit hd _ =>
      exact ⟨_, _, rfl, hd⟩
  | grouped hd _ =>
      exact ⟨_, _, rfl, hd⟩

end Digits

section Numbers

variable {t u sign : Text} {c : Char}

/-- Whether a character may stand in a number. -/
def isNumberChar (c : Char) : Bool :=
  c.isDigit || ['_', '.', 'e', 'E', '+', '-'].contains c

theorem DigitPart.isNumberChar
    (h : DigitPart t)
    (hc : c ∈ t) :
    isNumberChar c = true := by
  rcases h.mem hc with hdigit | rfl
  · rw [Python.isNumberChar, hdigit, Bool.true_or]
  · decide

theorem isNumberChar_of_mem_sign
    (hsign : sign ∈ signs)
    (hc : c ∈ sign) :
    isNumberChar c = true := by
  have hall : (signs.all fun sign => sign.all isNumberChar) = true := by
    decide
  exact List.all_eq_true.mp (List.all_eq_true.mp hall sign hsign) c hc

theorem PointFloat.isNumberChar
    (h : PointFloat t)
    (hc : c ∈ t) :
    isNumberChar c = true := by
  cases h with
  | fraction hwhole hfraction =>
      rcases List.mem_append.mp hc with hc | hc
      · rcases hwhole with rfl | hwhole
        · cases hc
        · exact hwhole.isNumberChar hc
      rcases List.mem_cons.mp hc with rfl | hc
      · decide
      · exact hfraction.isNumberChar hc
  | point hwhole =>
      rcases List.mem_append.mp hc with hc | hc
      · exact hwhole.isNumberChar hc
      · rw [List.mem_singleton.mp hc]
        decide

theorem Exponent.isNumberChar
    (h : Exponent t)
    (hc : c ∈ t) :
    isNumberChar c = true := by
  obtain ⟨he, hsign, hdigits⟩ := h
  rcases List.mem_cons.mp hc with rfl | hc
  · rcases he with rfl | rfl <;> decide
  rcases List.mem_append.mp hc with hc | hc
  · exact isNumberChar_of_mem_sign hsign hc
  · exact hdigits.isNumberChar hc

/-- The characters of a number. -/
theorem SignedNumber.isNumberChar
    (h : SignedNumber t)
    (hc : c ∈ t) :
    isNumberChar c = true := by
  cases h with
  | integer hsign h =>
      rcases List.mem_append.mp hc with hc | hc
      · exact isNumberChar_of_mem_sign hsign hc
      · cases h with
        | zero hdigits _ =>
            exact hdigits.isNumberChar hc
        | nonzero hdigits _ =>
            exact hdigits.isNumberChar hc
  | float hsign h =>
      rcases List.mem_append.mp hc with hc | hc
      · exact isNumberChar_of_mem_sign hsign hc
      · cases h with
        | point h =>
            exact h.isNumberChar hc
        | exponent hmantissa hexponent =>
            rcases List.mem_append.mp hc with hc | hc
            · exact hmantissa.elim (·.isNumberChar hc) (·.isNumberChar hc)
            · exact hexponent.isNumberChar hc

/-- A digit of a numeral that may stand in a number is a digit of the language. -/
theorem isDigit_of_isNumberChar
    (hdigit : Text.isDigit c = true)
    (hc : isNumberChar c = true) :
    c.isDigit = true := by
  rcases Bool.or_eq_true_iff.mp hc with hc | hc
  · exact hc
  · have hall : (['_', '.', 'e', 'E', '+', '-'].all fun c => !Text.isDigit c) = true := by
      decide
    have hother := List.all_eq_true.mp hall c (List.contains_iff_mem.mp hc)
    rw [hdigit] at hother
    cases hother

/-- A number begins with a digit or a point after its sign. -/
def BeginsNumber (t : Text) : Prop :=
  ∃ c rest, t = c :: rest ∧ (c.isDigit = true ∨ c = '.')

theorem DigitPart.beginsNumber
    (h : DigitPart t) (u : Text) :
    BeginsNumber (t ++ u) := by
  obtain ⟨d, rest, rfl, hd⟩ := h.exists_head
  exact ⟨d, rest ++ u, rfl, Or.inl hd⟩

theorem PointFloat.beginsNumber
    (h : PointFloat t) (u : Text) :
    BeginsNumber (t ++ u) := by
  cases h with
  | fraction hwhole hfraction =>
      rw [List.append_assoc]
      rcases hwhole with rfl | hwhole
      · exact ⟨'.', _, rfl, Or.inr rfl⟩
      · exact hwhole.beginsNumber _
  | point hwhole =>
      rw [List.append_assoc]
      exact hwhole.beginsNumber _

theorem FloatNumber.beginsNumber
    (h : FloatNumber t) :
    BeginsNumber t := by
  cases h with
  | point h =>
      simpa using h.beginsNumber []
  | exponent hmantissa _ =>
      exact hmantissa.elim (·.beginsNumber _) (·.beginsNumber _)

theorem dropSign_append
    (hsign : sign ∈ signs)
    (h : BeginsNumber t) :
    Assignment.dropSign (sign ++ t) = t := by
  obtain ⟨c, rest, rfl, hc⟩ := h
  have hplus : c ≠ '+' := by
    rintro rfl
    rcases hc with hc | hc <;> cases hc
  have hminus : c ≠ '-' := by
    rintro rfl
    rcases hc with hc | hc <;> cases hc
  simp only [signs, List.mem_cons, List.not_mem_nil, or_false] at hsign
  rcases hsign with rfl | rfl | rfl <;> simp [Assignment.dropSign, hplus, hminus]

/-- A floating-point literal has a point or an exponent. -/
theorem FloatNumber.exists_mark
    (h : FloatNumber t) :
    ∃ c ∈ t, Text.isDigit c = false := by
  have hpoint : ∀ {u}, PointFloat u → '.' ∈ u := by
    rintro u (⟨-, -⟩ | ⟨-⟩) <;> simp
  cases h with
  | point h =>
      exact ⟨'.', hpoint h, by decide⟩
  | exponent _ hexponent =>
      obtain @⟨e, sign, digits, he, -, -⟩ := hexponent
      refine ⟨e, by simp, ?_⟩
      rcases he with rfl | rfl <;> decide

/-- No number begins with an idle zero. -/
theorem SignedNumber.not_hasIdleZero
    (h : SignedNumber t) :
    ¬ HasIdleZero t := by
  rintro ⟨hinteger, hzero, d, hd, hnonzero⟩
  cases h with
  | @integer sign u hsign h =>
      have hdigits : DigitPart u := by
        cases h <;> assumption
      have hdrop : Assignment.dropSign (sign ++ u) = u :=
        dropSign_append hsign (by simpa using hdigits.beginsNumber [])
      rw [hdrop] at hinteger hzero hd
      cases h with
      | zero _ hzeros =>
          rcases hzeros d hd with rfl | rfl
          · exact hnonzero rfl
          · exact absurd (hinteger '_' hd) (by decide)
      | nonzero _ hfirst =>
          exact hfirst hzero
  | float hsign h =>
      rw [dropSign_append hsign h.beginsNumber] at hinteger
      obtain ⟨c, hc, hmark⟩ := h.exists_mark
      rw [hinteger c hc] at hmark
      cases hmark

end Numbers

section Numerals

variable {t u : Text}

/-- A numeral without its sign, with digits of any script. -/
inductive Unsigned : Text → Prop
  /-- Digits. -/
  | whole {digits exponent : Text} (hne : digits ≠ []) (hdigits : ∀ c ∈ digits, Text.isDigit c = true)
      (hexponent : Assignment.isExponent exponent = true) : Unsigned (digits ++ exponent)
  /-- Digits before a point or behind it. -/
  | point {whole fraction exponent : Text} (hne : whole ≠ [] ∨ fraction ≠ [])
      (hwhole : ∀ c ∈ whole, Text.isDigit c = true) (hfraction : ∀ c ∈ fraction, Text.isDigit c = true)
      (hexponent : Assignment.isExponent exponent = true) :
      Unsigned (whole ++ '.' :: (fraction ++ exponent))

theorem exists_sign
    (t : Text) :
    ∃ sign ∈ signs, t = sign ++ Assignment.dropSign t := by
  cases t with
  | nil =>
      exact ⟨[], by decide, rfl⟩
  | cons c t =>
      rw [Assignment.dropSign]
      split
      · rename_i hc
        rcases hc with rfl | rfl
        · exact ⟨['+'], by decide, rfl⟩
        · exact ⟨['-'], by decide, rfl⟩
      · exact ⟨[], by decide, rfl⟩

/-- The form of numerals. -/
theorem unsigned_of_isNumeral
    (h : Assignment.isNumeral t = true) :
    Unsigned (Assignment.dropSign t) := by
  have htaken : ∀ {u : Text}, ∀ c ∈ u.takeWhile Text.isDigit, Text.isDigit c = true :=
    fun c hc => List.mem_takeWhile_imp hc
  rw [Assignment.isNumeral] at h
  rw [← @List.takeWhile_append_dropWhile _ Text.isDigit (Assignment.dropSign t)]
  split at h
  · rename_i rest hrest
    simp only [Bool.and_eq_true, Bool.not_eq_true', Bool.and_eq_false_iff, List.isEmpty_eq_false_iff] at h
    rw [hrest, ← @List.takeWhile_append_dropWhile _ Text.isDigit rest]
    exact .point h.1 htaken htaken h.2
  · simp only [Bool.and_eq_true, Bool.not_eq_true', List.isEmpty_eq_false_iff] at h
    exact .whole h.1 htaken h.2

theorem exponent_of_isExponent
    (h : Assignment.isExponent t = true)
    (hne : t ≠ [])
    (hascii : ∀ c ∈ t, Text.isDigit c = true → c.isDigit = true) :
    Exponent t := by
  obtain ⟨e, t, rfl⟩ := List.exists_cons_of_ne_nil hne
  simp only [Assignment.isExponent, Bool.and_eq_true, Bool.or_eq_true, beq_iff_eq, Bool.not_eq_true',
    List.isEmpty_eq_false_iff, List.all_eq_true] at h
  obtain ⟨⟨he, hdigits⟩, hall⟩ := h
  obtain ⟨sign, hsign, ht⟩ := exists_sign t
  rw [ht]
  refine .intro he hsign (digitPart_of_forall hdigits fun c hc => hascii c ?_ (hall c hc))
  rw [ht]
  simp [hc]

theorem pointFloat_of_forall
    {whole fraction : Text}
    (hne : whole ≠ [] ∨ fraction ≠ [])
    (hwhole : ∀ c ∈ whole, c.isDigit = true)
    (hfraction : ∀ c ∈ fraction, c.isDigit = true) :
    PointFloat (whole ++ '.' :: fraction) := by
  by_cases hnone : fraction = []
  · subst hnone
    exact .point (digitPart_of_forall (hne.resolve_right (not_not_intro rfl)) hwhole)
  · refine .fraction ?_ (digitPart_of_forall hnone hfraction)
    by_cases hempty : whole = []
    · exact Or.inl hempty
    · exact Or.inr (digitPart_of_forall hempty hwhole)

/-- Digits that do not begin with an idle zero are a decimal integer. -/
theorem decInteger_of_forall
    (hne : t ≠ [])
    (h : ∀ c ∈ t, c.isDigit = true)
    (hzero : t.head? = some '0' → ∀ c ∈ t, c = '0') :
    DecInteger t := by
  by_cases hfirst : t.head? = some '0'
  · exact .zero (digitPart_of_forall hne h) fun c hc => Or.inl (hzero hfirst c hc)
  · exact .nonzero (digitPart_of_forall hne h) hfirst

/-- A numeral is a number when its digits are ASCII and it does not begin with an idle zero. -/
theorem signedNumber_iff
    (h : Assignment.isNumeral t = true) :
    SignedNumber t ↔ (∀ c ∈ t, Text.isDigit c = true → c.isDigit = true) ∧ ¬ HasIdleZero t := by
  constructor
  · intro hnumber
    exact ⟨fun c hc hdigit => isDigit_of_isNumberChar hdigit (hnumber.isNumberChar hc),
      hnumber.not_hasIdleZero⟩
  rintro ⟨hascii, hzero⟩
  obtain ⟨sign, hsign, ht⟩ := exists_sign t
  have hform := unsigned_of_isNumeral h
  generalize hunsigned : Assignment.dropSign t = unsigned at ht hform
  have hmem : ∀ c ∈ unsigned, Text.isDigit c = true → c.isDigit = true :=
    fun c hc => hascii c (by simp [ht, hc])
  rw [ht]
  cases hform with
  | @whole digits exponent hne hdigits hexponent =>
      have hall : ∀ c ∈ digits, c.isDigit = true :=
        fun c hc => hmem c (List.mem_append_left _ hc) (hdigits c hc)
      by_cases hnone : exponent = []
      · subst hnone
        rw [List.append_nil] at hunsigned ⊢
        refine .integer hsign (decInteger_of_forall hne hall fun hfirst c hc => ?_)
        by_contra hc0
        exact hzero ⟨hunsigned ▸ hdigits, hunsigned ▸ hfirst, c, hunsigned ▸ hc, hc0⟩
      · exact .float hsign (.exponent (Or.inl (digitPart_of_forall hne hall))
          (exponent_of_isExponent hexponent hnone fun c hc => hmem c (List.mem_append_right _ hc)))
  | @point whole fraction exponent hne hwhole hfraction hexponent =>
      have hfloat : PointFloat (whole ++ '.' :: fraction) :=
        pointFloat_of_forall hne (fun c hc => hmem c (by simp [hc]) (hwhole c hc))
          fun c hc => hmem c (by simp [hc]) (hfraction c hc)
      by_cases hnone : exponent = []
      · subst hnone
        rw [List.append_nil]
        exact .float hsign (.point hfloat)
      · have hsplit : whole ++ '.' :: (fraction ++ exponent) = (whole ++ '.' :: fraction) ++ exponent := by
          simp
        rw [hsplit]
        exact .float hsign (.exponent (Or.inr hfloat)
          (exponent_of_isExponent hexponent hnone fun c hc => hmem c (by simp [hc])))

end Numerals

/-- **Python numbers.**  A variable whose value is written like a number is assigned that numeral on a line of its
own.  The numeral is a number of the language exactly when all its digits are ASCII and it is not an integer that
begins with a zero and is not zero. -/
theorem python_number_iff
    {params : Params} {a : Assignment}
    (ha : a ∈ Transformer.assignments params)
    (hnumber : a.isNumber = true) :
    (∀ body, ∃ before after,
      Transformer.python.run body params ++ ['\n'] = before ++ (a.name ++ " = " ++ a.value) ++ '\n' :: after ∧
      (before = [] ∨ before.getLast? = some '\n')) ∧
    (SignedNumber a.value ↔
      (∀ c ∈ a.value, Text.isDigit c = true → c.isDigit = true) ∧ ¬ HasIdleZero a.value) := by
  have hnumeral : Assignment.isNumeral a.value = true := Assignment.hasNumeral_of_mem_parse ha hnumber
  refine ⟨fun body => ?_, signedNumber_iff hnumeral⟩
  obtain ⟨c, hlast, hvisible⟩ := Assignment.getLast?_of_isNumeral hnumeral
  have hvalue : Transformer.pythonValue a = a.value := by
    rw [Transformer.pythonValue, hnumber, if_pos rfl]
  rw [← hvalue] at hlast ⊢
  refine Transformer.exists_assignment_line params body
    (fun one => one.name ++ " = " ++ Transformer.pythonValue one) ha ⟨c, ?_, hvisible⟩
  simp [List.getLast?_append, List.getLast?_cons, hlast]

/-- A sign, zeros in front of a point and an exponent make a number. -/
theorem python_number_iff_float :
    let params : Params := ⟨[("var", "n=-00.5e+03")]⟩
    let a : Assignment := ⟨"n", "-00.5e+03", true⟩
    (a ∈ Transformer.assignments params ∧ a.isNumber = true) ∧
      (∀ body, ∃ before after,
        Transformer.python.run body params ++ ['\n'] = before ++ (a.name ++ " = " ++ a.value) ++ '\n' :: after ∧
        (before = [] ∨ before.getLast? = some '\n')) ∧
      SignedNumber a.value := by
  intro params a
  have ha : a ∈ Transformer.assignments params := by
    decide +kernel
  obtain ⟨hline, hnumber⟩ := python_number_iff ha rfl
  have hascii : (a.value.all fun c => !Text.isDigit c || c.isDigit) = true := by
    decide +kernel
  have hpoint : ¬ HasIdleZero a.value :=
    fun h => absurd (h.integer '.' (by decide)) (by decide)
  refine ⟨⟨ha, rfl⟩, hline, hnumber.mpr ⟨fun c hc hdigit => ?_, hpoint⟩⟩
  simpa [hdigit] using List.all_eq_true.mp hascii c hc

/-- Zeros in front of an integer, or the digits of another script, make no number. -/
theorem python_number_idle_zero :
    let params : Params := ⟨[("var", "n=007, m=٣")]⟩
    let zeros : Assignment := ⟨"n", "007", true⟩
    let foreign : Assignment := ⟨"m", "٣", true⟩
    Transformer.assignments params = [zeros, foreign] ∧
      Transformer.python.run "print(n)" params = ("n = 007\nm = ٣\nprint(n)" : Text) ∧
      ¬ SignedNumber zeros.value ∧ ¬ SignedNumber foreign.value := by
  intro params zeros foreign
  refine ⟨by decide +kernel, by decide +kernel, fun h => ?_, fun h => ?_⟩
  · refine h.not_hasIdleZero ⟨?_, rfl, '7', by decide, by decide⟩
    exact List.all_eq_true.mp (by decide +kernel)
  · exact absurd (h.isNumberChar (c := '٣') (by decide)) (by decide)

end Python
end Literate
