import Literate.Assignment
import Literate.Proofs.Header.Merging
import Literate.Proofs.Text.Splitting

/-!
# Reading written assignments

Variables are written one by one into a header line, as `:var name=value`.
Reading the line collects them into one list between commas, and reading that
list takes them apart again.  Both readings leave a value alone that stands
between quotation marks, whatever commas, equals signs, blanks and other
quotation marks it holds.

**Cutting.**  `Closed` says that a text opens and closes its quotation marks and
holds no comma outside them: a list of such texts is cut exactly at the commas
between them (`map_trim_splitItems_join`).

**Main statements.**
* `isNumeralChar_of_mem`: the characters of a numeral.
* `plainValue_text`: a written assignment can stand in a header line.
* `ofItem?_text`: a written assignment is read as it is.
* `hasNumeral_of_mem_parse`: what is read as a number is a numeral.
* `parse_variables`: assignments survive the header line.
-/

namespace Literate

namespace Text

theorem Ranges.exists_of_mem
    {n : Nat} {ranges : Ranges}
    (h : Ranges.mem n ranges = true) :
    ∃ range ∈ ranges, range.1 ≤ n ∧ n ≤ range.2 := by
  induction ranges with
  | nil =>
      cases h
  | cons range rest ih =>
      rw [Ranges.mem] at h
      split at h
      · cases h
      · rename_i hlow
        rcases Bool.or_eq_true_iff.mp h with hhigh | hrest
        · exact ⟨range, List.mem_cons_self, Nat.le_of_not_lt hlow, of_decide_eq_true hhigh⟩
        · obtain ⟨other, hother, hbounds⟩ := ih hrest
          exact ⟨other, List.mem_cons_of_mem _ hother, hbounds⟩

/-- No digit of any script is blank. -/
theorem isBlank_eq_false_of_isDigit
    {c : Char}
    (h : isDigit c = true) :
    isBlank c = false := by
  have hdisjoint : ∀ digits ∈ digitRanges, ∀ blanks ∈ blankRanges,
      digits.2 < blanks.1 ∨ blanks.2 < digits.1 := by
    decide
  obtain ⟨digits, hdigits, hlow, hhigh⟩ := Ranges.exists_of_mem h
  by_contra hblank
  rw [Bool.not_eq_false] at hblank
  obtain ⟨blanks, hblanks, hlow', hhigh'⟩ := Ranges.exists_of_mem hblank
  have := hdisjoint digits hdigits blanks hblanks
  omega

end Text

/-- A value as it is written in an assignment. -/
inductive WrittenValue
  /-- A text between two equal quotation marks. -/
  | quoted (quote : Char) (inner : Text)
  /-- A numeral as it stands. -/
  | numeral (digits : Text)
deriving DecidableEq

namespace WrittenValue

/-- The value as it stands in a text. -/
def text : WrittenValue → Text
  | quoted quote inner => quote :: (inner ++ [quote])
  | numeral digits => digits

/-- A value that can be written into a header line: a text that does not hold its quotation mark, and in
which no blank is followed by what begins like an argument, or a numeral. -/
inductive IsPlain : WrittenValue → Prop
  /-- A text between quotation marks. -/
  | quoted {quote : Char} {inner : Text}
      (hquote : quote = '"' ∨ quote = '\x27')
      (hclosed : quote ∉ inner)
      (hquiet : ∀ before b c rest,
        inner = before ++ b :: ':' :: c :: rest → Text.isBlank b = true → c.isAlpha = false) :
      IsPlain (quoted quote inner)
  /-- A numeral. -/
  | numeral {digits : Text}
      (h : Assignment.isNumeral digits = true) :
      IsPlain (numeral digits)

end WrittenValue

/-- An assignment as it is written. -/
structure WrittenAssignment where
  /-- The variable. -/
  name : Text
  /-- Its value. -/
  value : WrittenValue
deriving DecidableEq

namespace WrittenAssignment

/-- The assignment as it stands in a text. -/
def text (written : WrittenAssignment) : Text :=
  written.name ++ '=' :: written.value.text

/-- The assignment that is meant. -/
def assignment (written : WrittenAssignment) : Assignment :=
  match written.value with
  | .quoted _ inner => ⟨written.name, inner, false⟩
  | .numeral digits => ⟨written.name, digits, true⟩

/-- The characters that have a meaning of their own in a list of assignments or in a header line. -/
def marks : List Char := ['=', ',', ':', '"', '\x27']

/-- An assignment that can be written into a header line. -/
structure IsPlain (written : WrittenAssignment) : Prop where
  /-- The variable has a name. -/
  name_ne_nil : written.name ≠ []
  /-- No character of the name is blank or has a meaning of its own. -/
  name_chars : ∀ c ∈ written.name, Text.isBlank c = false ∧ c ∉ marks
  /-- The value can be written. -/
  value : written.value.IsPlain

theorem chars_of_all
    {t : Text}
    (h : (t.all fun c => !Text.isBlank c && !marks.contains c) = true) :
    ∀ c ∈ t, Text.isBlank c = false ∧ c ∉ marks := by
  intro c hc
  have hchar := List.all_eq_true.mp h c hc
  simpa using hchar

/-- The header line of assignments. -/
def headerText (written : List WrittenAssignment) : Text :=
  Text.join " " (written.map fun one => Header.argumentText (Header.variableKey, one.text))

end WrittenAssignment

namespace Assignment

section Numerals

/-- Whether a character may stand in a numeral. -/
def isNumeralChar (c : Char) : Bool :=
  Text.isDigit c || ['+', '-', '.', 'e', 'E'].contains c

theorem mem_dropSign
    {t : Text} {c : Char}
    (h : c ∈ t) :
    isNumeralChar c = true ∨ c ∈ dropSign t := by
  cases t with
  | nil =>
      cases h
  | cons d t =>
      rw [dropSign]
      split
      · rename_i hsign
        rcases List.mem_cons.mp h with rfl | hrest
        · rcases hsign with rfl | rfl <;> exact Or.inl (by decide)
        · exact Or.inr hrest
      · exact Or.inr h

theorem isNumeralChar_of_isDigit
    {c : Char}
    (h : Text.isDigit c = true) :
    isNumeralChar c = true := by
  rw [isNumeralChar, h, Bool.true_or]

theorem isNumeralChar_of_mem_takeWhile
    {t : Text} {c : Char}
    (h : c ∈ t.takeWhile Text.isDigit) :
    isNumeralChar c = true :=
  isNumeralChar_of_isDigit (List.mem_takeWhile_imp h)

theorem isNumeralChar_of_isExponent
    {t : Text} {c : Char}
    (h : isExponent t = true)
    (hc : c ∈ t) :
    isNumeralChar c = true := by
  cases t with
  | nil =>
      cases hc
  | cons d t =>
      simp only [isExponent, Bool.and_eq_true, Bool.or_eq_true, beq_iff_eq, List.all_eq_true] at h
      obtain ⟨⟨hmark, -⟩, hdigits⟩ := h
      rcases List.mem_cons.mp hc with rfl | hrest
      · rcases hmark with rfl | rfl <;> decide
      · exact (mem_dropSign hrest).elim id fun hdigit => isNumeralChar_of_isDigit (hdigits c hdigit)

/-- The characters of a numeral. -/
theorem isNumeralChar_of_mem
    {t : Text} {c : Char}
    (h : isNumeral t = true)
    (hc : c ∈ t) :
    isNumeralChar c = true := by
  rcases mem_dropSign hc with hsign | hunsigned
  · exact hsign
  rw [← @List.takeWhile_append_dropWhile _ Text.isDigit (dropSign t), List.mem_append] at hunsigned
  rcases hunsigned with hwhole | hrest
  · exact isNumeralChar_of_mem_takeWhile hwhole
  simp only [isNumeral] at h
  split at h
  · rename_i fraction hfraction
    rw [hfraction] at hrest
    simp only [Bool.and_eq_true] at h
    rcases List.mem_cons.mp hrest with rfl | hrest
    · decide
    · rw [← @List.takeWhile_append_dropWhile _ Text.isDigit fraction, List.mem_append] at hrest
      exact hrest.elim isNumeralChar_of_mem_takeWhile (isNumeralChar_of_isExponent h.2)
  · simp only [Bool.and_eq_true] at h
    exact isNumeralChar_of_isExponent h.2 hrest

/-- A numeral has none of the characters of a list that has none of its. -/
theorem not_mem_of_isNumeralChar
    {c : Char} {marks : List Char}
    (h : isNumeralChar c = true)
    (hmarks : (marks.all fun mark => !isNumeralChar mark) = true) :
    c ∉ marks := by
  intro hmem
  have hother := List.all_eq_true.mp hmarks c hmem
  rw [h] at hother
  cases hother

theorem ne_nil_of_isNumeral
    {t : Text}
    (h : isNumeral t = true) :
    t ≠ [] := by
  rintro rfl
  cases h

/-- A character of a numeral is neither blank nor has it a meaning of its own. -/
theorem visible_of_isNumeralChar
    {c : Char}
    (h : isNumeralChar c = true) :
    Text.isBlank c = false ∧ c ∉ WrittenAssignment.marks := by
  refine ⟨?_, not_mem_of_isNumeralChar h (by decide)⟩
  rcases Bool.or_eq_true_iff.mp h with hdigit | hsign
  · exact Text.isBlank_eq_false_of_isDigit hdigit
  · exact (WrittenAssignment.chars_of_all (by decide) c (List.contains_iff_mem.mp hsign)).1

theorem getLast?_of_isNumeral
    {t : Text}
    (h : isNumeral t = true) :
    ∃ c, t.getLast? = some c ∧ Text.isBlank c = false := by
  have hne := ne_nil_of_isNumeral h
  refine ⟨t.getLast hne, List.getLast?_eq_some_getLast hne, ?_⟩
  exact (visible_of_isNumeralChar (isNumeralChar_of_mem h (List.getLast_mem hne))).1

end Numerals

section Cutting

/-- A text closes the quotation marks that are open before it or that it opens, and holds no comma outside
of them. -/
def Closed : Option Char → Text → Prop
  | quote, [] => quote = none
  | quote, c :: t => ¬ (c = ',' ∧ quote = none) ∧ Closed (nextQuote quote c) t

theorem nextQuote_of_plain
    (quote : Option Char) {c : Char}
    (h : c ∉ WrittenAssignment.marks) :
    nextQuote quote c = quote := by
  unfold nextQuote
  rw [if_neg]
  rintro (rfl | rfl) <;> exact h (by decide)

theorem closed_plain_append
    {u t : Text}
    (hu : ∀ c ∈ u, c ∉ WrittenAssignment.marks)
    (h : Closed none t) :
    Closed none (u ++ t) := by
  induction u with
  | nil =>
      exact h
  | cons c u ih =>
      simp only [List.forall_mem_cons] at hu
      refine ⟨?_, ?_⟩
      · rintro ⟨rfl, -⟩
        exact hu.1 (by decide)
      · rw [nextQuote_of_plain none hu.1]
        exact ih hu.2

theorem closed_quoted
    {quote : Char} {inner : Text}
    (hquote : quote = '"' ∨ quote = '\x27')
    (hinner : quote ∉ inner) :
    Closed none (quote :: (inner ++ [quote])) := by
  have hopen : Closed (some quote) (inner ++ [quote]) := by
    induction inner with
    | nil =>
        refine ⟨by simp, ?_⟩
        unfold nextQuote
        rw [if_pos hquote]
        exact if_pos rfl
    | cons c inner ih =>
        simp only [List.mem_cons, not_or] at hinner
        refine ⟨by simp, ?_⟩
        have hsame : nextQuote (some quote) c = some quote := by
          unfold nextQuote
          split
          · exact if_neg hinner.1
          · rfl
        rw [hsame]
        exact ih hinner.2
  refine ⟨?_, ?_⟩
  · rintro ⟨rfl, -⟩
    rcases hquote with h | h <;> cases h
  · rw [nextQuote, if_pos hquote]
    exact hopen

theorem splitItems_cons
    {quote : Option Char} {c : Char} {t item : Text} {items : List Text}
    (hquiet : ¬ (c = ',' ∧ quote = none))
    (h : splitItems (nextQuote quote c) t = item :: items) :
    splitItems quote (c :: t) = (c :: item) :: items := by
  rw [splitItems, if_neg hquiet, h]

theorem splitItems_ne_nil
    (quote : Option Char) (t : Text) :
    splitItems quote t ≠ [] := by
  cases t with
  | nil =>
      simp [splitItems]
  | cons c t =>
      unfold splitItems
      split
      · simp
      · split <;> simp

/-- A text is not cut before its last quotation mark is closed. -/
theorem splitItems_of_closed
    {quote : Option Char} {item : Text}
    (h : Closed quote item) :
    splitItems quote item = [item] := by
  induction item generalizing quote with
  | nil =>
      rfl
  | cons c item ih =>
      exact splitItems_cons h.1 (ih h.2)

/-- A text that has closed its quotation marks is cut off at a comma behind it. -/
theorem splitItems_append_comma
    {quote : Option Char} {item : Text} (rest : Text)
    (h : Closed quote item) :
    splitItems quote (item ++ ',' :: rest) = item :: splitItems none rest := by
  induction item generalizing quote with
  | nil =>
      obtain rfl : quote = none := h
      simp [splitItems]
  | cons c item ih =>
      exact splitItems_cons h.1 (ih h.2)

theorem map_trim_splitItems_space
    (t : Text) :
    (splitItems none (' ' :: t)).map Text.trim = (splitItems none t).map Text.trim := by
  obtain ⟨item, items, hitems⟩ := List.exists_cons_of_ne_nil (splitItems_ne_nil none t)
  have hspace : nextQuote none ' ' = none := rfl
  rw [splitItems_cons (by decide) (hspace ▸ hitems), hitems, List.map_cons, List.map_cons,
    Text.trim_space_cons]

/-- A list of texts is cut at the commas between them. -/
theorem map_trim_splitItems_join
    (item : Text) (items : List Text)
    (h : ∀ one ∈ item :: items, Closed none one ∧ Text.trim one = one) :
    (splitItems none (Text.join ", " (item :: items))).map Text.trim = item :: items := by
  induction items generalizing item with
  | nil =>
      obtain ⟨hclosed, htrim⟩ := h item (by simp)
      rw [Text.join, splitItems_of_closed hclosed, List.map_singleton, htrim]
  | cons next items ih =>
      simp only [List.forall_mem_cons] at h
      have hrest := ih next (List.forall_mem_cons.mpr h.2)
      have htext : Text.join ", " (item :: next :: items) =
          item ++ ',' :: ' ' :: Text.join ", " (next :: items) := by
        simp [Text.join]
      rw [htext, splitItems_append_comma _ h.1.1, List.map_cons, h.1.2, map_trim_splitItems_space, hrest]

end Cutting

section Items

variable {written : WrittenAssignment} {value : WrittenValue}

/-- What is written for a value: its first and its last character are not blank, and it is closed. -/
theorem visible_text
    (h : value.IsPlain) :
    Text.trim value.text = value.text ∧ value.text ≠ [] ∧ Closed none value.text := by
  cases h with
  | @quoted quote inner hquote hclosed hquiet =>
      have hvisible : Text.isBlank quote = false := by
        rcases hquote with rfl | rfl <;> decide
      refine ⟨Text.trim_eq_self_iff.mpr ⟨?_, ?_⟩, by simp [WrittenValue.text],
        closed_quoted hquote hclosed⟩
      · simp [WrittenValue.text, hvisible]
      · simp [WrittenValue.text, List.getLast?_cons, hvisible]
  | @numeral digits hnumeral =>
      have hvisible : ∀ c ∈ digits, Text.isBlank c = false ∧ c ∉ WrittenAssignment.marks :=
        fun c hc => visible_of_isNumeralChar (isNumeralChar_of_mem hnumeral hc)
      refine ⟨Text.trim_eq_self_iff.mpr ⟨?_, ?_⟩, ne_nil_of_isNumeral hnumeral, ?_⟩
      · exact fun c hc => (hvisible c (List.mem_of_mem_head? hc)).1
      · exact fun c hc => (hvisible c (List.mem_of_mem_getLast? hc)).1
      · have hplain : Closed none (digits ++ []) :=
          closed_plain_append (fun c hc => (hvisible c hc).2) rfl
        rwa [List.append_nil] at hplain

theorem trim_name
    (h : written.IsPlain) :
    Text.trim written.name = written.name := by
  refine Text.trim_eq_self_iff.mpr ⟨?_, ?_⟩
  · exact fun c hc => (h.name_chars c (List.mem_of_mem_head? hc)).1
  · exact fun c hc => (h.name_chars c (List.mem_of_mem_getLast? hc)).1

theorem trim_text
    (h : written.IsPlain) :
    Text.trim written.text = written.text := by
  obtain ⟨htrim, hne, -⟩ := visible_text h.value
  refine Text.trim_eq_self_iff.mpr ⟨?_, ?_⟩
  · intro c hc
    rw [WrittenAssignment.text, List.head?_append_of_ne_nil _ h.name_ne_nil] at hc
    exact (h.name_chars c (List.mem_of_mem_head? hc)).1
  · intro c hc
    obtain ⟨d, rest, hcons⟩ := List.exists_cons_of_ne_nil hne
    rw [WrittenAssignment.text, List.getLast?_append_of_ne_nil _ (List.cons_ne_nil _ _), hcons,
      List.getLast?_cons_cons, ← hcons] at hc
    exact (Text.trim_eq_self_iff.mp htrim).2 c hc

theorem closed_text
    (h : written.IsPlain) :
    Closed none written.text := by
  refine closed_plain_append (fun c hc => (h.name_chars c hc).2) ⟨by decide, ?_⟩
  exact (visible_text h.value).2.2

/-- Quotation marks are removed from a text between them, and from nothing else. -/
theorem unquote_text
    (h : value.IsPlain) :
    match value with
    | .quoted _ inner => Text.unquote value.text = inner
    | .numeral digits => Text.unquote value.text = digits := by
  cases h with
  | @quoted quote inner hquote hclosed hquiet =>
      simp [WrittenValue.text, Text.unquote, hquote]
  | @numeral digits hnumeral =>
      refine Header.unquote_eq_self ?_
      rintro q inner hq rfl
      have hmark := (visible_of_isNumeralChar (isNumeralChar_of_mem hnumeral List.mem_cons_self)).2
      rcases hq with rfl | rfl <;> exact hmark (by decide)

/-- A written assignment is read as it is. -/
theorem ofItem?_text
    (h : written.IsPlain) :
    ofItem? written.text = some written.assignment := by
  obtain ⟨name, value⟩ := written
  have hequals : '=' ∉ name := fun hmem => (h.name_chars '=' hmem).2 (by decide)
  have hname : Text.trim name = name := trim_name h
  have hne : name.isEmpty = false := by
    simpa using h.name_ne_nil
  obtain ⟨htrim, -, -⟩ := visible_text h.value
  have hunquote := unquote_text h.value
  rw [WrittenAssignment.text, ofItem?, Header.cut_append _ hequals]
  dsimp only
  rw [hname, hne, htrim]
  cases h.value with
  | @quoted quote inner hquote hclosed hquiet =>
      dsimp only at hunquote
      have hshorter : inner ≠ WrittenValue.text (.quoted quote inner) := by
        intro heq
        have hlength := congrArg List.length heq
        simp [WrittenValue.text] at hlength
        omega
      rw [hunquote, if_neg hshorter]
      rfl
  | @numeral digits hnumeral =>
      dsimp only at hunquote
      rw [hunquote]
      simp [WrittenValue.text, WrittenAssignment.assignment, hnumeral]

/-- The value of a number is a numeral. -/
def HasNumeral (a : Assignment) : Prop :=
  a.isNumber = true → isNumeral a.value = true

theorem hasNumeral_of_ofItem?
    {item : Text} {a : Assignment}
    (h : ofItem? item = some a) :
    HasNumeral a := by
  intro hnumber
  rw [ofItem?] at h
  split at h
  · cases h
  · dsimp only at h
    split at h
    · cases h
    · split at h
      · cases h
        exact hnumber
      · cases h
        cases hnumber

/-- What is read as a number is a numeral. -/
theorem hasNumeral_of_mem_parse
    {t : Text} {a : Assignment}
    (h : a ∈ parse t) :
    HasNumeral a := by
  obtain ⟨item, -, hitem⟩ := List.mem_filterMap.mp h
  split at hitem
  · cases hitem
  · exact hasNumeral_of_ofItem? hitem

/-- Written assignments between commas are read one by one. -/
theorem parse_join
    (first : WrittenAssignment) (others : List WrittenAssignment)
    (h : ∀ one ∈ first :: others, one.IsPlain) :
    parse (Text.join ", " ((first :: others).map WrittenAssignment.text)) =
      (first :: others).map WrittenAssignment.assignment := by
  have hitems : ∀ item ∈ (first :: others).map WrittenAssignment.text,
      Closed none item ∧ Text.trim item = item := by
    intro item hitem
    obtain ⟨one, hone, rfl⟩ := List.mem_map.mp hitem
    exact ⟨closed_text (h one hone), trim_text (h one hone)⟩
  rw [parse, List.map_cons, map_trim_splitItems_join _ _ hitems, ← List.map_cons, List.filterMap_map]
  have hread : ∀ one ∈ first :: others,
      (if (WrittenAssignment.text one).isEmpty then none else ofItem? one.text) =
        some one.assignment := by
    intro one hone
    rw [if_neg (by simp [WrittenAssignment.text]), ofItem?_text (h one hone)]
  rw [← List.filterMap_eq_map]
  exact List.filterMap_congr hread

end Items

section Lines

variable {written : WrittenAssignment}

/-- Where a blank and a colon stand in a text whose beginning has no colon. -/
theorem append_eq_append_colon
    {u t before more : Text} {b : Char}
    (hu : ':' ∉ u)
    (h : u ++ t = before ++ b :: ':' :: more) :
    (∃ later, t = later ++ b :: ':' :: more) ∨ (u.getLast? = some b ∧ t = ':' :: more) := by
  rcases List.append_eq_append_iff.mp h with ⟨later, rfl, ht⟩ | ⟨rest, hu', hrest⟩
  · exact Or.inl ⟨later, ht⟩
  · cases rest with
    | nil =>
        exact Or.inl ⟨[], by simpa using hrest.symm⟩
    | cons first rest =>
        cases rest with
        | nil =>
            simp only [List.cons_append, List.nil_append, List.cons.injEq] at hrest
            obtain ⟨rfl, rfl⟩ := hrest
            exact Or.inr ⟨by simp [hu'], rfl⟩
        | cons second rest =>
            simp only [List.cons_append, List.cons.injEq] at hrest
            obtain ⟨-, rfl, -⟩ := hrest
            exact absurd (by simp [hu']) hu

/-- A written assignment can stand in a header line. -/
theorem plainValue_text
    (h : written.IsPlain) :
    Header.PlainValue written.text := by
  obtain ⟨name, value⟩ := written
  obtain ⟨c, name, rfl⟩ := List.exists_cons_of_ne_nil h.name_ne_nil
  have hfirst := (h.name_chars c List.mem_cons_self).2
  have hcolon : ':' ∉ c :: name ++ ['='] := by
    intro hmem
    rcases List.mem_append.mp hmem with hname | hequals
    · exact (h.name_chars ':' hname).2 (by decide)
    · simp at hequals
  refine ⟨trim_text h, ?_, ?_, ?_⟩
  · rintro q inner hq heq
    obtain rfl : c = q := (List.cons.inj heq).1
    rcases hq with rfl | rfl <;> exact hfirst (by decide)
  · rintro d rest heq
    obtain rfl : c = ':' := (List.cons.inj heq).1
    exact absurd (by decide) hfirst
  · rintro before b d rest heq hblank
    cases h.value with
    | @quoted quote inner hquote hclosed hquiet =>
        have hquoteColon : ':' ∉ (c :: name ++ ['=']) ++ [quote] := by
          intro hmem
          rcases List.mem_append.mp hmem with hbefore | hlast
          · exact hcolon hbefore
          · rcases hquote with rfl | rfl <;> simp at hlast
        have htext : ((c :: name ++ ['=']) ++ [quote]) ++ (inner ++ [quote]) =
            before ++ b :: ':' :: d :: rest := by
          rw [← heq]
          simp [WrittenAssignment.text, WrittenValue.text]
        rcases append_eq_append_colon hquoteColon htext with ⟨later, hlater⟩ | ⟨hlast, -⟩
        · by_contra hletter
          have hholds : Header.HoldsArgument (inner ++ [quote]) :=
            ⟨later, b, d, rest, hlater, hblank, by simpa using hletter⟩
          have hmark : quote.isAlpha = false := by
            rcases hquote with rfl | rfl <;> rfl
          obtain ⟨before', b', c', rest', hinner, hb, hc⟩ := hholds.of_concat hmark
          rw [hquiet before' b' c' rest' hinner hb] at hc
          cases hc
        · rw [List.getLast?_concat, Option.some.injEq] at hlast
          subst hlast
          rcases hquote with rfl | rfl <;> exact absurd hblank (by decide)
    | @numeral digits hnumeral =>
        have hmem : ':' ∈ (c :: name ++ ['=']) ++ digits := by
          have htext : (c :: name ++ ['=']) ++ digits = before ++ b :: ':' :: d :: rest := by
            rw [← heq]
            simp [WrittenAssignment.text, WrittenValue.text]
          rw [htext]
          simp
        rcases List.mem_append.mp hmem with hbefore | hdigits
        · exact absurd hbefore hcolon
        · exact absurd (by decide)
            (visible_of_isNumeralChar (isNumeralChar_of_mem hnumeral hdigits)).2

/-- Variables that are read one after another are collected between commas. -/
theorem get?_addAll_variables
    {params : Params} {earlier : Text} (texts : List Text)
    (hearlier : params.get? Header.variableKey = some earlier)
    (hne : earlier ≠ []) :
    (Header.addAll params (texts.map (Prod.mk Header.variableKey))).get? Header.variableKey =
      some (Text.join ", " (earlier :: texts)) := by
  induction texts generalizing params earlier with
  | nil =>
      exact hearlier
  | cons text texts ih =>
      have hadd := Header.addArgument_variable_of_some text hearlier hne
      have hget : (Header.addArgument params Header.variableKey text).get? Header.variableKey =
          some (earlier ++ ", " ++ text) := by
        rw [hadd, Dictionary.get?_insert, if_pos rfl]
      have hjoin : Text.join ", " ((earlier ++ ", " ++ text) :: texts) =
          Text.join ", " (earlier :: text :: texts) := by
        rw [Text.join_cons_append]
        rfl
      rw [← hjoin]
      exact ih hget (by simp)

theorem headerText_cons
    (first : WrittenAssignment) (others : List WrittenAssignment) :
    WrittenAssignment.headerText (first :: others) =
      Header.argumentText (Header.variableKey, first.text) ++
        Header.argumentsText (others.map fun one => (Header.variableKey, one.text)) := by
  rw [← Header.join_argumentText, List.map_cons, List.map_map]
  rfl

end Lines

/-- **Variables survive the header line.**  Assignments that are written one by one are read back in order,
with their values and whether these are numbers. -/
theorem parse_variables
    (written : List WrittenAssignment)
    (hne : written ≠ [])
    (h : ∀ one ∈ written, one.IsPlain) :
    ((Header.parse (WrittenAssignment.headerText written)).get? Header.variableKey).map parse =
      some (written.map WrittenAssignment.assignment) := by
  obtain ⟨first, others, rfl⟩ := List.exists_cons_of_ne_nil hne
  have hkey : Header.isKey Header.variableKey = true := by
    decide
  have hkeys : ∀ argument ∈ (first :: others).map fun one => (Header.variableKey, one.text),
      Header.isKey argument.1 = true ∧ Header.PlainValue argument.2 := by
    intro argument hargument
    obtain ⟨one, hone, rfl⟩ := List.mem_map.mp hargument
    exact ⟨hkey, plainValue_text (h one hone)⟩
  have hfirst : (Header.addArgument Dictionary.empty Header.variableKey first.text).get?
      Header.variableKey = some first.text := by
    rw [Header.addArgument_variable_of_none _ rfl, Dictionary.get?_insert, if_pos rfl]
  have hcollected := get?_addAll_variables (others.map WrittenAssignment.text) hfirst
    (by simp [WrittenAssignment.text])
  rw [List.map_map] at hcollected
  rw [Header.parse_eq_addAll, headerText_cons, Header.arguments_argumentText_append _ _ hkeys]
  rw [← parse_join first others h]
  exact congrArg (Option.map parse) hcollected

/-- A text with a comma, an equals sign and the other quotation mark, and a number. -/
theorem parse_variables_comma_inside :
    ((Header.parse ":var a=\"x, b=\x27y\" :var n=-2.5e3").get? Header.variableKey).map parse =
      some [⟨"a", "x, b=\x27y", false⟩, ⟨"n", "-2.5e3", true⟩] := by
  refine parse_variables [⟨"a", .quoted '"' "x, b=\x27y"⟩, ⟨"n", .numeral "-2.5e3"⟩] (by decide) ?_
  simp only [List.forall_mem_cons]
  refine ⟨⟨by decide, WrittenAssignment.chars_of_all (by decide), .quoted (Or.inl rfl) (by decide) ?_⟩,
    ⟨by decide, WrittenAssignment.chars_of_all (by decide), .numeral (by decide)⟩, by simp⟩
  intro before b c rest hinner
  have hcolon : ':' ∈ ("x, b=\x27y" : Text) := by
    rw [hinner]
    simp
  exact absurd hcolon (by decide)

end Assignment
end Literate
