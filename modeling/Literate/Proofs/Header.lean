import Literate.Header
import Literate.Proofs.Dictionary
import Literate.Proofs.Text.Ascii
import Literate.Proofs.Text.Trimming

/-!
# Reading printed header arguments

Header arguments are printed as `:key value`, one after another with a space
between.  Reading them cuts the text exactly where the arguments were printed,
as long as no value looks like the beginning of an argument.

**Cutting.**  `fragments_append_argument` says that the fragments of a text that
ends before an argument and those of the argument are the fragments of both
together; `fragments_eq_singleton` that a text in which no argument begins is a
single fragment.

**Reading.**  `arguments` lists the keys and values that a text is read as, before
they are collected into a dictionary (`parse_eq_addAll`).

**Main statements.**
* `arguments_append`: the arguments of two texts one after the other.
* `nodup_keys_parse`: every key is read once.
* `arguments_printed`: printed arguments are read one by one, without the quotation
  marks around their values.
* `arguments_argumentsText`, `parse_arguments`: printed arguments with plain values
  are read back in their order.
-/

namespace Literate
namespace Header

section Fragments

theorem fragments_ne_nil
    (atStart : Bool) (t : Text) :
    fragments atStart t ≠ [] := by
  cases t with
  | nil =>
      simp [fragments]
  | cons c cs =>
      unfold fragments
      split
      · simp
      · split <;> simp

theorem fragments_colon
    {t : Text}
    (h : startsWithLetter t = true) :
    fragments true (':' :: t) = [] :: fragments false t := by
  simp [fragments, h]

theorem fragments_cons
    {atStart : Bool} {c : Char} {t piece : Text} {pieces : List Text}
    (hquiet : ¬ (c = ':' ∧ atStart = true ∧ startsWithLetter t = true))
    (h : fragments (Text.isBlank c) t = piece :: pieces) :
    fragments atStart (c :: t) = (c :: piece) :: pieces := by
  rw [fragments, if_neg hquiet, h]

theorem startsWithLetter_append_cons
    (u : Text) (b : Char) (t : Text) :
    startsWithLetter (u ++ b :: t) = startsWithLetter (u ++ [b]) := by
  cases u with
  | nil =>
      rfl
  | cons c u =>
      rfl

/-- A text is cut before every argument that follows a blank. -/
theorem fragments_append_argument
    (atStart : Bool) (u : Text) {b : Char} {t : Text}
    (hb : Text.isBlank b = true)
    (ht : startsWithLetter t = true) :
    fragments atStart (u ++ b :: ':' :: t) =
      fragments atStart (u ++ [b]) ++ fragments false t := by
  induction u generalizing atStart with
  | nil =>
      have hcolon : b ≠ ':' := by
        rintro rfl
        simp [Text.isBlank_eq_false_of_toNat] at hb
      have hafter : fragments (Text.isBlank b) (':' :: t) = [] :: fragments false t := by
        rw [hb, fragments_colon ht]
      rw [List.nil_append, List.nil_append, fragments_cons (by simp [hcolon]) hafter]
      simp [fragments, hcolon]
  | cons c u ih =>
      have hsame := startsWithLetter_append_cons u b (':' :: t)
      by_cases hstart : c = ':' ∧ atStart = true ∧ startsWithLetter (u ++ [b]) = true
      · obtain ⟨rfl, rfl, hletter⟩ := hstart
        rw [List.cons_append, List.cons_append, fragments_colon (hsame ▸ hletter),
          fragments_colon hletter, ih]
        rfl
      · obtain ⟨piece, pieces, hpieces⟩ :=
          List.exists_cons_of_ne_nil (fragments_ne_nil (Text.isBlank c) (u ++ [b]))
        have hboth := ih (Text.isBlank c)
        rw [hpieces, List.cons_append] at hboth
        rw [List.cons_append, List.cons_append, fragments_cons (hsame ▸ hstart) hboth,
          fragments_cons hstart hpieces, List.cons_append]

/-- No argument begins in a text.  `atStart` says that one may begin with its first character. -/
def Quiet : Bool → Text → Prop
  | _, [] => True
  | atStart, c :: t =>
      ¬ (c = ':' ∧ atStart = true ∧ startsWithLetter t = true) ∧ Quiet (Text.isBlank c) t

/-- A text in which no argument begins is a single fragment. -/
theorem fragments_eq_singleton
    {atStart : Bool} {t : Text}
    (h : Quiet atStart t) :
    fragments atStart t = [t] := by
  induction t generalizing atStart with
  | nil =>
      rfl
  | cons c t ih =>
      exact fragments_cons h.1 (ih h.2)

/-- Text that holds no colon at all changes nothing but what stands before the rest. -/
theorem quiet_append
    {atStart : Bool} {u t : Text}
    (hu : ':' ∉ u)
    (hne : u ≠ [])
    (h : Quiet (u.getLast?.any Text.isBlank) t) :
    Quiet atStart (u ++ t) := by
  induction u generalizing atStart with
  | nil =>
      exact absurd rfl hne
  | cons c u ih =>
      simp only [List.mem_cons, not_or] at hu
      refine ⟨fun hstart => hu.1 hstart.1.symm, ?_⟩
      cases u with
      | nil =>
          simpa using h
      | cons d u =>
          exact ih hu.2 (by simp) (by simpa [List.getLast?_cons_cons] using h)

/-- A text is quiet when no argument begins with it or after one of its blanks. -/
theorem quiet_of_forall
    {atStart : Bool} {t : Text}
    (hstart : atStart = true → ∀ c rest, t = ':' :: c :: rest → c.isAlpha = false)
    (hinner : ∀ before b c rest,
      t = before ++ b :: ':' :: c :: rest → Text.isBlank b = true → c.isAlpha = false) :
    Quiet atStart t := by
  induction t generalizing atStart with
  | nil =>
      trivial
  | cons c t ih =>
      refine ⟨?_, ih ?_ ?_⟩
      · rintro ⟨rfl, hflag, hletter⟩
        cases t with
        | nil =>
            cases hletter
        | cons d t =>
            rw [startsWithLetter, hstart hflag d t rfl] at hletter
            cases hletter
      · rintro hblank d rest rfl
        exact hinner [] c d rest rfl hblank
      · rintro before b d rest rfl hblank
        exact hinner (c :: before) b d rest rfl hblank

/-- An argument begins inside a value: it holds a blank, a colon and a letter one after another. -/
def HoldsArgument (value : Text) : Prop :=
  ∃ before b c rest,
    value = before ++ b :: ':' :: c :: rest ∧ Text.isBlank b = true ∧ c.isAlpha = true

/-- A character that is no letter does not complete an argument. -/
theorem HoldsArgument.of_concat
    {value : Text} {q : Char}
    (h : HoldsArgument (value ++ [q]))
    (hq : q.isAlpha = false) :
    HoldsArgument value := by
  obtain ⟨before, b, c, rest, htext, hb, hc⟩ := h
  rcases List.eq_nil_or_concat rest with rfl | ⟨rest, last, rfl⟩
  · have hend := congrArg List.getLast? htext
    simp only [List.getLast?_append, List.getLast?_cons_cons, List.getLast?_singleton,
      Option.some_or, Option.some.injEq] at hend
    rw [← hend, hq] at hc
    cases hc
  · have hsplit : value ++ [q] = (before ++ b :: ':' :: c :: rest) ++ [last] := by
      rw [htext]
      simp
    exact ⟨before, b, c, rest, (List.append_inj' hsplit rfl).1, hb, hc⟩

end Fragments

section Blanks

theorem startsWithLetter_append_blanks
    (t : Text) {blanks : Text}
    (h : ∀ c ∈ blanks, Text.isBlank c = true) :
    startsWithLetter (t ++ blanks) = startsWithLetter t := by
  cases t with
  | nil =>
      cases blanks with
      | nil =>
          rfl
      | cons b blanks =>
          exact Text.isAlpha_eq_false_of_isBlank (h b (by simp))
  | cons c t =>
      rfl

theorem quiet_blanks
    {atStart : Bool} {blanks : Text}
    (h : ∀ c ∈ blanks, Text.isBlank c = true) :
    Quiet atStart blanks := by
  apply quiet_of_forall
  · rintro - c rest rfl
    have hcolon := h ':' (by simp)
    simp [Text.isBlank_eq_false_of_toNat] at hcolon
  · rintro before b c rest rfl -
    have hcolon := h ':' (by simp)
    simp [Text.isBlank_eq_false_of_toNat] at hcolon

/-- Blanks at the end of a text go to its last fragment. -/
theorem exists_fragments_append_blanks
    (atStart : Bool) (t : Text) {blanks : Text}
    (h : ∀ c ∈ blanks, Text.isBlank c = true) :
    ∃ earlier last,
      fragments atStart t = earlier ++ [last] ∧
      fragments atStart (t ++ blanks) = earlier ++ [last ++ blanks] := by
  induction t generalizing atStart with
  | nil =>
      exact ⟨[], [], rfl, fragments_eq_singleton (quiet_blanks h)⟩
  | cons c t ih =>
      have hsame := startsWithLetter_append_blanks t h
      by_cases hstart : c = ':' ∧ atStart = true ∧ startsWithLetter t = true
      · obtain ⟨rfl, rfl, hletter⟩ := hstart
        obtain ⟨earlier, last, hplain, hblanks⟩ := ih false
        refine ⟨[] :: earlier, last, ?_, ?_⟩
        · rw [fragments_colon hletter, hplain, List.cons_append]
        · rw [List.cons_append, fragments_colon (hsame ▸ hletter), hblanks, List.cons_append]
      · obtain ⟨earlier, last, hplain, hblanks⟩ := ih (Text.isBlank c)
        cases earlier with
        | nil =>
            exact ⟨[], c :: last, fragments_cons hstart hplain,
              fragments_cons (hsame.symm ▸ hstart) hblanks⟩
        | cons piece earlier =>
            exact ⟨(c :: piece) :: earlier, last, fragments_cons hstart hplain,
              fragments_cons (hsame.symm ▸ hstart) hblanks⟩

end Blanks

section Reading

/-- The key and the value that a fragment is read as; a blank one is passed over. -/
def read? (fragment : Text) : Option (Text × Text) :=
  match Text.trim fragment with
  | [] => none
  | c :: cs => some (argument (c :: cs))

/-- The arguments that a text is read as, in order.  What stands before the first colon is one of them. -/
def arguments (t : Text) : List (Text × Text) :=
  (fragments true (Text.trim t)).filterMap read?

/-- The header arguments after several more have been read. -/
def addAll (params : Params) (arguments : List (Text × Text)) : Params :=
  arguments.foldl (fun params argument => addArgument params argument.1 argument.2) params

theorem foldl_addFragment
    (params : Params) (pieces : List Text) :
    pieces.foldl addFragment params = addAll params (pieces.filterMap read?) := by
  induction pieces generalizing params with
  | nil =>
      rfl
  | cons piece pieces ih =>
      rw [List.foldl_cons, ih, addFragment, List.filterMap_cons, read?]
      cases Text.trim piece <;> rfl

/-- Reading a text is reading its arguments one by one. -/
theorem parse_eq_addAll
    (t : Text) :
    parse t = addAll Dictionary.empty (arguments t) :=
  foldl_addFragment _ _

theorem filterMap_read?_append_blanks
    (atStart : Bool) (t : Text) {blanks : Text}
    (h : ∀ c ∈ blanks, Text.isBlank c = true) :
    (fragments atStart (t ++ blanks)).filterMap read? = (fragments atStart t).filterMap read? := by
  obtain ⟨earlier, last, hplain, hwith⟩ := exists_fragments_append_blanks atStart t h
  have hlast : read? (last ++ blanks) = read? last := by
    rw [read?, read?, Text.trim_append_blanks last h]
  rw [hplain, hwith, List.filterMap_append, List.filterMap_append, List.filterMap_cons,
    List.filterMap_cons, hlast]

/-- Blanks at the end of the text do not matter. -/
theorem arguments_eq_filterMap_trimLeft
    (t : Text) :
    arguments t = (fragments true (Text.trimLeft t)).filterMap read? := by
  obtain ⟨blanks, hblanks, ht⟩ := Text.exists_trimRight_append (Text.trimLeft t)
  rw [show Text.trimLeft t = Text.trim t ++ blanks from ht,
    filterMap_read?_append_blanks _ _ hblanks]
  rfl

theorem arguments_colon
    {t : Text}
    (h : startsWithLetter t = true) :
    arguments (':' :: t) = (fragments false t).filterMap read? := by
  have hcolon : Text.isBlank ':' = false := by
    decide
  rw [arguments_eq_filterMap_trimLeft, Text.trimLeft_cons _ hcolon, fragments_colon h]
  rfl

/-- The arguments of two texts, the second of which begins with an argument, are those of each. -/
theorem arguments_append
    (t : Text) {u : Text}
    (h : startsWithLetter u = true) :
    arguments (t ++ ' ' :: ':' :: u) = arguments t ++ arguments (':' :: u) := by
  have hcolon : Text.isBlank ':' = false := by
    decide
  by_cases hblank : ∀ c ∈ t, Text.isBlank c = true
  · -- the seam is at the beginning of what is read
    have hblanks : ∀ c ∈ t ++ [' '], Text.isBlank c = true := by
      simpa [or_imp, forall_and, Text.isBlank_space] using hblank
    have hnone : arguments t = [] := by
      rw [arguments_eq_filterMap_trimLeft, show Text.trimLeft t = [] from
        List.dropWhile_eq_nil_iff.mpr hblank]
      rfl
    have htext : t ++ ' ' :: ':' :: u = (t ++ [' ']) ++ ':' :: u := by
      simp
    rw [hnone, htext, arguments_eq_filterMap_trimLeft, Text.trimLeft_blanks_append _ hblanks,
      ← arguments_eq_filterMap_trimLeft, List.nil_append]
  · have hspace : ∀ c ∈ [' '], Text.isBlank c = true := by
      simp [Text.isBlank_space]
    rw [arguments_eq_filterMap_trimLeft, Text.trimLeft_append _ hblank,
      fragments_append_argument true _ Text.isBlank_space h, List.filterMap_append,
      filterMap_read?_append_blanks _ _ hspace, ← arguments_eq_filterMap_trimLeft,
      ← arguments_colon h]

end Reading

section Keys

theorem nodup_keys_addArgument
    {params : Params} (key value : Text)
    (h : params.keys.Nodup) :
    (addArgument params key value).keys.Nodup := by
  unfold addArgument
  split
  · split <;> exact Dictionary.nodup_keys_insert _ _ h
  · exact Dictionary.nodup_keys_insert _ _ h

theorem nodup_keys_addAll
    {params : Params} (arguments : List (Text × Text))
    (h : params.keys.Nodup) :
    (addAll params arguments).keys.Nodup := by
  induction arguments generalizing params with
  | nil =>
      exact h
  | cons argument rest ih =>
      exact ih (nodup_keys_addArgument argument.1 argument.2 h)

/-- Every key is read once. -/
theorem nodup_keys_parse
    (t : Text) :
    (parse t).keys.Nodup := by
  rw [parse_eq_addAll]
  exact nodup_keys_addAll _ List.nodup_nil

end Keys

section Printing

/-- Whether a text is a key: a small ASCII letter and then small letters, digits and hyphens. -/
def isKey : Text → Bool
  | [] => false
  | c :: cs => c.isLower && cs.all fun d => d.isLower || d.isDigit || d == '-'

/-- A value that can be printed as it is. -/
structure PlainValue (value : Text) : Prop where
  /-- It neither begins nor ends with a blank. -/
  trimmed : Text.trim value = value
  /-- It does not stand between equal quotation marks. -/
  unquoted : ∀ q inner, q = '"' ∨ q = '\x27' → value ≠ q :: (inner ++ [q])
  /-- It does not begin like an argument. -/
  start : ∀ c rest, value = ':' :: c :: rest → c.isAlpha = false
  /-- No blank of it is followed by what begins like an argument. -/
  inner : ∀ before b c rest,
    value = before ++ b :: ':' :: c :: rest → Text.isBlank b = true → c.isAlpha = false

/-- An argument as it is printed. -/
def argumentText (argument : Text × Text) : Text :=
  ':' :: (argument.1 ++ ' ' :: argument.2)

/-- Arguments as they are printed, each after a space. -/
def argumentsText (arguments : List (Text × Text)) : Text :=
  arguments.flatMap fun argument => ' ' :: argumentText argument

/-- The code points of the characters of a key. -/
theorem toNat_of_mem_key
    {key : Text} {c : Char}
    (h : isKey key = true)
    (hc : c ∈ key) :
    c.toNat = 45 ∨ (48 ≤ c.toNat ∧ c.toNat ≤ 57) ∨ (97 ≤ c.toNat ∧ c.toNat ≤ 122) := by
  cases key with
  | nil =>
      simp at hc
  | cons first rest =>
      simp only [isKey, Bool.and_eq_true, List.all_eq_true, Bool.or_eq_true, beq_iff_eq] at h
      rcases List.mem_cons.mp hc with rfl | hmem
      · exact Or.inr (Or.inr (Text.toNat_of_isLower h.1))
      · rcases h.2 c hmem with (hlower | hdigit) | rfl
        · exact Or.inr (Or.inr (Text.toNat_of_isLower hlower))
        · exact Or.inr (Or.inl (Text.toNat_of_isDigit hdigit))
        · exact Or.inl rfl

theorem not_mem_key
    {key : Text} {c : Char}
    (h : isKey key = true)
    (hc : c.toNat = 58 ∨ c.toNat = 32) :
    c ∉ key := by
  intro hmem
  have hcodes := toNat_of_mem_key h hmem
  omega

theorem key_ne_nil
    {key : Text}
    (h : isKey key = true) :
    key ≠ [] := by
  rintro rfl
  cases h

theorem isBlank_eq_false_of_mem_key
    {key : Text} {c : Char}
    (h : isKey key = true)
    (hc : c ∈ key) :
    Text.isBlank c = false := by
  have hcodes := toNat_of_mem_key h hc
  exact Text.isBlank_eq_false_of_toNat (by omega) (by omega)

theorem trim_key
    {key : Text}
    (h : isKey key = true) :
    Text.trim key = key := by
  refine Text.trim_eq_self_iff.mpr ⟨?_, ?_⟩
  · intro c hc
    exact isBlank_eq_false_of_mem_key h (List.mem_of_mem_head? hc)
  · intro c hc
    exact isBlank_eq_false_of_mem_key h (List.mem_of_mem_getLast? hc)

theorem lower_key
    {key : Text}
    (h : isKey key = true) :
    Text.lower key = key := by
  apply Text.lower_eq_self
  intro c hc
  have hcodes := toNat_of_mem_key h hc
  omega

theorem startsWithLetter_key
    {key : Text} (t : Text)
    (h : isKey key = true) :
    startsWithLetter (key ++ t) = true := by
  cases key with
  | nil =>
      cases h
  | cons c key =>
      simp only [isKey, Bool.and_eq_true] at h
      have hletter : (c.isUpper || c.isLower) = true := by
        rw [h.1, Bool.or_true]
      exact hletter

theorem cut_append
    {sep : Char} {u : Text} (t : Text)
    (h : sep ∉ u) :
    Text.cut sep (u ++ sep :: t) = (u, some t) := by
  induction u with
  | nil =>
      simp [Text.cut]
  | cons c u ih =>
      simp only [List.mem_cons, not_or] at h
      simp [Text.cut, Ne.symm h.1, ih h.2]

theorem cut_of_not_mem
    {sep : Char} {u : Text}
    (h : sep ∉ u) :
    Text.cut sep u = (u, none) := by
  induction u with
  | nil =>
      rfl
  | cons c u ih =>
      simp only [List.mem_cons, not_or] at h
      simp [Text.cut, Ne.symm h.1, ih h.2]

theorem unquote_eq_self
    {value : Text}
    (h : ∀ q inner, q = '"' ∨ q = '\x27' → value ≠ q :: (inner ++ [q])) :
    Text.unquote value = value := by
  cases value with
  | nil =>
      rfl
  | cons q rest =>
      rw [Text.unquote, if_neg]
      rintro ⟨hq, hlast⟩
      have hrest := List.dropLast_append_getLast? q hlast
      exact h q rest.dropLast hq (by rw [hrest])

/-- The fragment of a printed argument is read as its key and its value without quotation marks. -/
theorem read?_keyed
    {key value : Text}
    (hkey : isKey key = true)
    (htrimmed : Text.trim value = value) :
    read? (key ++ ' ' :: value) = some (key, Text.unquote value) := by
  have hspace : ' ' ∉ key := not_mem_key hkey (Or.inr rfl)
  obtain ⟨c, rest, hsplit⟩ := List.exists_cons_of_ne_nil (key_ne_nil hkey)
  by_cases hempty : value = []
  · have htrim : Text.trim (key ++ [' ']) = c :: rest := by
      rw [Text.trim_append_blanks key (by simp [Text.isBlank_space]), trim_key hkey, hsplit]
    have hargument : argument (c :: rest) = (key, []) := by
      rw [← hsplit, argument, cut_of_not_mem hspace]
      dsimp only
      rw [trim_key hkey, lower_key hkey]
      rfl
    subst hempty
    rw [read?, htrim]
    simp only [hargument]
    rfl
  · have htrim : Text.trim (key ++ ' ' :: value) = c :: (rest ++ ' ' :: value) := by
      rw [← List.cons_append, ← hsplit, Text.trim_eq_self_iff]
      have hlast := (Text.trim_eq_self_iff.mp htrimmed).2
      constructor
      · intro d hd
        rw [List.head?_append_of_ne_nil _ (key_ne_nil hkey)] at hd
        exact isBlank_eq_false_of_mem_key hkey (List.mem_of_mem_head? hd)
      · intro d hd
        obtain ⟨e, es, hcons⟩ := List.exists_cons_of_ne_nil hempty
        rw [List.getLast?_append_of_ne_nil _ (List.cons_ne_nil _ _), hcons,
          List.getLast?_cons_cons, ← hcons] at hd
        exact hlast d hd
    have hargument : argument (c :: (rest ++ ' ' :: value)) = (key, Text.unquote value) := by
      rw [← List.cons_append, ← hsplit, argument, cut_append value hspace]
      dsimp only
      rw [trim_key hkey, lower_key hkey, Option.getD_some, htrimmed]
    rw [read?, htrim]
    simp only [hargument]

theorem quiet_keyed
    {key value : Text}
    (hkey : isKey key = true)
    (hquiet : Quiet true value) :
    Quiet false (key ++ ' ' :: value) := by
  have hcolon : ':' ∉ key ++ [' '] := by
    simp [not_mem_key hkey]
  have happend : Quiet false (key ++ [' '] ++ value) :=
    quiet_append hcolon (by simp) (by simpa [Text.isBlank_space] using hquiet)
  simpa using happend

/-- A value that stays in one piece when it is printed. -/
structure WholeValue (value : Text) : Prop where
  /-- It neither begins nor ends with a blank. -/
  trimmed : Text.trim value = value
  /-- No argument begins in it. -/
  quiet : Quiet true value

theorem PlainValue.whole
    {value : Text}
    (h : PlainValue value) :
    WholeValue value :=
  ⟨h.trimmed, quiet_of_forall (fun _ => h.start) h.inner⟩

/-- What a printed argument is read as. -/
def unquoted (argument : Text × Text) : Text × Text :=
  (argument.1, Text.unquote argument.2)

/-- A printed argument is read as its key and its value without quotation marks. -/
theorem arguments_argumentText
    {argument : Text × Text}
    (hkey : isKey argument.1 = true)
    (hvalue : WholeValue argument.2) :
    arguments (argumentText argument) = [unquoted argument] := by
  rw [argumentText, arguments_colon (startsWithLetter_key _ hkey),
    fragments_eq_singleton (quiet_keyed hkey hvalue.quiet), List.filterMap_cons,
    read?_keyed hkey hvalue.trimmed]
  rfl

theorem argumentsText_cons
    (argument : Text × Text) (others : List (Text × Text)) :
    argumentsText (argument :: others) =
      ' ' :: ':' :: (argument.1 ++ (' ' :: argument.2 ++ argumentsText others)) := by
  simp [argumentsText, argumentText]

theorem join_argumentText
    (argument : Text × Text) (others : List (Text × Text)) :
    Text.join " " ((argument :: others).map argumentText) =
      argumentText argument ++ argumentsText others := by
  induction others generalizing argument with
  | nil =>
      simp [Text.join, argumentsText]
  | cons next others ih =>
      have hrest := ih next
      simp only [List.map_cons] at hrest ⊢
      rw [Text.join, hrest]
      simp [argumentsText]

/-- Printed arguments are read one by one, whether their keys are distinct or not. -/
theorem arguments_printed
    (argument : Text × Text) (others : List (Text × Text))
    (h : ∀ other ∈ argument :: others, isKey other.1 = true ∧ WholeValue other.2) :
    arguments (argumentText argument ++ argumentsText others) =
      (argument :: others).map unquoted := by
  induction others generalizing argument with
  | nil =>
      obtain ⟨hkey, hvalue⟩ := h argument (by simp)
      rw [argumentsText, List.flatMap_nil, List.append_nil, arguments_argumentText hkey hvalue]
      rfl
  | cons next others ih =>
      simp only [List.forall_mem_cons] at h
      obtain ⟨⟨hkey, hvalue⟩, hnext, hothers⟩ := h
      have hrest := ih next (List.forall_mem_cons.mpr ⟨hnext, hothers⟩)
      rw [argumentText, List.cons_append, List.append_assoc] at hrest
      rw [argumentsText_cons, arguments_append _ (startsWithLetter_key _ hnext.1),
        arguments_argumentText hkey hvalue, hrest]
      rfl

/-- Printed arguments with plain values are read as they are. -/
theorem arguments_argumentText_append
    (argument : Text × Text) (others : List (Text × Text))
    (h : ∀ other ∈ argument :: others, isKey other.1 = true ∧ PlainValue other.2) :
    arguments (argumentText argument ++ argumentsText others) = argument :: others := by
  have hsame : ∀ other ∈ argument :: others, unquoted other = other := by
    intro other hother
    rw [unquoted, unquote_eq_self (h other hother).2.unquoted]
  rw [arguments_printed argument others fun other hother => (h other hother).imp_right
    PlainValue.whole, List.map_congr_left hsame, List.map_id']

theorem arguments_argumentsText
    {printed : List (Text × Text)}
    (h : ∀ argument ∈ printed, isKey argument.1 = true ∧ PlainValue argument.2) :
    arguments (argumentsText printed) = printed := by
  cases printed with
  | nil =>
      rfl
  | cons argument others =>
      have hread := arguments_argumentText_append argument others h
      have hletter := startsWithLetter_key (' ' :: argument.2 ++ argumentsText others)
        (h argument (by simp)).1
      have happend := arguments_append [] hletter
      rw [argumentText, List.cons_append, List.append_assoc] at hread
      rw [hread, List.nil_append] at happend
      rw [argumentsText_cons, happend]
      rfl

/-- An argument with a new key comes last. -/
theorem addArgument_of_not_mem
    {params : Params} {key : Text} (value : Text)
    (h : key ∉ params.keys) :
    addArgument params key value = ⟨params.entries ++ [(key, value)]⟩ := by
  have hinsert := Dictionary.insert_of_not_mem value h
  unfold addArgument
  split
  · rename_i c earlier hvariable
    have hother : key ≠ variableKey := by
      rintro rfl
      rw [Dictionary.get?_eq_none_iff.mpr h] at hvariable
      cases hvariable
    rw [if_neg hother, hinsert]
  · exact hinsert

/-- Arguments with new and distinct keys come last as they stand. -/
theorem addAll_of_nodup
    {params : Params} {arguments : List (Text × Text)}
    (h : (params.keys ++ arguments.map Prod.fst).Nodup) :
    addAll params arguments = ⟨params.entries ++ arguments⟩ := by
  induction arguments generalizing params with
  | nil =>
      simp [addAll]
  | cons argument rest ih =>
      have hnew : argument.1 ∉ params.keys := by
        intro hmem
        have hdisjoint := (List.nodup_append.mp h).2.2
        exact hdisjoint argument.1 hmem argument.1 (by simp) rfl
      have hrest := @ih (addArgument params argument.1 argument.2) (by
        rw [addArgument_of_not_mem _ hnew]
        simpa [Dictionary.keys] using h)
      rw [addArgument_of_not_mem _ hnew] at hrest
      simpa [addAll, addArgument_of_not_mem _ hnew] using hrest

/-- Printed arguments are read back in their order. -/
theorem parse_arguments
    {arguments : List (Text × Text)}
    (h : ∀ argument ∈ arguments, isKey argument.1 = true ∧ PlainValue argument.2)
    (hdistinct : (arguments.map Prod.fst).Nodup) :
    parse (argumentsText arguments) = ⟨arguments⟩ := by
  rw [parse_eq_addAll, arguments_argumentsText h]
  exact addAll_of_nodup hdistinct

end Printing

end Header
end Literate
