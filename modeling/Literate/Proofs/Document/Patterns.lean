import Literate.Proofs.Document.Escaping

/-!
# Patterns of lines

A line is recognised by patterns that are tried in a fixed order.  The order does
not matter for what follows: the first character of a line that is not blank
tells headings, drawer lines and keywords apart, and the letters after it tell
the kinds of keyword apart.

**Marks.**  The mark of a line is its first character that is not blank: a star
for headings, a colon for drawer lines, a hash sign for keywords.

**Main statements.**
* `classify_of_colon`, `classify_of_hash`: the class of a line with a given mark.
* `classify_eq_heading_iff` and its companions: a line has a class exactly when it
  matches the pattern of the class.
* `isHeading_eq` and its companions: the patterns as functions of the class.
* `isBlockEnd_exclusive`: the end of a block matches none of the patterns of
  headings, drawers, names and beginnings.
-/

namespace Literate

namespace Text

theorem toLower_of_isFormOf
    {key c : Char}
    (hkey : key.toLower = key)
    (hplain : letterVariants.lookup key = none)
    (h : isFormOf key c = true) :
    c.toLower = key := by
  have hform : c = key ∨ c.toLower = key := by
    simpa [isFormOf, hplain] using h
  rcases hform with rfl | hlower
  · exact hkey
  · exact hlower

theorem length_of_isKeyword
    {key t : Text}
    (h : isKeyword key t = true) :
    t.length = key.length := by
  have hdrop : dropKeyword? key t = some [] := beq_iff_eq.mp h
  clear h
  induction key generalizing t with
  | nil =>
      cases hdrop
      rfl
  | cons k key ih =>
      cases t with
      | nil =>
          cases hdrop
      | cons c t =>
          rw [dropKeyword?] at hdrop
          split at hdrop
          · exact congrArg (· + 1) (ih hdrop)
          · cases hdrop

end Text

namespace Document

/-- Whether a line is a heading. -/
def isHeading (line : Text) : Bool :=
  (heading? line).isSome

/-- Whether a line opens a property drawer where there is a heading above. -/
def isDrawerOpen (line : Text) : Bool :=
  Text.isKeyword ":properties:" (Text.trim line)

/-- Whether a line closes a drawer. -/
def isDrawerClose (line : Text) : Bool :=
  Text.isKeyword ":end:" (Text.trim line)

/-- Whether a line is the first line of a block. -/
def isBlockBegin (line : Text) : Bool :=
  (blockBegin? line).isSome

/-- The name that a line gives to a block, empty when nothing follows the keyword. -/
def name? (line : Text) : Option Text :=
  (keyword? "#+name:" line).map Text.trim

/-- The first character of a line that is not blank. -/
def mark? (line : Text) : Option Char :=
  (Text.trimLeft line).head?

section Marks

variable {line : Text}

theorem mark?_of_heading?
    {heading : Nat × Text}
    (h : heading? line = some heading) :
    mark? line = some '*' := by
  cases line with
  | nil =>
      cases h
  | cons c line =>
      by_cases hc : c = '*'
      · subst hc
        rw [mark?, Text.trimLeft_cons _ (by decide)]
        rfl
      · simp [heading?, hc] at h

theorem mark?_of_keyword?
    {c : Char} {key rest : Text}
    (hc : c.toNat < 65)
    (h : keyword? (c :: key) line = some rest) :
    mark? line = some c := by
  obtain ⟨t, htrim, -⟩ := Text.exists_of_dropKeyword? hc h
  rw [mark?, htrim]
  rfl

theorem mark?_of_trim
    {c : Char} {key : Text}
    (hc : c.toNat < 65)
    (h : Text.isKeyword (c :: key) (Text.trim line) = true) :
    mark? line = some c := by
  obtain ⟨t, htrim, -⟩ := Text.exists_of_dropKeyword? hc (beq_iff_eq.mp h)
  obtain ⟨blanks, hblanks⟩ := Text.trimRight_isPrefix (Text.trimLeft line)
  change Text.trim line ++ blanks = Text.trimLeft line at hblanks
  rw [mark?, ← hblanks, htrim]
  rfl

theorem mark?_of_drawerArguments?
    {arguments : Option Text × Text}
    (h : drawerArguments? line = some arguments) :
    mark? line = some ':' := by
  unfold drawerArguments? at h
  split at h
  · rename_i rest hkeyword
    exact mark?_of_keyword? (by decide) hkeyword
  · cases h

theorem mark?_of_isKeyword
    (h : isKeyword line = true) :
    mark? line = some '#' := by
  unfold isKeyword at h
  unfold mark?
  cases htrim : Text.trimLeft line with
  | nil =>
      rw [htrim] at h
      cases h
  | cons c t =>
      rw [htrim] at h
      by_cases hc : '#' = c
      · rw [hc]
        rfl
      · simp [Text.dropPrefix?, hc] at h

theorem mark?_of_isAllBlank
    (h : Text.isAllBlank line = true) :
    mark? line = none := by
  have hnil : Text.trimLeft line = [] :=
    List.dropWhile_eq_nil_iff.mpr (List.all_eq_true.mp h)
  rw [mark?, hnil]
  rfl

/-- A line with a mark that is no hash sign is no keyword. -/
theorem keyword?_of_mark?
    (key : Text)
    (h : mark? line ≠ some '#') :
    keyword? ('#' :: key) line = none := by
  cases hkeyword : keyword? ('#' :: key) line with
  | none =>
      rfl
  | some rest =>
      exact absurd (mark?_of_keyword? (by decide) hkeyword) h

theorem heading?_of_mark?
    (h : mark? line ≠ some '*') :
    heading? line = none := by
  cases hheading : heading? line with
  | none =>
      rfl
  | some heading =>
      exact absurd (mark?_of_heading? hheading) h

theorem isDrawerOpen_of_mark?
    (h : mark? line ≠ some ':') :
    isDrawerOpen line = false :=
  Bool.eq_false_iff.mpr fun hopen => h (mark?_of_trim (by decide) hopen)

theorem isDrawerClose_of_mark?
    (h : mark? line ≠ some ':') :
    isDrawerClose line = false :=
  Bool.eq_false_iff.mpr fun hclose => h (mark?_of_trim (by decide) hclose)

theorem drawerArguments?_of_mark?
    (h : mark? line ≠ some ':') :
    drawerArguments? line = none := by
  cases harguments : drawerArguments? line with
  | none =>
      rfl
  | some arguments =>
      exact absurd (mark?_of_drawerArguments? harguments) h

theorem isKeyword_of_mark?
    (h : mark? line ≠ some '#') :
    isKeyword line = false :=
  Bool.eq_false_iff.mpr fun hkeyword => h (mark?_of_isKeyword hkeyword)

theorem blockBegin?_of_mark?
    (h : mark? line ≠ some '#') :
    blockBegin? line = none := by
  have hkeyword : keyword? "#+begin_src" line = none := keyword?_of_mark? "+begin_src" h
  rw [blockBegin?, hkeyword]

theorem isAllBlank_of_mark?
    {c : Char}
    (h : mark? line = some c) :
    Text.isAllBlank line = false := by
  rw [Bool.eq_false_iff]
  intro hblank
  rw [mark?_of_isAllBlank hblank] at h
  cases h

/-- Keywords with different letters in front do not match one line. -/
theorem keyword?_exclusive
    {a b : Char} {key other rest : Text}
    (ha : a.toLower = a ∧ Text.letterVariants.lookup a = none)
    (hb : b.toLower = b ∧ Text.letterVariants.lookup b = none)
    (hne : a ≠ b)
    (h : keyword? ('#' :: '+' :: a :: key) line = some rest) :
    keyword? ('#' :: '+' :: b :: other) line = none := by
  obtain ⟨t, htrim, hplus⟩ := Text.exists_of_dropKeyword? (by decide) h
  obtain ⟨u, rfl, hletter⟩ := Text.exists_of_dropKeyword? (by decide) hplus
  cases u with
  | nil =>
      cases hletter
  | cons c u =>
      rw [Text.dropKeyword?] at hletter
      split at hletter
      · rename_i hform
        have hform' : Text.isFormOf b c = false := by
          rw [Bool.eq_false_iff]
          intro hsecond
          exact hne ((Text.toLower_of_isFormOf ha.1 ha.2 hform).symm.trans
            (Text.toLower_of_isFormOf hb.1 hb.2 hsecond))
        rw [keyword?, htrim, Text.dropKeyword?, if_pos (by decide), Text.dropKeyword?, if_pos (by decide),
          Text.dropKeyword?, hform']
        rfl
      · cases hletter

end Marks

section Classes

variable {line : Text}

/-- What the class of a line tells about the line. -/
def Line.Fits (line : Text) : Line → Prop
  | .heading level title => heading? line = some (level, title)
  | .drawerOpen => isDrawerOpen line = true
  | .drawerClose => isDrawerClose line = true
  | .drawerArguments language arguments => drawerArguments? line = some (language, arguments)
  | .name value => name? line = some value
  | .blockBegin language rest => blockBegin? line = some (language, rest)
  | .keyword => isKeyword line = true ∧ name? line = none ∧ blockBegin? line = none
  | .blank => Text.isAllBlank line = true
  | .prose => isKeyword line = false ∧ Text.isAllBlank line = false

/-- The class of a line fits it. -/
theorem fits_classify
    (line : Text) :
    Line.Fits line (classify line) := by
  unfold classify
  split
  · rename_i level title hheading
    exact hheading
  · split
    · rename_i hopen
      exact hopen
    · split
      · rename_i hclose
        exact hclose
      · split
        · rename_i language arguments harguments
          exact harguments
        · split
          · rename_i value hname
            exact congrArg (Option.map Text.trim) hname
          · rename_i hname
            have hunnamed : name? line = none := congrArg (Option.map Text.trim) hname
            split
            · rename_i language rest hbegin
              exact hbegin
            · rename_i hbegin
              split
              · rename_i hkeyword
                exact ⟨hkeyword, hunnamed, hbegin⟩
              · rename_i hkeyword
                split
                · rename_i hblank
                  exact hblank
                · rename_i hblank
                  exact ⟨Bool.eq_false_iff.mpr hkeyword, Bool.eq_false_iff.mpr hblank⟩

/-- The class of a line whose mark is a colon. -/
theorem classify_of_colon
    (h : mark? line = some ':') :
    classify line =
      if isDrawerOpen line then .drawerOpen
      else if isDrawerClose line then .drawerClose
      else match drawerArguments? line with
      | some (language, arguments) => .drawerArguments language arguments
      | none => .prose := by
  have hhash : mark? line ≠ some '#' := by
    simp [h]
  have hname : keyword? "#+name:" line = none := keyword?_of_mark? "+name:" hhash
  simp only [classify, @heading?_of_mark? line (by simp [h]), hname, blockBegin?_of_mark? hhash,
    isKeyword_of_mark? hhash, isAllBlank_of_mark? h, Bool.false_eq_true, if_false]
  rfl

/-- The class of a line whose mark is a hash sign. -/
theorem classify_of_hash
    (h : mark? line = some '#') :
    classify line =
      match name? line with
      | some value => .name value
      | none =>
      match blockBegin? line with
      | some (language, rest) => .blockBegin language rest
      | none => if isKeyword line then .keyword else .prose := by
  have hcolon : mark? line ≠ some ':' := by
    simp [h]
  have hopen : Text.isKeyword ":properties:" (Text.trim line) = false := isDrawerOpen_of_mark? hcolon
  have hclose : Text.isKeyword ":end:" (Text.trim line) = false := isDrawerClose_of_mark? hcolon
  simp only [classify, @heading?_of_mark? line (by simp [h]), hopen, hclose,
    drawerArguments?_of_mark? hcolon, isAllBlank_of_mark? h, Bool.false_eq_true, if_false, name?]
  cases keyword? "#+name:" line <;> rfl

theorem classify_eq_heading_iff
    {level : Nat} {title : Text} :
    classify line = .heading level title ↔ heading? line = some (level, title) := by
  constructor
  · intro h
    exact (h ▸ fits_classify line : Line.Fits line (.heading level title))
  · intro h
    simp only [classify, h]

theorem classify_eq_drawerOpen_iff :
    classify line = .drawerOpen ↔ isDrawerOpen line = true := by
  constructor
  · intro h
    exact (h ▸ fits_classify line : Line.Fits line .drawerOpen)
  · intro h
    rw [classify_of_colon (mark?_of_trim (by decide) h), if_pos h]

theorem classify_eq_drawerClose_iff :
    classify line = .drawerClose ↔ isDrawerClose line = true := by
  constructor
  · intro h
    exact (h ▸ fits_classify line : Line.Fits line .drawerClose)
  · intro h
    have hopen : ¬ isDrawerOpen line = true := by
      intro hopen
      have hlength := (Text.length_of_isKeyword hopen).symm.trans (Text.length_of_isKeyword h)
      revert hlength
      decide
    rw [classify_of_colon (mark?_of_trim (by decide) h), if_neg hopen, if_pos h]

theorem mark?_of_name?
    {value : Text}
    (h : name? line = some value) :
    mark? line = some '#' := by
  obtain ⟨rest, hkeyword, -⟩ := Option.map_eq_some_iff.mp h
  exact mark?_of_keyword? (by decide) hkeyword

theorem exists_keyword?_of_blockBegin?
    {found : Text × Text}
    (h : blockBegin? line = some found) :
    ∃ rest, keyword? "#+begin_src" line = some rest := by
  unfold blockBegin? at h
  split at h
  · cases h
  · rename_i rest hkeyword
    exact ⟨rest, hkeyword⟩

theorem classify_eq_name_iff
    {value : Text} :
    classify line = .name value ↔ name? line = some value := by
  constructor
  · intro h
    exact (h ▸ fits_classify line : Line.Fits line (.name value))
  · intro h
    rw [classify_of_hash (mark?_of_name? h), h]

theorem classify_eq_blockBegin_iff
    {language rest : Text} :
    classify line = .blockBegin language rest ↔ blockBegin? line = some (language, rest) := by
  constructor
  · intro h
    exact (h ▸ fits_classify line : Line.Fits line (.blockBegin language rest))
  · intro h
    obtain ⟨others, hkeyword⟩ := exists_keyword?_of_blockBegin? h
    have hname : keyword? "#+name:" line = none :=
      keyword?_exclusive (by decide) (by decide) (by decide) hkeyword
    rw [classify_of_hash (mark?_of_keyword? (by decide) hkeyword), h, name?, hname]
    rfl

theorem classify_eq_keyword_iff :
    classify line = .keyword ↔ isKeyword line = true ∧ name? line = none ∧ blockBegin? line = none := by
  constructor
  · intro h
    exact (h ▸ fits_classify line : Line.Fits line .keyword)
  · rintro ⟨hkeyword, hname, hbegin⟩
    rw [classify_of_hash (mark?_of_isKeyword hkeyword), hname, hbegin]
    exact if_pos hkeyword

theorem classify_eq_blank_iff :
    classify line = .blank ↔ Text.isAllBlank line = true := by
  constructor
  · intro h
    exact (h ▸ fits_classify line : Line.Fits line .blank)
  · intro h
    have hmark : ∀ c, mark? line ≠ some c := by
      simp [mark?_of_isAllBlank h]
    have hopen : Text.isKeyword ":properties:" (Text.trim line) = false := isDrawerOpen_of_mark? (hmark _)
    have hclose : Text.isKeyword ":end:" (Text.trim line) = false := isDrawerClose_of_mark? (hmark _)
    have hname : keyword? "#+name:" line = none := keyword?_of_mark? "+name:" (hmark _)
    simp only [classify, heading?_of_mark? (hmark _), hopen, hclose, drawerArguments?_of_mark? (hmark _),
      hname, blockBegin?_of_mark? (hmark _), isKeyword_of_mark? (hmark _), h, Bool.false_eq_true, if_false,
      if_true]

/-- The end of a block matches none of the patterns of headings, drawers, names and beginnings. -/
theorem isBlockEnd_exclusive
    (h : isBlockEnd line = true) :
    isHeading line = false ∧ isDrawerOpen line = false ∧ isDrawerClose line = false ∧
      name? line = none ∧ isBlockBegin line = false := by
  obtain ⟨rest, hkeyword⟩ : ∃ rest, keyword? "#+end_src" line = some rest := by
    unfold isBlockEnd at h
    split at h
    · cases h
    · exact ⟨_, ‹_›⟩
    · exact ⟨_, ‹_›⟩
  have hmark : mark? line = some '#' := mark?_of_keyword? (by decide) hkeyword
  have hname : keyword? "#+name:" line = none :=
    keyword?_exclusive (by decide) (by decide) (by decide) hkeyword
  have hbegin : keyword? "#+begin_src" line = none :=
    keyword?_exclusive (by decide) (by decide) (by decide) hkeyword
  refine ⟨?_, isDrawerOpen_of_mark? (by simp [hmark]), isDrawerClose_of_mark? (by simp [hmark]), ?_, ?_⟩
  · rw [isHeading, heading?_of_mark? (by simp [hmark])]
    rfl
  · rw [name?, hname]
    rfl
  · rw [isBlockBegin, blockBegin?, hbegin]
    rfl

end Classes

section Kinds

variable (line : Text)

theorem isHeading_eq :
    isHeading line = match classify line with
      | .heading _ _ => true
      | _ => false := by
  unfold isHeading
  cases hheading : heading? line with
  | some heading =>
      rw [classify_eq_heading_iff.mpr hheading]
      rfl
  | none =>
      split
      · rename_i level title hclass
        rw [classify_eq_heading_iff.mp hclass] at hheading
        cases hheading
      · rfl

theorem isBlockBegin_eq :
    isBlockBegin line = match classify line with
      | .blockBegin _ _ => true
      | _ => false := by
  unfold isBlockBegin
  cases hbegin : blockBegin? line with
  | some found =>
      rw [classify_eq_blockBegin_iff.mpr hbegin]
      rfl
  | none =>
      split
      · rename_i language rest hclass
        rw [classify_eq_blockBegin_iff.mp hclass] at hbegin
        cases hbegin
      · rfl

theorem isDrawerOpen_eq :
    isDrawerOpen line = decide (classify line = .drawerOpen) := by
  rw [Bool.eq_iff_iff, ← classify_eq_drawerOpen_iff, decide_eq_true_eq]

theorem isDrawerClose_eq :
    isDrawerClose line = decide (classify line = .drawerClose) := by
  rw [Bool.eq_iff_iff, ← classify_eq_drawerClose_iff, decide_eq_true_eq]

theorem name?_eq :
    name? line = match classify line with
      | .name value => some value
      | _ => none := by
  cases hname : name? line with
  | some value =>
      rw [classify_eq_name_iff.mpr hname]
  | none =>
      split
      · rename_i value hclass
        rw [classify_eq_name_iff.mp hclass] at hname
        cases hname
      · rfl

end Kinds

end Document
end Literate
