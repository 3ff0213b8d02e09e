import Literate.Proofs.Assignment
import Literate.Proofs.Transformer.Layout

/-!
# Shell words

The variables of a shell block become assignments in front of its body.  A value
stands on the right-hand side of its assignment as a numeral, or as a text
between single quotation marks, in which a single quotation mark is written by
closing the marks, quoting it with double ones and opening the marks again.

**Reading.**  `readWord` reads the word that a text begins with by the quoting
rules of the POSIX shell.  Everything between single marks stands for itself.
Between double marks, and without marks, a character stands for itself unless it
is special there; the reader refuses special characters, so that whatever it
reads is free of expansions.  Blanks, line feeds and operators end a word that is
not quoted.

**Main statement.**  `shellValue_is_word`: the right-hand side is one word, which
ends at the end of its line, and what the shell makes of it is the value.
-/

namespace Literate
namespace Shell

/-- The characters that end a word unless they are quoted. -/
def separators : List Char :=
  [' ', '\t', '\n', '|', '&', ';', '<', '>', '(', ')']

/-- The characters that begin an expansion or an escape, between double quotation marks as well. -/
def expansions : List Char :=
  ['$', '\x60', '\\']

/-- The characters that may be special in a word that is not quoted: those of patterns, comments, home
directories, assignments and job names. -/
def patterns : List Char :=
  ['*', '?', '[', '#', '~', '=', '%']

/-- How the characters at some place of a word are quoted. -/
inductive Quoting
  /-- They are not quoted. -/
  | bare
  /-- They stand between single quotation marks. -/
  | single
  /-- They stand between double quotation marks. -/
  | double
deriving DecidableEq

/-- The rest of a word without its quotation marks, and what follows the word.  A word that is not closed or
that has a special character is refused. -/
def wordFrom : Quoting → Text → Option (Text × Text)
  | .bare, [] => some ([], [])
  | .single, [] => none
  | .double, [] => none
  | .bare, c :: cs =>
      if separators.contains c then some ([], c :: cs)
      else if c = '\x27' then wordFrom .single cs
      else if c = '"' then wordFrom .double cs
      else if expansions.contains c || patterns.contains c then none
      else (wordFrom .bare cs).map (Prod.map (c :: ·) id)
  | .single, c :: cs =>
      if c = '\x27' then wordFrom .bare cs
      else (wordFrom .single cs).map (Prod.map (c :: ·) id)
  | .double, c :: cs =>
      if c = '"' then wordFrom .bare cs
      else if expansions.contains c then none
      else (wordFrom .double cs).map (Prod.map (c :: ·) id)

/-- The word that a text begins with, without its quotation marks, and what follows the word.  A word may be
empty when it is quoted, but there is none before a separator or at the end. -/
def readWord : Text → Option (Text × Text)
  | [] => none
  | c :: cs => if separators.contains c then none else wordFrom .bare (c :: cs)

section Reading

variable {value word rest following : Text}

theorem wordFrom_newline
    (rest : Text) :
    wordFrom .bare ('\n' :: rest) = some ([], '\n' :: rest) := by
  rfl

/-- The way in which a single quotation mark is written leads from single marks to single marks. -/
theorem wordFrom_switch
    (h : wordFrom .single rest = some (word, following)) :
    wordFrom .single ("'\"'\"'" ++ rest) = some ('\x27' :: word, following) := by
  simp [wordFrom, separators, expansions, h]

/-- A text between single quotation marks is read up to its closing mark, whatever it holds. -/
theorem wordFrom_quoted
    (value : Text)
    (h : wordFrom .bare rest = some (word, following)) :
    wordFrom .single (Text.substitute '\x27' "'\"'\"'" value ++ '\x27' :: rest) =
      some (value ++ word, following) := by
  induction value with
  | nil =>
      simpa [Text.substitute, wordFrom] using h
  | cons c value ih =>
      by_cases hc : c = '\x27'
      · subst hc
        have hcons : Text.substitute '\x27' "'\"'\"'" ('\x27' :: value) =
            "'\"'\"'" ++ Text.substitute '\x27' "'\"'\"'" value := by
          simp [Text.substitute]
        rw [hcons, List.append_assoc, wordFrom_switch ih, List.cons_append]
      · have hcons : Text.substitute '\x27' "'\"'\"'" (c :: value) =
            c :: Text.substitute '\x27' "'\"'\"'" value := by
          simp [Text.substitute, hc]
        rw [hcons, List.cons_append, wordFrom, if_neg hc, ih]
        rfl

/-- The characters that do not stand for themselves without quotation marks. -/
def meaningful : List Char :=
  separators ++ expansions ++ patterns ++ ['\x27', '"']

/-- Characters that stand for themselves are read as they are. -/
theorem wordFrom_plain
    (hplain : ∀ c ∈ value, c ∉ meaningful)
    (h : wordFrom .bare rest = some (word, following)) :
    wordFrom .bare (value ++ rest) = some (value ++ word, following) := by
  induction value with
  | nil =>
      exact h
  | cons c value ih =>
      obtain ⟨hc, hrest⟩ := List.forall_mem_cons.mp hplain
      simp only [meaningful, List.mem_append, List.mem_cons, not_or] at hc
      obtain ⟨⟨⟨hseparator, hexpansion⟩, hpattern⟩, hsingle, hdouble, -⟩ := hc
      simp [wordFrom, hseparator, hexpansion, hpattern, hsingle, hdouble, ih hrest]

end Reading

section Values

variable {a : Assignment}

theorem readWord_shellValue
    (h : a.HasNumeral) (rest : Text) :
    readWord (Transformer.shellValue a ++ '\n' :: rest) = some (a.value, '\n' :: rest) := by
  have hend := wordFrom_newline rest
  cases hnumber : a.isNumber with
  | false =>
      have hquoted := wordFrom_quoted a.value hend
      rw [List.append_nil] at hquoted
      rw [Transformer.shellValue, hnumber]
      simpa [readWord, wordFrom, separators] using hquoted
  | true =>
      have hnumeral := h hnumber
      have hplain : ∀ c ∈ a.value, c ∉ meaningful := fun c hc =>
        Assignment.not_mem_of_isNumeralChar (Assignment.isNumeralChar_of_mem hnumeral hc)
          (by decide)
      have hword := wordFrom_plain hplain hend
      rw [List.append_nil] at hword
      obtain ⟨c, value, hvalue⟩ :=
        List.exists_cons_of_ne_nil (Assignment.ne_nil_of_isNumeral hnumeral)
      have hfirst : c ∉ separators := by
        intro hc
        exact hplain c (by simp [hvalue]) (by simp [meaningful, hc])
      rw [Transformer.shellValue, hnumber, if_pos rfl, ← hword, hvalue]
      simp [readWord, hfirst]

theorem getLast?_shellValue
    (h : a.HasNumeral) :
    ∃ c, (Transformer.shellValue a).getLast? = some c ∧ Text.isBlank c = false := by
  cases hnumber : a.isNumber with
  | false =>
      refine ⟨'\x27', ?_, by decide⟩
      rw [Transformer.shellValue, hnumber]
      simp [List.getLast?_cons]
  | true =>
      have hnumeral := h hnumber
      rw [Transformer.shellValue, hnumber]
      exact Assignment.getLast?_of_isNumeral hnumeral

/-- An assignment of a shell block stands on a line of its own. -/
theorem exists_assignment_line
    {params : Params} (body : Text)
    (h : a.HasNumeral)
    (ha : a ∈ Transformer.assignments params) :
    ∃ before after,
      Transformer.shell.run body params ++ ['\n'] =
        before ++ (a.name ++ "=" ++ Transformer.shellValue a) ++ '\n' :: after ∧
      (before = [] ∨ before.getLast? = some '\n') := by
  obtain ⟨c, hlast, hvisible⟩ := getLast?_shellValue h
  refine Transformer.exists_assignment_line params body
    (fun one => one.name ++ "=" ++ Transformer.shellValue one) ha ⟨c, ?_, hvisible⟩
  simp [List.getLast?_append, List.getLast?_cons, hlast]

end Values

/-- **Shell values.**  The right-hand side of every assignment is one word that ends at the end of its line
and means the value, and the assignment stands on a line of its own. -/
theorem shellValue_is_word
    {t : Text} {a : Assignment}
    (h : a ∈ Assignment.parse t) :
    (∀ rest,
      readWord (Transformer.shellValue a ++ '\n' :: rest) = some (a.value, '\n' :: rest)) ∧
    ∀ body params,
      Transformer.assignments params = Assignment.parse t →
      ∃ before after,
        Transformer.shell.run body params ++ ['\n'] =
          before ++ (a.name ++ "=" ++ Transformer.shellValue a) ++ '\n' :: after ∧
        (before = [] ∨ before.getLast? = some '\n') := by
  have hnumeral := Assignment.hasNumeral_of_mem_parse h
  constructor
  · exact readWord_shellValue hnumeral
  · intro body params hparams
    exact exists_assignment_line body hnumeral (hparams ▸ h)

/-- Values with quotation marks, a command and a line feed, an empty value, and a numeral with a digit of
another script. -/
theorem shellValue_is_word_hostile :
    let t : Text := "a=\"it\x27s \x27\x27$(rm)\\\n\", b=\x60x\x60;, c=, d=-٣.5e+1"
    let params : Params := ⟨[("var", t)]⟩
    let found : List Assignment :=
      [⟨"a", "it\x27s \x27\x27$(rm)\\\n", false⟩, ⟨"b", "\x60x\x60;", false⟩, ⟨"c", [], false⟩,
        ⟨"d", "-٣.5e+1", true⟩]
    Assignment.parse t = found ∧ Transformer.assignments params = found ∧
      ∀ a ∈ found,
        (∀ rest,
          readWord (Transformer.shellValue a ++ '\n' :: rest) = some (a.value, '\n' :: rest)) ∧
        ∀ body, ∃ before after,
          Transformer.shell.run body params ++ ['\n'] =
            before ++ (a.name ++ "=" ++ Transformer.shellValue a) ++ '\n' :: after ∧
          (before = [] ∨ before.getLast? = some '\n') := by
  intro t params found
  have hparse : Assignment.parse t = found := by
    decide +kernel
  have hparams : Transformer.assignments params = found := by
    decide +kernel
  refine ⟨hparse, hparams, fun a ha => ?_⟩
  obtain ⟨hword, hline⟩ := @shellValue_is_word t a (hparse ▸ ha)
  exact ⟨hword, fun body => hline body params (hparams.trans hparse.symm)⟩

end Shell
end Literate
