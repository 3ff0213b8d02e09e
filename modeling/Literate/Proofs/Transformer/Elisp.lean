import Literate.Proofs.Assignment
import Literate.Proofs.Transformer.ElispReader
import Literate.Proofs.Transformer.Layout

/-!
# Emacs Lisp bindings

The variables of an Emacs Lisp block are bound around its body by a `let` form.
A value that is not a number is written as a string literal, in which backslashes
and quotation marks are escaped.

**Literals.**  Backslashes are escaped before quotation marks, so that every
character is escaped once (`substitute_substitute`), and reading undoes it.

**Enclosing.**  The parenthesis that closes the form stands right behind the body.
A body that ends inside a comment takes it into the comment, and the form is left
open.  Any other body of forms becomes the rest of the form.

**Main statements.**
* `elispValue_reads_back`: a string literal is read back as its value, and ends
  nowhere else.
* `run_is_let`: when the transformed body is balanced, and what form it is then.
-/

namespace Literate
namespace Elisp

open Transformer (elispValue elispBinding elispBody)

section Literals

/-- A character as it is written in a string literal. -/
def escapeChar (c : Char) : Text :=
  if c = '\\' ∨ c = '"' then ['\\', c] else [c]

/-- Escaping backslashes and then quotation marks escapes every character once. -/
theorem substitute_substitute
    (value : Text) :
    Text.substitute '"' "\\\"" (Text.substitute '\\' "\\\\" value) = value.flatMap escapeChar := by
  induction value with
  | nil =>
      rfl
  | cons c value ih =>
      unfold Text.substitute at ih ⊢
      rw [List.flatMap_cons, List.flatMap_append, ih, List.flatMap_cons]
      by_cases hslash : c = '\\'
      · subst hslash
        rfl
      · by_cases hquote : c = '"'
        · subst hquote
          rfl
        · simp [escapeChar, hslash, hquote]

theorem elispValue_text
    (name value : Text) :
    elispValue ⟨name, value, false⟩ = '"' :: (value.flatMap escapeChar ++ ['"']) := by
  rw [elispValue, substitute_substitute]
  rfl

/-- An escaped text is read up to the mark behind it. -/
theorem literalFrom_escaped
    (value rest : Text) :
    literalFrom false (value.flatMap escapeChar ++ '"' :: rest) = some (value, rest) := by
  induction value with
  | nil =>
      rfl
  | cons c value ih =>
      by_cases hescaped : c = '\\' ∨ c = '"'
      · -- the backslash quotes the character, whichever of the two it is
        simp [escapeChar, hescaped, literalFrom, ih]
      · obtain ⟨hslash, hquote⟩ := not_or.mp hescaped
        simp [escapeChar, hslash, hquote, literalFrom, ih]

theorem readLiteral_elispValue
    (name value rest : Text) :
    readLiteral (elispValue ⟨name, value, false⟩ ++ rest) = some (value, rest) := by
  rw [elispValue_text, List.cons_append, List.append_assoc, readLiteral, if_pos rfl]
  exact literalFrom_escaped value rest

end Literals

section Bindings

variable {a : Assignment}

/-- The value of a variable as a token. -/
def valueToken (a : Assignment) : Token :=
  if a.isNumber then .atom a.value else .literal a.value

/-- The value of a variable as a form. -/
def valueForm (a : Assignment) : Form :=
  if a.isNumber then .atom a.value else .literal a.value

/-- The tokens of a binding. -/
def bindingTokens (a : Assignment) : List Token :=
  [.opening, .atom a.name, valueToken a, .closing]

/-- The binding of a variable as a form. -/
def bindingForm (a : Assignment) : Form :=
  .list [.atom a.name, valueForm a]

/-- No character of a numeral ends an atom. -/
theorem endsAtom_of_isNumeralChar
    {c : Char}
    (h : Assignment.isNumeralChar c = true) :
    endsAtom c = false := by
  have hmarks : c ∉ ['(', ')', '"', ';'] := Assignment.not_mem_of_isNumeralChar h (by decide)
  have hspace : isSpace c = false := by
    rcases Bool.or_eq_true_iff.mp h with hdigit | hsign
    · have hcodes : ∀ range ∈ Text.digitRanges, 32 < range.1 ∧ (range.2 < 160 ∨ 160 < range.1) := by
        decide
      obtain ⟨range, hrange, hlow, hhigh⟩ := Text.Ranges.exists_of_mem hdigit
      have hcode := hcodes range hrange
      simp only [isSpace, Bool.or_eq_false_iff, decide_eq_false_iff_not, beq_eq_false_iff_ne]
      omega
    · have hsigns : (['+', '-', '.', 'e', 'E'].all fun sign => !isSpace sign) = true := by
        decide
      simpa using List.all_eq_true.mp hsigns c (List.contains_iff_mem.mp hsign)
  rw [endsAtom, hspace, Bool.false_or]
  simpa using hmarks

theorem isAtom_of_isNumeral
    {t : Text}
    (h : Assignment.isNumeral t = true) :
    IsAtom t :=
  ⟨Assignment.ne_nil_of_isNumeral h,
    fun _ hc => endsAtom_of_isNumeralChar (Assignment.isNumeralChar_of_mem h hc)⟩

/-- A variable that can be bound: its name is an atom, and its value is a numeral when it is a number. -/
structure IsBindable (a : Assignment) : Prop where
  /-- Its name is an atom. -/
  name : IsAtom a.name
  /-- A number is a numeral. -/
  value : a.HasNumeral

theorem scan_elispValue
    (h : IsBindable a) :
    scan .code (elispValue a ++ ")") = ([valueToken a, .closing], .code) := by
  obtain ⟨name, value, isNumber⟩ := a
  cases isNumber with
  | false =>
      have hread := readLiteral_elispValue name value []
      rw [List.append_nil] at hread
      exact scan_append (scan_literal hread) rfl
  | true =>
      have hvalue : scan .code value = ([], .atom value) :=
        scan_isAtom (isAtom_of_isNumeral (h.value rfl))
      exact scan_append hvalue rfl

theorem scan_elispBinding
    (h : IsBindable a) :
    scan .code (elispBinding a) = (bindingTokens a, .code) := by
  have hopening : scan .code "(" = ([.opening], .code) := rfl
  have hspace : scan (.atom a.name) " " = ([.atom a.name], .code) := rfl
  have hname := scan_append (scan_append hopening (scan_isAtom h.name)) hspace
  rw [elispBinding, List.append_assoc]
  exact scan_append hname (scan_elispValue h)

theorem scan_join_elispBinding
    {bound : List Assignment}
    (h : ∀ a ∈ bound, IsBindable a) :
    scan .code (Text.join " " (bound.map elispBinding)) =
      (bound.flatMap bindingTokens, .code) := by
  induction bound with
  | nil =>
      rfl
  | cons first bound ih =>
      obtain ⟨hfirst, hothers⟩ := List.forall_mem_cons.mp h
      cases bound with
      | nil =>
          simpa [Text.join] using scan_elispBinding hfirst
      | cons next bound =>
          have hspace : scan .code " " = ([], .code) := rfl
          have hboth := scan_append (scan_append (scan_elispBinding hfirst) hspace) (ih hothers)
          simpa [Text.join] using hboth

theorem nest?_bindingTokens
    (a : Assignment) :
    nest? (bindingTokens a) = some [bindingForm a] := by
  obtain ⟨name, value, isNumber⟩ := a
  cases isNumber <;> rfl

theorem nest?_flatMap_bindingTokens
    (bound : List Assignment) :
    nest? (bound.flatMap bindingTokens) = some (bound.map bindingForm) := by
  induction bound with
  | nil =>
      rfl
  | cons first bound ih =>
      exact nest?_append (nest?_bindingTokens first) ih

end Bindings

section Enclosing

variable {bound : List Assignment} {body : Text} {tokens : List Token} {forms : List Form}

/-- The tokens of the form between its parentheses, up to the body. -/
def letTokens (bound : List Assignment) : List Token :=
  .atom "let" :: .opening :: (bound.flatMap bindingTokens ++ [.closing])

/-- The form that binds variables around the forms of a body. -/
def letForm (bound : List Assignment) (forms : List Form) : Form :=
  .list (.atom "let" :: .list (bound.map bindingForm) :: forms)

theorem nest?_letTokens
    (bound : List Assignment)
    (h : nest? tokens = some forms) :
    nest? (letTokens bound ++ tokens) =
      some (.atom "let" :: .list (bound.map bindingForm) :: forms) := by
  have hbindings := nest?_enclosed (nest?_flatMap_bindingTokens bound)
  have hhead : nest? [.atom "let"] = some [.atom "let"] := rfl
  exact nest?_append (nest?_append hhead hbindings) h

/-- Where the first pass stands behind the body. -/
theorem scan_elispBody
    {first : List Token} {mode : Mode}
    (hne : bound ≠ [])
    (hvariables : ∀ a ∈ bound, IsBindable a)
    (hbody : scan .code body = (first, mode)) :
    scan .code (elispBody bound body) =
      (.opening :: (letTokens bound ++ first) ++ (step mode ')').1, (step mode ')').2) := by
  have hopening : scan .code "(let (" = ([.opening, .atom "let", .opening], .code) := rfl
  have hline : scan .code ")\n" = ([.closing], .code) := rfl
  have hfront := scan_append (scan_append hopening (scan_join_elispBinding hvariables)) hline
  have hclosing : scan mode ")" = ((step mode ')').1, (step mode ')').2) := by
    rw [show (")" : Text) = [')'] from rfl, scan_cons]
    simp [scan]
  rw [elispBody, if_neg (by simpa using hne)]
  exact scan_append (scan_append hfront hbody) hclosing

/-- The parenthesis behind a body that does not end inside a comment closes the form. -/
theorem forms?_elispBody
    (hne : bound ≠ [])
    (hvariables : ∀ a ∈ bound, IsBindable a)
    (hbody : forms? body = some forms)
    (hcomment : endsInComment body = false) :
    forms? (elispBody bound body) = some [letForm bound forms] := by
  obtain ⟨tokens, htokens, hforms⟩ := Option.bind_eq_some_iff.mp hbody
  obtain ⟨first, mode, pending, hscan, hpending, rfl⟩ := exists_scan_of_tokens? htokens
  have hmode : mode ≠ .comment := by
    rintro rfl
    simp [endsInComment, hscan] at hcomment
  have hall := scan_elispBody hne hvariables hscan
  rw [step_closing hpending hmode] at hall
  have hnest := nest?_enclosed (nest?_letTokens bound hforms)
  rw [forms?, tokens?_of_scan hall rfl]
  simpa [letForm] using hnest

/-- The parenthesis behind a body that ends inside a comment is lost, and the form is left open. -/
theorem forms?_elispBody_of_comment
    (hne : bound ≠ [])
    (hvariables : ∀ a ∈ bound, IsBindable a)
    (hbody : forms? body = some forms)
    (hcomment : endsInComment body = true) :
    forms? (elispBody bound body) = none := by
  obtain ⟨tokens, htokens, hforms⟩ := Option.bind_eq_some_iff.mp hbody
  obtain ⟨first, mode, pending, hscan, hpending, rfl⟩ := exists_scan_of_tokens? htokens
  obtain rfl : mode = .comment := by
    simpa [endsInComment, hscan] using hcomment
  cases hpending
  have hall := scan_elispBody hne hvariables hscan
  have hnest := nest?_unclosed (nest?_letTokens bound hforms)
  rw [forms?, tokens?_of_scan hall rfl]
  simpa [step] using hnest

theorem getLast?_elispBody
    (hne : bound ≠ []) (body : Text) :
    (elispBody bound body).getLast? = some ')' := by
  rw [elispBody, if_neg (by simpa using hne)]
  exact List.getLast?_concat

theorem run_eq_elispBody
    {params : Params}
    (hprologue : params.value "prologue" = [])
    (hepilogue : params.value "epilogue" = [])
    (hvariables : Transformer.assignments params ≠ []) :
    Transformer.elisp.run body params = elispBody (Transformer.assignments params) body := by
  have hlast := getLast?_elispBody hvariables body
  refine Transformer.wrap_eq_self hprologue hepilogue ?_ ?_
  · intro hnil
    rw [hnil] at hlast
    cases hlast
  · rw [hlast]
    simp only [Option.mem_some_iff, forall_eq']
    decide

end Enclosing

/-- **Binding around a body.**  The transformed body is balanced exactly when the body does not end inside a
comment.  Then it is one form, which binds the variables around all forms of the body. -/
theorem run_is_let
    {params : Params} {body : Text}
    (hprologue : params.value "prologue" = [])
    (hepilogue : params.value "epilogue" = [])
    (hvariables : Transformer.assignments params ≠ [])
    (hnames : ∀ a ∈ Transformer.assignments params, IsAtom a.name)
    (hbody : Balanced body) :
    (Balanced (Transformer.elisp.run body params) ↔ endsInComment body = false) ∧
    (endsInComment body = false →
      ∃ forms,
        forms? body = some forms ∧
        forms? (Transformer.elisp.run body params) =
          some [letForm (Transformer.assignments params) forms]) := by
  have hbindable : ∀ a ∈ Transformer.assignments params, IsBindable a := fun a ha =>
    ⟨hnames a ha, Assignment.hasNumeral_of_mem_parse ha⟩
  obtain ⟨forms, hforms⟩ := Option.isSome_iff_exists.mp (balanced_iff.mp hbody)
  rw [run_eq_elispBody hprologue hepilogue hvariables, balanced_iff]
  cases hcomment : endsInComment body with
  | false =>
      have hlet := forms?_elispBody hvariables hbindable hforms hcomment
      rw [hlet]
      exact ⟨by simp, fun _ => ⟨forms, hforms, rfl⟩⟩
  | true =>
      rw [forms?_elispBody_of_comment hvariables hbindable hforms hcomment]
      simp

/-- A body with a parenthesis in a literal, one in a comment and a comment before its last form; a value with
a backslash, a quotation mark and a parenthesis. -/
theorem run_is_let_lookalikes :
    let params : Params := ⟨[("var", "n=-2.5, s=\x27a\\ \")\x27")]⟩
    let body : Text := "(f \"(\\\"\" n) ; :-(\n s"
    let forms : List Form := [.list [.atom "f", .literal "(\"", .atom "n"], .atom "s"]
    params.value "prologue" = [] ∧ params.value "epilogue" = [] ∧
      Transformer.assignments params = [⟨"n", "-2.5", true⟩, ⟨"s", "a\\ \")", false⟩] ∧
      Balanced body ∧ forms? body = some forms ∧
      Balanced (Transformer.elisp.run body params) ∧
      forms? (Transformer.elisp.run body params) =
        some [letForm (Transformer.assignments params) forms] := by
  intro params body forms
  have hprologue : params.value "prologue" = [] := by
    decide +kernel
  have hepilogue : params.value "epilogue" = [] := by
    decide +kernel
  have hfound : Transformer.assignments params =
      [⟨"n", "-2.5", true⟩, ⟨"s", "a\\ \")", false⟩] := by
    decide +kernel
  have hnames : ∀ a ∈ Transformer.assignments params, IsAtom a.name := by
    rw [hfound]
    simp only [List.forall_mem_cons]
    exact ⟨isAtom_of_all (by decide) (by decide), isAtom_of_all (by decide) (by decide), by simp⟩
  have hbody : Balanced body := by
    decide +kernel
  have hforms : forms? body = some forms := by
    rfl
  have hcomment : endsInComment body = false := by
    decide +kernel
  obtain ⟨hbalanced, hlet⟩ :=
    run_is_let hprologue hepilogue (by simp [hfound]) hnames hbody
  obtain ⟨read, hread, hrun⟩ := hlet hcomment
  rw [hforms] at hread
  cases hread
  exact ⟨hprologue, hepilogue, hfound, hbody, hforms, hbalanced.mpr hcomment, hrun⟩

/-- A comment at the end of a balanced body takes the closing parenthesis. -/
theorem run_is_not_balanced :
    let params : Params := ⟨[("var", "n=2")]⟩
    let body : Text := "(* n n) ; square"
    Balanced body ∧
      Transformer.elisp.run body params = "(let ((n 2))\n(* n n) ; square)" ∧
      ¬ Balanced (Transformer.elisp.run body params) := by
  decide +kernel

end Elisp
end Literate
