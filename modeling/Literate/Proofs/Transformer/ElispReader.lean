import Literate.Text.Basic

/-!
# Reading Emacs Lisp

Emacs Lisp text is read in two passes.  The first cuts it into parentheses,
string literals and atoms, which are the runs of all other characters that are
not blank; blanks and comments are dropped.  The second nests what stands between
parentheses.  Quotation marks, brackets and character constants are not told
from atoms.

**Literals.**  In a string literal a backslash quotes the next character, and the
first double quotation mark that is not quoted ends it.

**Comments.**  A semicolon outside of literals begins a comment, which ends with its
line.

**Balance.**  `Balanced` counts parentheses outside of literals and comments: none
is closed that is not open, and none is left open.  `forms?` gives the forms that
a text consists of.

**Main statements.**
* `scan_append`: a text is cut from left to right.
* `scan_of_literalFrom`: the first pass reads literals as they are read alone.
* `balanced_iff`: the balanced texts are those that consist of forms.
* `nest_append`, `nest_enclosed`: forms one after another and forms between
  parentheses.
-/

namespace Literate
namespace Elisp

section Literals

/-- The rest of a string literal, and what follows the literal.  `quoted` says that a backslash stands before
the text. -/
def literalFrom : Bool → Text → Option (Text × Text)
  | _, [] => none
  | true, c :: cs => (literalFrom false cs).map (Prod.map (c :: ·) id)
  | false, c :: cs =>
      if c = '"' then some ([], cs)
      else if c = '\\' then literalFrom true cs
      else (literalFrom false cs).map (Prod.map (c :: ·) id)

/-- The string literal that a text begins with, and what follows it. -/
def readLiteral : Text → Option (Text × Text)
  | [] => none
  | c :: cs => if c = '"' then literalFrom false cs else none

variable {quoted : Bool} {t value rest : Text}

/-- The characters of a literal before its end. -/
theorem literalFrom_cons_eq_some
    {c : Char}
    (h : (literalFrom quoted t).map (Prod.map (c :: ·) id) = some (value, rest)) :
    ∃ later, literalFrom quoted t = some (later, rest) ∧ value = c :: later := by
  obtain ⟨⟨later, following⟩, hlater, hpair⟩ := Option.map_eq_some_iff.mp h
  simp only [Prod.map_apply, id_eq, Prod.mk.injEq] at hpair
  obtain ⟨rfl, rfl⟩ := hpair
  exact ⟨later, hlater, rfl⟩

/-- A literal ends at the same place whatever follows. -/
theorem literalFrom_append
    (more : Text)
    (h : literalFrom quoted t = some (value, rest)) :
    literalFrom quoted (t ++ more) = some (value, rest ++ more) := by
  induction t generalizing quoted value with
  | nil =>
      cases quoted <;> cases h
  | cons c t ih =>
      cases quoted with
      | true =>
          obtain ⟨later, hlater, rfl⟩ := literalFrom_cons_eq_some h
          simp [literalFrom, ih hlater]
      | false =>
          rw [literalFrom] at h
          rw [List.cons_append, literalFrom]
          split at h
          · rename_i hquote
            cases h
            rw [if_pos hquote]
          · rename_i hquote
            split at h
            · rename_i hslash
              rw [if_neg hquote, if_pos hslash, ih h]
            · rename_i hslash
              obtain ⟨later, hlater, rfl⟩ := literalFrom_cons_eq_some h
              simp [hquote, hslash, ih hlater]

theorem readLiteral_append
    (more : Text)
    (h : readLiteral t = some (value, rest)) :
    readLiteral (t ++ more) = some (value, rest ++ more) := by
  cases t with
  | nil =>
      cases h
  | cons c t =>
      rw [readLiteral] at h
      split at h
      · rename_i hquote
        rw [List.cons_append, readLiteral, if_pos hquote, literalFrom_append more h]
      · cases h

end Literals

section Tokens

/-- A piece of Emacs Lisp text. -/
inductive Token
  /-- An opening parenthesis. -/
  | opening
  /-- A closing parenthesis. -/
  | closing
  /-- A run of characters that are not blank. -/
  | atom (text : Text)
  /-- A string literal. -/
  | literal (value : Text)
deriving DecidableEq

/-- Where the first pass stands. -/
inductive Mode
  /-- Between tokens. -/
  | code
  /-- In an atom. -/
  | atom (read : Text)
  /-- In a string literal. -/
  | literal (read : Text)
  /-- Behind a backslash in a string literal. -/
  | escape (read : Text)
  /-- In a comment. -/
  | comment
deriving DecidableEq

/-- Whether a character separates atoms: the controls, the space and the no-break space. -/
def isSpace (c : Char) : Bool :=
  c.toNat ≤ 32 || c.toNat == 160

/-- Whether a character ends an atom. -/
def endsAtom (c : Char) : Bool :=
  isSpace c || ['(', ')', '"', ';'].contains c

/-- A character between tokens. -/
def start (c : Char) : List Token × Mode :=
  if c = '(' then ([.opening], .code)
  else if c = ')' then ([.closing], .code)
  else if c = '"' then ([], .literal [])
  else if c = ';' then ([], .comment)
  else if isSpace c then ([], .code)
  else ([], .atom [c])

/-- The tokens that are complete after one more character, and where the pass stands then. -/
def step : Mode → Char → List Token × Mode
  | .code, c => start c
  | .atom read, c =>
      if endsAtom c then (.atom read :: (start c).1, (start c).2)
      else ([], .atom (read ++ [c]))
  | .literal read, c =>
      if c = '"' then ([.literal read], .code)
      else if c = '\\' then ([], .escape read)
      else ([], .literal (read ++ [c]))
  | .escape read, c => ([], .literal (read ++ [c]))
  | .comment, c => ([], if c = '\n' then .code else .comment)

/-- The tokens that are complete at the end of a text, and where the pass stands then. -/
def scan : Mode → Text → List Token × Mode
  | mode, [] => ([], mode)
  | mode, c :: cs =>
      ((step mode c).1 ++ (scan (step mode c).2 cs).1, (scan (step mode c).2 cs).2)

/-- The token that the end of a text completes; a string literal must have been closed. -/
def flush? : Mode → Option (List Token)
  | .code => some []
  | .comment => some []
  | .atom read => some [.atom read]
  | .literal _ => none
  | .escape _ => none

/-- The tokens of a text. -/
def tokens? (t : Text) : Option (List Token) :=
  (flush? (scan .code t).2).map ((scan .code t).1 ++ ·)

/-- Whether a text ends inside a comment, which a character behind the text would belong to. -/
def endsInComment (t : Text) : Bool :=
  (scan .code t).2 == .comment

variable {mode middle last : Mode} {t u value rest : Text} {first later : List Token}

theorem scan_cons
    (mode : Mode) (c : Char) (t : Text) :
    scan mode (c :: t) =
      ((step mode c).1 ++ (scan (step mode c).2 t).1, (scan (step mode c).2 t).2) := by
  rfl

theorem scan_cons_of_step
    {next : Mode} {c : Char} (t : Text)
    (h : step mode c = ([], next)) :
    scan mode (c :: t) = scan next t := by
  rw [scan_cons, h]
  rfl

/-- A text is cut from left to right. -/
theorem scan_append
    (ht : scan mode t = (first, middle))
    (hu : scan middle u = (later, last)) :
    scan mode (t ++ u) = (first ++ later, last) := by
  induction t generalizing mode first with
  | nil =>
      cases ht
      exact hu
  | cons c t ih =>
      rw [scan_cons, Prod.mk.injEq] at ht
      obtain ⟨rfl, rfl⟩ := ht
      rw [List.cons_append, scan_cons, ih rfl, List.append_assoc]

theorem tokens?_of_scan
    {pending : List Token}
    (hscan : scan .code t = (first, mode))
    (hpending : flush? mode = some pending) :
    tokens? t = some (first ++ pending) := by
  rw [tokens?, hscan, hpending]
  rfl

theorem exists_scan_of_tokens?
    {tokens : List Token}
    (h : tokens? t = some tokens) :
    ∃ first mode pending,
      scan .code t = (first, mode) ∧ flush? mode = some pending ∧ tokens = first ++ pending := by
  obtain ⟨pending, hpending, rfl⟩ := Option.map_eq_some_iff.mp h
  exact ⟨(scan .code t).1, (scan .code t).2, pending, rfl, hpending, rfl⟩

/-- A run of characters that do not end an atom continues it. -/
theorem scan_atom
    (read : Text)
    (h : ∀ c ∈ t, endsAtom c = false) :
    scan (.atom read) t = ([], .atom (read ++ t)) := by
  induction t generalizing read with
  | nil =>
      simp [scan]
  | cons c t ih =>
      obtain ⟨hc, hrest⟩ := List.forall_mem_cons.mp h
      have hstep : step (.atom read) c = ([], .atom (read ++ [c])) := by
        simp [step, hc]
      rw [scan_cons_of_step t hstep, ih _ hrest]
      simp

/-- A text that reads as a single atom. -/
structure IsAtom (t : Text) : Prop where
  /-- It has a character. -/
  ne_nil : t ≠ []
  /-- None of its characters ends an atom. -/
  chars : ∀ c ∈ t, endsAtom c = false

theorem isAtom_of_all
    (hne : t ≠ [])
    (h : (t.all fun c => !endsAtom c) = true) :
    IsAtom t := by
  refine ⟨hne, fun c hc => ?_⟩
  simpa using List.all_eq_true.mp h c hc

theorem start_of_not_endsAtom
    {c : Char}
    (h : endsAtom c = false) :
    start c = ([], .atom [c]) := by
  simp only [endsAtom, List.contains_cons, Bool.or_eq_false_iff, beq_eq_false_iff_ne] at h
  obtain ⟨hspace, hopening, hclosing, hquote, hcomment, -⟩ := h
  simp [start, hspace, hopening, hclosing, hquote, hcomment]

theorem scan_isAtom
    (h : IsAtom t) :
    scan .code t = ([], .atom t) := by
  obtain ⟨c, t, rfl⟩ := List.exists_cons_of_ne_nil h.ne_nil
  obtain ⟨hc, hrest⟩ := List.forall_mem_cons.mp h.chars
  have hstep : step .code c = ([], .atom [c]) := start_of_not_endsAtom hc
  rw [scan_cons_of_step t hstep, scan_atom _ hrest]
  rfl

/-- The first pass reads the rest of a literal as it is read alone. -/
theorem scan_of_literalFrom
    {quoted : Bool} (read : Text)
    (h : literalFrom quoted t = some (value, rest)) :
    scan (if quoted then .escape read else .literal read) t =
      (.literal (read ++ value) :: (scan .code rest).1, (scan .code rest).2) := by
  induction t generalizing quoted read value with
  | nil =>
      cases quoted <;> cases h
  | cons c t ih =>
      cases quoted with
      | true =>
          obtain ⟨later, hlater, rfl⟩ := literalFrom_cons_eq_some h
          have hstep : step (.escape read) c = ([], .literal (read ++ [c])) := rfl
          have hrest := ih (read ++ [c]) hlater
          rw [if_pos rfl, scan_cons_of_step t hstep]
          simpa using hrest
      | false =>
          rw [literalFrom] at h
          split at h
          · rename_i hquote
            cases h
            simp [scan, step, hquote]
          · rename_i hquote
            split at h
            · rename_i hslash
              have hstep : step (.literal read) c = ([], .escape read) := by
                simp [step, hslash]
              have hrest := ih read h
              rw [if_neg (by simp), scan_cons_of_step t hstep]
              simpa using hrest
            · rename_i hslash
              obtain ⟨later, hlater, rfl⟩ := literalFrom_cons_eq_some h
              have hstep : step (.literal read) c = ([], .literal (read ++ [c])) := by
                simp [step, hquote, hslash]
              have hrest := ih (read ++ [c]) hlater
              rw [if_neg (by simp), scan_cons_of_step t hstep]
              simpa using hrest

/-- A literal is read as one token, wherever the text goes on. -/
theorem scan_literal
    (h : readLiteral t = some (value, [])) :
    scan .code t = ([.literal value], .code) := by
  cases t with
  | nil =>
      cases h
  | cons c t =>
      rw [readLiteral] at h
      split at h
      · rename_i hquote
        subst hquote
        have hstep : step .code '"' = ([], .literal []) := rfl
        rw [scan_cons_of_step t hstep]
        exact scan_of_literalFrom [] h
      · cases h

/-- Outside of literals and comments a closing parenthesis completes what is being read. -/
theorem step_closing
    {pending : List Token}
    (hpending : flush? mode = some pending)
    (hcomment : mode ≠ .comment) :
    step mode ')' = (pending ++ [.closing], .code) := by
  cases mode with
  | code =>
      cases hpending
      rfl
  | atom read =>
      cases hpending
      rfl
  | literal read =>
      cases hpending
  | escape read =>
      cases hpending
  | comment =>
      exact absurd rfl hcomment

end Tokens

section Forms

/-- A form: an atom, a string literal or a list. -/
inductive Form
  /-- An atom. -/
  | atom (text : Text)
  /-- A string literal. -/
  | literal (value : Text)
  /-- Forms between parentheses. -/
  | list (forms : List Form)

/-- What the second pass keeps for later: the parentheses that are open and the forms behind them, the latest
first. -/
inductive Entry
  /-- An open parenthesis. -/
  | opened
  /-- A form. -/
  | form (form : Form)

/-- The number of open parentheses after some tokens, unless one is closed that is not open. -/
def depthFrom : Nat → List Token → Option Nat
  | depth, [] => some depth
  | depth, .opening :: tokens => depthFrom (depth + 1) tokens
  | 0, .closing :: _ => none
  | depth + 1, .closing :: tokens => depthFrom depth tokens
  | depth, .atom _ :: tokens => depthFrom depth tokens
  | depth, .literal _ :: tokens => depthFrom depth tokens

/-- The parentheses outside of literals and comments match, and every literal is closed. -/
def Balanced (t : Text) : Prop :=
  (tokens? t).bind (depthFrom 0) = some 0

instance balancedDecidable (t : Text) : Decidable (Balanced t) :=
  inferInstanceAs (Decidable (_ = _))

/-- Closes the innermost open parenthesis; `inner` are the forms behind it that have been passed. -/
def close? (inner : List Form) : List Entry → Option (List Entry)
  | [] => none
  | .form form :: stack => close? (form :: inner) stack
  | .opened :: stack => some (.form (.list inner) :: stack)

/-- The entries after one more token. -/
def shift? (stack : List Entry) : Token → Option (List Entry)
  | .opening => some (.opened :: stack)
  | .closing => close? [] stack
  | .atom text => some (.form (.atom text) :: stack)
  | .literal value => some (.form (.literal value) :: stack)

/-- The entries after some tokens. -/
def shiftAll? : List Entry → List Token → Option (List Entry)
  | stack, [] => some stack
  | stack, token :: tokens => (shift? stack token).bind fun next => shiftAll? next tokens

/-- The forms of the entries, when no parenthesis is open. -/
def finished? : List Entry → Option (List Form)
  | [] => some []
  | .opened :: _ => none
  | .form form :: stack => (finished? stack).map (· ++ [form])

/-- The forms that tokens consist of. -/
def nest? (tokens : List Token) : Option (List Form) :=
  (shiftAll? [] tokens).bind finished?

/-- The forms that a text consists of. -/
def forms? (t : Text) : Option (List Form) :=
  (tokens? t).bind nest?

/-- The number of open parentheses among the entries. -/
def openings : List Entry → Nat
  | [] => 0
  | .opened :: stack => openings stack + 1
  | .form _ :: stack => openings stack

variable {stack next base : List Entry} {tokens others : List Token} {forms more inner : List Form}

section Counting

theorem close?_eq_none_iff :
    close? inner stack = none ↔ openings stack = 0 := by
  induction stack generalizing inner with
  | nil =>
      simp [close?, openings]
  | cons entry stack ih =>
      cases entry <;> simp [close?, openings, ih]

theorem openings_of_close?
    (h : close? inner stack = some next) :
    openings stack = openings next + 1 := by
  induction stack generalizing inner with
  | nil =>
      cases h
  | cons entry stack ih =>
      cases entry with
      | opened =>
          cases h
          rfl
      | form form =>
          exact ih h

/-- The depth is the number of parentheses that the second pass keeps open. -/
theorem depthFrom_openings
    (stack : List Entry) (tokens : List Token) :
    depthFrom (openings stack) tokens = (shiftAll? stack tokens).map openings := by
  induction tokens generalizing stack with
  | nil =>
      rfl
  | cons token tokens ih =>
      cases token with
      | opening =>
          exact ih (.opened :: stack)
      | closing =>
          cases hclose : close? [] stack with
          | none =>
              rw [close?_eq_none_iff] at hclose
              have hnone : close? [] stack = none := close?_eq_none_iff.mpr hclose
              simp [hclose, depthFrom, shiftAll?, shift?, hnone]
          | some next =>
              simp [openings_of_close? hclose, depthFrom, shiftAll?, shift?, hclose, ih]
      | atom text =>
          exact ih (.form (.atom text) :: stack)
      | literal value =>
          exact ih (.form (.literal value) :: stack)

theorem isSome_finished?_iff :
    (finished? stack).isSome = true ↔ openings stack = 0 := by
  induction stack with
  | nil =>
      simp [finished?, openings]
  | cons entry stack ih =>
      cases entry with
      | opened =>
          simp [finished?, openings]
      | form form =>
          simpa [finished?, openings] using ih

theorem depthFrom_eq_zero_iff :
    depthFrom 0 tokens = some 0 ↔ (nest? tokens).isSome = true := by
  have hdepth := depthFrom_openings [] tokens
  rw [openings] at hdepth
  rw [hdepth, nest?]
  cases shiftAll? [] tokens with
  | none =>
      simp
  | some stack =>
      simpa using isSome_finished?_iff.symm

/-- The balanced texts are those that consist of forms. -/
theorem balanced_iff
    {t : Text} :
    Balanced t ↔ (forms? t).isSome = true := by
  unfold Balanced forms?
  cases tokens? t with
  | none =>
      simp
  | some tokens =>
      exact depthFrom_eq_zero_iff

end Counting

section Nesting

theorem openings_append
    (stack base : List Entry) :
    openings (stack ++ base) = openings stack + openings base := by
  induction stack with
  | nil =>
      simp [openings]
  | cons entry stack ih =>
      cases entry with
      | opened =>
          simp only [List.cons_append, openings, ih]
          omega
      | form form =>
          simpa [openings] using ih

theorem close?_append
    (base : List Entry)
    (h : close? inner stack = some next) :
    close? inner (stack ++ base) = some (next ++ base) := by
  induction stack generalizing inner with
  | nil =>
      cases h
  | cons entry stack ih =>
      cases entry with
      | opened =>
          cases h
          rfl
      | form form =>
          exact ih h

theorem shift?_append
    {token : Token} (base : List Entry)
    (h : shift? stack token = some next) :
    shift? (stack ++ base) token = some (next ++ base) := by
  cases token with
  | closing =>
      exact close?_append base h
  | _ =>
      cases h
      rfl

/-- Earlier entries are left alone by tokens that do not need them. -/
theorem shiftAll?_append_base
    (base : List Entry)
    (h : shiftAll? stack tokens = some next) :
    shiftAll? (stack ++ base) tokens = some (next ++ base) := by
  induction tokens generalizing stack with
  | nil =>
      cases h
      rfl
  | cons token tokens ih =>
      obtain ⟨middle, hmiddle, hrest⟩ := Option.bind_eq_some_iff.mp h
      rw [shiftAll?, shift?_append base hmiddle]
      exact ih hrest

theorem shiftAll?_append
    (h : shiftAll? stack tokens = some next) :
    shiftAll? stack (tokens ++ others) = shiftAll? next others := by
  induction tokens generalizing stack with
  | nil =>
      cases h
      rfl
  | cons token tokens ih =>
      obtain ⟨middle, hmiddle, hrest⟩ := Option.bind_eq_some_iff.mp h
      rw [List.cons_append, shiftAll?, hmiddle]
      exact ih hrest

theorem finished?_append
    (hstack : finished? stack = some more)
    (hbase : finished? base = some forms) :
    finished? (stack ++ base) = some (forms ++ more) := by
  induction stack generalizing more with
  | nil =>
      cases hstack
      simpa using hbase
  | cons entry stack ih =>
      cases entry with
      | opened =>
          cases hstack
      | form form =>
          obtain ⟨earlier, hearlier, rfl⟩ := Option.map_eq_some_iff.mp hstack
          simp [finished?, ih hearlier]

/-- A closing parenthesis collects the forms down to its partner. -/
theorem close?_finished
    (base : List Entry)
    (h : finished? stack = some forms) :
    close? inner (stack ++ .opened :: base) = some (.form (.list (forms ++ inner)) :: base) := by
  induction stack generalizing forms inner with
  | nil =>
      cases h
      rfl
  | cons entry stack ih =>
      cases entry with
      | opened =>
          cases h
      | form form =>
          obtain ⟨earlier, hearlier, rfl⟩ := Option.map_eq_some_iff.mp h
          rw [List.cons_append, close?, ih hearlier, List.append_assoc]
          rfl

theorem nest?_eq_some_iff :
    nest? tokens = some forms ↔
      ∃ stack, shiftAll? [] tokens = some stack ∧ finished? stack = some forms :=
  Option.bind_eq_some_iff

/-- Forms one after another. -/
theorem nest?_append
    (htokens : nest? tokens = some forms)
    (hothers : nest? others = some more) :
    nest? (tokens ++ others) = some (forms ++ more) := by
  obtain ⟨base, hbase, hforms⟩ := nest?_eq_some_iff.mp htokens
  obtain ⟨stack, hstack, hmore⟩ := nest?_eq_some_iff.mp hothers
  refine nest?_eq_some_iff.mpr ⟨stack ++ base, ?_, finished?_append hmore hforms⟩
  rw [shiftAll?_append hbase]
  exact shiftAll?_append_base base hstack

/-- Forms between parentheses are one list. -/
theorem nest?_enclosed
    (h : nest? tokens = some forms) :
    nest? (.opening :: (tokens ++ [.closing])) = some [.list forms] := by
  obtain ⟨stack, hstack, hforms⟩ := nest?_eq_some_iff.mp h
  refine nest?_eq_some_iff.mpr ⟨[.form (.list forms)], ?_, rfl⟩
  have hinside : shiftAll? [.opened] tokens = some (stack ++ [.opened]) :=
    shiftAll?_append_base [.opened] hstack
  have hclose : close? [] (stack ++ [.opened]) = some [.form (.list (forms ++ []))] :=
    close?_finished [] hforms
  rw [List.append_nil] at hclose
  change shiftAll? [.opened] (tokens ++ [.closing]) = _
  rw [shiftAll?_append hinside, shiftAll?, shift?, hclose]
  rfl

/-- A parenthesis that is opened before forms and not closed is left open. -/
theorem nest?_unclosed
    (h : nest? tokens = some forms) :
    nest? (.opening :: tokens) = none := by
  obtain ⟨stack, hstack, hforms⟩ := nest?_eq_some_iff.mp h
  have hinside : shiftAll? [.opened] tokens = some (stack ++ [.opened]) :=
    shiftAll?_append_base [.opened] hstack
  have hopen : finished? (stack ++ [.opened]) = none := by
    rw [← Option.not_isSome_iff_eq_none, isSome_finished?_iff, openings_append]
    simp [openings]
  change (shiftAll? [.opened] tokens).bind finished? = none
  rw [hinside]
  exact hopen

end Nesting

end Forms

end Elisp
end Literate
