import Literate.Proofs.Header.Merging
import Literate.Text.Lines

/-!
# Quoted header values

A header value may be written between double quotation marks.  The marks are
looked at only after the line has been cut, so they keep the blanks at the ends
of a value and any colon in it, except one that looks like the beginning of an
argument: a value that holds a blank, a colon and a letter one after another is
cut there in spite of its marks.

**Cutting.**  `quiet_fragments` says that no argument begins in a fragment, and
`uncut_parse` that this is inherited by every value that is read, variables
apart, since these are collected from several fragments.

**Main statement.**  `parse_quoted_iff`: quoted arguments are read back in their
order exactly when no argument begins inside a value.
-/

namespace Literate
namespace Header

/-- A value between double quotation marks. -/
def quotedValue (value : Text) : Text :=
  '"' :: (value ++ ['"'])

/-- Arguments with quoted values as they are written, a space between neighbours. -/
def quotedText (arguments : List (Text × Text)) : Text :=
  Text.join " " (arguments.map fun argument => argumentText (argument.1, quotedValue argument.2))

section Inside

variable {value : Text}

theorem not_quiet_append
    {atStart : Bool} (before : Text) {b c : Char} {rest : Text}
    (hb : Text.isBlank b = true)
    (hc : c.isAlpha = true) :
    ¬ Quiet atStart (before ++ b :: ':' :: c :: rest) := by
  intro h
  induction before generalizing atStart with
  | nil =>
      obtain ⟨-, hcolon, -⟩ := h
      exact hcolon ⟨rfl, hb, hc⟩
  | cons d before ih =>
      exact ih h.2

theorem not_holdsArgument_of_quiet
    {atStart : Bool}
    (h : Quiet atStart value) :
    ¬ HoldsArgument value := by
  rintro ⟨before, b, c, rest, rfl, hb, hc⟩
  exact not_quiet_append before hb hc h

theorem quiet_of_not_holdsArgument
    (h : ¬ HoldsArgument value) :
    Quiet false value := by
  apply quiet_of_forall
  · intro hfalse
    cases hfalse
  · intro before b c rest hvalue hb
    by_contra hc
    rw [Bool.not_eq_false] at hc
    exact h ⟨before, b, c, rest, hvalue, hb, hc⟩

theorem HoldsArgument.of_isPart
    {t : Text}
    (h : HoldsArgument value)
    (hpart : value <:+: t) :
    HoldsArgument t := by
  obtain ⟨before, b, c, rest, rfl, hb, hc⟩ := h
  obtain ⟨front, back, rfl⟩ := hpart
  exact ⟨front ++ before, b, c, rest ++ back, by simp, hb, hc⟩

/-- A quoted value stays in one piece when no argument begins inside it. -/
theorem wholeValue_quotedValue
    (h : ¬ HoldsArgument value) :
    WholeValue (quotedValue value) := by
  have hmark : Text.isBlank '"' = false := by
    decide
  constructor
  · rw [quotedValue, Text.trim_eq_self_iff]
    constructor
    · simp [hmark]
    · simp [List.getLast?_cons, hmark]
  · refine ⟨by simp, ?_⟩
    rw [hmark]
    exact quiet_of_not_holdsArgument fun hquoted => h (hquoted.of_concat rfl)

theorem unquote_quotedValue
    (value : Text) :
    Text.unquote (quotedValue value) = value := by
  simp [quotedValue, Text.unquote]

end Inside

section Values

theorem startsWithLetter_of_append
    {u t : Text}
    (h : startsWithLetter u = true) :
    startsWithLetter (u ++ t) = true := by
  cases u with
  | nil =>
      cases h
  | cons c u =>
      exact h

/-- No argument begins in a fragment.  The first fragment is what the text begins with. -/
theorem quiet_fragments
    {atStart : Bool} {t first : Text} {others : List Text}
    (h : fragments atStart t = first :: others) :
    (∃ rest, t = first ++ rest) ∧ Quiet atStart first ∧ ∀ piece ∈ others, Quiet false piece := by
  induction t generalizing atStart first others with
  | nil =>
      simp only [fragments, List.cons.injEq] at h
      obtain ⟨rfl, rfl⟩ := h
      exact ⟨⟨[], rfl⟩, trivial, by simp⟩
  | cons c t ih =>
      by_cases hstart : c = ':' ∧ atStart = true ∧ startsWithLetter t = true
      · obtain ⟨next, later, hnext⟩ := List.exists_cons_of_ne_nil (fragments_ne_nil false t)
        obtain ⟨-, hquiet, hlater⟩ := ih hnext
        rw [fragments, if_pos hstart, hnext, List.cons.injEq] at h
        obtain ⟨rfl, rfl⟩ := h
        exact ⟨⟨c :: t, rfl⟩, trivial, List.forall_mem_cons.mpr ⟨hquiet, hlater⟩⟩
      · obtain ⟨next, later, hnext⟩ :=
          List.exists_cons_of_ne_nil (fragments_ne_nil (Text.isBlank c) t)
        obtain ⟨⟨rest, rfl⟩, hquiet, hlater⟩ := ih hnext
        rw [fragments_cons hstart hnext, List.cons.injEq] at h
        obtain ⟨rfl, rfl⟩ := h
        refine ⟨⟨rest, rfl⟩, ⟨?_, hquiet⟩, hlater⟩
        -- the fragment is a beginning of the text, so its letter is the text's
        rintro ⟨hcolon, hflag, hletter⟩
        exact hstart ⟨hcolon, hflag, startsWithLetter_of_append hletter⟩

theorem not_holdsArgument_of_mem_fragments
    {atStart : Bool} {t piece : Text}
    (h : piece ∈ fragments atStart t) :
    ¬ HoldsArgument piece := by
  obtain ⟨first, others, hfragments⟩ :=
    List.exists_cons_of_ne_nil (fragments_ne_nil atStart t)
  obtain ⟨-, hfirst, hothers⟩ := quiet_fragments hfragments
  rw [hfragments] at h
  rcases List.mem_cons.mp h with rfl | hmem
  · exact not_holdsArgument_of_quiet hfirst
  · exact not_holdsArgument_of_quiet (hothers piece hmem)

theorem cut_suffix
    {sep : Char} {t before after : Text}
    (h : Text.cut sep t = (before, some after)) :
    after <:+ t := by
  induction t generalizing before with
  | nil =>
      simp [Text.cut] at h
  | cons c t ih =>
      rw [Text.cut] at h
      split at h
      · simp only [Prod.mk.injEq, Option.some.injEq] at h
        rw [← h.2]
        exact List.suffix_cons c t
      · simp only [Prod.mk.injEq] at h
        have hcut : Text.cut sep t = ((Text.cut sep t).1, some after) := by
          rw [← h.2]
        exact (ih hcut).trans (List.suffix_cons c t)

theorem unquote_isPart
    (t : Text) :
    Text.unquote t <:+: t := by
  cases t with
  | nil =>
      exact List.infix_rfl
  | cons q rest =>
      rw [Text.unquote]
      split
      · exact (List.dropLast_prefix rest).isInfix.trans (List.suffix_cons q rest).isInfix
      · exact List.infix_rfl

/-- The value of a fragment is a part of it. -/
theorem value_isPart
    (fragment : Text) :
    (argument fragment).2 <:+: fragment := by
  have hvalue : (Text.cut ' ' fragment).2.getD [] <:+: fragment := by
    cases hcut : Text.cut ' ' fragment with
    | mk key value =>
        cases value with
        | none =>
            exact List.nil_infix
        | some value =>
            exact (cut_suffix hcut).isInfix
  exact (unquote_isPart _).trans ((Text.trim_isPart _).trans hvalue)

theorem not_holdsArgument_of_mem_arguments
    {t key value : Text}
    (h : (key, value) ∈ arguments t) :
    ¬ HoldsArgument value := by
  obtain ⟨piece, hpiece, hread⟩ := List.mem_filterMap.mp h
  intro hvalue
  refine not_holdsArgument_of_mem_fragments hpiece (hvalue.of_isPart ?_)
  have htrim := Text.trim_isPart piece
  rw [read?] at hread
  split at hread
  · cases hread
  · rename_i c cs hcs
    rw [Option.some.injEq] at hread
    rw [hcs] at htrim
    have hpart := value_isPart (c :: cs)
    rw [hread] at hpart
    exact hpart.trans htrim

/-- No argument begins inside the values of a dictionary, variables apart. -/
def Uncut (params : Params) : Prop :=
  ∀ key value, key ≠ variableKey → params.get? key = some value → ¬ HoldsArgument value

theorem uncut_addArgument
    {params : Params} {key value : Text}
    (hparams : Uncut params)
    (hvalue : ¬ HoldsArgument value) :
    Uncut (addArgument params key value) := by
  intro other found hother hfound
  -- only the value of the variables depends on what was read before
  have hget : (addArgument params key value).get? other =
      if key = other then some value else params.get? other := by
    by_cases hkey : key = variableKey
    · have hne : ¬ variableKey = other := fun heq => hother heq.symm
      subst hkey
      rw [addArgument]
      split <;> simp [Dictionary.get?_insert, hne]
    · rw [addArgument_of_ne _ _ hkey, Dictionary.get?_insert]
  rw [hget] at hfound
  split at hfound
  · rw [Option.some.injEq] at hfound
    exact hfound ▸ hvalue
  · exact hparams other found hother hfound

theorem uncut_addAll
    {params : Params} {read : List (Text × Text)}
    (hparams : Uncut params)
    (hread : ∀ argument ∈ read, ¬ HoldsArgument argument.2) :
    Uncut (addAll params read) := by
  induction read generalizing params with
  | nil =>
      exact hparams
  | cons argument rest ih =>
      rw [List.forall_mem_cons] at hread
      exact ih (uncut_addArgument hparams hread.1) hread.2

/-- No argument begins inside a value that is read, variables apart. -/
theorem uncut_parse
    (t : Text) :
    Uncut (parse t) := by
  rw [parse_eq_addAll]
  refine uncut_addAll ?_ fun argument hargument => not_holdsArgument_of_mem_arguments hargument
  intro key value hkey hget
  cases hget

end Values

section Quoted

variable {arguments : List (Text × Text)}

/-- Quoted arguments are read one by one, whether their keys are distinct or not. -/
theorem arguments_quotedText
    (hkeys : ∀ argument ∈ arguments, isKey argument.1 = true)
    (hvalues : ∀ argument ∈ arguments, ¬ HoldsArgument argument.2) :
    Header.arguments (quotedText arguments) = arguments := by
  cases arguments with
  | nil =>
      rfl
  | cons first others =>
      let quoted : Text × Text → Text × Text := fun argument => (argument.1, quotedValue argument.2)
      have hwhole : ∀ other ∈ quoted first :: others.map quoted,
          isKey other.1 = true ∧ WholeValue other.2 := by
        rw [← List.map_cons]
        intro other hother
        obtain ⟨argument, hargument, rfl⟩ := List.mem_map.mp hother
        exact ⟨hkeys argument hargument, wholeValue_quotedValue (hvalues argument hargument)⟩
      have hback : unquoted ∘ quoted = id := by
        funext argument
        simp [quoted, unquoted, unquote_quotedValue]
      have hprinted : quotedText (first :: others) =
          argumentText (quoted first) ++ argumentsText (others.map quoted) := by
        rw [← join_argumentText, ← List.map_cons, List.map_map]
        rfl
      rw [hprinted, arguments_printed _ _ hwhole, ← List.map_cons, List.map_map, hback, List.map_id]

/-- **Quoted values.**  Quoted arguments are read back in their order exactly when no argument begins inside
a value. -/
theorem parse_quoted_iff
    (hkeys : ∀ argument ∈ arguments, isKey argument.1 = true ∧ argument.1 ≠ variableKey)
    (hdistinct : (arguments.map Prod.fst).Nodup) :
    parse (quotedText arguments) = ⟨arguments⟩ ↔
      ∀ argument ∈ arguments, ¬ HoldsArgument argument.2 := by
  constructor
  · intro hparse argument hargument
    obtain ⟨-, hother⟩ := hkeys argument hargument
    have hget : (parse (quotedText arguments)).get? argument.1 = some argument.2 := by
      rw [hparse]
      exact Dictionary.get?_of_mem_entries hdistinct hargument
    exact uncut_parse _ argument.1 argument.2 hother hget
  · intro hvalues
    rw [parse_eq_addAll, arguments_quotedText (fun argument h => (hkeys argument h).1) hvalues]
    exact addAll_of_nodup hdistinct

/-- The marks keep blanks at the ends, a colon right behind the mark, a colon before a digit, and other
quotation marks. -/
theorem parse_quoted_iff_lookalikes :
    let arguments : List (Text × Text) :=
      [("tangle", "  my:file :2 \x27x\x27 "), ("prologue", ":var is kept"), ("no-expand", [])]
    (∀ argument ∈ arguments, isKey argument.1 = true ∧ argument.1 ≠ variableKey) ∧
      (arguments.map Prod.fst).Nodup ∧
      parse (quotedText arguments) = ⟨arguments⟩ ∧
      ∀ argument ∈ arguments, ¬ HoldsArgument argument.2 := by
  intro arguments
  have hkeys : ∀ argument ∈ arguments, isKey argument.1 = true ∧ argument.1 ≠ variableKey := by
    simp only [arguments, List.forall_mem_cons]
    decide
  have hdistinct : (arguments.map Prod.fst).Nodup := by
    decide
  have hparse : parse (quotedText arguments) = ⟨arguments⟩ := by
    decide +kernel
  exact ⟨hkeys, hdistinct, hparse, (parse_quoted_iff hkeys hdistinct).mp hparse⟩

/-- A quoted value without a quotation mark or a line end in it is cut where an argument seems to begin. -/
theorem parse_quoted_cuts :
    let value : Text := "my :notes file.py"
    '"' ∉ value ∧ (value.all fun c => !Text.isLineEnd c) = true ∧
      parse (quotedText [("tangle", value)]) = ⟨[("tangle", "\"my"), ("notes", "file.py\"")]⟩ ∧
      parse (quotedText [("tangle", value)]) ≠ ⟨[("tangle", value)]⟩ := by
  decide +kernel

end Quoted

end Header
end Literate
