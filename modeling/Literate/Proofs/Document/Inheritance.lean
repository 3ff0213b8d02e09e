import Literate.Document.Basic
import Literate.Proofs.Document.Outline
import Literate.Proofs.Header

/-!
# Inherited header arguments

A block takes the value of a header argument from the nearest place that sets
it: its own first line, the drawers of the headings above it from the innermost
outward, and the whole file.  In one place what is set for the block's language
comes before what is set for every language, and later lines come before earlier
ones.

**Places.**  A place is the list of header arguments that its lines set, in their
order: `Ancestor.arguments` for a heading and `fileArguments` for the file.
`given?` is what such a list says of one key for one language, and `inherited?`
what a block of a language takes from it.

**Main statements.**
* `get?_setting`: the layer that the arguments of a place make says what the
  arguments say.
* `get?_blockParams`: overlaying the layers from the file inward is looking the
  key up from the innermost heading outward.
* `scanned_inherits`: every block of a document takes each of its arguments from
  the nearest place, and links to the innermost heading above it.
-/

namespace Literate
namespace Document

/-- What the last of the arguments for a language that set a key gives it. -/
def given? (language : Option Text) (key : Text) (arguments : List (Option Text × Text)) :
    Option Text :=
  arguments.reverse.findSome? fun entry =>
    if entry.1 = language then (Header.parse entry.2).get? key else none

/-- What a block takes from arguments: first those for its language, which only a block with a language
has, then those for every language. -/
def inherited? (language key : Text) (arguments : List (Option Text × Text)) : Option Text :=
  (if language = [] then none else given? (some language) key arguments).or
    (given? none key arguments)

/-- The header arguments that lines anywhere in a file set for the whole file. -/
def fileArguments (lines : List Text) : List (Option Text × Text) :=
  lines.filterMap fileArguments?

namespace Layer

/-- The arguments that a layer sets for a language, or for every language. -/
def setting (layer : Layer) (language : Option Text) : Params :=
  (layer.get? language).getD Dictionary.empty

theorem setting_add
    (layer : Layer) (language other : Option Text) (t : Text) :
    (layer.add other t).setting language =
      if other = language then (layer.setting language).update (Header.parse t)
      else layer.setting language := by
  unfold setting add
  rw [Dictionary.get?_insert]
  by_cases hlanguage : other = language
  · subst hlanguage
    simp
  · simp [hlanguage]

section Arguments

variable (language : Option Text) (arguments : List (Option Text × Text))

theorem nodup_keys_setting :
    ((ofArguments arguments).setting language).keys.Nodup := by
  induction arguments using List.reverseRecOn with
  | nil =>
      exact List.nodup_nil
  | append_singleton arguments entry ih =>
      rw [ofArguments_concat, setting_add]
      split
      · exact Dictionary.nodup_keys_update _ ih
      · exact ih

/-- The layer that arguments make says what the arguments say. -/
theorem get?_setting
    (key : Text) :
    ((ofArguments arguments).setting language).get? key = given? language key arguments := by
  induction arguments using List.reverseRecOn with
  | nil =>
      rfl
  | append_singleton arguments entry ih =>
      have hlast : given? language key (arguments ++ [entry]) =
          (if entry.1 = language then (Header.parse entry.2).get? key else none).or
            (given? language key arguments) := by
        unfold given?
        rw [List.reverse_concat, List.findSome?_cons]
        split <;> simp [*]
      rw [ofArguments_concat, setting_add, hlast, ← ih]
      split
      · rw [Dictionary.get?_update _ key (Header.nodup_keys_parse entry.2)]
      · rw [Option.none_or]

end Arguments

theorem get?_apply
    (language : Text) (params : Params) (arguments : List (Option Text × Text)) (key : Text) :
    (Layer.apply language params (ofArguments arguments)).get? key =
      (inherited? language key arguments).or (params.get? key) := by
  have hgeneral :
      (params.update ((ofArguments arguments).setting none)).get? key =
        (given? none key arguments).or (params.get? key) := by
    rw [Dictionary.get?_update _ key (nodup_keys_setting none arguments), get?_setting]
  unfold Layer.apply inherited?
  cases language with
  | nil =>
      rw [if_pos rfl, Option.none_or]
      exact hgeneral
  | cons c cs =>
      rw [if_neg (List.cons_ne_nil c cs), Option.or_assoc, ← hgeneral,
        ← get?_setting (some (c :: cs)) arguments key]
      exact Dictionary.get?_update _ key (nodup_keys_setting (some (c :: cs)) arguments)

/-- Layers that are laid over one another are searched from the last one back. -/
theorem get?_foldl_apply
    (language : Text) (params : Params) (places : List (List (Option Text × Text))) (key : Text) :
    ((places.map ofArguments).foldl (Layer.apply language) params).get? key =
      (places.reverse.findSome? (inherited? language key)).or (params.get? key) := by
  induction places generalizing params with
  | nil =>
      rfl
  | cons place places ih =>
      rw [List.map_cons, List.foldl_cons, ih, get?_apply, List.reverse_cons, List.findSome?_append,
        Option.or_assoc]
      congr 2
      simp

end Layer

theorem fileLayer_eq_ofArguments
    (lines : List Text) :
    fileLayer lines = Layer.ofArguments (fileArguments lines) := by
  unfold fileLayer Layer.ofArguments fileArguments
  rw [List.foldl_filterMap]
  congr 1
  funext layer line
  cases fileArguments? line <;> rfl

/-- The places from which the line after the first lines of a document inherits, the nearest first. -/
def places (before lines : List Text) : List (List (Option Text × Text)) :=
  (ancestors (placed before)).map Ancestor.arguments ++ [fileArguments lines]

/-- Overlaying the layers from the file inward is looking a key up from the innermost heading outward. -/
theorem get?_blockParams
    (path : Option Path) (before lines : List Text) (language arguments key : Text) :
    let context : ScanContext := ⟨path, fileLayer lines⟩
    (blockParams context (stateAfter context before).outline language arguments).get? key =
      ((Header.parse arguments).get? key).or
        ((places before lines).findSome? (inherited? language key)) := by
  intro context
  have hlayers :
      context.fileLayer :: ((stateAfter context before).outline.reverse.map Heading.layer) =
        (places before lines).reverse.map Layer.ofArguments := by
    rw [outline_stateAfter, places, List.reverse_concat, List.map_cons, ← fileLayer_eq_ofArguments]
    simp [← List.map_reverse, Ancestor.toHeading, context]
  unfold blockParams
  rw [hlayers, Dictionary.get?_update _ key (Header.nodup_keys_parse arguments),
    Layer.get?_foldl_apply, List.reverse_reverse]
  congr 1
  exact Option.or_none

theorem heading_stateAfter
    (context : ScanContext) (before : List Text) :
    (stateAfter context before).outline.head?.map Heading.title =
      (ancestors (placed before)).head?.map Ancestor.title := by
  rw [outline_stateAfter]
  cases ancestors (placed before) <;> rfl

/-- **Inheritance.**  Every block of a document takes each of its header arguments from the nearest place
that sets it: its first line, the headings above from the innermost outward, and the file.  It links to
its first line and to the innermost heading above. -/
theorem scanned_inherits
    (document : Document) (block : DocumentBlock)
    (h : block ∈ document.scanned.blocks) :
    ∃ before line after rest,
      Text.lines document.text = before ++ line :: after ∧
      Begins before line block.language rest ∧
      block.link =
        { path := document.path
          line := before.length + 1
          heading := (ancestors (placed before)).head?.map Ancestor.title } ∧
      ∀ key, block.params.get? key =
        ((Header.parse (Header.splitSwitches true rest).2).get? key).or
          ((places before (Text.lines document.text)).findSome? (inherited? block.language key)) := by
  obtain ⟨before, line, body, last, after, language, rest, hlines, hbegins, -, -, rfl⟩ :=
    exists_beginning h
  refine ⟨before, line, body ++ last :: after, rest, hlines, hbegins, ?_, ?_⟩
  · simp only [Opening.close, ScanState.opening, heading_stateAfter, line_stateAfter]
  · intro key
    exact get?_blockParams document.path before (Text.lines document.text) language _ key

/-- The second block stands below `Near` and `Top`, and no longer below `Deep`.  Its destination is that of
`Top`, and its padding the one that `Top` sets for its language. -/
theorem scanned_inherits_skipped_level :
    let document : Document :=
      { text :=
          "* Top\n:PROPERTIES:\n:header-args: :tangle top :noweb no\n:header-args:sh: :padline no\n" ++
            ":header-args: :noweb yes :padline x\n:END:\n*** Deep\n:PROPERTIES:\n" ++
            ":header-args: :tangle deep\n:END:\n#+begin_src sh\n* Body\n#+end_src\n** Near\n" ++
            "#+begin_src sh :shebang s\n#+end_src\n#+PROPERTY: header-args:sh :tangle file :mkdirp yes\n" }
    let block : DocumentBlock :=
      { language := "sh"
        name := none
        params :=
          ⟨[("tangle", "top"), ("mkdirp", "yes"), ("noweb", "yes"), ("padline", "no"), ("shebang", "s")]⟩
        body := []
        link := { path := none, line := 15, heading := some "Near" } }
    block ∈ document.scanned.blocks ∧
      ∃ before line after rest,
        Text.lines document.text = before ++ line :: after ∧
        Begins before line block.language rest ∧
        block.link =
          { path := document.path
            line := before.length + 1
            heading := (ancestors (placed before)).head?.map Ancestor.title } ∧
        ∀ key, block.params.get? key =
          ((Header.parse (Header.splitSwitches true rest).2).get? key).or
            ((places before (Text.lines document.text)).findSome? (inherited? block.language key)) := by
  intro document block
  have hblock : block ∈ document.scanned.blocks := by
    decide +kernel
  exact ⟨hblock, scanned_inherits document block hblock⟩

end Document
end Literate
