import Literate.Proofs.Host
import Literate.Proofs.Yaml
import Literate.Settings

/-!
# Settings of the wrong type

A settings file is a mapping, and each of its parts has a type of its own.  A part
that is given but does not have its type is mistyped.

**What is overlooked.**  Not every mistyped part is an error.  Where a text or a mapping
of templates or comment styles is expected, anything else is passed over as if
nothing were given; so is a file that holds something empty, zero or false.

**Numbers.**  A number with too many digits has no text.  Where its text is needed, reading
ends in an error of its own, which says nothing about types.

**Main statements.**
* `reads_ofData`: how reading the data of a file may end.
* `exists_blames_iff`: the parts that an error blames.
* `load_reports_iff`: when loading settings fails, and what it gives otherwise.
-/

namespace Literate
namespace Settings

open Yaml (Data Value)

section Types

/-- The parts of a settings file. -/
inductive Part
  | root
  | document
  | comments
  | suffixes
  | styles
  | templates

/-- Whether a value is a text or a number. -/
def isTextual : Value → Bool
  | .text _ => true
  | .int _ => true
  | .float _ => true
  | _ => false

/-- The words for true and false. -/
def truthWords : List (Text × Bool) :=
  [("true", true), ("yes", true), ("1", true), ("false", false), ("no", false), ("0", false)]

/-- The truth value that a value means. -/
def truth? : Value → Option Bool
  | .bool b => some b
  | .text points => truthWords.lookup (Text.lower (Text.trim (points.map CodePoints.toChar)))
  | _ => none

/-- Whether a value is a text or a list of one or two items. -/
def isStyle (data : Data) (value : Value) : Bool :=
  match value, data.items? value with
  | .text _, _ => true
  | _, some items => items.length == 1 || items.length == 2
  | _, none => false

/-- The pairs of a mapping; anything else has none. -/
def pairsOf (data : Data) (value : Value) : List (Value × Value) :=
  (data.pairs? value).getD []

/-- Whether a value is a mapping whose values are all of a kind. -/
def isMappingTo (data : Data) (kind : Value → Bool) (value : Value) : Bool :=
  (data.pairs? value).any fun pairs => pairs.all fun pair => kind pair.2

/-- The value that is given for a part; null when none is. -/
def valueOf (data : Data) : Part → Value
  | .root => data.root
  | .document => field (pairsOf data data.root) "document"
  | .comments => field (pairsOf data data.root) "comments"
  | .suffixes => field (pairsOf data data.root) "extensions"
  | .styles => field (pairsOf data data.root) "comment_syntax"
  | .templates => field (pairsOf data data.root) "templates"

/-- Whether a value is null. -/
def isNull : Value → Bool
  | .null => true
  | _ => false

/-- Whether a value has the type of a part. -/
def hasType (data : Data) (value : Value) : Part → Bool
  | .root => (data.pairs? value).isSome
  | .document => isTextual value
  | .comments => (truth? value).isSome
  | .suffixes => isMappingTo data isTextual value
  | .styles => isMappingTo data (isStyle data) value
  | .templates => (data.pairs? value).any fun pairs =>
      (["comment_begin", "comment_end"] : List Text).all fun key =>
        isNull (field pairs key) || isTextual (field pairs key)

/-- A part is given but does not have its type. -/
def IsMistyped (data : Data) (part : Part) : Prop :=
  isNull (valueOf data part) = false ∧ hasType data (valueOf data part) part = false

/-- A part that does not have its type is passed over. -/
def IsOverlooked (data : Data) : Part → Prop
  | .root => data.isNothing data.root = true
  | .document => True
  | .comments => False
  | .suffixes => False
  | .styles => data.pairs? (valueOf data .styles) = none
  | .templates => True

end Types

section Given

/-- The text of a value; of one without a text, nothing. -/
def wording (data : Data) (value : Value) : Text :=
  (data.textOf value).getD []

/-- The text of a value that is a text or a number. -/
def text? (data : Data) (value : Value) : Option Text :=
  if isTextual value then some (wording data value) else none

/-- The comment style that a value gives. -/
def styleOf (data : Data) (value : Value) : CommentStyle :=
  match value, data.items? value with
  | .text _, _ => ⟨wording data value, []⟩
  | _, some [opening, closing] => ⟨wording data opening, wording data closing⟩
  | _, items => ⟨((items.getD []).head?.map (wording data)).getD [], []⟩

/-- The settings that data give when no mistyped part is an error. -/
def given (root : Path) (data : Data) : Settings :=
  let templates := pairsOf data (valueOf data .templates)
  { root := root
    document := match text? data (valueOf data .document) with
      | some (c :: rest) => some (root.append (Path.ofText (c :: rest)))
      | _ => none
    comments := (truth? (valueOf data .comments)).getD false
    suffixes := .ofPairs ((pairsOf data (valueOf data .suffixes)).map fun pair =>
      (wording data pair.1, wording data pair.2))
    commentStyles := .ofPairs ((pairsOf data (valueOf data .styles)).map fun pair =>
      (wording data pair.1, styleOf data pair.2))
    opening := (text? data (field templates "comment_begin")).getD Decoration.standardOpening
    closing := (text? data (field templates "comment_end")).getD Decoration.standardClosing }

end Given

section Reading

variable {α β : Type} {data : Data} {value : Value}

/-- How reading may end that gives `a` unless there is one of certain faults.  Which of several faults is
reported, or whether a number comes first, is left open. -/
inductive Reads (data : Data) (faults : SettingsError → Prop) (a : α) : Except Failure α → Prop
  /-- There is no fault. -/
  | done (h : ∀ e, ¬ faults e) : Reads data faults a (.ok a)
  /-- A fault is reported. -/
  | fault {e : SettingsError} (h : faults e) : Reads data faults a (.error (.settings e))
  /-- A number has too many digits. -/
  | tooLong (h : ¬ data.IsLegible) : Reads data faults a (.error (.scalar .badValue))

theorem Reads.bind
    {faults faults' : SettingsError → Prop} {a : α} {b : β} {x : Except Failure α}
    {f : α → Except Failure β}
    (hx : Reads data faults a x)
    (hf : Reads data faults' b (f a)) :
    Reads data (fun e => faults e ∨ faults' e) b (x >>= f) := by
  cases hx with
  | done hnone =>
      change Reads data _ b (f a)
      generalize f a = y at hf ⊢
      cases hf with
      | done hnone' =>
          exact .done fun e he => he.elim (hnone e) (hnone' e)
      | fault h =>
          exact .fault (Or.inr h)
      | tooLong h =>
          exact .tooLong h
  | fault h =>
      exact .fault (Or.inl h)
  | tooLong h =>
      exact .tooLong h

theorem Reads.congr
    {faults faults' : SettingsError → Prop} {a : α} {x : Except Failure α}
    (hx : Reads data faults a x)
    (h : ∀ e, faults e ↔ faults' e) :
    Reads data faults' a x :=
  funext (fun e => propext (h e)) ▸ hx

/-- A value can be shown if no number has too many digits. -/
def IsShown (data : Data) (value : Value) : Prop :=
  data.IsLegible → data.CanShow value

theorem isShown_of_mem_held
    (hclosed : data.IsClosed)
    (h : value ∈ data.held) :
    IsShown data value :=
  fun hlegible => ⟨hclosed value h, hlegible value h⟩

theorem isShown_of_mem_pairsOf
    {pair : Value × Value}
    (hclosed : data.IsClosed)
    (h : pair ∈ pairsOf data value) :
    IsShown data pair.1 ∧ IsShown data pair.2 := by
  cases value with
  | ref number =>
      rw [pairsOf, Data.pairs?] at h
      split at h
      · rename_i pairs hpairs
        have hmem := Array.mem_of_getElem? hpairs
        have hheld : ∀ v ∈ [pair.1, pair.2], IsShown data v := fun v hv =>
          isShown_of_mem_held hclosed (Data.mem_held hmem (List.mem_flatMap.mpr ⟨pair, h, hv⟩))
        exact ⟨hheld _ (by simp), hheld _ (by simp)⟩
      · cases h
  | _ =>
      cases h

theorem isShown_of_items?
    {items : List Value} {item : Value}
    (hclosed : data.IsClosed)
    (h : data.items? value = some items)
    (hitem : item ∈ items) :
    IsShown data item := by
  cases value with
  | ref number =>
      rw [Data.items?] at h
      split at h
      · rename_i found hfound
        cases h
        exact isShown_of_mem_held hclosed (Data.mem_held (Array.mem_of_getElem? hfound) hitem)
      · cases h
  | _ =>
      cases h

theorem isShown_field
    (hclosed : data.IsClosed) (key : Text) :
    IsShown data (field (pairsOf data value) key) := by
  rw [field]
  split
  · rename_i pair hpair
    exact (isShown_of_mem_pairsOf hclosed (List.mem_of_find?_eq_some hpair)).2
  · exact fun _ => ⟨trivial, rfl⟩

theorem reads_shown
    (hclosed : data.IsClosed)
    (h : IsShown data value) :
    Reads data (fun _ => False) (wording data value) (shown data value) := by
  rw [shown, wording]
  cases htext : data.textOf value with
  | some t =>
      exact .done fun _ => id
  | none =>
      refine .tooLong fun hlegible => ?_
      have hsome := Data.isSome_textOf hclosed hlegible (h hlegible)
      rw [htext] at hsome
      cases hsome

theorem reads_textOf
    (hclosed : data.IsClosed)
    (h : IsShown data value) :
    Reads data (fun _ => False) (text? data value) (textOf data value) := by
  have hnumber : Reads data (fun _ => False) (some (wording data value))
      (do .ok (some (← shown data value))) :=
    ((reads_shown hclosed h).bind (f := fun t => .ok (some t)) (.done fun _ => id)).congr
      fun _ => or_self_iff
  -- Only numbers are shown; a text is taken as it is.
  cases value with
  | int n =>
      exact hnumber
  | float x =>
      exact hnumber
  | _ =>
      exact .done fun _ => id

theorem reads_commentsOf :
    Reads data (fun e => e = .commentsNotBoolean ∧ isNull value = false ∧ truth? value = none)
      ((truth? value).getD false) (commentsOf value) := by
  cases value with
  | null =>
      exact .done fun _ h => nomatch h.2.1
  | bool b =>
      exact .done fun _ h => nomatch h.2.2
  | text points =>
      rw [commentsOf, truth?]
      generalize Text.lower (Text.trim (points.map CodePoints.toChar)) = word
      by_cases hword : word ∈ truthWords.map Prod.fst
      · simp only [truthWords, List.map_cons, List.map_nil, List.mem_cons, List.not_mem_nil, or_false] at hword
        rcases hword with rfl | rfl | rfl | rfl | rfl | rfl <;> exact .done fun _ h => nomatch h.2.2
      · have hnone : truthWords.lookup word = none := List.lookup_eq_none_iff.mpr fun entry hentry =>
          bne_iff_ne.mpr fun heq => hword (heq ▸ List.mem_map_of_mem hentry)
        simp only [truthWords, List.map_cons, List.map_nil, List.mem_cons, List.not_mem_nil, or_false,
          not_or] at hword
        obtain ⟨htrue, hyes, hone, hfalse, hno, hzero⟩ := hword
        rw [if_neg (not_or.mpr ⟨htrue, not_or.mpr ⟨hyes, hone⟩⟩),
          if_neg (not_or.mpr ⟨hfalse, not_or.mpr ⟨hno, hzero⟩⟩)]
        exact .fault ⟨rfl, rfl, hnone⟩
  | _ =>
      exact .fault ⟨rfl, rfl, rfl⟩

/-- Entries read one after the other and put into a dictionary. -/
theorem reads_entries
    (loop : Dictionary Text β → List (Value × Value) → Except Failure (Dictionary Text β))
    (step : Value × Value → Except Failure (Text × β)) {entry : Value × Value → Text × β}
    {faults : Value × Value → SettingsError → Prop}
    (hnil : ∀ done, loop done [] = .ok done)
    (hcons : ∀ done pair rest,
      loop done (pair :: rest) = step pair >>= fun found => loop (done.insert found.1 found.2) rest)
    (pairs : List (Value × Value)) (done : Dictionary Text β)
    (hstep : ∀ pair ∈ pairs, Reads data (faults pair) (entry pair) (step pair)) :
    Reads data (fun e => ∃ pair ∈ pairs, faults pair e)
      ((pairs.map entry).foldl (fun done found => done.insert found.1 found.2) done) (loop done pairs) := by
  induction pairs generalizing done with
  | nil =>
      rw [hnil]
      exact .done fun e he => by simp at he
  | cons pair pairs ih =>
      obtain ⟨hpair, hrest⟩ := List.forall_mem_cons.mp hstep
      rw [hcons]
      refine (hpair.bind (ih (done.insert (entry pair).1 (entry pair).2) hrest)).congr fun e => ?_
      simp only [List.mem_cons, exists_eq_or_imp]

/-- The suffix that a pair gives to a language. -/
def suffixEntry (data : Data) (pair : Value × Value) : Except Failure (Text × Text) := do
  let suffix ← textOf data pair.2
  let language ← shown data pair.1
  match suffix with
  | none => .error (.settings (.notText "extensions" language))
  | some suffix => .ok (language, suffix)

theorem suffixesOfPairs_cons
    (data : Data) (done : Dictionary Text Text) (pair : Value × Value) (rest : List (Value × Value)) :
    suffixesOfPairs data done (pair :: rest) =
      suffixEntry data pair >>= fun found => suffixesOfPairs data (done.insert found.1 found.2) rest := by
  rw [suffixesOfPairs, suffixEntry]
  cases textOf data pair.2 with
  | error failure =>
      rfl
  | ok suffix =>
      cases shown data pair.1 with
      | error failure =>
          rfl
      | ok language =>
          cases suffix <;> rfl

theorem reads_suffixEntry
    {pair : Value × Value}
    (hclosed : data.IsClosed)
    (hname : IsShown data pair.1)
    (hvalue : IsShown data pair.2) :
    Reads data (fun e => isTextual pair.2 = false ∧ e = .notText "extensions" (wording data pair.1))
      (wording data pair.1, wording data pair.2) (suffixEntry data pair) := by
  refine ((reads_textOf hclosed hvalue).bind ((reads_shown hclosed hname).bind
    (?_ : Reads data (fun e => isTextual pair.2 = false ∧ e = .notText "extensions" (wording data pair.1))
      _ _))).congr fun e => by simp only [false_or]
  rw [text?]
  cases htext : isTextual pair.2 with
  | false =>
      exact .fault ⟨rfl, rfl⟩
  | true =>
      exact .done fun e he => nomatch he.1

theorem reads_suffixesOf
    (hclosed : data.IsClosed) :
    Reads data
      (fun e => e = .notMapping "extensions" ∧ isNull value = false ∧ data.pairs? value = none ∨
        ∃ pair ∈ pairsOf data value,
          isTextual pair.2 = false ∧ e = .notText "extensions" (wording data pair.1))
      (.ofPairs ((pairsOf data value).map fun pair => (wording data pair.1, wording data pair.2)))
      (suffixesOf data value) := by
  have hentries := reads_entries (suffixesOfPairs data) (suffixEntry data) (fun _ => rfl)
    (suffixesOfPairs_cons data) (pairsOf data value) .empty fun pair hpair =>
      reads_suffixEntry hclosed (isShown_of_mem_pairsOf hclosed hpair).1
        (isShown_of_mem_pairsOf hclosed hpair).2
  cases hpairs : data.pairs? value with
  | none =>
      cases value with
      | null =>
          exact .done fun e he => by simp [pairsOf, hpairs, isNull] at he
      | _ =>
          simp only [suffixesOf, hpairs]
          exact .fault (Or.inl ⟨rfl, rfl, trivial⟩)
  | some pairs =>
      cases value with
      | ref number =>
          simp only [pairsOf, hpairs, Option.getD_some] at hentries ⊢
          simp only [suffixesOf, hpairs]
          exact hentries.congr fun e => by simp
      | _ =>
          cases hpairs

theorem reads_commentStyleOf
    (hclosed : data.IsClosed) (language : Text) :
    Reads data (fun e => isStyle data value = false ∧ e = .badCommentStyle language) (styleOf data value)
      (commentStyleOf data language value) := by
  cases value with
  | text points =>
      exact .done fun _ h => nomatch h.1
  | ref number =>
      have hshown : ∀ {items item}, data.items? (.ref number) = some items → item ∈ items →
          Reads data (fun _ => False) (wording data item) (shown data item) :=
        fun hitems hitem => reads_shown hclosed (isShown_of_items? hclosed hitems hitem)
      unfold commentStyleOf styleOf isStyle
      cases hitems : data.items? (.ref number) with
      | none =>
          exact .fault ⟨rfl, rfl⟩
      | some items =>
          match items with
          | [] =>
              exact .fault ⟨rfl, rfl⟩
          | [opening] =>
              have hopening := hshown hitems (List.mem_singleton_self opening)
              refine (hopening.bind (?_ : Reads data (fun _ => False) _ _)).congr fun e => by simp
              exact .done fun _ => id
          | [opening, closing] =>
              have hopening := hshown hitems (show opening ∈ [opening, closing] by simp)
              have hclosing := hshown hitems (show closing ∈ [opening, closing] by simp)
              refine (hopening.bind (hclosing.bind (?_ : Reads data (fun _ => False) _ _))).congr
                fun e => by simp
              exact .done fun _ => id
          | _ :: _ :: _ :: _ =>
              exact .fault ⟨by simp, rfl⟩
  | _ =>
      exact .fault ⟨rfl, rfl⟩

theorem reads_commentStylesOfPairs
    (hclosed : data.IsClosed) :
    Reads data
      (fun e => ∃ pair ∈ pairsOf data value,
        isStyle data pair.2 = false ∧ e = .badCommentStyle (wording data pair.1))
      (.ofPairs ((pairsOf data value).map fun pair => (wording data pair.1, styleOf data pair.2)))
      (commentStylesOfPairs data .empty (pairsOf data value)) := by
  refine reads_entries (commentStylesOfPairs data) (fun pair => do
      let language ← shown data pair.1
      let style ← commentStyleOf data language pair.2
      .ok (language, style)) (fun _ => rfl) (fun done pair rest => ?_) (pairsOf data value) .empty
    fun pair hpair => ?_
  · rw [commentStylesOfPairs]
    cases shown data pair.1 with
    | error failure =>
        rfl
    | ok language =>
        cases hstyle : commentStyleOf data language pair.2 with
        | error failure =>
            simp only [bind, Except.bind, hstyle]
        | ok style =>
            simp only [bind, Except.bind, hstyle]
  · refine ((reads_shown hclosed (isShown_of_mem_pairsOf hclosed hpair).1).bind
      ((reads_commentStyleOf hclosed (wording data pair.1)).bind
        (f := fun style => .ok (wording data pair.1, style)) (.done fun _ => id))).congr fun e => by simp

theorem reads_rootPairs :
    Reads data (fun e => e = .rootNotMapping ∧ IsMistyped data .root ∧ ¬ IsOverlooked data .root)
      (pairsOf data data.root) (rootPairs data) := by
  rw [rootPairs]
  cases hnothing : data.isNothing data.root with
  | true =>
      have hempty : pairsOf data data.root = [] := by
        cases hroot : data.root with
        | ref number =>
            rw [hroot, Data.isNothing] at hnothing
            rw [pairsOf, Data.pairs?]
            split
            · rename_i pairs hpairs
              rw [hpairs] at hnothing
              exact List.isEmpty_iff.mp hnothing
            · rfl
        | _ =>
            rfl
      rw [hempty]
      exact .done fun e he => he.2.2 hnothing
  | false =>
      rw [pairsOf]
      cases hpairs : data.pairs? data.root with
      | some pairs =>
          refine .done fun e he => ?_
          have htype := he.2.1.2
          simp [valueOf, hasType, hpairs] at htype
      | none =>
          refine .fault ⟨rfl, ⟨?_, by simp [valueOf, hasType, hpairs]⟩, by simp [IsOverlooked, hnothing]⟩
          rw [valueOf]
          cases hroot : data.root with
          | null =>
              rw [hroot] at hnothing
              cases hnothing
          | _ =>
              rfl

end Reading

section Blame

variable {data : Data}

/-- What an error says is the case. -/
def Blames (data : Data) : SettingsError → Prop
  | .unparsable => False
  | .rootNotMapping => IsMistyped data .root ∧ ¬ IsOverlooked data .root
  | .commentsNotBoolean => IsMistyped data .comments
  | .notMapping key => key = "extensions" ∧ isNull (valueOf data .suffixes) = false ∧
      data.pairs? (valueOf data .suffixes) = none
  | .notText key item => key = "extensions" ∧ ∃ pair ∈ pairsOf data (valueOf data .suffixes),
      isTextual pair.2 = false ∧ item = wording data pair.1
  | .badCommentStyle language => ∃ pair ∈ pairsOf data (valueOf data .styles),
      isStyle data pair.2 = false ∧ language = wording data pair.1

/-- How reading the data of a file may end. -/
theorem reads_ofData
    (hclosed : data.IsClosed) (root : Path) :
    Reads data (Blames data) (given root data) (ofData root data) := by
  -- One step for each part, in the order of reading; only the last two share a part.
  refine (reads_rootPairs.bind <| (reads_textOf hclosed (isShown_field hclosed _)).bind <|
    reads_commentsOf.bind <| (reads_suffixesOf hclosed).bind <|
    (reads_commentStylesOfPairs hclosed).bind <| (reads_textOf hclosed (isShown_field hclosed _)).bind <|
    (reads_textOf hclosed (isShown_field hclosed _)).bind (?_ : Reads data (fun _ => False) _ _)).congr fun e => ?_
  · exact .done fun _ => id
  · cases e <;> simp [Blames, IsMistyped, hasType, valueOf, and_comm, and_left_comm]

theorem isMappingTo_eq_false_iff
    {kind : Value → Bool} {value : Value} :
    isMappingTo data kind value = false ↔
      data.pairs? value = none ∨ ∃ pair ∈ pairsOf data value, kind pair.2 = false := by
  rw [isMappingTo, pairsOf]
  cases data.pairs? value with
  | none =>
      simp
  | some pairs =>
      simp

/-- Only a mapping has pairs. -/
theorem isNull_of_mem_pairsOf
    {value : Value} {pair : Value × Value}
    (h : pair ∈ pairsOf data value) :
    isNull value = false ∧ data.pairs? value ≠ none := by
  constructor
  · cases value with
    | null =>
        cases h
    | _ =>
        rfl
  · intro hnone
    rw [pairsOf, hnone] at h
    cases h

/-- An error can be right exactly when a part is mistyped that is not overlooked. -/
theorem exists_blames_iff :
    (∃ e, Blames data e) ↔ ∃ part, IsMistyped data part ∧ ¬ IsOverlooked data part := by
  constructor
  · rintro ⟨e, he⟩
    cases e with
    | unparsable =>
        exact he.elim
    | rootNotMapping =>
        exact ⟨.root, he⟩
    | commentsNotBoolean =>
        exact ⟨.comments, he, not_false⟩
    | notMapping key =>
        obtain ⟨-, hnull, hnone⟩ := he
        exact ⟨.suffixes, ⟨hnull, isMappingTo_eq_false_iff.mpr (Or.inl hnone)⟩, not_false⟩
    | notText key item =>
        obtain ⟨-, pair, hpair, hkind, -⟩ := he
        exact ⟨.suffixes, ⟨(isNull_of_mem_pairsOf hpair).1,
          isMappingTo_eq_false_iff.mpr (Or.inr ⟨pair, hpair, hkind⟩)⟩, not_false⟩
    | badCommentStyle language =>
        obtain ⟨pair, hpair, hkind, -⟩ := he
        exact ⟨.styles, ⟨(isNull_of_mem_pairsOf hpair).1,
          isMappingTo_eq_false_iff.mpr (Or.inr ⟨pair, hpair, hkind⟩)⟩, (isNull_of_mem_pairsOf hpair).2⟩
  · rintro ⟨part, hmistyped, hoverlooked⟩
    cases part with
    | root =>
        exact ⟨.rootNotMapping, hmistyped, hoverlooked⟩
    | document =>
        exact absurd trivial hoverlooked
    | comments =>
        exact ⟨.commentsNotBoolean, hmistyped⟩
    | suffixes =>
        rcases isMappingTo_eq_false_iff.mp hmistyped.2 with hnone | ⟨pair, hpair, hkind⟩
        · exact ⟨.notMapping "extensions", rfl, hmistyped.1, hnone⟩
        · exact ⟨.notText "extensions" (wording data pair.1), rfl, pair, hpair, hkind, rfl⟩
    | styles =>
        obtain ⟨pair, hpair, hkind⟩ := (isMappingTo_eq_false_iff.mp hmistyped.2).resolve_left hoverlooked
        exact ⟨.badCommentStyle (wording data pair.1), pair, hpair, hkind, rfl⟩
    | templates =>
        exact absurd trivial hoverlooked

end Blame

section Files

variable {loader : Yaml.Loader}

/-- The data of a settings file, as a loader reads it; a blank file holds nothing. -/
def dataOf (loader : Yaml.Loader) (t : Text) : Except Yaml.Error Data :=
  if Text.isAllBlank t then .ok { root := .null } else loader t

theorem isClosed_of_dataOf
    {t : Text} {data : Data}
    (hloader : loader.IsClosed)
    (h : dataOf loader t = .ok data) :
    data.IsClosed := by
  rw [dataOf] at h
  split at h
  · cases h
    exact Yaml.isClosed_null
  · exact hloader t data h

theorem ofText_of_dataOf
    {t : Text} {data : Data} (root : Path)
    (h : dataOf loader t = .ok data) :
    ofText root t loader = ofData root data := by
  rw [dataOf] at h
  rw [ofText]
  split at h
  · rename_i hblank
    cases h
    rw [if_pos hblank]
    rfl
  · rename_i hblank
    rw [if_neg hblank, h]

/-- A fault of the host is passed on, and the state is that of the host. -/
theorem checked_run
    {α : Type} (p : Path) (operation : StateM World (Except Fault α)) (world : World) :
    (checked p operation : ExceptT Failure (StateM World) α).run world =
      ((operation world).1.mapError fun cause => .file ⟨cause, p⟩, (operation world).2) := by
  rw [checked, World.run_bind_of_ok (World.run_lift operation world)]
  cases hresult : (operation world).1 with
  | error cause =>
      rfl
  | ok value =>
      rfl

/-- A file that can be read is there. -/
theorem pathExists_of_readText
    {world world' : World} {p : Path} {t : Text}
    (h : (Host.readText p : StateM World _) world = (.ok t, world')) :
    (Host.pathExists p : StateM World _) world = (.ok true, world) := by
  cases hentry : world.files.entry world.surroundings.directory p with
  | ok entry =>
      exact World.pathExists_of_ok hentry
  | error cause =>
      have hread : world.files.read world.surroundings.directory p = .error cause := by
        rw [FileSystem.read, hentry]
        rfl
      simp only [Host.readText, World.bind_apply, Host.readBytes, hread] at h
      cases h

/-- Loading settings from a file reads its data. -/
theorem load_of_readText
    {world world' : World} {p file : Path} {t : Text} {data : Data}
    (hfile : (locate p : ExceptT Failure (StateM World) Path).run world = (.ok file, world'))
    (htext : (Host.readText file : StateM World _) world' = (.ok t, world'))
    (hdata : dataOf loader t = .ok data) :
    (load p loader : ExceptT Failure (StateM World) Settings).run world =
      (ofData file.parent data, world') := by
  have hexists : (checked file (Host.pathExists file) : ExceptT Failure (StateM World) Bool).run world' =
      (.ok true, world') := by
    rw [checked_run, pathExists_of_readText htext]
    rfl
  have hread : (liftM (Host.readText file : StateM World _) : ExceptT Failure (StateM World) _).run world' =
      (.ok (.ok t), world') := by
    rw [World.run_lift, htext]
  rw [load, World.run_bind_of_ok hfile, World.run_bind_of_ok hexists, if_pos rfl,
    World.run_bind_of_ok hread, ← ofText_of_dataOf file.parent hdata]
  rfl

/-- **Reports of wrong types.**  For every file that can be read and every value that a loader may give for its
text, loading changes nothing.  If no number in it has too many digits, loading fails with an error of the
settings exactly when a part is mistyped that is not overlooked, and gives all the settings otherwise.  In any
case what it gives are those settings, an error of the settings is right, and the only other failure is that of
a number.  Of the loader only this is asked: that a value refers to collections that are there. -/
theorem load_reports_iff
    {world world' : World} {p file : Path} {t : Text} {data : Data}
    (hloader : loader.IsClosed)
    (hfile : (locate p : ExceptT Failure (StateM World) Path).run world = (.ok file, world'))
    (htext : (Host.readText file : StateM World _) world' = (.ok t, world'))
    (hdata : dataOf loader t = .ok data) :
    ∃ result, (load p loader : ExceptT Failure (StateM World) Settings).run world = (result, world') ∧
      (data.IsLegible →
        ((∃ e, result = .error (.settings e)) ↔ ∃ part, IsMistyped data part ∧ ¬ IsOverlooked data part) ∧
        ((∀ part, IsMistyped data part → IsOverlooked data part) → result = .ok (given file.parent data))) ∧
      (∀ settings, result = .ok settings → settings = given file.parent data ∧
        ∀ part, IsMistyped data part → IsOverlooked data part) ∧
      (∀ e, result = .error (.settings e) → Blames data e) ∧
      ∀ failure, result = .error failure → failure = .scalar .badValue ∨ ∃ e, failure = .settings e := by
  refine ⟨_, load_of_readText hfile htext hdata, ?_⟩
  have hreads := reads_ofData (isClosed_of_dataOf hloader hdata) file.parent
  generalize ofData file.parent data = result at hreads
  cases hreads with
  | done hnone =>
      have hall : ∀ part, IsMistyped data part → IsOverlooked data part := fun part hpart =>
        by_contra fun hreported => by
          obtain ⟨e, he⟩ := exists_blames_iff.mpr ⟨part, hpart, hreported⟩
          exact hnone e he
      refine ⟨fun _ => ⟨⟨?_, ?_⟩, fun _ => rfl⟩, ?_, ?_, ?_⟩
      · rintro ⟨e, he⟩
        cases he
      · rintro ⟨part, hpart, hreported⟩
        exact absurd (hall part hpart) hreported
      · rintro settings hok
        cases hok
        exact ⟨rfl, hall⟩
      · rintro e he
        cases he
      · rintro failure he
        cases he
  | fault he =>
      obtain ⟨part, hpart, hreported⟩ := exists_blames_iff.mp ⟨_, he⟩
      refine ⟨fun _ => ⟨⟨fun _ => ⟨part, hpart, hreported⟩, fun _ => ⟨_, rfl⟩⟩, ?_⟩, ?_, ?_, ?_⟩
      · exact fun hall => absurd (hall part hpart) hreported
      · rintro settings hok
        cases hok
      · rintro e heq
        cases heq
        exact he
      · rintro failure heq
        cases heq
        exact Or.inr ⟨_, rfl⟩
  | tooLong hlong =>
      refine ⟨fun hlegible => absurd hlegible hlong, ?_, ?_, ?_⟩
      · rintro settings hok
        cases hok
      · rintro e heq
        cases heq
      · rintro failure heq
        cases heq
        exact Or.inl rfl

/-- A document that is a list is passed over, but not a number for the switch. -/
theorem load_reports_iff_comments :
    let t : Text := "document: [a]\ncomments: 2\nextensions: \x7b1: 0x1F\x7d\n"
    let file : Path := ⟨.root, ["d", ".orgtangle.yml"]⟩
    let files : FileSystem :=
      ⟨⟨[(["d"], .directory (.settled 0)), (file.parts, .file (Text.encode t) 0o644 (.settled 0))]⟩⟩
    let world : World := { files := files, surroundings := { directory := ⟨.root, ["d"]⟩, home := ⟨.root, []⟩ } }
    (locate ⟨.root, ["d"]⟩ : ExceptT Failure (StateM World) Path).run world = (.ok file, world) ∧
      (Host.readText file : StateM World _) world = (.ok t, world) ∧
      ∃ data e, dataOf Yaml.load t = .ok data ∧ data.IsLegible ∧
        IsMistyped data .document ∧ IsOverlooked data .document ∧ IsMistyped data .comments ∧
        (load ⟨.root, ["d"]⟩ : ExceptT Failure (StateM World) Settings).run world =
          (.error (.settings e), world) ∧ Blames data e := by
  intro t file files world
  have hfile : (locate ⟨.root, ["d"]⟩ : ExceptT Failure (StateM World) Path).run world = (.ok file, world) :=
    rfl
  have htext : (Host.readText file : StateM World _) world = (.ok t, world) :=
    Prod.ext (by decide +kernel) (World.readText_state world file)
  have hchecks : ((dataOf Yaml.load t).toOption.map fun data =>
      (decide data.IsLegible, isNull (valueOf data .document),
        hasType data (valueOf data .document) .document, isNull (valueOf data .comments),
        hasType data (valueOf data .comments) .comments)) = some (true, false, false, false, false) := by
    decide +kernel
  cases hdata : dataOf Yaml.load t with
  | error cause =>
      rw [hdata] at hchecks
      cases hchecks
  | ok data =>
      rw [hdata] at hchecks
      simp only [Except.toOption, Option.map_some, Option.some.injEq, Prod.mk.injEq] at hchecks
      obtain ⟨hshort, hdocument, hdocument', hcomments, hcomments'⟩ := hchecks
      have hshort := of_decide_eq_true hshort
      obtain ⟨result, hrun, hlegible, -, hblames, -⟩ := load_reports_iff Yaml.load_isClosed hfile htext hdata
      obtain ⟨e, rfl⟩ := (hlegible hshort).1.mpr
        ⟨.comments, ⟨hcomments, hcomments'⟩, not_false⟩
      exact ⟨hfile, htext, data, e, rfl, hshort, ⟨hdocument, hdocument'⟩, trivial,
        ⟨hcomments, hcomments'⟩, hrun, hblames e rfl⟩

/-- A document that is a list is mistyped, and settings without a document are loaded. -/
theorem load_overlooks_document :
    let t : Text := "document: [a]\n"
    let file : Path := ⟨.root, ["d", ".orgtangle.yml"]⟩
    let files : FileSystem :=
      ⟨⟨[(["d"], .directory (.settled 0)), (file.parts, .file (Text.encode t) 0o644 (.settled 0))]⟩⟩
    let world : World := { files := files, surroundings := { directory := ⟨.root, ["d"]⟩, home := ⟨.root, []⟩ } }
    ∃ data settings, dataOf Yaml.load t = .ok data ∧ IsMistyped data .document ∧
      (load ⟨.root, ["d"]⟩ : ExceptT Failure (StateM World) Settings).run world = (.ok settings, world) ∧
      settings.document = none := by
  intro t file files world
  have hfile : (locate ⟨.root, ["d"]⟩ : ExceptT Failure (StateM World) Path).run world = (.ok file, world) :=
    rfl
  have htext : (Host.readText file : StateM World _) world = (.ok t, world) :=
    Prod.ext (by decide +kernel) (World.readText_state world file)
  have hchecks : ((dataOf Yaml.load t).toOption.map fun data => (isNull (valueOf data .document),
      hasType data (valueOf data .document) .document,
      (ofData file.parent data).toOption.map Settings.document)) = some (false, false, some none) := by
    decide +kernel
  cases hdata : dataOf Yaml.load t with
  | error cause =>
      rw [hdata] at hchecks
      cases hchecks
  | ok data =>
      rw [hdata] at hchecks
      simp only [Except.toOption, Option.map_some, Option.some.injEq, Prod.mk.injEq] at hchecks
      obtain ⟨hnull, htype, hsettings⟩ := hchecks
      have hrun := load_of_readText hfile htext hdata
      cases hresult : ofData file.parent data with
      | error failure =>
          rw [hresult] at hsettings
          cases hsettings
      | ok settings =>
          rw [hresult] at hrun hsettings
          exact ⟨data, settings, rfl, ⟨hnull, htype⟩, hrun, Option.some.inj hsettings⟩

end Files

end Settings
end Literate
