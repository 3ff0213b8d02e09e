import Literate.Proofs.Document.Inheritance
import Mathlib.Data.List.Forall2

/-!
# Bodies and the scan around them

The lines in the body of a block do not take part in the scan: they are neither
headings nor names nor beginnings of blocks.  The one way in which they reach
other blocks is the pass that collects header arguments for the whole file,
which reads the lines of bodies too.

**Agreement.**  Two texts differ in bodies when they have the same number of
lines and a line may change only in a body, without ending a block before or
after.  Scans of two such texts go through states that agree in everything but
the body lines, and in the arguments of the opened block where the texts set
different arguments for the file.

**Main statements.**
* `agrees_read`, `agrees_scanFrom`: one line and any number of lines keep the
  agreement.
* `scan_ignores_bodies`: bodies decide neither how many blocks there are nor what they
  are called and where they stand; they decide header arguments only through the
  lines that set arguments for the whole file.
* `scan_reads_bodies`: such a line in a body does change the arguments of a later
  block.
-/

namespace Literate

/-- Blocks that agree in everything but their bodies, and in their arguments where both files set the
same ones. -/
structure DocumentBlock.Agrees (sameFile : Prop) (block other : DocumentBlock) : Prop where
  /-- They have the same language. -/
  language : block.language = other.language
  /-- They have the same name, or none. -/
  name : block.name = other.name
  /-- They stand in the same place. -/
  link : block.link = other.link
  /-- They have the same arguments. -/
  params : sameFile → block.params = other.params

namespace Document

/-- A line may become another one if it is that line, or stands in a body that neither of them ends. -/
def PlacedLine.MayBecome (line : PlacedLine) (other : Text) : Prop :=
  line.text = other ∨
    line.region = .body ∧ isBlockEnd line.text = false ∧ isBlockEnd other = false

instance PlacedLine.decidableMayBecome (line : PlacedLine) (other : Text) :
    Decidable (line.MayBecome other) :=
  inferInstanceAs (Decidable (_ ∨ _))

/-- Two texts have the same lines outside of bodies, and the same lines that end bodies. -/
def DifferInBodies (t t' : Text) : Prop :=
  List.Forall₂ PlacedLine.MayBecome (placed (Text.lines t)) (Text.lines t')

instance decidableDifferInBodies (t t' : Text) : Decidable (DifferInBodies t t') :=
  inferInstanceAs (Decidable (List.Forall₂ _ _ _))

/-- States of scans that differ at most in the lines of the body that is being read, and in the arguments
of its block where the files set different ones. -/
structure ScanState.Agrees (sameFile : Prop) (state other : ScanState) : Prop where
  /-- As many lines have been read. -/
  line : state.line = other.line
  /-- The same headings are open. -/
  outline : state.outline = other.outline
  /-- The same name is waiting. -/
  pending : state.pending = other.pending
  /-- A drawer is open in both or in none. -/
  inDrawer : state.inDrawer = other.inDrawer
  /-- The blocks that are being read agree. -/
  opened : Option.Rel
    (fun opened opened' =>
      (opened.1.close opened.2.reverse).Agrees sameFile (opened'.1.close opened'.2.reverse))
    state.opened other.opened

section Agreement

variable {sameFile : Prop} {context context' : ScanContext} {state state' : ScanState} {line line' : Text}

theorem agrees_self
    (hopened : state.opened = none) :
    state.Agrees sameFile state :=
  ⟨rfl, rfl, rfl, rfl, hopened ▸ Option.Rel.none⟩

theorem ScanState.Agrees.eq_of_opened
    (h : state.Agrees sameFile state')
    (hopened : state.opened = none)
    (hopened' : state'.opened = none) :
    state = state' := by
  obtain ⟨line, outline, pending, inDrawer, opened⟩ := state
  obtain ⟨line', outline', pending', inDrawer', opened'⟩ := state'
  obtain ⟨hline, houtline, hpending, hdrawer, -⟩ := h
  simp_all

/-- The same line outside of bodies keeps the agreement, whatever the files set. -/
theorem agrees_readOutside
    (line : Text)
    (hpath : context.path = context'.path)
    (hfile : sameFile → context.fileLayer = context'.fileLayer)
    (hopened : state.opened = none) :
    (state.readOutside context line).Agrees sameFile (state.readOutside context' line) := by
  unfold ScanState.readOutside
  cases hclass : classify line with
  | blockBegin language rest =>
      cases hdrawer : state.inDrawer with
      | true =>
          exact agrees_self hopened
      | false =>
          refine ⟨rfl, rfl, rfl, rfl, Option.Rel.some ⟨rfl, rfl, ?_, ?_⟩⟩
          · simp [Opening.close, ScanState.opening, hpath]
          · intro hsame
            simp [Opening.close, ScanState.opening, blockParams, hfile hsame]
  | _ =>
      exact agrees_self (by simp [apply_ite ScanState.opened, hopened])

/-- One line keeps the agreement, and the blocks that it ends agree. -/
theorem agrees_read
    (hpath : context.path = context'.path)
    (hfile : sameFile → context.fileLayer = context'.fileLayer)
    (h : state.Agrees sameFile state')
    (hline : (⟨state.standing.region, line⟩ : PlacedLine).MayBecome line') :
    (state.read context line).1.Agrees sameFile (state'.read context' line').1 ∧
      Option.Rel (DocumentBlock.Agrees sameFile)
        (state.read context line).2 (state'.read context' line').2 := by
  have hrel := h.opened
  unfold ScanState.read
  cases hopened : state.opened with
  | none =>
      cases hopened' : state'.opened with
      | none =>
          have hsame : line = line' := by
            rcases hline with hsame | ⟨hbody, -⟩
            · exact hsame
            · exfalso
              cases hdrawer : state.inDrawer <;> simp [ScanState.standing, hopened, hdrawer] at hbody
          rw [← hsame, ← h.eq_of_opened hopened hopened']
          exact ⟨agrees_readOutside line hpath hfile hopened, Option.Rel.none⟩
      | some opened' =>
          rw [hopened, hopened'] at hrel
          cases hrel
  | some opened =>
      cases hopened' : state'.opened with
      | none =>
          rw [hopened, hopened'] at hrel
          cases hrel
      | some opened' =>
          rw [hopened, hopened'] at hrel
          obtain ⟨hblock⟩ := hrel
          have hcount : state.line + 1 = state'.line + 1 := congrArg (· + 1) h.line
          have hend : isBlockEnd line = isBlockEnd line' := by
            rcases hline with hsame | ⟨-, hinside, hinside'⟩
            · exact congrArg isBlockEnd hsame
            · exact hinside.trans hinside'.symm
          dsimp only
          rw [hend]
          split
          · exact ⟨⟨hcount, h.outline, h.pending, h.inDrawer, Option.Rel.none⟩, Option.Rel.some hblock⟩
          · -- the body grows, which the frame of the block does not show
            refine ⟨⟨hcount, h.outline, h.pending, h.inDrawer, Option.Rel.some ?_⟩, Option.Rel.none⟩
            exact ⟨hblock.language, hblock.name, hblock.link, hblock.params⟩

theorem forall₂_toList
    {block block' : Option DocumentBlock}
    (h : Option.Rel (DocumentBlock.Agrees sameFile) block block') :
    List.Forall₂ (DocumentBlock.Agrees sameFile) block.toList block'.toList := by
  cases h with
  | none =>
      exact List.Forall₂.nil
  | some hblock =>
      exact List.Forall₂.cons hblock List.Forall₂.nil

/-- Any number of lines keep the agreement. -/
theorem agrees_scanFrom
    {lines lines' : List Text}
    (hpath : context.path = context'.path)
    (hfile : sameFile → context.fileLayer = context'.fileLayer)
    (h : state.Agrees sameFile state')
    (hexclusive : state.IsExclusive)
    (hlines : List.Forall₂ PlacedLine.MayBecome (placeFrom state.standing lines) lines') :
    List.Forall₂ (DocumentBlock.Agrees sameFile)
        (scanFrom context state lines).blocks (scanFrom context' state' lines').blocks ∧
      (scanFrom context state lines).unterminated = (scanFrom context' state' lines').unterminated := by
  induction lines generalizing state state' lines' with
  | nil =>
      cases hlines
      refine ⟨List.Forall₂.nil, ?_⟩
      have hrel := h.opened
      simp only [scanFrom]
      generalize state.opened = opened at hrel ⊢
      generalize state'.opened = opened' at hrel ⊢
      cases hrel with
      | none =>
          rfl
      | some hblock =>
          exact congrArg (fun link : Link => some link.line) hblock.link
  | cons line lines ih =>
      cases hlines with
      | cons hline hrest =>
          obtain ⟨hstate, hblock⟩ := agrees_read hpath hfile h hline
          obtain ⟨hstanding, hnext⟩ := @standing_read context state line hexclusive
          rw [← hstanding] at hrest
          obtain ⟨hblocks, hunterminated⟩ := ih hstate hnext hrest
          exact ⟨List.rel_append (forall₂_toList hblock) hblocks, hunterminated⟩

end Agreement

/-- **Opacity.**  Texts that differ in bodies have blocks of the same languages, names and places, and a
block without an end in the same place or none.  The blocks have the same header arguments if both texts
set the same ones for the whole file. -/
theorem scan_ignores_bodies
    (path : Option Path) (t t' : Text)
    (h : DifferInBodies t t') :
    List.Forall₂
        (DocumentBlock.Agrees (fileArguments (Text.lines t) = fileArguments (Text.lines t')))
        (scan path t).blocks (scan path t').blocks ∧
      (scan path t).unterminated = (scan path t').unterminated := by
  unfold scan
  refine agrees_scanFrom rfl ?_ (agrees_self rfl) ?_ h
  · intro hsame
    change fileLayer _ = fileLayer _
    rw [fileLayer_eq_ofArguments, fileLayer_eq_ofArguments, hsame]
  · intro hnone
    cases hnone

/-- Body lines that look like a heading, a name, a drawer and the beginning of a block. -/
theorem scan_ignores_bodies_lookalikes :
    let t : Text := "#+begin_src org\na\nb\nc\n#+end_src\n#+begin_src sh\n\n#+end_src\n"
    let t' : Text :=
      "#+begin_src org\n* Heading\n:PROPERTIES:\n#+begin_src\n#+end_src\n#+begin_src sh\n#+name: n\n#+end_src\n"
    DifferInBodies t t' ∧
      List.Forall₂ (DocumentBlock.Agrees True) (scan none t).blocks (scan none t').blocks := by
  intro t t'
  have hdiffer : DifferInBodies t t' := by
    decide +kernel
  have hfile : fileArguments (Text.lines t) = fileArguments (Text.lines t') := by
    decide +kernel
  refine ⟨hdiffer, (scan_ignores_bodies none t t' hdiffer).1.imp ?_⟩
  rintro block block' ⟨hlanguage, hname, hlink, hparams⟩
  exact ⟨hlanguage, hname, hlink, fun _ => hparams hfile⟩

/-- A body line that sets arguments for the whole file gives the next block a destination. -/
theorem scan_reads_bodies :
    let t : Text := "#+begin_src org\nx\n#+end_src\n#+begin_src sh\ny\n#+end_src\n"
    let t' : Text :=
      "#+begin_src org\n#+property: header-args :tangle out.sh\n#+end_src\n#+begin_src sh\ny\n#+end_src\n"
    DifferInBodies t t' ∧
      (scan none t).blocks.map (fun block => block.params.get? "tangle") = [none, none] ∧
      (scan none t').blocks.map (fun block => block.params.get? "tangle") =
        [some ("out.sh" : Text), some ("out.sh" : Text)] := by
  decide +kernel

end Document
end Literate
