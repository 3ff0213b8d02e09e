import Literate.Document.Scan
import Mathlib.Data.List.Induction

/-!
# The course of a scan

What a line of a document does depends on where it stands: in the body of a
block, in a property drawer, or outside of both.  This module says where lines
stand without mentioning the state of a scan, and connects it to the states that
a scan goes through.

**Regions.**  The body of a block begins after a first line that stands outside
and goes on up to the next line that ends a block.  A drawer begins after a line
that opens one below some heading and goes on up to the next line that closes
one; headings do not close it.

**Main statements.**
* `standing_read`, `standing_after`: one line and any number of lines change the
  state of a scan as they change the region.
* `scanFrom_append`: a scan goes on where the scan of the first lines has ended.
* `mem_blocks_iff`: the blocks of a scan are those that its single lines end.
* `exists_beginning`: every block of a scan has a first line outside of drawers
  and bodies, and its body goes on up to the next line that ends a block.
-/

namespace Literate
namespace Document

/-- Where a line stands. -/
inductive Region
  /-- Neither in a drawer nor in the body of a block. -/
  | outside
  /-- In a property drawer, or on the line that closes it. -/
  | drawer
  /-- In the body of a block, or on the line that ends it. -/
  | body
deriving DecidableEq

/-- What decides where the lines to come stand. -/
structure Standing where
  /-- The region of the next line. -/
  region : Region := .outside
  /-- Whether there is a heading above it. -/
  underHeading : Bool := false

/-- The standing after a line. -/
def Standing.next (standing : Standing) (line : Text) : Standing :=
  if standing.region = .body then
    if isBlockEnd line then { standing with region := .outside } else standing
  else
    match classify line with
    | .heading _ _ => { standing with underHeading := true }
    | .drawerOpen => if standing.underHeading then { standing with region := .drawer } else standing
    | .drawerClose => { standing with region := .outside }
    | .blockBegin _ _ =>
        if standing.region = .outside then { standing with region := .body } else standing
    | _ => standing

/-- The standing after several lines. -/
def Standing.after (standing : Standing) (lines : List Text) : Standing :=
  lines.foldl Standing.next standing

theorem Standing.after_concat
    (standing : Standing) (lines : List Text) (line : Text) :
    standing.after (lines ++ [line]) = (standing.after lines).next line := by
  simp [after]

/-- The region of the line that follows the given ones from the top of a document. -/
def regionAfter (lines : List Text) : Region :=
  (({} : Standing).after lines).region

/-- A line with the region in which it stands. -/
structure PlacedLine where
  /-- Where the line stands. -/
  region : Region
  /-- The line. -/
  text : Text

/-- Lines with their regions, from a standing on. -/
def placeFrom (standing : Standing) : List Text → List PlacedLine
  | [] => []
  | line :: rest => ⟨standing.region, line⟩ :: placeFrom (standing.next line) rest

/-- The lines of a document with their regions. -/
def placed (lines : List Text) : List PlacedLine :=
  placeFrom {} lines

theorem placeFrom_concat
    (standing : Standing) (lines : List Text) (line : Text) :
    placeFrom standing (lines ++ [line]) =
      placeFrom standing lines ++ [⟨(standing.after lines).region, line⟩] := by
  induction lines generalizing standing with
  | nil =>
      rfl
  | cons first rest ih =>
      rw [List.cons_append, placeFrom, ih, placeFrom, List.cons_append]
      rfl

theorem placed_concat
    (lines : List Text) (line : Text) :
    placed (lines ++ [line]) = placed lines ++ [⟨regionAfter lines, line⟩] :=
  placeFrom_concat {} lines line

section States

variable {context : ScanContext} {state : ScanState}

/-- Where the next line stands in a state of a scan. -/
def ScanState.standing (state : ScanState) : Standing where
  region := if state.opened.isSome then .body else if state.inDrawer then .drawer else .outside
  underHeading := !state.outline.isEmpty

/-- No block is read in a drawer. -/
def ScanState.IsExclusive (state : ScanState) : Prop :=
  state.opened.isSome = true → state.inDrawer = false

theorem standing_readOutside
    (line : Text)
    (h : state.opened = none) :
    (state.readOutside context line).standing = state.standing.next line ∧
      (state.readOutside context line).IsExclusive := by
  have hregion : state.standing.region ≠ .body := by
    cases hdrawer : state.inDrawer <;> simp [ScanState.standing, h, hdrawer]
  rw [Standing.next, if_neg hregion]
  unfold ScanState.readOutside ScanState.IsExclusive
  cases classify line <;>
    cases hdrawer : state.inDrawer <;>
    cases houtline : state.outline <;>
    simp [ScanState.standing, h, hdrawer, houtline, addToInnermost]

/-- One line changes the state of a scan as it changes the region. -/
theorem standing_read
    (line : Text)
    (h : state.IsExclusive) :
    (state.read context line).1.standing = state.standing.next line ∧
      (state.read context line).1.IsExclusive := by
  unfold ScanState.read
  cases hopened : state.opened with
  | none =>
      exact standing_readOutside line hopened
  | some opened =>
      obtain ⟨opening, body⟩ := opened
      have hdrawer : state.inDrawer = false := h (by simp [hopened])
      have hregion : state.standing.region = .body := by
        simp [ScanState.standing, hopened]
      rw [Standing.next, if_pos hregion]
      by_cases hend : isBlockEnd line = true <;>
        simp [ScanState.standing, ScanState.IsExclusive, hopened, hdrawer, hend]

/-- The state of a scan after lines. -/
def ScanState.after (context : ScanContext) (state : ScanState) (lines : List Text) : ScanState :=
  lines.foldl (fun state line => (state.read context line).1) state

theorem ScanState.after_concat
    (context : ScanContext) (state : ScanState) (lines : List Text) (line : Text) :
    state.after context (lines ++ [line]) = ((state.after context lines).read context line).1 := by
  simp [after]

/-- The state of a scan after the first lines of a document. -/
def stateAfter (context : ScanContext) (lines : List Text) : ScanState :=
  ({} : ScanState).after context lines

theorem stateAfter_concat
    (context : ScanContext) (lines : List Text) (line : Text) :
    stateAfter context (lines ++ [line]) = ((stateAfter context lines).read context line).1 :=
  ScanState.after_concat context {} lines line

/-- Any number of lines change the state of a scan as they change the region. -/
theorem standing_after
    (context : ScanContext) (lines : List Text) :
    (stateAfter context lines).standing = ({} : Standing).after lines ∧
      (stateAfter context lines).IsExclusive := by
  induction lines using List.reverseRecOn with
  | nil =>
      exact ⟨rfl, fun hnone => by cases hnone⟩
  | append_singleton lines line ih =>
      rw [stateAfter_concat, Standing.after_concat, ← ih.1]
      exact standing_read line ih.2

theorem region_stateAfter
    (context : ScanContext) (lines : List Text) :
    (stateAfter context lines).standing.region = regionAfter lines := by
  rw [(standing_after context lines).1, regionAfter]

/-- Every line is counted. -/
theorem line_read
    (line : Text) :
    (state.read context line).1.line = state.line + 1 := by
  unfold ScanState.read
  cases state.opened with
  | none =>
      unfold ScanState.readOutside
      cases classify line <;> dsimp only <;> split_ifs <;> rfl
  | some opened =>
      dsimp only
      split_ifs <;> rfl

theorem line_stateAfter
    (context : ScanContext) (lines : List Text) :
    (stateAfter context lines).line = lines.length := by
  induction lines using List.reverseRecOn with
  | nil =>
      rfl
  | append_singleton lines line ih =>
      rw [stateAfter_concat, line_read, ih, List.length_append, List.length_singleton]

end States

section Continuing

/-- The scan of a text after one that has no block without an end. -/
def Scan.append (scan later : Scan) : Scan where
  blocks := scan.blocks ++ later.blocks
  unterminated := later.unterminated

/-- A scan goes on where the scan of the first lines has ended. -/
theorem scanFrom_append
    (context : ScanContext) (state : ScanState) (lines later : List Text) :
    scanFrom context state (lines ++ later) =
      (scanFrom context state lines).append
        (scanFrom context (state.after context lines) later) := by
  induction lines generalizing state with
  | nil =>
      rfl
  | cons line lines ih =>
      simp only [List.cons_append, scanFrom, ih, Scan.append, List.append_assoc]
      rfl

theorem blocks_concat
    (context : ScanContext) (lines : List Text) (line : Text) :
    (scanFrom context {} (lines ++ [line])).blocks =
      (scanFrom context {} lines).blocks ++ ((stateAfter context lines).read context line).2.toList := by
  rw [scanFrom_append]
  exact congrArg (_ ++ ·) (List.append_nil _)

/-- The block without an end is the one that is being read after the last line. -/
theorem unterminated_scanFrom
    (context : ScanContext) (lines : List Text) :
    (scanFrom context {} lines).unterminated =
      (stateAfter context lines).opened.map fun opened => opened.1.link.line := by
  have happend := congrArg Scan.unterminated (scanFrom_append context {} lines [])
  rw [List.append_nil] at happend
  exact happend

end Continuing

section Blocks

variable {context : ScanContext} {lines : List Text} {block : DocumentBlock}

/-- The blocks of a scan are those that its single lines end. -/
theorem mem_blocks_iff
    {state : ScanState} :
    block ∈ (scanFrom context state lines).blocks ↔
      ∃ before line rest, lines = before ++ line :: rest ∧
        ((state.after context before).read context line).2 = some block := by
  induction lines generalizing state with
  | nil =>
      simp [scanFrom]
  | cons first others ih =>
      simp only [scanFrom, List.mem_append, Option.mem_toList, ih]
      constructor
      · rintro (hfirst | ⟨before, line, rest, rfl, hline⟩)
        · exact ⟨[], first, others, rfl, hfirst⟩
        · exact ⟨first :: before, line, rest, rfl, hline⟩
      · rintro ⟨before, line, rest, hsplit, hline⟩
        cases before with
        | nil =>
            cases hsplit
            exact Or.inl hline
        | cons head before =>
            cases hsplit
            exact Or.inr ⟨before, line, rest, rfl, hline⟩

/-- A line yields the block that is being read when it ends it. -/
theorem read_eq_some_iff
    {state : ScanState} {line : Text} :
    (state.read context line).2 = some block ↔
      ∃ opening body, state.opened = some (opening, body) ∧ isBlockEnd line = true ∧
        block = opening.close body.reverse := by
  unfold ScanState.read
  cases state.opened with
  | none =>
      simp
  | some opened =>
      obtain ⟨opening, body⟩ := opened
      cases isBlockEnd line <;> simp [eq_comm]

/-- The first line of a block after some lines. -/
structure Begins (before : List Text) (line language rest : Text) : Prop where
  /-- The line stands neither in a drawer nor in a body. -/
  outside : regionAfter before = .outside
  /-- It is the first line of a block. -/
  begins : classify line = .blockBegin language rest

/-- A line outside of bodies begins a block, or leaves it at that none is being read. -/
theorem opened_readOutside
    (context : ScanContext) (state : ScanState) (line : Text) :
    (state.readOutside context line).opened = state.opened ∨
      state.inDrawer = false ∧
        ∃ language rest, classify line = .blockBegin language rest ∧
          (state.readOutside context line).opened = some (state.opening context language rest, []) := by
  unfold ScanState.readOutside
  cases hclass : classify line with
  | blockBegin language rest =>
      cases hdrawer : state.inDrawer with
      | true =>
          exact Or.inl rfl
      | false =>
          exact Or.inr ⟨rfl, language, rest, rfl, rfl⟩
  | _ =>
      left
      simp [apply_ite ScanState.opened]

/-- A block that is being read began on a line of its own, and none of the lines since then ends it. -/
theorem exists_opening
    {opening : Opening} {body : List Text}
    (h : (stateAfter context lines).opened = some (opening, body)) :
    ∃ before line language rest, lines = before ++ line :: body.reverse ∧
      Begins before line language rest ∧
      (∀ l ∈ body, isBlockEnd l = false) ∧
      opening = (stateAfter context before).opening context language rest := by
  induction lines using List.reverseRecOn generalizing body with
  | nil =>
      cases h
  | append_singleton lines last ih =>
      rw [stateAfter_concat, ScanState.read] at h
      cases hopened : (stateAfter context lines).opened with
      | none =>
          rw [hopened] at h
          rcases opened_readOutside context (stateAfter context lines) last with
            hsame | ⟨hdrawer, language, rest, hclass, hopening⟩
          · rw [hsame, hopened] at h
            cases h
          · rw [hopening] at h
            cases h
            have houtside : regionAfter lines = .outside := by
              rw [← region_stateAfter context lines]
              simp [ScanState.standing, hopened, hdrawer]
            exact ⟨lines, last, language, rest, rfl, ⟨houtside, hclass⟩, by simp, rfl⟩
      | some opened =>
          rw [hopened] at h
          dsimp only at h
          split at h
          · cases h
          · rename_i hend
            cases h
            obtain ⟨before, line, language, rest, rfl, hbegins, hbody, hopening⟩ := ih hopened
            refine ⟨before, line, language, rest, by simp, hbegins, ?_, hopening⟩
            intro l hl
            rcases List.mem_cons.mp hl with rfl | hl
            · exact Bool.eq_false_iff.mpr hend
            · exact hbody l hl

/-- Every block of a scan has a first line outside of drawers and bodies, and its body goes on up to the
next line that ends a block. -/
theorem exists_beginning
    (h : block ∈ (scanFrom context {} lines).blocks) :
    ∃ before line body last after language rest,
      lines = before ++ line :: (body ++ last :: after) ∧
      Begins before line language rest ∧
      (∀ l ∈ body, isBlockEnd l = false) ∧ isBlockEnd last = true ∧
      block = ((stateAfter context before).opening context language rest).close body := by
  obtain ⟨read, last, after, rfl, hlast⟩ := mem_blocks_iff.mp h
  obtain ⟨opening, body, hopened, hend, rfl⟩ := read_eq_some_iff.mp hlast
  obtain ⟨before, line, language, rest, rfl, hbegins, hbody, rfl⟩ := exists_opening hopened
  refine ⟨before, line, body.reverse, last, after, language, rest, by simp, hbegins, ?_, hend, rfl⟩
  simpa using hbody

end Blocks

end Document
end Literate
