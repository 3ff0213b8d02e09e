import Literate.Proofs.Document.Outline
import Literate.Proofs.Document.Printing

/-!
# Sections of a document

A heading of the first level closes every heading before it and drops the name
that waits for a block, so that what follows is read as if it stood at the top of
a document of its own.  The one thing that such a heading does not end is an open
property drawer.

**Shifting.**  A scan counts lines and does nothing else with their number:
starting it further down shifts the places of its blocks (`scanFrom_shift`).

**Main statements.**
* `scanFrom_shift`: any number of lines do the same further down.
* `read_heading`: what a state keeps behind a heading of the first level.
* `scan_append_of_heading`: the scan of a text that is continued by a section.
* `scan_append_in_drawer`: a drawer that is left open swallows the next section.
-/

namespace Literate

/-- The place that lies some lines further down. -/
def Link.shift (count : Nat) (link : Link) : Link :=
  { link with line := link.line + count }

/-- The block at a place that lies some lines further down. -/
def DocumentBlock.shift (count : Nat) (block : DocumentBlock) : DocumentBlock :=
  { block with link := block.link.shift count }

namespace Document

/-- The scan of a text that begins some lines further down. -/
def Scan.shift (count : Nat) (scan : Scan) : Scan where
  blocks := scan.blocks.map (DocumentBlock.shift count)
  unterminated := scan.unterminated.map (· + (count : Int))

/-- The opening of a block that begins some lines further down. -/
def Opening.shift (count : Nat) (opening : Opening) : Opening :=
  { opening with link := opening.link.shift count }

/-- The state of a scan that has begun some lines further down. -/
def ScanState.shift (count : Nat) (state : ScanState) : ScanState :=
  { state with
    line := state.line + count
    opened := state.opened.map fun opened => (opened.1.shift count, opened.2) }

section Shifting

variable {context : ScanContext} {state : ScanState}

theorem opening_shift
    (count : Nat) (language rest : Text) :
    (state.shift count).opening context language rest =
      (state.opening context language rest).shift count := by
  have hline : (state.line : Int) + count + 1 = state.line + 1 + count := by
    omega
  simp [ScanState.opening, ScanState.shift, Opening.shift, Link.shift, hline]

theorem readOutside_shift
    (count : Nat) (line : Text)
    (h : state.opened = none) :
    (state.shift count).readOutside context line = (state.readOutside context line).shift count := by
  have hline : state.line + count + 1 = state.line + 1 + count := by
    omega
  have hopening := @opening_shift context state count
  unfold ScanState.readOutside
  cases classify line with
  | blockBegin language rest =>
      dsimp only
      rw [hopening]
      cases hdrawer : state.inDrawer <;> simp [ScanState.shift, h, hdrawer, hline]
  | _ =>
      cases hdrawer : state.inDrawer <;> cases houtline : state.outline <;>
        simp [ScanState.shift, h, hdrawer, houtline, hline]

/-- A line does the same further down. -/
theorem read_shift
    (count : Nat) (line : Text) :
    (state.shift count).read context line =
      ((state.read context line).1.shift count,
        (state.read context line).2.map (DocumentBlock.shift count)) := by
  have hline : state.line + count + 1 = state.line + 1 + count := by
    omega
  unfold ScanState.read
  cases hopened : state.opened with
  | none =>
      have hnone : (state.shift count).opened = none := by
        simp [ScanState.shift, hopened]
      rw [hnone]
      dsimp only
      rw [readOutside_shift count line hopened]
      rfl
  | some opened =>
      have hsome : (state.shift count).opened = some (opened.1.shift count, opened.2) := by
        simp [ScanState.shift, hopened]
      rw [hsome]
      dsimp only
      split
      · simp [ScanState.shift, Opening.close, Opening.shift, DocumentBlock.shift, hline]
      · simp [ScanState.shift, hline]

/-- Any number of lines do the same further down. -/
theorem scanFrom_shift
    (count : Nat) (lines : List Text) :
    scanFrom context (state.shift count) lines = (scanFrom context state lines).shift count := by
  induction lines generalizing state with
  | nil =>
      cases hopened : state.opened <;>
        simp [scanFrom, Scan.shift, ScanState.shift, Opening.shift, Link.shift, hopened]
  | cons line lines ih =>
      simp only [scanFrom, read_shift, ih]
      cases (state.read context line).2 <;> simp [Scan.shift]

end Shifting

section Continuing

variable {context : ScanContext}

/-- Where a scan ends without a block that has no end, no block is being read. -/
theorem opened_stateAfter
    {lines : List Text}
    (h : (scanFrom context {} lines).unterminated = none) :
    (stateAfter context lines).opened = none := by
  rw [unterminated_scanFrom] at h
  exact Option.map_eq_none_iff.mp h

theorem level_pos_of_classify
    {line title : Text} {level : Nat}
    (h : classify line = .heading level title) :
    0 < level := by
  have hheading := classify_eq_heading_iff.mp h
  simp only [heading?] at hheading
  split at hheading
  · split at hheading
    · rename_i hstars
      cases hheading
      simp only [Bool.and_eq_true, Bool.not_eq_true', List.isEmpty_eq_false_iff] at hstars
      exact List.length_pos_iff.mpr hstars.1
    · cases hheading
  · cases hheading

/-- A heading of the first level closes all others. -/
theorem closeHeadings_one
    (context : ScanContext) (lines : List Text) :
    closeHeadings 1 (stateAfter context lines).outline = [] := by
  rw [closeHeadings, List.dropWhile_eq_nil_iff, outline_stateAfter]
  intro heading hheading
  obtain ⟨ancestor, hancestor, rfl⟩ := List.mem_map.mp hheading
  obtain ⟨line, -, hline⟩ := exists_heading_of_mem_ancestors hancestor
  unfold PlacedLine.heading? at hline
  split at hline
  · cases hline
  · rename_i level title hclass _
    cases hline
    exact decide_eq_true (level_pos_of_classify hclass)
  · cases hline

/-- Behind a heading of the first level a state keeps nothing but its line and an open drawer. -/
theorem read_heading
    {lines : List Text} {line title : Text}
    (hopened : (stateAfter context lines).opened = none)
    (hclass : classify line = .heading 1 title) :
    (stateAfter context lines).read context line =
      ((({ inDrawer := (stateAfter context lines).inDrawer } : ScanState).read context line).1.shift
        lines.length, none) := by
  have hcount := line_stateAfter context lines
  have hclosed := closeHeadings_one context lines
  unfold ScanState.read
  rw [hopened]
  dsimp only
  unfold ScanState.readOutside
  rw [hclass]
  dsimp only
  rw [hclosed, hopened, hcount]
  simp [ScanState.shift, closeHeadings, Nat.add_comm]

/-- A section is scanned as if it stood on its own, but for a drawer that is open before it. -/
theorem scanFrom_section
    {lines rest : List Text} {line title : Text}
    (hopened : (stateAfter context lines).opened = none)
    (hclass : classify line = .heading 1 title) :
    scanFrom context (stateAfter context lines) (line :: rest) =
      (scanFrom context { inDrawer := (stateAfter context lines).inDrawer } (line :: rest)).shift
        lines.length := by
  have hnone : (({ inDrawer := (stateAfter context lines).inDrawer } : ScanState).read context line).2 =
      none := rfl
  simp only [scanFrom, read_heading hopened hclass, scanFrom_shift, hnone]
  rfl

theorem inDrawer_stateAfter
    {lines : List Text}
    (hopened : (stateAfter context lines).opened = none) :
    (stateAfter context lines).inDrawer = decide (regionAfter lines = .drawer) := by
  rw [← region_stateAfter context lines]
  cases hdrawer : (stateAfter context lines).inDrawer <;>
    simp [ScanState.standing, hopened, hdrawer]

end Continuing

/-- **Sections.**  A text whose blocks all end, continued by a text that begins with a heading of the first
level: where no line sets arguments for the whole file, the scan yields the blocks of the first text, and then
the blocks of the second further down.  The second text is read on its own, unless the first one leaves a
drawer open; then it is read as if it stood in that drawer. -/
theorem scan_append_of_heading
    (path : Option Path) (t u line title : Text) (rest : List Text)
    (hend : t.getLast? = some '\n')
    (hterminated : (scan path t).unterminated = none)
    (hlines : Text.lines u = line :: rest)
    (hheading : classify line = .heading 1 title)
    (hfile : ∀ other ∈ Text.lines t ++ Text.lines u, fileArguments? other = none) :
    scan path (t ++ u) =
        (scan path t).append
          ((scanFrom ⟨path, Dictionary.empty⟩ { inDrawer := decide (regionAfter (Text.lines t) = .drawer) }
            (Text.lines u)).shift (Text.lines t).length) ∧
      (regionAfter (Text.lines t) ≠ .drawer →
        scan path (t ++ u) = (scan path t).append ((scan path u).shift (Text.lines t).length)) := by
  have hlast : ∀ c ∈ t.getLast?, c = '\n' := by
    simp [hend]
  have hlayer : fileLayer (Text.lines t) = Dictionary.empty :=
    fileLayer_eq_empty fun other hother => hfile other (List.mem_append_left _ hother)
  have hlayer' : fileLayer (Text.lines u) = Dictionary.empty :=
    fileLayer_eq_empty fun other hother => hfile other (List.mem_append_right _ hother)
  have hwhole : scan path (t ++ u) =
      (scan path t).append
        ((scanFrom ⟨path, Dictionary.empty⟩ { inDrawer := decide (regionAfter (Text.lines t) = .drawer) }
          (Text.lines u)).shift (Text.lines t).length) := by
    simp only [scan] at hterminated ⊢
    rw [hlayer] at hterminated ⊢
    have hopened := opened_stateAfter hterminated
    rw [Text.lines_append u hlast, fileLayer_eq_empty hfile, scanFrom_append, hlines]
    change Scan.append _ (scanFrom _ (stateAfter _ (Text.lines t)) (line :: rest)) = _
    rw [scanFrom_section hopened hheading, inDrawer_stateAfter hopened]
  refine ⟨hwhole, fun hregion => ?_⟩
  rw [hwhole, decide_eq_false hregion, scan, scan, hlayer']

/-- The first text leaves open headings, arguments that are inherited and a name behind, and the second one a
block without an end. -/
theorem scan_append_of_heading_dangling :
    let t : Text :=
      "* A\n:PROPERTIES:\n:header-args: :tangle a\n:END:\n*** B\n#+begin_src sh\nx\n#+end_src\n#+name: n\n"
    let u : Text := "* C\n#+begin_src sh\ny\n#+end_src\n#+begin_src sh\n"
    t.getLast? = some '\n' ∧
      (scan none t).unterminated = none ∧
      regionAfter (Text.lines t) ≠ .drawer ∧
      (scan none (t ++ u)).blocks.map (fun block => (block.body, block.link.line)) =
        [(("x" : Text), 6), (("y" : Text), 11)] ∧
      (scan none (t ++ u)).unterminated = some 14 ∧
      scan none (t ++ u) = (scan none t).append ((scan none u).shift 9) := by
  intro t u
  have hend : t.getLast? = some '\n' := by
    decide +kernel
  have hterminated : (scan none t).unterminated = none := by
    decide +kernel
  have hregion : regionAfter (Text.lines t) ≠ .drawer := by
    decide +kernel
  have hlines : Text.lines u =
      [("* C" : Text), ("#+begin_src sh" : Text), ("y" : Text), ("#+end_src" : Text),
        ("#+begin_src sh" : Text)] := by
    decide +kernel
  have hall := scan_append_of_heading none t u "* C" "C" _ hend hterminated hlines (by decide +kernel)
    (by decide +kernel)
  refine ⟨hend, hterminated, hregion, by decide +kernel, by decide +kernel, ?_⟩
  have hcount : (Text.lines t).length = 9 := by
    decide +kernel
  rw [hall.2 hregion, hcount]

/-- A drawer that is left open swallows the block of the next section. -/
theorem scan_append_in_drawer :
    let t : Text := "* A\n:PROPERTIES:\n"
    let u : Text := "* B\n#+begin_src sh\nx\n#+end_src\n"
    t.getLast? = some '\n' ∧
      (scan none t).unterminated = none ∧
      (Text.lines u).head?.map classify = some (.heading 1 "B") ∧
      (∀ line ∈ Text.lines t ++ Text.lines u, fileArguments? line = none) ∧
      (scan none t).blocks = [] ∧
      (scan none u).blocks.map DocumentBlock.body = [("x" : Text)] ∧
      (scan none (t ++ u)).blocks = [] := by
  decide +kernel

end Document
end Literate
