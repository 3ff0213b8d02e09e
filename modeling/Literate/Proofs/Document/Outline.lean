import Literate.Proofs.Document.Scanning

/-!
# The headings above a line

A heading is an ancestor of a later line when no heading between them has the
same or a smaller level; headings in the bodies of blocks do not count.  The
scan keeps its ancestors on a stack, from which every new heading takes those of
the same or a greater level away.

**Ancestors.**  `ancestors` reads the ancestors of the next line off the lines
before it, the innermost first, each with the header arguments that the drawers
below it set before the next heading.  One more line either adds to the
arguments of the innermost ancestor (`ancestors_concat_of_none`) or is a heading
itself (`ancestors_concat_of_some`).

**Main statement.**
* `outline_stateAfter`: the outline of a scan is made of the ancestors.
-/

namespace Literate
namespace Document

namespace PlacedLine

/-- The level and the title of a heading outside of the bodies of blocks. -/
def heading? (line : PlacedLine) : Option (Nat × Text) :=
  match line.region, classify line.text with
  | .body, _ => none
  | _, .heading level title => some (level, title)
  | _, _ => none

/-- The language and the text of header arguments in a drawer. -/
def arguments? (line : PlacedLine) : Option (Option Text × Text) :=
  match line.region, classify line.text with
  | .drawer, .drawerArguments language arguments => some (language, arguments)
  | _, _ => none

/-- Whether a line is no heading, or one of a greater level. -/
def isBelow (level : Nat) (line : PlacedLine) : Bool :=
  line.heading?.all fun heading => decide (level < heading.1)

end PlacedLine

/-- A heading above a line. -/
structure Ancestor where
  /-- Its level. -/
  level : Nat
  /-- Its title. -/
  title : Text
  /-- The languages and the texts of the header arguments in its drawers, in order. -/
  arguments : List (Option Text × Text)

/-- The header arguments that drawers set before the next heading. -/
def argumentsBelow (later : List PlacedLine) : List (Option Text × Text) :=
  (later.takeWhile fun line => line.heading?.isNone).filterMap PlacedLine.arguments?

/-- The ancestors of the line that follows the given ones, the innermost first. -/
def ancestors : List PlacedLine → List Ancestor
  | [] => []
  | line :: later =>
      match line.heading? with
      | none => ancestors later
      | some (level, title) =>
          if later.all (PlacedLine.isBelow level) then
            ancestors later ++ [{ level := level, title := title, arguments := argumentsBelow later }]
          else ancestors later

section Ancestors

variable {lines : List PlacedLine} {last : PlacedLine}

theorem arguments?_eq_none_of_heading?
    {line : PlacedLine} {heading : Nat × Text}
    (h : line.heading? = some heading) :
    line.arguments? = none := by
  cases hregion : line.region <;> cases hclass : classify line.text <;>
    simp [PlacedLine.heading?, PlacedLine.arguments?, hregion, hclass] at h ⊢

theorem exists_heading_of_mem_ancestors
    {ancestor : Ancestor}
    (h : ancestor ∈ ancestors lines) :
    ∃ line ∈ lines, line.heading? = some (ancestor.level, ancestor.title) := by
  induction lines with
  | nil =>
      cases h
  | cons line later ih =>
      have hlater : ancestor ∈ ancestors later →
          ∃ other ∈ line :: later, other.heading? = some (ancestor.level, ancestor.title) := by
        intro hmem
        obtain ⟨other, hother, hheading⟩ := ih hmem
        exact ⟨other, List.mem_cons_of_mem _ hother, hheading⟩
      rw [ancestors] at h
      split at h
      · exact hlater h
      · rename_i level title hheading
        split at h
        · rcases List.mem_append.mp h with h | h
          · exact hlater h
          · rw [List.mem_singleton] at h
            subst h
            exact ⟨line, List.mem_cons_self, hheading⟩
        · exact hlater h

/-- There are no ancestors exactly when there are no headings. -/
theorem ancestors_eq_nil_iff :
    ancestors lines = [] ↔ ∀ line ∈ lines, line.heading? = none := by
  induction lines with
  | nil =>
      simp [ancestors]
  | cons line later ih =>
      rw [ancestors, List.forall_mem_cons]
      cases hheading : line.heading? with
      | none =>
          simpa using ih
      | some heading =>
          obtain ⟨level, title⟩ := heading
          have hsome : ¬ (some (level, title) = none ∧ ∀ other ∈ later, other.heading? = none) := by
            simp
          refine iff_of_false ?_ hsome
          dsimp only
          split
          · simp
          · -- the heading is closed by a later one, which leaves some ancestor
            rename_i hclosed
            rw [ih]
            intro hnone
            apply hclosed
            rw [List.all_eq_true]
            intro other hother
            rw [PlacedLine.isBelow, hnone other hother]
            rfl

/-- Of two ancestors the inner one has the greater level. -/
theorem pairwise_level_ancestors
    (lines : List PlacedLine) :
    (ancestors lines).Pairwise fun inner outer => outer.level < inner.level := by
  induction lines with
  | nil =>
      exact List.Pairwise.nil
  | cons line later ih =>
      rw [ancestors]
      split
      · exact ih
      · rename_i level title hheading
        split
        · rename_i hall
          rw [List.pairwise_append]
          refine ⟨ih, List.pairwise_singleton _ _, ?_⟩
          intro inner hinner outer houter
          rw [List.mem_singleton] at houter
          subst houter
          obtain ⟨other, hother, hinside⟩ := exists_heading_of_mem_ancestors hinner
          have hbelow := List.all_eq_true.mp hall other hother
          simpa [PlacedLine.isBelow, hinside] using hbelow
        · exact ih

theorem argumentsBelow_concat
    (later : List PlacedLine) (last : PlacedLine) :
    argumentsBelow (later ++ [last]) =
      argumentsBelow later ++
        if ancestors later = [] then last.arguments?.toList else [] := by
  rw [if_congr ancestors_eq_nil_iff rfl rfl]
  unfold argumentsBelow
  induction later with
  | nil =>
      cases hheading : last.heading? with
      | none =>
          cases harguments : last.arguments? <;> simp [hheading, harguments]
      | some heading =>
          simp [hheading, arguments?_eq_none_of_heading? hheading]
  | cons line later ih =>
      cases hheading : line.heading? with
      | none =>
          cases harguments : line.arguments? <;> simp [hheading, harguments, ih]
      | some heading =>
          simp [hheading]

/-- A line that is no heading adds to the arguments of the innermost ancestor. -/
theorem ancestors_concat_of_none
    (h : last.heading? = none) :
    ancestors (lines ++ [last]) =
      (ancestors lines).modifyHead fun innermost =>
        { innermost with arguments := innermost.arguments ++ last.arguments?.toList } := by
  induction lines with
  | nil =>
      simp [ancestors, h]
  | cons line later ih =>
      rw [List.cons_append, ancestors, ancestors]
      split
      · exact ih
      · rename_i level title hheading
        have hall : (later ++ [last]).all (PlacedLine.isBelow level) =
            later.all (PlacedLine.isBelow level) := by
          simp [PlacedLine.isBelow, h]
        rw [hall, ih, argumentsBelow_concat]
        split
        · -- only the last heading goes on up to the line
          cases ancestors later <;> simp
        · rfl

/-- A heading closes the ancestors of the same or a greater level and becomes the innermost one. -/
theorem ancestors_concat_of_some
    {level : Nat} {title : Text}
    (h : last.heading? = some (level, title)) :
    ancestors (lines ++ [last]) =
      { level := level, title := title, arguments := [] } ::
        (ancestors lines).filter fun ancestor => decide (ancestor.level < level) := by
  induction lines with
  | nil =>
      simp [ancestors, argumentsBelow, h]
  | cons line later ih =>
      have harguments : argumentsBelow (later ++ [last]) = argumentsBelow later := by
        simp [argumentsBelow_concat, arguments?_eq_none_of_heading? h]
      rw [List.cons_append, ancestors, ancestors]
      split
      · exact ih
      · rename_i outer outerTitle hheading
        have hall : (later ++ [last]).all (PlacedLine.isBelow outer) =
            (later.all (PlacedLine.isBelow outer) && decide (outer < level)) := by
          simp [PlacedLine.isBelow, h]
        rw [hall, ih, harguments]
        by_cases hopen : later.all (PlacedLine.isBelow outer) = true <;>
          by_cases hless : outer < level <;>
          simp [hopen, hless]

end Ancestors

/-- The layer that header arguments make, one after another. -/
def Layer.ofArguments (arguments : List (Option Text × Text)) : Layer :=
  arguments.foldl (fun layer entry => layer.add entry.1 entry.2) Dictionary.empty

theorem Layer.ofArguments_concat
    (arguments : List (Option Text × Text)) (language : Option Text) (t : Text) :
    ofArguments (arguments ++ [(language, t)]) = (ofArguments arguments).add language t := by
  simp [ofArguments]

/-- A heading of an outline made of an ancestor. -/
def Ancestor.toHeading (ancestor : Ancestor) : Heading where
  level := ancestor.level
  title := ancestor.title
  layer := Layer.ofArguments ancestor.arguments

/-- Where levels decrease, the first entries that are too great are all that are. -/
theorem dropWhile_eq_filter
    {entries : List Ancestor} (level : Nat)
    (h : entries.Pairwise fun inner outer => outer.level < inner.level) :
    (entries.dropWhile fun entry => decide (level ≤ entry.level)) =
      entries.filter fun entry => decide (entry.level < level) := by
  induction entries with
  | nil =>
      rfl
  | cons entry rest ih =>
      rw [List.pairwise_cons] at h
      by_cases hless : entry.level < level
      · have hrest : rest.filter (fun other => decide (other.level < level)) = rest := by
          rw [List.filter_eq_self]
          intro other hother
          have := h.1 other hother
          exact decide_eq_true (by omega)
        simp [hless, hrest, Nat.not_le.mpr hless]
      · simp [hless, Nat.not_lt.mp hless, ih h.2]

theorem closeHeadings_map
    {entries : List Ancestor} (level : Nat)
    (h : entries.Pairwise fun inner outer => outer.level < inner.level) :
    closeHeadings level (entries.map Ancestor.toHeading) =
      (entries.filter fun entry => decide (entry.level < level)).map Ancestor.toHeading := by
  rw [closeHeadings, List.dropWhile_map, ← dropWhile_eq_filter level h]
  rfl

theorem addToInnermost_map
    (language : Option Text) (arguments : Text) (entries : List Ancestor) :
    addToInnermost language arguments (entries.map Ancestor.toHeading) =
      (entries.modifyHead fun innermost =>
        { innermost with arguments := innermost.arguments ++ [(language, arguments)] }).map
          Ancestor.toHeading := by
  cases entries with
  | nil =>
      rfl
  | cons innermost rest =>
      simp [addToInnermost, Ancestor.toHeading, Layer.ofArguments_concat]

section Outline

variable {context : ScanContext} {state : ScanState}

/-- What a line does to the outline is decided by its region and its class. -/
theorem outline_read
    (line : Text) :
    let here : PlacedLine := ⟨state.standing.region, line⟩
    (state.read context line).1.outline =
      match here.heading? with
      | some (level, title) => { level := level, title := title } :: closeHeadings level state.outline
      | none =>
          match here.arguments? with
          | some (language, arguments) => addToInnermost language arguments state.outline
          | none => state.outline := by
  unfold ScanState.read
  cases hopened : state.opened with
  | some opened =>
      have hregion : state.standing.region = .body := by
        simp [ScanState.standing, hopened]
      rw [hregion]
      simp only [PlacedLine.heading?, PlacedLine.arguments?]
      split <;> rfl
  | none =>
      have hregion : state.standing.region = if state.inDrawer then .drawer else .outside := by
        simp [ScanState.standing, hopened]
      rw [hregion]
      unfold ScanState.readOutside
      cases hdrawer : state.inDrawer <;>
        cases hclass : classify line <;>
        simp [PlacedLine.heading?, PlacedLine.arguments?, hclass, apply_ite ScanState.outline]

theorem modifyHead_append_nil
    (entries : List Ancestor) :
    (entries.modifyHead fun innermost =>
      { innermost with arguments := innermost.arguments ++ [] }) = entries := by
  cases entries <;> simp

/-- The outline of a scan is made of the ancestors of the next line. -/
theorem outline_stateAfter
    (context : ScanContext) (lines : List Text) :
    (stateAfter context lines).outline = (ancestors (placed lines)).map Ancestor.toHeading := by
  induction lines using List.reverseRecOn with
  | nil =>
      rfl
  | append_singleton lines line ih =>
      have hread := @outline_read context (stateAfter context lines) line
      rw [region_stateAfter, ih] at hread
      rw [stateAfter_concat, placed_concat, hread]
      cases hheading : (⟨regionAfter lines, line⟩ : PlacedLine).heading? with
      | some heading =>
          obtain ⟨level, title⟩ := heading
          dsimp only
          rw [ancestors_concat_of_some hheading,
            closeHeadings_map level (pairwise_level_ancestors (placed lines))]
          rfl
      | none =>
          rw [ancestors_concat_of_none hheading]
          cases harguments : (⟨regionAfter lines, line⟩ : PlacedLine).arguments? with
          | some entry =>
              exact addToInnermost_map entry.1 entry.2 (ancestors (placed lines))
          | none =>
              dsimp only
              rw [Option.toList_none, modifyHead_append_nil]

end Outline

end Document
end Literate
