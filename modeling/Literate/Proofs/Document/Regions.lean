import Literate.Proofs.Document.Patterns
import Literate.Proofs.Document.Scanning

/-!
# Regions of a document

The region of a line is found by going through the lines before it.  This module
reads it off the patterns of single lines instead: a line stands in a body when a
block begins before it and no line between them ends a block, and it stands in a
drawer when a line below some heading opens one before it and no line between
them closes it.  Lines in bodies count for neither.

**Lines.**  Lines are counted from zero, and `isAt` says whether the line with a
number is of a kind.

**Main statements.**
* `underHeading_next`, `region_next_eq_body_iff`, `region_next_eq_drawer_iff`: what one
  line does to the region.
* `headedAt_iff`, `regionAt_eq_body_iff`, `regionAt_eq_drawer_iff`: the region of any line.
-/

namespace Literate
namespace Document

section Steps

variable (standing : Standing) (line : Text)

/-- A heading above the next line is one that was there, or this line outside of bodies. -/
theorem underHeading_next :
    (standing.next line).underHeading = true ↔
      standing.underHeading = true ∨ standing.region ≠ .body ∧ isHeading line = true := by
  rw [isHeading_eq]
  unfold Standing.next
  by_cases hbody : standing.region = .body
  · by_cases hend : isBlockEnd line = true <;> simp [hbody, hend]
  · cases classify line <;> simp [hbody, apply_ite Standing.underHeading]

/-- The next line stands in a body when this one does not end it, or begins it. -/
theorem region_next_eq_body_iff :
    (standing.next line).region = .body ↔
      standing.region = .body ∧ isBlockEnd line = false ∨
        standing.region = .outside ∧ isBlockBegin line = true := by
  rw [isBlockBegin_eq]
  unfold Standing.next
  cases hregion : standing.region with
  | body =>
      by_cases hend : isBlockEnd line = true <;> simp [hend, hregion]
  | outside =>
      cases classify line <;> cases standing.underHeading <;> simp [hregion]
  | drawer =>
      cases classify line <;> cases standing.underHeading <;> simp [hregion]

/-- The next line stands in a drawer when this one opens it below a heading, or does not close it. -/
theorem region_next_eq_drawer_iff :
    (standing.next line).region = .drawer ↔
      standing.region ≠ .body ∧ isDrawerOpen line = true ∧ standing.underHeading = true ∨
        standing.region = .drawer ∧ isDrawerClose line = false := by
  rw [isDrawerOpen_eq, isDrawerClose_eq]
  unfold Standing.next
  cases hregion : standing.region with
  | body =>
      by_cases hend : isBlockEnd line = true <;> simp [hend, hregion]
  | outside =>
      cases classify line <;> cases standing.underHeading <;> simp [hregion]
  | drawer =>
      cases classify line <;> cases standing.underHeading <;> simp [hregion]

end Steps

/-- Whether the line with a number is of a kind. -/
def isAt (kind : Text → Bool) (lines : List Text) (i : Nat) : Bool :=
  lines[i]?.any kind

/-- The region of the line with a number. -/
def regionAt (lines : List Text) (i : Nat) : Region :=
  regionAfter (lines.take i)

/-- Whether there is a heading above the line with a number. -/
def headedAt (lines : List Text) (i : Nat) : Bool :=
  (({} : Standing).after (lines.take i)).underHeading

section Positions

variable {lines : List Text} {i : Nat}

theorem isAt_of_getElem?
    {line : Text} (kind : Text → Bool)
    (h : lines[i]? = some line) :
    isAt kind lines i = kind line := by
  rw [isAt, h]
  rfl

theorem exists_of_isAt
    {kind : Text → Bool}
    (h : isAt kind lines i = true) :
    ∃ line, lines[i]? = some line ∧ kind line = true :=
  (Option.any_eq_true kind _).mp h

theorem lt_length_of_isAt
    {kind : Text → Bool}
    (h : isAt kind lines i = true) :
    i < lines.length := by
  obtain ⟨line, hline, -⟩ := exists_of_isAt h
  exact (List.getElem?_eq_some_iff.mp hline).1

theorem standingAt_succ
    {line : Text}
    (h : lines[i]? = some line) :
    ({} : Standing).after (lines.take (i + 1)) = (({} : Standing).after (lines.take i)).next line := by
  rw [List.take_add_one, h]
  exact Standing.after_concat _ _ _

/-- There is a heading above a line when an earlier line outside of bodies is one. -/
theorem headedAt_iff
    (hi : i ≤ lines.length) :
    headedAt lines i = true ↔
      ∃ h < i, regionAt lines h ≠ .body ∧ isAt isHeading lines h = true := by
  induction i with
  | zero =>
      simp [headedAt, Standing.after]
  | succ i ih =>
      obtain ⟨line, hline⟩ : ∃ line, lines[i]? = some line :=
        ⟨_, List.getElem?_eq_getElem hi⟩
      rw [Nat.exists_lt_succ_right, ← ih (Nat.le_of_succ_le hi), isAt_of_getElem? _ hline, headedAt,
        standingAt_succ hline, underHeading_next]
      rfl

/-- A block begins on a line outside of bodies and drawers. -/
structure BeginsAt (lines : List Text) (first : Nat) : Prop where
  /-- The line stands neither in a body nor in a drawer. -/
  outside : regionAt lines first = .outside
  /-- It is the first line of a block. -/
  begins : isAt isBlockBegin lines first = true

/-- A line stands in a body, or ends it, when a block begins before it that no line between them ends. -/
theorem regionAt_eq_body_iff
    (hi : i ≤ lines.length) :
    regionAt lines i = .body ↔
      ∃ first < i, BeginsAt lines first ∧
        ∀ k, first < k → k < i → isAt isBlockEnd lines k = false := by
  induction i with
  | zero =>
      simp [regionAt, regionAfter, Standing.after]
  | succ i ih =>
      obtain ⟨line, hline⟩ : ∃ line, lines[i]? = some line :=
        ⟨_, List.getElem?_eq_getElem hi⟩
      have hbody := ih (Nat.le_of_succ_le hi)
      have hnext : regionAt lines (i + 1) = .body ↔
          regionAt lines i = .body ∧ isAt isBlockEnd lines i = false ∨
            regionAt lines i = .outside ∧ isAt isBlockBegin lines i = true := by
        rw [isAt_of_getElem? _ hline, isAt_of_getElem? _ hline, regionAt, regionAfter,
          standingAt_succ hline, region_next_eq_body_iff]
        rfl
      rw [hnext, hbody]
      constructor
      · rintro (⟨⟨first, hfirst, hbegins, hinside⟩, hend⟩ | ⟨houtside, hbegins⟩)
        · refine ⟨first, Nat.lt_succ_of_lt hfirst, hbegins, fun k hlow hhigh => ?_⟩
          rcases Nat.lt_succ_iff_lt_or_eq.mp hhigh with hlt | rfl
          · exact hinside k hlow hlt
          · exact hend
        · exact ⟨i, Nat.lt_succ_self i, ⟨houtside, hbegins⟩, fun k hlow hhigh => by omega⟩
      · rintro ⟨first, hfirst, hbegins, hinside⟩
        rcases Nat.lt_succ_iff_lt_or_eq.mp hfirst with hlt | rfl
        · refine Or.inl ⟨⟨first, hlt, hbegins, fun k hlow hhigh => ?_⟩, hinside i hlt (Nat.lt_succ_self i)⟩
          exact hinside k hlow (Nat.lt_succ_of_lt hhigh)
        · exact Or.inr ⟨hbegins.outside, hbegins.begins⟩

/-- A line stands in a drawer, or closes it, when a line below a heading opens one before it that no line
between them closes. -/
theorem regionAt_eq_drawer_iff
    (hi : i ≤ lines.length) :
    regionAt lines i = .drawer ↔
      ∃ j < i, (regionAt lines j ≠ .body ∧ isAt isDrawerOpen lines j = true ∧ headedAt lines j = true) ∧
        ∀ k, j < k → k < i → isAt isDrawerClose lines k = true → regionAt lines k = .body := by
  induction i with
  | zero =>
      simp [regionAt, regionAfter, Standing.after]
  | succ i ih =>
      obtain ⟨line, hline⟩ : ∃ line, lines[i]? = some line :=
        ⟨_, List.getElem?_eq_getElem hi⟩
      have hdrawer := ih (Nat.le_of_succ_le hi)
      have hnext : regionAt lines (i + 1) = .drawer ↔
          regionAt lines i ≠ .body ∧ isAt isDrawerOpen lines i = true ∧ headedAt lines i = true ∨
            regionAt lines i = .drawer ∧ isAt isDrawerClose lines i = false := by
        rw [isAt_of_getElem? _ hline, isAt_of_getElem? _ hline, regionAt, regionAfter,
          standingAt_succ hline, region_next_eq_drawer_iff]
        rfl
      rw [hnext]
      constructor
      · rintro (hopen | ⟨hinside, hclose⟩)
        · exact ⟨i, Nat.lt_succ_self i, hopen, fun k hlow hhigh => by omega⟩
        · obtain ⟨j, hj, hopen, hbetween⟩ := hdrawer.mp hinside
          refine ⟨j, Nat.lt_succ_of_lt hj, hopen, fun k hlow hhigh hk => ?_⟩
          rcases Nat.lt_succ_iff_lt_or_eq.mp hhigh with hlt | rfl
          · exact hbetween k hlow hlt hk
          · rw [hclose] at hk
            cases hk
      · rintro ⟨j, hj, hopen, hbetween⟩
        rcases Nat.lt_succ_iff_lt_or_eq.mp hj with hlt | rfl
        · have hinside : regionAt lines i = .drawer :=
            hdrawer.mpr ⟨j, hlt, hopen, fun k hlow hhigh => hbetween k hlow (Nat.lt_succ_of_lt hhigh)⟩
          refine Or.inr ⟨hinside, Bool.eq_false_iff.mpr fun hclose => ?_⟩
          rw [hbetween i hlt (Nat.lt_succ_self i) hclose] at hinside
          cases hinside
        · exact Or.inl hopen

end Positions

end Document
end Literate
