import Literate.Proofs.Document.Extents

/-!
# Names of blocks

A name is given to a block by the line that is reached from the block's first line
when one goes back over blank lines, keywords and property drawers.  The scan goes
the other way: it carries a name forward and drops or replaces it on the way.

**Lines in between.**  `Standing.keepsName` says which lines leave the carried name
alone, by the region in which they stand; `IsPassed` says the same by the extents
of the blocks of a document.

**Main statements.**
* `pending_read`, `pending_stateAfter_iff`: what one line and any number of lines do
  to the carried name.
* `keepsAt_iff_isPassed`: the lines that leave it alone are those that one goes
  back over.
* `scanned_names_nearest`: every block takes the name that the line so reached gives,
  and no line is reached from two blocks.
-/

namespace Literate
namespace Document

/-- Whether a line leaves the carried name alone. -/
def Standing.keepsName (standing : Standing) (line : Text) : Bool :=
  match standing.region with
  | .body => false
  | .drawer => !isHeading line
  | .outside =>
      match classify line with
      | .blank => true
      | .keyword => true
      | .drawerOpen => standing.underHeading
      | _ => false

/-- The name that is carried on after a line. -/
def Standing.carry (standing : Standing) (line : Text) (pending : Option Text) : Option Text :=
  if standing.keepsName line then pending
  else if standing.region = .outside then (name? line).filter fun value => !value.isEmpty
  else none

section Carrying

variable {context : ScanContext} {state : ScanState} {lines : List Text} {i : Nat}

/-- One line carries the name on, and no name is carried where a block is being read. -/
theorem pending_read
    (line : Text)
    (h : state.opened.isSome = true → state.pending = none) :
    (state.read context line).1.pending = state.standing.carry line state.pending ∧
      ((state.read context line).1.opened.isSome = true → (state.read context line).1.pending = none) := by
  unfold ScanState.read Standing.carry Standing.keepsName
  cases hopened : state.opened with
  | some opened =>
      have hpending : state.pending = none := h (by simp [hopened])
      cases isBlockEnd line <;> simp [ScanState.standing, hopened, hpending]
  | none =>
      rw [isHeading_eq, name?_eq]
      unfold ScanState.readOutside
      cases hclass : classify line <;> cases hdrawer : state.inDrawer <;>
        cases houtline : state.outline <;>
        simp [ScanState.standing, hopened, hdrawer, houtline, Option.filter]

/-- Any number of lines carry no name into the body of a block. -/
theorem pending_eq_none_of_opened
    (context : ScanContext) (lines : List Text) :
    (stateAfter context lines).opened.isSome = true → (stateAfter context lines).pending = none := by
  induction lines using List.reverseRecOn with
  | nil =>
      exact fun _ => rfl
  | append_singleton lines line ih =>
      rw [stateAfter_concat]
      exact (pending_read line ih).2

theorem pending_succ
    {line : Text}
    (h : lines[i]? = some line) :
    (stateAfter context (lines.take (i + 1))).pending =
      (({} : Standing).after (lines.take i)).carry line (stateAfter context (lines.take i)).pending := by
  rw [List.take_add_one, h, ← (standing_after context (lines.take i)).1]
  exact (congrArg ScanState.pending (stateAfter_concat context _ line)).trans
    (pending_read line (pending_eq_none_of_opened context _)).1

/-- Whether the line with a number leaves the carried name alone. -/
def keepsAt (lines : List Text) (i : Nat) : Bool :=
  isAt (({} : Standing).after (lines.take i)).keepsName lines i

theorem keepsAt_of_body
    (h : regionAt lines i = .body) :
    keepsAt lines i = false := by
  have hregion : (({} : Standing).after (lines.take i)).region = .body := h
  cases hline : lines[i]? with
  | none =>
      rw [keepsAt, isAt, hline]
      rfl
  | some line =>
      rw [keepsAt, isAt_of_getElem? _ hline, Standing.keepsName, hregion]

theorem keepsAt_of_drawer
    {line : Text}
    (hline : lines[i]? = some line)
    (h : regionAt lines i = .drawer) :
    keepsAt lines i = !isHeading line := by
  have hregion : (({} : Standing).after (lines.take i)).region = .drawer := h
  rw [keepsAt, isAt_of_getElem? _ hline, Standing.keepsName, hregion]

theorem keepsAt_of_outside
    {line : Text}
    (hline : lines[i]? = some line)
    (h : regionAt lines i = .outside) :
    keepsAt lines i = true ↔
      classify line = .blank ∨ classify line = .keyword ∨
        classify line = .drawerOpen ∧ headedAt lines i = true := by
  have hregion : (({} : Standing).after (lines.take i)).region = .outside := h
  rw [keepsAt, isAt_of_getElem? _ hline, Standing.keepsName, hregion, headedAt]
  cases classify line <;> simp

/-- A line outside of bodies and drawers gives a name. -/
structure GivesName (lines : List Text) (i : Nat) (name : Text) : Prop where
  /-- It stands neither in a body nor in a drawer. -/
  outside : regionAt lines i = .outside
  /-- It holds the name. -/
  named : lines[i]?.bind name? = some name
  /-- The name is not empty. -/
  nonempty : name ≠ []

theorem GivesName.keepsAt_eq_false
    {name : Text}
    (h : GivesName lines i name) :
    keepsAt lines i = false := by
  obtain ⟨line, hline, hname⟩ := Option.bind_eq_some_iff.mp h.named
  rw [Bool.eq_false_iff, ne_eq, keepsAt_of_outside hline h.outside, classify_eq_name_iff.mpr hname]
  simp

theorem givesName_iff
    {line name : Text}
    (h : lines[i]? = some line) :
    GivesName lines i name ↔
      (if regionAt lines i = .outside then (name? line).filter fun value => !value.isEmpty else none) =
        some name := by
  constructor
  · rintro ⟨houtside, hnamed, hnonempty⟩
    rw [h] at hnamed
    rw [if_pos houtside, Option.filter_eq_some_iff]
    exact ⟨hnamed, by simpa using hnonempty⟩
  · intro hgiven
    split at hgiven
    · rename_i houtside
      obtain ⟨hnamed, hnonempty⟩ := Option.filter_eq_some_iff.mp hgiven
      exact ⟨houtside, by rw [h]; exact hnamed, by simpa using hnonempty⟩
    · cases hgiven

/-- A name is carried when a line has given it and all lines since then have left it alone. -/
theorem pending_stateAfter_iff
    {name : Text}
    (hi : i ≤ lines.length) :
    (stateAfter context (lines.take i)).pending = some name ↔
      ∃ j < i, GivesName lines j name ∧ ∀ k, j < k → k < i → keepsAt lines k = true := by
  induction i with
  | zero =>
      simp [stateAfter, ScanState.after]
  | succ i ih =>
      obtain ⟨line, hline⟩ : ∃ line, lines[i]? = some line :=
        ⟨_, List.getElem?_eq_getElem hi⟩
      have hkeeps : keepsAt lines i = (({} : Standing).after (lines.take i)).keepsName line :=
        isAt_of_getElem? _ hline
      rw [pending_succ hline, Standing.carry, ← hkeeps]
      cases hkept : keepsAt lines i with
      | true =>
          rw [if_pos rfl, ih (Nat.le_of_succ_le hi)]
          constructor
          · rintro ⟨j, hlt, hgives, hbetween⟩
            refine ⟨j, Nat.lt_succ_of_lt hlt, hgives, fun k hlow hhigh => ?_⟩
            rcases Nat.lt_succ_iff_lt_or_eq.mp hhigh with hbefore | rfl
            · exact hbetween k hlow hbefore
            · exact hkept
          · rintro ⟨j, hlt, hgives, hbetween⟩
            rcases Nat.lt_succ_iff_lt_or_eq.mp hlt with hbefore | rfl
            · exact ⟨j, hbefore, hgives, fun k hlow hhigh => hbetween k hlow (Nat.lt_succ_of_lt hhigh)⟩
            · rw [hgives.keepsAt_eq_false] at hkept
              cases hkept
      | false =>
          rw [if_neg Bool.false_ne_true]
          change (if regionAt lines i = .outside then _ else none) = some name ↔ _
          rw [← givesName_iff hline]
          constructor
          · intro hgives
            exact ⟨i, Nat.lt_succ_self i, hgives, fun k hlow hhigh => by omega⟩
          · rintro ⟨j, hlt, hgives, hbetween⟩
            rcases Nat.lt_succ_iff_lt_or_eq.mp hlt with hbefore | rfl
            · rw [hbetween i hbefore (Nat.lt_succ_self i)] at hkept
              cases hkept
            · exact hgives

end Carrying

/-- A line belongs to a block. -/
def IsOccupied (extents : List Extent) (i : Nat) : Prop :=
  ∃ extent ∈ extents, extent.first ≤ i ∧ i ≤ extent.last

/-- A line outside of blocks that stands between a name and its block without parting them: a blank line, a
keyword other than a name, or a line of a drawer other than a heading. -/
structure IsPassed (lines : List Text) (extents : List Extent) (i : Nat) : Prop where
  /-- The line belongs to no block. -/
  free : ¬ IsOccupied extents i
  /-- What it is. -/
  kind : isAt Text.isAllBlank lines i = true ∨
    isAt isKeyword lines i = true ∧ lines[i]?.bind name? = none ∨
    (OpensDrawer lines extents i ∨ InDrawer lines extents i) ∧ isAt isHeading lines i = false

/-- The first line, going back from another, that does not stand in between. -/
structure IsReached (lines : List Text) (extents : List Extent) (first i : Nat) : Prop where
  /-- The line comes before. -/
  lt : i < first
  /-- It does not stand in between. -/
  stops : ¬ IsPassed lines extents i
  /-- All the lines after it do. -/
  passed : ∀ k, i < k → k < first → IsPassed lines extents k

section Passing

variable {lines : List Text} {extents : List Extent} {i : Nat}
variable (hextents : ∀ extent, extent ∈ extents ↔ IsExtent lines extent)
include hextents

theorem isOccupied_iff
    (hi : i ≤ lines.length)
    (hsettled : IsSettled lines (i + 1)) :
    IsOccupied extents i ↔ regionAt lines i = .body ∨ BeginsAt lines i := by
  rw [regionAt_eq_body_iff_exists_extent hextents hi (hsettled.of_le (Nat.le_succ i))]
  constructor
  · rintro ⟨extent, hmem, hfirst, hlast⟩
    rcases Nat.lt_or_eq_of_le hfirst with hlt | rfl
    · exact Or.inl ⟨extent, hmem, hlt, hlast⟩
    · exact Or.inr ((hextents extent).mp hmem).begins
  · rintro (⟨extent, hmem, hlt, hlast⟩ | hbegins)
    · exact ⟨extent, hmem, hlt.le, hlast⟩
    · obtain ⟨last, hends⟩ := exists_endsAt (hsettled i (Nat.lt_succ_self i) hbegins)
      exact ⟨⟨i, last⟩, (hextents _).mpr ⟨hbegins, hends⟩, le_rfl, hends.lt.le⟩

/-- In a drawer one goes back over every line but headings. -/
theorem isPassed_iff_of_drawer
    {line : Text}
    (hline : lines[i]? = some line)
    (hsettled : IsSettled lines (i + 1))
    (hregion : regionAt lines i = .drawer) :
    IsPassed lines extents i ↔ isHeading line = false := by
  have hi : i ≤ lines.length := (List.getElem?_eq_some_iff.mp hline).1.le
  constructor
  · rintro ⟨-, hblank | ⟨hkeyword, -⟩ | ⟨-, hheading⟩⟩
    · rw [isAt_of_getElem? _ hline] at hblank
      rw [isHeading, heading?_of_mark? (by simp [mark?_of_isAllBlank hblank])]
      rfl
    · rw [isAt_of_getElem? _ hline] at hkeyword
      rw [isHeading, heading?_of_mark? (by simp [mark?_of_isKeyword hkeyword])]
      rfl
    · rwa [isAt_of_getElem? _ hline] at hheading
  · intro hheading
    have hdrawer : InDrawer lines extents i :=
      (regionAt_eq_drawer_iff_inDrawer hextents hi (hsettled.of_le (Nat.le_succ i))).mp hregion
    refine ⟨?_, Or.inr (Or.inr ⟨Or.inr hdrawer, by rwa [isAt_of_getElem? _ hline]⟩)⟩
    rw [isOccupied_iff hextents hi hsettled]
    rintro (hbody | hbegins)
    · simp [hregion] at hbody
    · simpa [hregion] using hbegins.outside

/-- Outside of bodies and drawers one goes back over blank lines, keywords and lines that open a drawer. -/
theorem isPassed_iff_of_outside
    {line : Text}
    (hline : lines[i]? = some line)
    (hsettled : IsSettled lines (i + 1))
    (hregion : regionAt lines i = .outside) :
    IsPassed lines extents i ↔
      classify line = .blank ∨ classify line = .keyword ∨
        classify line = .drawerOpen ∧ headedAt lines i = true := by
  have hi : i ≤ lines.length := (List.getElem?_eq_some_iff.mp hline).1.le
  have hsettled' : IsSettled lines i := hsettled.of_le (Nat.le_succ i)
  have hopens := opensDrawer_iff hextents hi hsettled'
  have hoccupied : IsOccupied extents i ↔ isBlockBegin line = true := by
    rw [isOccupied_iff hextents hi hsettled, ← isAt_of_getElem? isBlockBegin hline]
    constructor
    · rintro (hbody | hbegins)
      · simp [hregion] at hbody
      · exact hbegins.begins
    · exact fun hbegin => Or.inr ⟨hregion, hbegin⟩
  constructor
  · rintro ⟨hfree, hblank | ⟨hkeyword, hname⟩ | ⟨hopen | hdrawer, -⟩⟩
    · rw [isAt_of_getElem? _ hline] at hblank
      exact Or.inl (classify_eq_blank_iff.mpr hblank)
    · rw [isAt_of_getElem? _ hline] at hkeyword
      rw [hline] at hname
      have hbegin : blockBegin? line = none := by
        simpa [hoccupied, isBlockBegin] using hfree
      exact Or.inr (Or.inl (classify_eq_keyword_iff.mpr ⟨hkeyword, hname, hbegin⟩))
    · obtain ⟨-, hopen, hheaded⟩ := hopens.mpr hopen
      rw [isAt_of_getElem? _ hline] at hopen
      exact Or.inr (Or.inr ⟨classify_eq_drawerOpen_iff.mpr hopen, hheaded⟩)
    · have hinside := (regionAt_eq_drawer_iff_inDrawer hextents hi hsettled').mpr hdrawer
      simp [hregion] at hinside
  · intro hclass
    refine ⟨?_, ?_⟩
    · rw [hoccupied, isBlockBegin_eq]
      rcases hclass with hblank | hkeyword | ⟨hopen, -⟩
      · simp [hblank]
      · simp [hkeyword]
      · simp [hopen]
    · rw [isAt_of_getElem? _ hline, isAt_of_getElem? _ hline, isAt_of_getElem? _ hline, hline]
      rcases hclass with hblank | hkeyword | ⟨hopen, hheaded⟩
      · exact Or.inl (classify_eq_blank_iff.mp hblank)
      · obtain ⟨hword, hname, -⟩ := classify_eq_keyword_iff.mp hkeyword
        exact Or.inr (Or.inl ⟨hword, hname⟩)
      · have hstart : isAt isDrawerOpen lines i = true := by
          rw [isAt_of_getElem? _ hline]
          exact classify_eq_drawerOpen_iff.mp hopen
        refine Or.inr (Or.inr ⟨Or.inl (hopens.mp ⟨by simp [hregion], hstart, hheaded⟩), ?_⟩)
        rw [isHeading_eq, hopen]

/-- The lines that leave the carried name alone are those that one goes back over. -/
theorem keepsAt_iff_isPassed
    (hi : i < lines.length)
    (hsettled : IsSettled lines (i + 1)) :
    keepsAt lines i = true ↔ IsPassed lines extents i := by
  obtain ⟨line, hline⟩ : ∃ line, lines[i]? = some line :=
    ⟨_, List.getElem?_eq_getElem hi⟩
  cases hregion : regionAt lines i with
  | outside =>
      rw [keepsAt_of_outside hline hregion, isPassed_iff_of_outside hextents hline hsettled hregion]
  | drawer =>
      rw [keepsAt_of_drawer hline hregion, isPassed_iff_of_drawer hextents hline hsettled hregion,
        Bool.not_eq_true']
  | body =>
      rw [keepsAt_of_body hregion]
      refine iff_of_false Bool.false_ne_true fun hpassed => hpassed.free ?_
      exact (isOccupied_iff hextents hi.le hsettled).mpr (Or.inl hregion)

/-- The name that is carried to the first line of a block is the one that the line reached from there gives. -/
theorem pending_iff_isReached
    {context : ScanContext} {first : Nat} {name : Text}
    (h : BeginsAt lines first) :
    (stateAfter context (lines.take first)).pending = some name ↔
      ∃ j, IsReached lines extents first j ∧ lines[j]?.bind name? = some name ∧ name ≠ [] := by
  have hlength : first < lines.length := lt_length_of_isAt h.begins
  have hpassed : ∀ {k}, k < first → (keepsAt lines k = true ↔ IsPassed lines extents k) :=
    fun hk => keepsAt_iff_isPassed hextents (hk.trans hlength) (h.isSettled.of_le hk)
  rw [pending_stateAfter_iff hlength.le]
  constructor
  · rintro ⟨j, hlt, hgives, hbetween⟩
    refine ⟨j, ⟨hlt, ?_, fun k hlow hhigh => (hpassed hhigh).mp (hbetween k hlow hhigh)⟩,
      hgives.named, hgives.nonempty⟩
    rw [← hpassed hlt, hgives.keepsAt_eq_false]
    exact Bool.false_ne_true
  · rintro ⟨j, ⟨hlt, hstops, hbetween⟩, hnamed, hnonempty⟩
    refine ⟨j, hlt, ⟨?_, hnamed, hnonempty⟩, fun k hlow hhigh => (hpassed hhigh).mpr (hbetween k hlow hhigh)⟩
    obtain ⟨line, hline, hname⟩ := Option.bind_eq_some_iff.mp hnamed
    have hsettled : IsSettled lines (j + 1) := h.isSettled.of_le hlt
    cases hregion : regionAt lines j with
    | outside =>
        rfl
    | drawer =>
        refine absurd ?_ hstops
        rw [isPassed_iff_of_drawer hextents hline hsettled hregion, isHeading_eq,
          classify_eq_name_iff.mpr hname]
    | body =>
        -- the line that ends the block of the body lies on the way back
        obtain ⟨extent, hmem, hfirst, hlast⟩ :=
          (regionAt_eq_body_iff_exists_extent hextents (hlt.trans hlength).le
            (hsettled.of_le (Nat.le_succ j))).mp hregion
        have hextent := (hextents extent).mp hmem
        have hends : extent.last < first := hextent.last_lt h (hfirst.trans hlt)
        rcases Nat.lt_or_eq_of_le hlast with hinside | rfl
        · exact absurd ⟨extent, hmem, hextent.ends.lt.le, le_rfl⟩ (hbetween _ hinside hends).free
        · have hend := hextent.ends.ends
          rw [isAt_of_getElem? _ hline] at hend
          rw [(isBlockEnd_exclusive hend).2.2.2.1] at hname
          cases hname

omit hextents in
/-- Lines that are reached from different blocks are different. -/
theorem IsReached.lt_of_extent
    {extent : Extent} {first j : Nat}
    (hmem : extent ∈ extents)
    (hle : extent.first ≤ extent.last)
    (hlt : extent.first < first)
    (h : IsReached lines extents extent.first i)
    (h' : IsReached lines extents first j) :
    i < j := by
  by_contra hge
  have hoccupied : IsOccupied extents extent.first := ⟨extent, hmem, le_rfl, hle⟩
  have hlow := h.lt
  exact (h'.passed extent.first (by omega) hlt).free hoccupied

end Passing

section Documents

theorem name_eq_pending
    {context : ScanContext} {lines : List Text} {block : DocumentBlock}
    (h : block ∈ (scanFrom context {} lines).blocks) :
    block.name = (stateAfter context (lines.take (block.extent lines).first)).pending := by
  obtain ⟨last, opening, body, hend, hopened, rfl⟩ := mem_blocks_iff_at.mp h
  obtain ⟨first, language, rest, hlt, hbegins, -, hinside, rfl, -⟩ := exists_opening_at hopened
  have hlink := link_opening context lines language rest (lt_length_of_isAt hbegins.begins).le
  rw [extent_eq hlink ⟨hlt, hend, hinside⟩]
  rfl

/-- **Naming.**  The name of a block is the one that is given by the line reached from the block's first line
when one goes back over blank lines, keywords and drawers outside of other blocks.  Lines that are reached
from different blocks are different. -/
theorem scanned_names_nearest
    (document : Document) :
    let lines := Text.lines document.text
    (∀ block ∈ document.scanned.blocks, ∀ name, block.name = some name ↔
        ∃ i, IsReached lines document.extents (block.extent lines).first i ∧
          lines[i]?.bind name? = some name ∧ name ≠ []) ∧
      document.scanned.blocks.Pairwise fun block later => ∀ i j,
        IsReached lines document.extents (block.extent lines).first i →
        IsReached lines document.extents (later.extent lines).first j → i < j := by
  intro lines
  constructor
  · intro block hblock name
    rw [name_eq_pending hblock]
    exact pending_iff_isReached mem_extents_iff (occupies_extent hblock).1.begins
  · refine (List.pairwise_map.mp (pairwise_extents document)).imp_of_mem ?_
    intro block later hblock _ hlast i j hi hj
    have hle := (occupies_extent hblock).1.ends.lt.le
    exact hi.lt_of_extent (List.mem_map_of_mem hblock) hle (hle.trans_lt hlast) hj

/-- The drawer between the name and its block holds another name, and so does the body that is followed by
a block without a name. -/
theorem scanned_names_nearest_over_drawer :
    let document : Document :=
      { text :=
          "* H\n#+name: a\n\n:PROPERTIES:\n#+name: b\n:END:\n#+caption: c\n#+begin_src sh\n#+name: d\n" ++
            "#+end_src\n\n#+begin_src sh\n#+end_src\n" }
    let lines := Text.lines document.text
    document.scanned.blocks.map DocumentBlock.name = [some ("a" : Text), none] ∧
      (∃ i, IsReached lines document.extents 7 i ∧ lines[i]?.bind name? = some ("a" : Text)) ∧
      ∀ i, IsReached lines document.extents 11 i → ∀ name, lines[i]?.bind name? = some name → name = [] := by
  intro document lines
  have hnames : document.scanned.blocks.map DocumentBlock.name = [some ("a" : Text), none] := by
    decide +kernel
  have hfirsts : document.scanned.blocks.map (fun block => (block.extent lines).first) = [7, 11] := by
    decide +kernel
  obtain ⟨hnamed, -⟩ := scanned_names_nearest document
  generalize document.scanned.blocks = blocks at hnames hfirsts hnamed
  obtain ⟨block, later, rfl⟩ := List.length_eq_two.mp (by simpa using congrArg List.length hnames)
  simp only [List.map_cons, List.map_nil, List.cons.injEq, and_true] at hnames hfirsts
  refine ⟨by simp [hnames], ?_, ?_⟩
  · obtain ⟨i, hreached, hname, -⟩ := (hnamed block (by simp) _).mp hnames.1
    rw [hfirsts.1] at hreached
    exact ⟨i, hreached, hname⟩
  · intro i hreached name hname
    by_contra hnonempty
    rw [← hfirsts.2] at hreached
    have hsome := (hnamed later (by simp) name).mpr ⟨i, hreached, hname, hnonempty⟩
    rw [hnames.2] at hsome
    cases hsome

end Documents

end Document
end Literate
