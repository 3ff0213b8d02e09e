import Literate.Document.Basic
import Literate.Proofs.Document.Regions
import Mathlib.Data.Nat.Find

/-!
# The lines that blocks take up

Every block takes up the lines from its first line to the next line that ends a
block.  The blocks of a document account for all the lines that look like the
first line of a block: such a line is the first line of a block, stands in the
body of one, stands in a property drawer, or is the beginning of a block that has
no end.

**Extents.**  An extent is the pair of the first and the last line of a block.
The extents of a document are enough to say which lines stand in bodies and
drawers: `IsInside` and `InDrawer` do not mention the scan.

**Main statements.**
* `mem_extents_iff`: a pair of lines is an extent of a document when a block begins
  on the first line and the second one is the next to end a block.
* `regionAt_eq_body_iff_exists_extent`, `regionAt_eq_drawer_iff_inDrawer`: the regions
  of a scan are those that its extents show, as far as every block has an end.
* `scanned_accounts_for_lines`: where the blocks of a document are, which lines they
  leave, and when a block has no end.
-/

namespace Literate

/-- The lines that a block takes up. -/
structure Extent where
  /-- The number of its first line. -/
  first : Nat
  /-- The number of the line that ends it. -/
  last : Nat
deriving DecidableEq

/-- The lines from the one that a block links to up to the next that ends a block. -/
def DocumentBlock.extent (lines : List Text) (block : DocumentBlock) : Extent :=
  let first := block.link.line.toNat - 1
  ⟨first, first + 1 + (lines.drop (first + 1)).findIdx Document.isBlockEnd⟩

namespace Document

/-- The lines that the blocks of a document take up. -/
def extents (document : Document) : List Extent :=
  document.scanned.blocks.map (DocumentBlock.extent (Text.lines document.text))

/-- A line is the next one after another to end a block. -/
structure EndsAt (lines : List Text) (first last : Nat) : Prop where
  /-- It comes later. -/
  lt : first < last
  /-- It ends a block. -/
  ends : isAt isBlockEnd lines last = true
  /-- No line between them does. -/
  inside : ∀ k, first < k → k < last → isAt isBlockEnd lines k = false

/-- A block begins on the first line and the last one is the next to end a block. -/
structure IsExtent (lines : List Text) (extent : Extent) : Prop where
  /-- A block begins on the first line. -/
  begins : BeginsAt lines extent.first
  /-- The last line ends it. -/
  ends : EndsAt lines extent.first extent.last

section Beginnings

variable {lines : List Text} {first first' last last' i : Nat}

/-- Where some later line ends a block, there is a next one to do so. -/
theorem exists_endsAt
    (h : ∃ k, first < k ∧ isAt isBlockEnd lines k = true) :
    ∃ last, EndsAt lines first last := by
  classical
  refine ⟨Nat.find h, (Nat.find_spec h).1, (Nat.find_spec h).2, fun k hfirst hlast => ?_⟩
  exact Bool.eq_false_iff.mpr fun hend => Nat.find_min h hlast ⟨hfirst, hend⟩

/-- Between two beginnings of blocks some line ends a block. -/
theorem BeginsAt.exists_end_between
    (h : BeginsAt lines first)
    (h' : BeginsAt lines first')
    (hlt : first < first') :
    ∃ k, first < k ∧ k < first' ∧ isAt isBlockEnd lines k = true := by
  by_contra hnone
  have hbody : regionAt lines first' = .body :=
    (regionAt_eq_body_iff (lt_length_of_isAt h'.begins).le).mpr
      ⟨first, hlt, h, fun k hlow hhigh => Bool.eq_false_iff.mpr fun hend => hnone ⟨k, hlow, hhigh, hend⟩⟩
  rw [h'.outside] at hbody
  cases hbody

/-- A block ends before another one begins. -/
theorem IsExtent.last_lt
    {extent : Extent}
    (h : IsExtent lines extent)
    (h' : BeginsAt lines first')
    (hlt : extent.first < first') :
    extent.last < first' := by
  obtain ⟨k, hlow, hhigh, hk⟩ := h.begins.exists_end_between h' hlt
  by_contra hge
  exact absurd hk (Bool.eq_false_iff.mp (h.ends.inside k hlow (by omega)))

/-- While a block is being read, no other one begins. -/
theorem BeginsAt.le_of_unended
    (h : BeginsAt lines first)
    (hopen : ∀ k, first < k → k < i → isAt isBlockEnd lines k = false)
    (h' : BeginsAt lines first')
    (hlt : first' < i) :
    first' ≤ first := by
  by_contra hgt
  obtain ⟨k, hlow, hhigh, hk⟩ := h.exists_end_between h' (Nat.lt_of_not_le hgt)
  exact absurd hk (Bool.eq_false_iff.mp (hopen k hlow (hhigh.trans hlt)))

/-- A block that ends before a line begins before one that is still being read there. -/
theorem BeginsAt.lt_of_unended
    (h : BeginsAt lines first)
    (hopen : ∀ k, first < k → k < i → isAt isBlockEnd lines k = false)
    (h' : BeginsAt lines first')
    (hend : EndsAt lines first' last')
    (hlast : last' < i) :
    first' < first := by
  refine Nat.lt_of_le_of_ne (h.le_of_unended hopen h' (hend.lt.trans hlast)) ?_
  rintro rfl
  exact absurd hend.ends (Bool.eq_false_iff.mp (hopen last' hend.lt hlast))

end Beginnings

section Blocks

variable {context : ScanContext} {lines : List Text} {block : DocumentBlock} {i : Nat}

/-- Where a block is being read in front of a line, there is the line on which it began. -/
theorem exists_opening_at
    {opening : Opening} {body : List Text}
    (h : (stateAfter context (lines.take i)).opened = some (opening, body)) :
    ∃ first language rest, first < i ∧ BeginsAt lines first ∧
      lines[first]?.bind blockBegin? = some (language, rest) ∧
      (∀ k, first < k → k < i → isAt isBlockEnd lines k = false) ∧
      opening = (stateAfter context (lines.take first)).opening context language rest ∧
      body.reverse = (lines.take i).drop (first + 1) := by
  obtain ⟨before, line, language, rest, hsplit, hbegins, hbody, hopening⟩ := exists_opening h
  have hlength : before.length < (lines.take i).length := by
    simp [hsplit]
  have hi : before.length < i := hlength.trans_le (List.length_take_le i lines)
  have hline : lines[before.length]? = some line := by
    rw [← List.getElem?_take_of_lt hi, hsplit]
    simp
  have hbefore : lines.take before.length = before := by
    rw [← Nat.min_eq_left hi.le, ← List.take_take, hsplit]
    simp
  have hbegin : blockBegin? line = some (language, rest) := classify_eq_blockBegin_iff.mp hbegins.begins
  refine ⟨before.length, language, rest, hi, ⟨?_, ?_⟩, ?_, ?_, ?_, ?_⟩
  · rw [regionAt, hbefore]
    exact hbegins.outside
  · rw [isAt_of_getElem? _ hline, isBlockBegin, hbegin]
    rfl
  · rw [hline]
    exact hbegin
  · intro k hlow hhigh
    cases hk : lines[k]? with
    | none =>
        rw [isAt, hk]
        rfl
    | some l =>
        rw [isAt_of_getElem? _ hk]
        refine hbody l (List.mem_reverse.mp ?_)
        rw [← List.getElem?_take_of_lt hhigh, hsplit, List.getElem?_append_right hlow.le,
          ← Nat.sub_add_cancel (Nat.sub_pos_of_lt hlow), List.getElem?_cons_succ] at hk
        exact List.mem_of_getElem? hk
  · rw [hbefore]
    exact hopening
  · rw [hsplit]
    simp

theorem link_opening
    (context : ScanContext) (lines : List Text) (language rest : Text)
    (h : i ≤ lines.length) :
    ((stateAfter context (lines.take i)).opening context language rest).link.line = i + 1 := by
  have hline := line_stateAfter context (lines.take i)
  rw [List.length_take, Nat.min_eq_left h] at hline
  simp [ScanState.opening, hline]

/-- A block that has begun is being read as long as no line ends one. -/
theorem exists_opened_at
    {first : Nat} (context : ScanContext)
    (hi : i ≤ lines.length)
    (hbegins : BeginsAt lines first)
    (hlt : first < i)
    (hopen : ∀ k, first < k → k < i → isAt isBlockEnd lines k = false) :
    ∃ opening body, (stateAfter context (lines.take i)).opened = some (opening, body) ∧
      opening.link.line = first + 1 := by
  have hbody : regionAt lines i = .body := (regionAt_eq_body_iff hi).mpr ⟨first, hlt, hbegins, hopen⟩
  rw [regionAt, ← region_stateAfter context] at hbody
  cases hopened : (stateAfter context (lines.take i)).opened with
  | none =>
      cases hdrawer : (stateAfter context (lines.take i)).inDrawer <;>
        simp [ScanState.standing, hopened, hdrawer] at hbody
  | some opened =>
      obtain ⟨opening, body⟩ := opened
      refine ⟨opening, body, rfl, ?_⟩
      obtain ⟨first', language, rest, hlt', hbegins', -, hopen', rfl, -⟩ := exists_opening_at hopened
      have hfirst : first' = first :=
        Nat.le_antisymm (hbegins.le_of_unended hopen hbegins' hlt') (hbegins'.le_of_unended hopen' hbegins hlt)
      rw [← hfirst]
      exact link_opening context lines language rest (lt_length_of_isAt hbegins'.begins).le

/-- The blocks of a scan are those that are being read where a line ends a block. -/
theorem mem_blocks_iff_at :
    block ∈ (scanFrom context {} lines).blocks ↔
      ∃ last opening body, isAt isBlockEnd lines last = true ∧
        (stateAfter context (lines.take last)).opened = some (opening, body) ∧
        block = opening.close body.reverse := by
  rw [mem_blocks_iff]
  constructor
  · rintro ⟨before, line, rest, rfl, hread⟩
    obtain ⟨opening, body, hopened, hend, hblock⟩ := read_eq_some_iff.mp hread
    refine ⟨before.length, opening, body, ?_, ?_, hblock⟩
    · have hline : (before ++ line :: rest)[before.length]? = some line := by
        simp
      rw [isAt_of_getElem? _ hline, hend]
    · rw [List.take_left]
      exact hopened
  · rintro ⟨last, opening, body, hend, hopened, hblock⟩
    obtain ⟨line, hline, hend⟩ := exists_of_isAt hend
    obtain ⟨hlast, rfl⟩ := List.getElem?_eq_some_iff.mp hline
    refine ⟨lines.take last, lines[last], lines.drop (last + 1), ?_, ?_⟩
    · rw [← List.drop_eq_getElem_cons, List.take_append_drop]
    · exact read_eq_some_iff.mpr ⟨opening, body, hopened, hend, hblock⟩

/-- The block that is made of an extent. -/
structure Occupies (lines : List Text) (block : DocumentBlock) (extent : Extent) : Prop where
  /-- The block links to its first line. -/
  line : block.link.line = extent.first + 1
  /-- The line that ends it is the next one to do so. -/
  ends : EndsAt lines extent.first extent.last
  /-- Its language stands on the first line, and its body is made of all the lines in between. -/
  made : ∃ rest, lines[extent.first]?.bind blockBegin? = some (block.language, rest) ∧
    block.body = bodyOfLines ((Text.fields (Header.splitSwitches true rest).1).contains "-i")
      ((lines.take extent.last).drop (extent.first + 1))

theorem exists_occupies
    (h : block ∈ (scanFrom context {} lines).blocks) :
    ∃ extent, IsExtent lines extent ∧ Occupies lines block extent := by
  obtain ⟨last, opening, body, hend, hopened, rfl⟩ := mem_blocks_iff_at.mp h
  obtain ⟨first, language, rest, hlt, hbegins, hbegin, hinside, rfl, hbody⟩ := exists_opening_at hopened
  have hends : EndsAt lines first last := ⟨hlt, hend, hinside⟩
  refine ⟨⟨first, last⟩, ⟨hbegins, hends⟩, ?_, hends, rest, hbegin, ?_⟩
  · exact link_opening context lines language rest (lt_length_of_isAt hbegins.begins).le
  · rw [hbody]
    rfl

theorem exists_block
    {extent : Extent}
    (h : IsExtent lines extent) :
    ∃ block ∈ (scanFrom context {} lines).blocks, block.link.line = extent.first + 1 := by
  have hlength : extent.last ≤ lines.length := (lt_length_of_isAt h.ends.ends).le
  obtain ⟨opening, body, hopened, hline⟩ :=
    exists_opened_at context hlength h.begins h.ends.lt h.ends.inside
  exact ⟨opening.close body.reverse, mem_blocks_iff_at.mpr ⟨_, _, _, h.ends.ends, hopened, rfl⟩, hline⟩

/-- The lines that a block takes up are found from the line that it links to. -/
theorem extent_eq
    {first last : Nat}
    (hline : block.link.line = first + 1)
    (hends : EndsAt lines first last) :
    block.extent lines = ⟨first, last⟩ := by
  have hfirst : block.link.line.toNat - 1 = first := by
    omega
  obtain ⟨later, rfl⟩ : ∃ later, last = first + 1 + later :=
    ⟨last - (first + 1), (Nat.add_sub_cancel' hends.lt).symm⟩
  have hlater : (lines.drop (first + 1)).findIdx isBlockEnd = later := by
    have hlength : later < (lines.drop (first + 1)).length := by
      have := lt_length_of_isAt hends.ends
      rw [List.length_drop]
      omega
    rw [List.findIdx_eq hlength]
    constructor
    · have hend := hends.ends
      rw [isAt_of_getElem? _ (List.getElem?_eq_getElem (lt_length_of_isAt hend))] at hend
      rwa [List.getElem_drop]
    · intro k hk
      have hbefore := hends.inside (first + 1 + k) (by omega) (by omega)
      have hklength : first + 1 + k < lines.length :=
        (Nat.add_lt_add_left hk _).trans (lt_length_of_isAt hends.ends)
      rw [isAt_of_getElem? _ (List.getElem?_eq_getElem hklength)] at hbefore
      rwa [List.getElem_drop]
  rw [DocumentBlock.extent, hfirst, hlater]

theorem occupies_extent
    (h : block ∈ (scanFrom context {} lines).blocks) :
    IsExtent lines (block.extent lines) ∧ Occupies lines block (block.extent lines) := by
  obtain ⟨extent, hextent, hoccupies⟩ := exists_occupies h
  have heq : block.extent lines = extent := extent_eq hoccupies.line hoccupies.ends
  exact heq ▸ ⟨hextent, hoccupies⟩

/-- Blocks come in the order of their first lines. -/
theorem pairwise_line
    (context : ScanContext) (lines : List Text) :
    ((scanFrom context {} lines).blocks.map fun block => block.link.line).Pairwise (· < ·) := by
  induction lines using List.reverseRecOn with
  | nil =>
      exact List.Pairwise.nil
  | append_singleton lines line ih =>
      rw [blocks_concat, List.map_append, List.pairwise_append]
      refine ⟨ih, ?_, ?_⟩
      · cases ((stateAfter context lines).read context line).2 <;> simp
      · intro earlier hearlier later hlater
        obtain ⟨block, hblock, rfl⟩ := List.mem_map.mp hearlier
        obtain ⟨block', hblock', rfl⟩ := List.mem_map.mp hlater
        -- the later block is still being read after the lines that hold the earlier one
        obtain ⟨opening, body, hopened, -, rfl⟩ := read_eq_some_iff.mp (Option.mem_toList.mp hblock')
        rw [← lines.take_length] at hopened
        obtain ⟨first, language, rest, -, hbegins, -, hopen, rfl, -⟩ := exists_opening_at hopened
        obtain ⟨extent, hextent, hoccupies⟩ := exists_occupies hblock
        have hlt : extent.first < first :=
          hbegins.lt_of_unended hopen hextent.begins hextent.ends (lt_length_of_isAt hextent.ends.ends)
        have hlink := link_opening context lines language rest (lt_length_of_isAt hbegins.begins).le
        change block.link.line <
          ((stateAfter context (lines.take first)).opening context language rest).link.line
        rw [hlink, hoccupies.line]
        omega

/-- A block has no end exactly when no line after its first one ends a block. -/
theorem unterminated_eq_some_iff
    {number : Int} :
    (scanFrom context {} lines).unterminated = some number ↔
      ∃ first : Nat, number = first + 1 ∧ BeginsAt lines first ∧
        ∀ k, first < k → isAt isBlockEnd lines k = false := by
  have hpast : ∀ {k}, lines.length ≤ k → isAt isBlockEnd lines k = false := by
    intro k hk
    rw [isAt, List.getElem?_eq_none hk]
    rfl
  rw [unterminated_scanFrom, Option.map_eq_some_iff]
  constructor
  · rintro ⟨⟨opening, body⟩, hopened, rfl⟩
    rw [← lines.take_length] at hopened
    obtain ⟨first, language, rest, -, hbegins, -, hopen, rfl, -⟩ := exists_opening_at hopened
    refine ⟨first, link_opening context lines language rest (lt_length_of_isAt hbegins.begins).le, hbegins, ?_⟩
    intro k hk
    rcases Nat.lt_or_ge k lines.length with hlt | hge
    · exact hopen k hk hlt
    · exact hpast hge
  · rintro ⟨first, rfl, hbegins, hopen⟩
    obtain ⟨opening, body, hopened, hline⟩ := exists_opened_at context (le_refl lines.length) hbegins
      (lt_length_of_isAt hbegins.begins) fun k hk _ => hopen k hk
    rw [lines.take_length] at hopened
    exact ⟨(opening, body), hopened, hline⟩

end Blocks

/-- A line stands in the body of a block. -/
def IsInside (extents : List Extent) (i : Nat) : Prop :=
  ∃ extent ∈ extents, extent.first < i ∧ i < extent.last

/-- A line outside of bodies opens a property drawer below a heading. -/
structure OpensDrawer (lines : List Text) (extents : List Extent) (i : Nat) : Prop where
  /-- It looks like the start of a drawer. -/
  opens : isAt isDrawerOpen lines i = true
  /-- It does not stand in a body. -/
  outside : ¬ IsInside extents i
  /-- An earlier line outside of bodies is a heading. -/
  headed : ∃ h < i, isAt isHeading lines h = true ∧ ¬ IsInside extents h

/-- A line comes after one that opens a drawer, and lines between them that close drawers stand in bodies. -/
def InDrawer (lines : List Text) (extents : List Extent) (i : Nat) : Prop :=
  ∃ j < i, OpensDrawer lines extents j ∧
    ∀ k, j < k → k < i → isAt isDrawerClose lines k = true → IsInside extents k

/-- A line outside of bodies and drawers begins a block that has no end. -/
structure IsUnfinished (lines : List Text) (extents : List Extent) (i : Nat) : Prop where
  /-- It looks like the first line of a block. -/
  begins : isAt isBlockBegin lines i = true
  /-- It does not stand in a body. -/
  not_inside : ¬ IsInside extents i
  /-- It does not stand in a drawer. -/
  not_inDrawer : ¬ InDrawer lines extents i
  /-- No later line ends a block. -/
  unended : ∀ k, i < k → isAt isBlockEnd lines k = false

/-- Every block that begins before a line has an end, before or after the line. -/
def IsSettled (lines : List Text) (i : Nat) : Prop :=
  ∀ first < i, BeginsAt lines first → ∃ k, first < k ∧ isAt isBlockEnd lines k = true

section Settled

variable {lines : List Text} {extents : List Extent} {i j : Nat}

theorem IsSettled.of_le
    (h : IsSettled lines i)
    (hle : j ≤ i) :
    IsSettled lines j :=
  fun first hfirst => h first (hfirst.trans_le hle)

theorem BeginsAt.isSettled
    (h : BeginsAt lines i) :
    IsSettled lines i := by
  intro first hlt hbegins
  obtain ⟨k, hlow, -, hk⟩ := hbegins.exists_end_between h hlt
  exact ⟨k, hlow, hk⟩

/-- A line of a kind that ends of blocks are not of ends no block. -/
theorem not_end_of_isAt
    {kind : Text → Bool}
    (hkind : ∀ {line}, isBlockEnd line = true → kind line = false)
    (h : isAt kind lines i = true) :
    isAt isBlockEnd lines i = false := by
  obtain ⟨line, hline, hline_kind⟩ := exists_of_isAt h
  rw [isAt_of_getElem? _ hline, Bool.eq_false_iff]
  intro hend
  rw [hkind hend] at hline_kind
  cases hline_kind

variable (hextents : ∀ extent, extent ∈ extents ↔ IsExtent lines extent)
include hextents

/-- As far as every block has an end, lines stand in bodies or end them exactly behind the first lines of
extents. -/
theorem regionAt_eq_body_iff_exists_extent
    (hi : i ≤ lines.length)
    (hsettled : IsSettled lines i) :
    regionAt lines i = .body ↔ ∃ extent ∈ extents, extent.first < i ∧ i ≤ extent.last := by
  rw [regionAt_eq_body_iff hi]
  constructor
  · rintro ⟨first, hlt, hbegins, hopen⟩
    obtain ⟨last, hends⟩ := exists_endsAt (hsettled first hlt hbegins)
    refine ⟨⟨first, last⟩, (hextents _).mpr ⟨hbegins, hends⟩, hlt, ?_⟩
    by_contra hbefore
    exact absurd hends.ends (Bool.eq_false_iff.mp (hopen last hends.lt (Nat.lt_of_not_le hbefore)))
  · rintro ⟨extent, hmem, hfirst, hlast⟩
    have hextent := (hextents extent).mp hmem
    exact ⟨extent.first, hfirst, hextent.begins,
      fun k hlow hhigh => hextent.ends.inside k hlow (hhigh.trans_le hlast)⟩

theorem regionAt_eq_body_iff_isInside
    (hi : i ≤ lines.length)
    (hsettled : IsSettled lines i)
    (hend : isAt isBlockEnd lines i = false) :
    regionAt lines i = .body ↔ IsInside extents i := by
  rw [regionAt_eq_body_iff_exists_extent hextents hi hsettled]
  refine exists_congr fun extent => and_congr_right fun hmem => and_congr_right fun _ => ?_
  have hlast : i ≠ extent.last := by
    rintro rfl
    exact absurd ((hextents extent).mp hmem).ends.ends (Bool.eq_false_iff.mp hend)
  omega

theorem headedAt_iff_exists_heading
    (hi : i ≤ lines.length)
    (hsettled : IsSettled lines i) :
    headedAt lines i = true ↔ ∃ h < i, isAt isHeading lines h = true ∧ ¬ IsInside extents h := by
  rw [headedAt_iff hi]
  refine exists_congr fun h => and_congr_right fun hlt => ?_
  rw [and_comm]
  refine and_congr_right fun hheading => not_congr ?_
  exact regionAt_eq_body_iff_isInside hextents (hlt.le.trans hi) (hsettled.of_le hlt.le)
    (not_end_of_isAt (fun hend => (isBlockEnd_exclusive hend).1) hheading)

theorem opensDrawer_iff
    (hi : i ≤ lines.length)
    (hsettled : IsSettled lines i) :
    regionAt lines i ≠ .body ∧ isAt isDrawerOpen lines i = true ∧ headedAt lines i = true ↔
      OpensDrawer lines extents i := by
  have hinside : isAt isDrawerOpen lines i = true → (regionAt lines i = .body ↔ IsInside extents i) :=
    fun hopen => regionAt_eq_body_iff_isInside hextents hi hsettled
      (not_end_of_isAt (fun hend => (isBlockEnd_exclusive hend).2.1) hopen)
  rw [headedAt_iff_exists_heading hextents hi hsettled]
  constructor
  · rintro ⟨hregion, hopen, hheaded⟩
    exact ⟨hopen, mt (hinside hopen).mpr hregion, hheaded⟩
  · rintro ⟨hopen, houtside, hheaded⟩
    exact ⟨mt (hinside hopen).mp houtside, hopen, hheaded⟩

/-- As far as every block has an end, the lines in drawers are those that extents show to be. -/
theorem regionAt_eq_drawer_iff_inDrawer
    (hi : i ≤ lines.length)
    (hsettled : IsSettled lines i) :
    regionAt lines i = .drawer ↔ InDrawer lines extents i := by
  rw [regionAt_eq_drawer_iff hi]
  refine exists_congr fun j => and_congr_right fun hlt => and_congr ?_ ?_
  · exact opensDrawer_iff hextents (hlt.le.trans hi) (hsettled.of_le hlt.le)
  · refine forall_congr' fun k => forall_congr' fun _ => forall_congr' fun hk => forall_congr' fun hclose => ?_
    exact regionAt_eq_body_iff_isInside hextents (hk.le.trans hi) (hsettled.of_le hk.le)
      (not_end_of_isAt (fun hend => (isBlockEnd_exclusive hend).2.2.1) hclose)

/-- A line that looks like the beginning of a block is one where bodies and drawers are left out. -/
theorem beginsAt_iff
    (hsettled : IsSettled lines i)
    (hbegin : isAt isBlockBegin lines i = true) :
    BeginsAt lines i ↔ ¬ IsInside extents i ∧ ¬ InDrawer lines extents i := by
  have hi : i ≤ lines.length := (lt_length_of_isAt hbegin).le
  have hend := not_end_of_isAt (fun hend => (isBlockEnd_exclusive hend).2.2.2.2) hbegin
  rw [← regionAt_eq_body_iff_isInside hextents hi hsettled hend,
    ← regionAt_eq_drawer_iff_inDrawer hextents hi hsettled]
  constructor
  · intro h
    simp [h.outside]
  · rintro ⟨hbody, hdrawer⟩
    refine ⟨?_, hbegin⟩
    cases hregion : regionAt lines i with
    | outside =>
        rfl
    | drawer =>
        exact absurd hregion hdrawer
    | body =>
        exact absurd hregion hbody

theorem BeginsAt.isUnfinished
    (h : BeginsAt lines i)
    (hunended : ∀ k, i < k → isAt isBlockEnd lines k = false) :
    IsUnfinished lines extents i := by
  obtain ⟨hinside, hdrawer⟩ := (beginsAt_iff hextents h.isSettled h.begins).mp h
  exact ⟨h.begins, hinside, hdrawer, hunended⟩

/-- A block that has no end begins on an unfinished line or before it. -/
theorem IsUnfinished.exists_beginsAt
    (h : IsUnfinished lines extents i) :
    ∃ first ≤ i, BeginsAt lines first ∧ ∀ k, first < k → isAt isBlockEnd lines k = false := by
  by_cases hsettled : IsSettled lines i
  · have hbegins : BeginsAt lines i :=
      (beginsAt_iff hextents hsettled h.begins).mpr ⟨h.not_inside, h.not_inDrawer⟩
    exact ⟨i, le_rfl, hbegins, h.unended⟩
  · simp only [IsSettled, not_forall, not_exists, not_and] at hsettled
    obtain ⟨first, hlt, hbegins, hunended⟩ := hsettled
    exact ⟨first, hlt.le, hbegins, fun k hk => Bool.eq_false_iff.mpr (hunended k hk)⟩

/-- Every line that looks like the beginning of a block is accounted for. -/
theorem begin_cases
    (hbegin : isAt isBlockBegin lines i = true) :
    (∃ extent ∈ extents, extent.first = i) ∨ IsInside extents i ∨ InDrawer lines extents i ∨
      IsUnfinished lines extents i := by
  by_cases hinside : IsInside extents i
  · exact Or.inr (Or.inl hinside)
  by_cases hdrawer : InDrawer lines extents i
  · exact Or.inr (Or.inr (Or.inl hdrawer))
  by_cases hended : ∃ k, i < k ∧ isAt isBlockEnd lines k = true
  · -- the line that ends a block after this one also comes after every earlier beginning
    have hsettled : IsSettled lines i := by
      intro first hlt _
      obtain ⟨k, hik, hk⟩ := hended
      exact ⟨k, hlt.trans hik, hk⟩
    have hbegins := (beginsAt_iff hextents hsettled hbegin).mpr ⟨hinside, hdrawer⟩
    obtain ⟨last, hends⟩ := exists_endsAt hended
    exact Or.inl ⟨⟨i, last⟩, (hextents _).mpr ⟨hbegins, hends⟩, rfl⟩
  · refine Or.inr (Or.inr (Or.inr ⟨hbegin, hinside, hdrawer, fun k hk => ?_⟩))
    exact Bool.eq_false_iff.mpr fun hend => hended ⟨k, hk, hend⟩

end Settled

section Documents

variable {document : Document}

/-- A pair of lines is an extent of a document when a block begins on the first and the second is the next
to end a block. -/
theorem mem_extents_iff
    (extent : Extent) :
    extent ∈ document.extents ↔ IsExtent (Text.lines document.text) extent := by
  constructor
  · intro h
    obtain ⟨block, hblock, rfl⟩ := List.mem_map.mp h
    exact (occupies_extent hblock).1
  · intro h
    obtain ⟨block, hblock, hline⟩ := exists_block h
    exact List.mem_map.mpr ⟨block, hblock, extent_eq hline h.ends⟩

/-- Every block begins after the end of the one before it. -/
theorem pairwise_extents
    (document : Document) :
    document.extents.Pairwise fun extent later => extent.last < later.first := by
  refine List.pairwise_map.mpr ((List.pairwise_map.mp (pairwise_line _ _)).imp_of_mem ?_)
  intro block later hblock hlater hline
  obtain ⟨hextent, hoccupies⟩ := occupies_extent hblock
  obtain ⟨hextent', hoccupies'⟩ := occupies_extent hlater
  rw [hoccupies.line, hoccupies'.line] at hline
  exact hextent.last_lt hextent'.begins (by omega)

theorem mem_scanError_iff
    {error : DocumentError} :
    document.scanError = some error ↔
      ∃ first : Nat, error = .unterminated document.path (first + 1) ∧
        BeginsAt (Text.lines document.text) first ∧
        ∀ k, first < k → isAt isBlockEnd (Text.lines document.text) k = false := by
  rw [scanError, Option.map_eq_some_iff]
  constructor
  · rintro ⟨number, hnumber, rfl⟩
    obtain ⟨first, rfl, hbegins⟩ := unterminated_eq_some_iff.mp hnumber
    exact ⟨first, rfl, hbegins⟩
  · rintro ⟨first, rfl, hbegins⟩
    exact ⟨first + 1, unterminated_eq_some_iff.mpr ⟨first, rfl, hbegins⟩, rfl⟩

/-- **Accounting for lines.**  The blocks of a document come in the order of their first lines.  Each takes up
the lines from its first line to the next that ends a block, and the next block begins after them.  A line
that looks like the first line of a block is one, or stands in a body or in a drawer, or has no end.  The
first that has none is the error of the document, and comes after all of its blocks. -/
theorem scanned_accounts_for_lines
    (document : Document) :
    let lines := Text.lines document.text
    (document.scanned.blocks.map fun block => block.link.line).Pairwise (· < ·) ∧
      (∀ block ∈ document.scanned.blocks, Occupies lines block (block.extent lines)) ∧
      document.extents.Pairwise (fun extent later => extent.last < later.first) ∧
      (∀ i, isAt isBlockBegin lines i = true →
        (∃ extent ∈ document.extents, extent.first = i) ∨ IsInside document.extents i ∨
          InDrawer lines document.extents i ∨ IsUnfinished lines document.extents i) ∧
      (∀ extent ∈ document.extents,
        ¬ IsInside document.extents extent.first ∧ ¬ InDrawer lines document.extents extent.first) ∧
      (document.scanError.isSome = true ↔ ∃ i, IsUnfinished lines document.extents i) ∧
      ∀ error ∈ document.scanError, ∃ first : Nat,
        error = .unterminated document.path (first + 1) ∧
        IsUnfinished lines document.extents first ∧
        (∀ i, IsUnfinished lines document.extents i → first ≤ i) ∧
        ∀ extent ∈ document.extents, extent.last < first := by
  intro lines
  refine ⟨pairwise_line _ _, fun block hblock => (occupies_extent hblock).2, pairwise_extents document,
    fun i => begin_cases mem_extents_iff, ?_, ?_, ?_⟩
  · intro extent hmem
    have hbegins := ((mem_extents_iff extent).mp hmem).begins
    exact (beginsAt_iff mem_extents_iff hbegins.isSettled hbegins.begins).mp hbegins
  · rw [Option.isSome_iff_exists]
    constructor
    · rintro ⟨error, herror⟩
      obtain ⟨first, -, hbegins, hunended⟩ := mem_scanError_iff.mp herror
      exact ⟨first, hbegins.isUnfinished mem_extents_iff hunended⟩
    · rintro ⟨i, hi⟩
      obtain ⟨first, -, hbegins, hunended⟩ := hi.exists_beginsAt mem_extents_iff
      exact ⟨_, mem_scanError_iff.mpr ⟨first, rfl, hbegins, hunended⟩⟩
  · intro error herror
    obtain ⟨first, rfl, hbegins, hunended⟩ := mem_scanError_iff.mp herror
    refine ⟨first, rfl, hbegins.isUnfinished mem_extents_iff hunended, ?_, ?_⟩
    · intro i hi
      obtain ⟨first', hle, hbegins', hunended'⟩ := hi.exists_beginsAt mem_extents_iff
      have hfirst : first ≤ first' :=
        hbegins'.le_of_unended (fun k hk _ => hunended' k hk) hbegins (Nat.lt_succ_self first)
      exact hfirst.trans hle
    · intro extent hmem
      have hextent := (mem_extents_iff extent).mp hmem
      have hlt : extent.first < first :=
        hbegins.lt_of_unended (fun k hk _ => hunended k hk) hextent.begins hextent.ends (Nat.lt_succ_self _)
      exact hextent.last_lt hbegins hlt

/-- Lines that look like the first line of a block in a drawer, in a body and behind the last end. -/
theorem scanned_accounts_for_lines_lookalikes :
    let document : Document :=
      { text :=
          "* H\n:PROPERTIES:\n#+begin_src a\n:END:\n#+begin_src b\n:PROPERTIES:\n#+begin_src c\n#+end_src\n" ++
            "#+begin_src d\n#+begin_src e\n" }
    let lines := Text.lines document.text
    document.extents = [⟨4, 7⟩] ∧ document.scanError = some (.unterminated none 9) ∧
      InDrawer lines document.extents 2 ∧ IsUnfinished lines document.extents 8 := by
  intro document lines
  have hextents : document.extents = [⟨4, 7⟩] := by
    decide +kernel
  have herror : document.scanError = some (.unterminated none 9) := by
    decide +kernel
  obtain ⟨-, -, -, hcases, -, -, herrors⟩ := scanned_accounts_for_lines document
  refine ⟨hextents, herror, ?_, ?_⟩
  · rcases hcases 2 (by decide +kernel) with ⟨extent, hmem, hfirst⟩ | hinside | hdrawer | hunfinished
    · simp [hextents] at hmem
      simp [hmem] at hfirst
    · simp [IsInside, hextents] at hinside
    · exact hdrawer
    · have hend : isAt isBlockEnd lines 7 = true := by
        decide +kernel
      rw [hunfinished.unended 7 (by decide)] at hend
      cases hend
  · obtain ⟨first, hfirst, hunfinished, -⟩ := herrors _ herror
    injection hfirst with _ hline
    obtain rfl : first = 8 := by
      omega
    exact hunfinished

end Documents

end Document
end Literate
