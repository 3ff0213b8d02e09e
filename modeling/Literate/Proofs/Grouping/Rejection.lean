import Literate.Proofs.Grouping

/-!
# Blocks that a grouping leaves out

A block that is malformed, excluded or in conflict with the owner of its path
leaves no trace in a grouping: the first block that claims a path is always
accepted, so that every owner is the language of an accepted block.

**Dropping.**  Blocks are dropped from a list when the rest is a part of it, in
order, that still has all accepted blocks, each as often as before.

**Main statements.**
* `Placement.owner?_of_sublist`: dropping rejected blocks changes no owner.
* `ofBlocks_of_sublist`: dropping rejected blocks changes neither the buckets nor
  what is said against the rejected blocks that are left.
* `ofBlocks_ignores_rejected`: the accepted blocks alone are grouped in the same
  way, and so are all blocks but a rejected one.
-/

namespace Literate

namespace Placement

variable {placement : Placement} {blocks kept : List RenderedBlock}

/-- Whether a block is accepted among others. -/
def accepts (placement : Placement) (blocks : List RenderedBlock) (block : RenderedBlock) : Bool :=
  (placement.accepted? blocks block).isSome

/-- The first block that claims a path is accepted. -/
theorem accepts_of_claimants
    {p : Path} {first : RenderedBlock} {rest : List RenderedBlock}
    (h : placement.claimants p blocks = first :: rest) :
    placement.accepts blocks first = true := by
  have hclaims : first ∈ placement.claimants p blocks := by
    simp [h]
  have hp : placement.destination first = .file p :=
    of_decide_eq_true (List.mem_filter.mp hclaims).2
  have howner : placement.owner? p blocks = some first.language := by
    simp [owner?, h]
  simp [accepts, accepted?, hp, howner]

theorem filter_claimants
    (placement : Placement) (p : Path) (blocks : List RenderedBlock) (keeps : RenderedBlock → Bool) :
    (placement.claimants p blocks).filter keeps = placement.claimants p (blocks.filter keeps) :=
  List.filter_comm _ _ blocks

/-- Dropping rejected blocks changes no owner. -/
theorem owner?_of_sublist
    (p : Path)
    (hsublist : kept.Sublist blocks)
    (hkept : kept.filter (placement.accepts blocks) = blocks.filter (placement.accepts blocks)) :
    placement.owner? p kept = placement.owner? p blocks := by
  have hclaimants : (placement.claimants p kept).Sublist (placement.claimants p blocks) :=
    hsublist.filter _
  unfold owner?
  cases hblocks : placement.claimants p blocks with
  | nil =>
      rw [hblocks, List.sublist_nil] at hclaimants
      rw [hclaimants]
  | cons first rest =>
      have haccepts : placement.accepts blocks first = true := accepts_of_claimants hblocks
      have hsame : (placement.claimants p kept).filter (placement.accepts blocks) =
          first :: rest.filter (placement.accepts blocks) := by
        rw [filter_claimants, hkept, ← filter_claimants, hblocks, List.filter_cons_of_pos haccepts]
      rw [hblocks, List.sublist_cons_iff] at hclaimants
      rcases hclaimants with hrest | ⟨others, hothers, -⟩
      · -- an accepted block would be missing behind the first claimant
        have hlength := (hrest.filter (placement.accepts blocks)).length_le
        rw [hsame, List.length_cons] at hlength
        omega
      · rw [hothers]
        rfl

/-- The judgement of a block depends on the other blocks through the owners only. -/
theorem accepted?_congr
    (howner : ∀ p, placement.owner? p kept = placement.owner? p blocks) :
    placement.accepted? kept = placement.accepted? blocks := by
  funext block
  unfold accepted?
  split
  · rw [howner]
  · rfl

theorem objection?_congr
    (howner : ∀ p, placement.owner? p kept = placement.owner? p blocks) :
    placement.objection? kept = placement.objection? blocks := by
  funext block
  unfold objection?
  split
  · rfl
  · rw [howner]
  · rfl

theorem filterMap_accepted?
    (placement : Placement) (blocks others : List RenderedBlock) :
    others.filterMap (placement.accepted? blocks) =
      (others.filter (placement.accepts blocks)).filterMap (placement.accepted? blocks) := by
  rw [List.filterMap_filter]
  refine List.filterMap_congr fun block _ => ?_
  unfold accepts
  cases placement.accepted? blocks block <;> rfl

/-- Nothing is said against an accepted block. -/
theorem objection?_of_accepts
    {block : RenderedBlock}
    (h : placement.accepts blocks block = true) :
    placement.objection? blocks block = none := by
  obtain ⟨target, htarget⟩ := Option.isSome_iff_exists.mp h
  obtain ⟨hp, -, howner⟩ := accepted?_eq_some htarget
  simp [objection?, hp, howner]

end Placement

namespace Grouping

variable {placement : Placement} {blocks kept : List RenderedBlock} {grouping : Grouping}

/-- Whether a block is present in a bucket. -/
def holds (grouping : Grouping) (block : RenderedBlock) : Bool :=
  (grouping.targets.map Target.block).contains block

/-- A block is present in a bucket exactly if it is accepted. -/
theorem holds_eq_accepts
    {block : RenderedBlock}
    (h : Describes placement blocks grouping)
    (hblock : block ∈ blocks) :
    grouping.holds block = placement.accepts blocks block := by
  rw [Bool.eq_iff_iff, holds, List.contains_iff_mem, List.mem_map]
  constructor
  · rintro ⟨target, htarget, rfl⟩
    obtain ⟨block, -, haccepted⟩ := List.mem_filterMap.mp ((targets_perm h).mem_iff.mp htarget)
    rw [(Placement.accepted?_eq_some haccepted).2.1, Placement.accepts, haccepted]
    rfl
  · intro haccepts
    obtain ⟨target, haccepted⟩ := Option.isSome_iff_exists.mp haccepts
    refine ⟨target, (targets_perm h).mem_iff.mpr ?_, (Placement.accepted?_eq_some haccepted).2.1⟩
    exact List.mem_filterMap.mpr ⟨block, hblock, haccepted⟩

/-- Grouping comes to its end where no home directory is unknown. -/
theorem exists_ofBlocks
    (grouping : Grouping)
    (h : ∀ block ∈ blocks, ∀ cause, placement.destination block ≠ .homeless cause) :
    ∃ next, ofBlocks placement grouping blocks = (next, none) := by
  induction blocks generalizing grouping with
  | nil =>
      exact ⟨grouping, rfl⟩
  | cons block blocks ih =>
      rw [ofBlocks]
      cases hadd : grouping.add placement block with
      | ok next =>
          exact ih next fun other hother => h other (List.mem_cons_of_mem block hother)
      | error cause =>
          exfalso
          unfold add at hadd
          split at hadd
          · rename_i other hhomeless
            exact h block List.mem_cons_self other hhomeless
          · cases hadd
          · cases hadd
          · split at hadd
            · split at hadd <;> cases hadd
            · cases hadd

/-- Dropping rejected blocks changes neither the buckets nor the owners, nor what is said against the rejected
blocks that are left. -/
theorem ofBlocks_of_sublist
    (hrun : ofBlocks placement {} blocks = (grouping, none))
    (hsublist : kept.Sublist blocks)
    (hkept : kept.filter (placement.accepts blocks) = blocks.filter (placement.accepts blocks)) :
    ∃ again, ofBlocks placement {} kept = (again, none) ∧
      again.buckets = grouping.buckets ∧
      (∀ p, again.owners.get? p = grouping.owners.get? p) ∧
      again.errors = kept.filterMap (placement.objection? blocks) := by
  have hhome := destination_ne_homeless (congrArg Prod.snd hrun)
  obtain ⟨again, hagain⟩ := exists_ofBlocks {} fun block hblock => hhome block (hsublist.subset hblock)
  have h : Describes placement blocks grouping :=
    ofBlocks_describes (describes_empty placement) hrun
  have h' : Describes placement kept again :=
    ofBlocks_describes (describes_empty placement) hagain
  have howner : ∀ p, placement.owner? p kept = placement.owner? p blocks :=
    fun p => Placement.owner?_of_sublist p hsublist hkept
  refine ⟨again, hagain, ?_, ?_, ?_⟩
  · have haccepted : placement.accepted kept = placement.accepted blocks := by
      unfold Placement.accepted
      rw [Placement.accepted?_congr howner, Placement.filterMap_accepted?, hkept,
        ← Placement.filterMap_accepted?]
    rw [h'.buckets, h.buckets, haccepted]
  · intro p
    rw [h'.owners, h.owners, howner]
  · rw [h'.errors, Placement.objections, Placement.objection?_congr howner]

/-- **Rejected blocks leave no trace.**  The blocks that are present in a bucket, grouped alone and in order, give
the same buckets in the same order, and no errors.  All blocks but one that is in no bucket give the same
buckets and the same owners, and the same errors but for its own. -/
theorem ofBlocks_ignores_rejected
    (placement : Placement) (blocks : List RenderedBlock) (grouping : Grouping)
    (hrun : ofBlocks placement {} blocks = (grouping, none)) :
    (∃ again, ofBlocks placement {} (blocks.filter grouping.holds) = (again, none) ∧
        again.buckets = grouping.buckets ∧ again.errors = []) ∧
      ∀ before block after, blocks = before ++ block :: after → grouping.holds block = false →
        ∃ again, ofBlocks placement {} (before ++ after) = (again, none) ∧
          again.buckets = grouping.buckets ∧
          (∀ p, again.owners.get? p = grouping.owners.get? p) ∧
          ∃ earlier later,
            again.errors = earlier ++ later ∧
            grouping.errors = earlier ++ (placement.objection? blocks block).toList ++ later := by
  have h : Describes placement blocks grouping :=
    ofBlocks_describes (describes_empty placement) hrun
  constructor
  · have hholds : blocks.filter grouping.holds = blocks.filter (placement.accepts blocks) :=
      List.filter_congr fun block hblock => holds_eq_accepts h hblock
    obtain ⟨again, hagain, hbuckets, -, herrors⟩ :=
      ofBlocks_of_sublist hrun List.filter_sublist (List.filter_eq_self.mpr fun _ hblock =>
        (List.mem_filter.mp hblock).2)
    refine ⟨again, hholds ▸ hagain, hbuckets, herrors.trans ?_⟩
    rw [List.filterMap_eq_nil_iff]
    intro block hblock
    exact Placement.objection?_of_accepts (List.mem_filter.mp hblock).2
  · rintro before block after rfl hrejected
    rw [holds_eq_accepts h (by simp)] at hrejected
    have hsublist : (before ++ after).Sublist (before ++ block :: after) :=
      (List.sublist_cons_self block after).append_left before
    obtain ⟨again, hagain, hbuckets, howners, herrors⟩ :=
      ofBlocks_of_sublist hrun hsublist (by simp [hrejected])
    refine ⟨again, hagain, hbuckets, howners, _, _, herrors.trans List.filterMap_append, ?_⟩
    rw [h.errors, Placement.objections, List.filterMap_append, List.append_assoc]
    cases hobjection : placement.objection? (before ++ block :: after) block <;> simp [hobjection]

/-- A block in conflict, a malformed one and an excluded one stand between two blocks that are accepted.  The one
in conflict is the first of its language. -/
theorem ofBlocks_ignores_rejected_every_kind :
    let directory : Path := ⟨.root, ["d"]⟩
    let placement : Placement :=
      { surroundings := { directory := directory, home := directory }, baseName := "n", directory := directory }
    let block (name language tangle : Text) : RenderedBlock :=
      ⟨{ language := language, name := name, params := ⟨[("tangle", tangle)]⟩, body := [], link := {} }, []⟩
    let conflict := block "b" "sh" "z/../x"
    let others := [block "c" "sh" "build/", block "d" "sh" "no", block "e" "sh" "y"]
    let blocks := block "a" "python" "x" :: conflict :: others
    ∃ grouping alone without,
      ofBlocks placement {} blocks = (grouping, none) ∧
      grouping.errors.length = 2 ∧
      ofBlocks placement {} [block "a" "python" "x", block "e" "sh" "y"] = (alone, none) ∧
      alone.buckets = grouping.buckets ∧ alone.errors = [] ∧
      ofBlocks placement {} (block "a" "python" "x" :: others) = (without, none) ∧
      without.buckets = grouping.buckets := by
  intro directory placement block conflict others blocks
  have hnone : (ofBlocks placement {} blocks).2 = none := by
    decide +kernel
  have hkept : blocks.filter (ofBlocks placement {} blocks).1.holds =
      [block "a" "python" "x", block "e" "sh" "y"] := by
    decide +kernel
  have hconflict : (ofBlocks placement {} blocks).1.holds conflict = false := by
    decide +kernel
  have herrors : (ofBlocks placement {} blocks).1.errors.length = 2 := by
    decide +kernel
  generalize hrun : ofBlocks placement {} blocks = outcome at hnone hkept hconflict herrors
  obtain ⟨grouping, stop⟩ := outcome
  obtain rfl : stop = none := hnone
  obtain ⟨⟨alone, halone, hbuckets, hempty⟩, hdrop⟩ :=
    ofBlocks_ignores_rejected placement blocks grouping hrun
  obtain ⟨without, hwithout, hbuckets', -⟩ :=
    hdrop [block "a" "python" "x"] conflict others rfl hconflict
  rw [hkept] at halone
  exact ⟨grouping, alone, without, rfl, herrors, halone, hbuckets, hempty, hwithout, hbuckets'⟩

end Grouping
end Literate
