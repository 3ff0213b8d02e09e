import Literate.Destination
import Literate.Proofs.Dictionary
import Mathlib.Data.List.Induction
import Mathlib.Data.List.Nodup

/-!
# The order of blocks in a grouping

Blocks are written language by language, not in the order of the document.  This
never reorders a file: the language of the first block that reaches a file owns
it, so that all blocks of a file stand in one bucket, in document order.

**Closed form.**  A block is judged by its own destination and by the owner of
its path among all blocks (`accepted?`, `objection?`).  The buckets of a grouping
are the accepted blocks by language, and its errors are the objections, in
document order (`Grouping.Describes`).  Both grow at the end only, because a
path that has an owner keeps it.

**Main statements.**
* `Describes.add`, `ofBlocks_describes`: one more block and a whole run keep the
  closed form.
* `targets_perm`: the targets of a grouping are the accepted blocks.
* `ofBlocks_keeps_order`: what the buckets and the errors hold for every path.
-/

namespace Literate

namespace Dictionary

section Keys

variable {κ : Type} [BEq κ] [LawfulBEq κ]

theorem eraseDups_concat
    (keys : List κ) (k : κ) :
    (keys ++ [k]).eraseDups = if k ∈ keys then keys.eraseDups else keys.eraseDups ++ [k] := by
  rw [List.eraseDups_append]
  by_cases hk : k ∈ keys
  · simp [List.removeAll, hk]
  · simp [List.removeAll, hk, List.eraseDups_cons]

theorem nodup_eraseDups
    (keys : List κ) :
    keys.eraseDups.Nodup := by
  induction keys using List.reverseRecOn with
  | nil =>
      simp
  | append_singleton keys k ih =>
      rw [eraseDups_concat]
      split
      · exact ih
      · rename_i hk
        rw [List.nodup_append]
        refine ⟨ih, List.nodup_singleton k, ?_⟩
        intro other hother last hlast
        rw [List.mem_singleton] at hlast
        rintro rfl
        exact hk (hlast ▸ List.mem_eraseDups.mp hother)

end Keys

section Buckets

variable {κ ν : Type} [DecidableEq κ]

theorem lookup_map
    (f : κ → ν) (k : κ) (keys : List κ) :
    lookup k (keys.map fun other => (other, f other)) = if k ∈ keys then some (f k) else none := by
  induction keys with
  | nil =>
      rfl
  | cons first rest ih =>
      by_cases hfirst : first = k
      · simp [lookup, hfirst]
      · simp [lookup, hfirst, ih, Ne.symm hfirst]

theorem put_map_of_mem
    {f g : κ → ν} {k : κ} {keys : List κ}
    (hnodup : keys.Nodup)
    (hk : k ∈ keys)
    (hothers : ∀ other, other ≠ k → g other = f other) :
    put k (g k) (keys.map fun other => (other, f other)) = keys.map fun other => (other, g other) := by
  induction keys with
  | nil =>
      cases hk
  | cons first rest ih =>
      rw [List.nodup_cons] at hnodup
      by_cases hfirst : first = k
      · subst hfirst
        have hrest : rest.map (fun other => (other, f other)) = rest.map fun other => (other, g other) := by
          refine List.map_congr_left fun other hother => ?_
          rw [hothers other fun heq => hnodup.1 (heq ▸ hother)]
        simp [put, hrest]
      · have hmem : k ∈ rest := (List.mem_cons.mp hk).resolve_left (Ne.symm hfirst)
        simp [put, hfirst, ih hnodup.2 hmem, hothers first hfirst]

/-- Elements of one key are found together, in order, when the buckets are walked through. -/
theorem flatMap_filter_key
    {key : ν → κ} {k : κ} {elements : List ν} {keys : List κ}
    (hnodup : keys.Nodup)
    (hkey : ∀ x ∈ elements, key x = k ∧ k ∈ keys) :
    (keys.flatMap fun other => elements.filter fun x => key x = other) = elements := by
  have hempty : ∀ other, other ≠ k → elements.filter (fun x => key x = other) = [] := by
    intro other hother
    rw [List.filter_eq_nil_iff]
    intro x hx hsame
    exact hother ((of_decide_eq_true hsame).symm.trans (hkey x hx).1)
  have hfull : elements.filter (fun x => key x = k) = elements := by
    rw [List.filter_eq_self]
    exact fun x hx => decide_eq_true (hkey x hx).1
  cases elements with
  | nil =>
      simp
  | cons x rest =>
      obtain ⟨before, after, rfl⟩ := List.append_of_mem (hkey x (by simp)).2
      have hbefore : ∀ other ∈ before, other ≠ k := by
        rintro other hother rfl
        exact (List.nodup_append.mp hnodup).2.2 other hother other (by simp) rfl
      have hafter : ∀ other ∈ after, other ≠ k := by
        rintro other hother rfl
        exact (List.nodup_cons.mp (List.nodup_append.mp hnodup).2.1).1 hother
      rw [List.flatMap_append, List.flatMap_cons, hfull,
        List.flatMap_eq_nil_iff.mpr fun other hother => hempty other (hbefore other hother),
        List.flatMap_eq_nil_iff.mpr fun other hother => hempty other (hafter other hother)]
      simp

/-- Elements by key: the keys in order of their first elements, the elements of each key in order. -/
def bucketed [BEq κ] (key : ν → κ) (elements : List ν) : Dictionary κ (List ν) :=
  ⟨(elements.map key).eraseDups.map fun k => (k, elements.filter fun x => key x = k)⟩

theorem keys_bucketed
    [BEq κ] (key : ν → κ) (elements : List ν) :
    (bucketed key elements).keys = (elements.map key).eraseDups := by
  rw [keys, bucketed, List.map_map, Function.comp_def, List.map_id']

/-- Adding an element to the bucket of its key. -/
theorem insert_bucketed
    [BEq κ] [LawfulBEq κ] (key : ν → κ) (elements : List ν) (x : ν) :
    (bucketed key elements).insert (key x) (((bucketed key elements).get? (key x)).getD [] ++ [x]) =
      bucketed key (elements ++ [x]) := by
  have hbucket :
      ((bucketed key elements).get? (key x)).getD [] = elements.filter fun y => key y = key x := by
    simp only [get?, bucketed, lookup_map, List.mem_eraseDups]
    split
    · rfl
    · rename_i hnew
      symm
      simp only [Option.getD_none, List.filter_eq_nil_iff, decide_eq_true_eq]
      intro y hy hkey
      exact hnew (hkey ▸ List.mem_map_of_mem hy)
  have hself :
      (elements ++ [x]).filter (fun y => key y = key x) =
        (elements.filter fun y => key y = key x) ++ [x] := by
    simp
  have hothers : ∀ k, k ≠ key x →
      (elements ++ [x]).filter (fun y => key y = k) = elements.filter fun y => key y = k := by
    intro k hk
    simp [Ne.symm hk]
  rw [hbucket, ← hself]
  by_cases hknown : key x ∈ elements.map key
  · have hput := put_map_of_mem (f := fun k => elements.filter fun y => key y = k)
      (g := fun k => (elements ++ [x]).filter fun y => key y = k)
      (nodup_eraseDups (elements.map key)) (List.mem_eraseDups.mpr hknown) hothers
    simp only [insert, bucketed, List.map_append, List.map_singleton, eraseDups_concat, if_pos hknown, hput]
  · have hnew : key x ∉ (bucketed key elements).keys := by
      rw [keys_bucketed, List.mem_eraseDups]
      exact hknown
    rw [insert_of_not_mem _ hnew]
    simp only [bucketed, List.map_append, List.map_singleton, eraseDups_concat, if_neg hknown, mk.injEq]
    congr 1
    refine List.map_congr_left fun k hk => ?_
    rw [hothers k fun heq => hknown (heq ▸ List.mem_eraseDups.mp hk)]

/-- Elements are sorted into the buckets of different keys, each into one. -/
theorem flatMap_filter_perm
    (key : ν → κ) {elements : List ν} {keys : List κ}
    (hnodup : keys.Nodup)
    (hkeys : ∀ x ∈ elements, key x ∈ keys) :
    (keys.flatMap fun k => elements.filter fun x => key x = k).Perm elements := by
  induction keys generalizing elements with
  | nil =>
      rw [List.eq_nil_iff_forall_not_mem.mpr fun x hx => List.not_mem_nil (hkeys x hx)]
      rfl
  | cons k keys ih =>
      rw [List.nodup_cons] at hnodup
      have hothers : ∀ x ∈ elements.filter (fun x => !decide (key x = k)), key x ∈ keys := by
        intro x hx
        obtain ⟨hmem, hother⟩ := List.mem_filter.mp hx
        exact (List.mem_cons.mp (hkeys x hmem)).resolve_left (by simpa using hother)
      have hsame : (keys.flatMap fun other =>
          (elements.filter fun x => !decide (key x = k)).filter fun x => key x = other) =
            keys.flatMap fun other => elements.filter fun x => key x = other := by
        refine List.flatMap_congr fun other hother => ?_
        rw [List.filter_filter]
        refine List.filter_congr fun x _ => ?_
        by_cases hkey : key x = other
        · have hne : other ≠ k := fun heq => hnodup.1 (heq ▸ hother)
          simp [hkey, hne]
        · simp [hkey]
      have hrest := ih hnodup.2 hothers
      rw [hsame] at hrest
      rw [List.flatMap_cons]
      exact (hrest.append_left _).trans (List.filter_append_perm _ elements)

/-- The buckets of elements hold the elements. -/
theorem bucketed_perm
    [BEq κ] [LawfulBEq κ] (key : ν → κ) (elements : List ν) :
    ((bucketed key elements).entries.flatMap Prod.snd).Perm elements := by
  rw [bucketed, List.flatMap_map]
  refine flatMap_filter_perm key (nodup_eraseDups _) ?_
  intro x hx
  exact List.mem_eraseDups.mpr (List.mem_map_of_mem hx)

end Buckets

end Dictionary

/-- Whether an error is about the owner of a path. -/
def PlacementError.concerns (p : Path) : PlacementError → Bool
  | malformed _ _ _ => false
  | ambiguous _ q _ _ => q = p

namespace Placement

variable (placement : Placement)

/-- The blocks whose destination is a path, in order. -/
def claimants (p : Path) (blocks : List RenderedBlock) : List RenderedBlock :=
  blocks.filter fun block => placement.destination block = .file p

/-- The owner of a path: the language of the first block whose destination it is. -/
def owner? (p : Path) (blocks : List RenderedBlock) : Option Text :=
  (placement.claimants p blocks).head?.map RenderedBlock.language

/-- The target that a block becomes among others: its language must own its path. -/
def accepted? (blocks : List RenderedBlock) (block : RenderedBlock) : Option Target :=
  match placement.destination block with
  | .file p => if placement.owner? p blocks = some block.language then some ⟨p, block⟩ else none
  | _ => none

/-- Why a block is rejected among others. -/
def objection? (blocks : List RenderedBlock) (block : RenderedBlock) : Option PlacementError :=
  match placement.destination block with
  | .rejected error => some error
  | .file p =>
      if placement.owner? p blocks = some block.language then none
      else some (.ambiguous block.name p ((placement.owner? p blocks).getD []) block.language)
  | _ => none

/-- The accepted blocks in order. -/
def accepted (blocks : List RenderedBlock) : List Target :=
  blocks.filterMap (placement.accepted? blocks)

/-- The reasons for rejected blocks in order. -/
def objections (blocks : List RenderedBlock) : List PlacementError :=
  blocks.filterMap (placement.objection? blocks)

variable {placement} {p : Path} {blocks : List RenderedBlock} {block : RenderedBlock}

theorem owner?_concat
    (placement : Placement) (p : Path) (blocks : List RenderedBlock) (block : RenderedBlock) :
    placement.owner? p (blocks ++ [block]) =
      (placement.owner? p blocks).or
        (if placement.destination block = .file p then some block.language else none) := by
  rw [owner?, claimants, List.filter_append, List.head?_append, Option.map_or]
  by_cases hblock : placement.destination block = .file p <;> simp [owner?, claimants, hblock]

theorem owner?_isSome
    (hblock : block ∈ blocks)
    (hp : placement.destination block = .file p) :
    (placement.owner? p blocks).isSome := by
  have hmem : block ∈ placement.claimants p blocks := by
    simp [claimants, hblock, hp]
  cases hclaimants : placement.claimants p blocks with
  | nil =>
      rw [hclaimants] at hmem
      cases hmem
  | cons first rest =>
      simp [owner?, hclaimants]

/-- A path that has an owner keeps it. -/
theorem owner?_concat_of_mem
    {last : RenderedBlock}
    (hblock : block ∈ blocks)
    (hp : placement.destination block = .file p) :
    placement.owner? p (blocks ++ [last]) = placement.owner? p blocks := by
  obtain ⟨owner, howner⟩ := Option.isSome_iff_exists.mp (owner?_isSome hblock hp)
  rw [owner?_concat, howner, Option.some_or]

theorem filterMap_concat
    {α β : Type} {f g : α → Option β} {earlier : List α} (last : α)
    (h : ∀ x ∈ earlier, f x = g x) :
    (earlier ++ [last]).filterMap f = earlier.filterMap g ++ (f last).toList := by
  rw [List.filterMap_append, List.filterMap_congr h]
  cases hlast : f last <;> simp [hlast]

theorem accepted_concat
    (placement : Placement) (blocks : List RenderedBlock) (block : RenderedBlock) :
    placement.accepted (blocks ++ [block]) =
      placement.accepted blocks ++ (placement.accepted? (blocks ++ [block]) block).toList := by
  refine filterMap_concat block fun other hother => ?_
  unfold accepted?
  split
  · rename_i p hp
    rw [owner?_concat_of_mem hother hp]
  · rfl

theorem objections_concat
    (placement : Placement) (blocks : List RenderedBlock) (block : RenderedBlock) :
    placement.objections (blocks ++ [block]) =
      placement.objections blocks ++ (placement.objection? (blocks ++ [block]) block).toList := by
  refine filterMap_concat block fun other hother => ?_
  unfold objection?
  split
  · rfl
  · rename_i p hp
    rw [owner?_concat_of_mem hother hp]
  · rfl

theorem accepted?_eq_some
    {target : Target}
    (h : placement.accepted? blocks block = some target) :
    placement.destination block = .file target.path ∧ target.block = block ∧
      placement.owner? target.path blocks = some block.language := by
  unfold accepted? at h
  split at h
  · rename_i p hp
    split at h
    · rename_i howner
      cases h
      exact ⟨hp, rfl, howner⟩
    · cases h
  · cases h

theorem of_mem_accepted
    {target : Target}
    (h : target ∈ placement.accepted blocks) :
    placement.destination target.block = .file target.path ∧
      placement.owner? target.path blocks = some target.block.language := by
  obtain ⟨block, -, hblock⟩ := List.mem_filterMap.mp h
  obtain ⟨hp, rfl, howner⟩ := accepted?_eq_some hblock
  exact ⟨hp, howner⟩

/-- The accepted blocks at a path are those of its owner. -/
theorem filter_accepted
    (placement : Placement) (p : Path) (blocks : List RenderedBlock) :
    (placement.accepted blocks).filter (fun target => target.path = p) =
      ((placement.claimants p blocks).filter fun block =>
        placement.owner? p blocks = some block.language).map (Target.mk p) := by
  rw [accepted, claimants, List.filter_filterMap, List.filter_filter, ← List.filterMap_eq_map,
    List.filterMap_filter]
  refine List.filterMap_congr fun block _ => ?_
  unfold accepted?
  split
  · rename_i q hq
    by_cases hsame : q = p
    · subst hsame
      by_cases howner : placement.owner? q blocks = some block.language <;> simp [hq, howner]
    · by_cases howner : placement.owner? q blocks = some block.language <;> simp [hq, howner, hsame]
  · rename_i hnone
    have hp : placement.destination block ≠ .file p := hnone p
    simp [hp]

/-- A block that is rejected for itself has a malformed destination. -/
theorem concerns_of_rejected
    {error : PlacementError}
    (h : placement.destination block = .rejected error) :
    error.concerns p = false := by
  simp only [destination, anchor] at h
  split at h
  · cases h
  · split at h
    · split at h
      · cases h
        rfl
      · split at h <;> cases h
    · split at h
      · split at h
        · cases h
          rfl
        · split at h <;> cases h
      · split at h
        · split at h <;> cases h
        · cases h

/-- The objections about the owner of a path are against the blocks of other languages there. -/
theorem filter_objections
    (placement : Placement) (p : Path) (blocks : List RenderedBlock) :
    (placement.objections blocks).filter (PlacementError.concerns p) =
      ((placement.claimants p blocks).filter fun block =>
        placement.owner? p blocks ≠ some block.language).map fun block =>
          .ambiguous block.name p ((placement.owner? p blocks).getD []) block.language := by
  rw [objections, claimants, List.filter_filterMap, List.filter_filter, ← List.filterMap_eq_map,
    List.filterMap_filter]
  refine List.filterMap_congr fun block _ => ?_
  unfold objection?
  split
  · rename_i error hrejected
    simp [hrejected, concerns_of_rejected hrejected]
  · rename_i q hq
    by_cases hsame : q = p
    · subst hsame
      by_cases howner : placement.owner? q blocks = some block.language <;>
        simp [hq, howner, PlacementError.concerns]
    · by_cases howner : placement.owner? q blocks = some block.language <;>
        simp [hq, howner, hsame, PlacementError.concerns]
  · rename_i hnone
    have hp : placement.destination block ≠ .file p := hnone p
    simp [hp]

end Placement

namespace Grouping

variable {placement : Placement} {blocks : List RenderedBlock} {grouping next : Grouping}
  {block : RenderedBlock}

/-- A grouping is what the judgements of blocks make it. -/
structure Describes (placement : Placement) (blocks : List RenderedBlock) (grouping : Grouping) :
    Prop where
  /-- Every path has the owner that the blocks give it. -/
  owners : ∀ p, grouping.owners.get? p = placement.owner? p blocks
  /-- The buckets hold the accepted blocks by language. -/
  buckets : grouping.buckets =
    Dictionary.bucketed (fun target => target.block.language) (placement.accepted blocks)
  /-- The errors are the objections. -/
  errors : grouping.errors = placement.objections blocks

theorem describes_empty
    (placement : Placement) :
    Describes placement [] {} :=
  ⟨fun _ => rfl, rfl, rfl⟩

theorem get?_insertIfNew
    {κ ν : Type} [DecidableEq κ] (d : Dictionary κ ν) (k k' : κ) (v : ν) :
    (d.insertIfNew k v).get? k' = (d.get? k').or (if k = k' then some v else none) := by
  unfold Dictionary.insertIfNew Dictionary.contains
  split
  · rename_i hknown
    obtain ⟨old, hold⟩ := Option.isSome_iff_exists.mp hknown
    by_cases hsame : k = k'
    · subst hsame
      rw [hold, Option.some_or]
    · simp [hsame]
  · rename_i hnew
    rw [Dictionary.get?_insert]
    by_cases hsame : k = k'
    · subst hsame
      simp at hnew
      simp [hnew]
    · simp [hsame]

/-- A block that goes to a path whose owner is its language, or that nobody owns. -/
theorem Describes.accept
    {p : Path}
    (h : Describes placement blocks grouping)
    (hp : placement.destination block = .file p)
    (howner : ∀ owner, grouping.owners.get? p = some owner → owner = block.language) :
    Describes placement (blocks ++ [block]) (grouping.accept p block) := by
  have hself : placement.owner? p (blocks ++ [block]) = some block.language := by
    rw [Placement.owner?_concat, if_pos hp, ← h.owners p]
    cases hold : grouping.owners.get? p with
    | none =>
        rfl
    | some owner =>
        rw [howner owner hold, Option.some_or]
  have haccepted : placement.accepted? (blocks ++ [block]) block = some ⟨p, block⟩ := by
    simp [Placement.accepted?, hp, hself]
  have hobjection : placement.objection? (blocks ++ [block]) block = none := by
    simp [Placement.objection?, hp, hself]
  refine ⟨fun q => ?_, ?_, ?_⟩
  · rw [Placement.owner?_concat, hp, ← h.owners q]
    change (grouping.owners.insertIfNew p block.language).get? q = _
    rw [get?_insertIfNew]
    simp only [Destination.file.injEq]
  · rw [Placement.accepted_concat, haccepted]
    change grouping.buckets.insert block.language
      ((grouping.buckets.get? block.language).getD [] ++ [⟨p, block⟩]) = _
    rw [h.buckets]
    exact Dictionary.insert_bucketed (fun target : Target => target.block.language)
      (placement.accepted blocks) ⟨p, block⟩
  · rw [Placement.objections_concat, hobjection, Option.toList_none, List.append_nil]
    exact h.errors

/-- A block that goes to no path, or to one that another language owns. -/
theorem Describes.leave
    (h : Describes placement blocks grouping)
    (howner : ∀ p, placement.destination block = .file p →
      ∃ owner, grouping.owners.get? p = some owner ∧ owner ≠ block.language)
    (howners : next.owners = grouping.owners)
    (hbuckets : next.buckets = grouping.buckets)
    (herrors : next.errors =
      grouping.errors ++ (placement.objection? (blocks ++ [block]) block).toList) :
    Describes placement (blocks ++ [block]) next := by
  have hsame : ∀ p, placement.owner? p (blocks ++ [block]) = placement.owner? p blocks := by
    intro p
    rw [Placement.owner?_concat]
    by_cases hp : placement.destination block = .file p
    · obtain ⟨owner, hknown, -⟩ := howner p hp
      rw [← h.owners p, hknown, Option.some_or]
    · rw [if_neg hp, Option.or_none]
  have haccepted : placement.accepted? (blocks ++ [block]) block = none := by
    unfold Placement.accepted?
    split
    · rename_i p hp
      obtain ⟨owner, hknown, hother⟩ := howner p hp
      rw [hsame, ← h.owners p, hknown]
      simp [hother]
    · rfl
  refine ⟨fun p => ?_, ?_, ?_⟩
  · rw [hsame, howners, h.owners]
  · rw [Placement.accepted_concat, haccepted, Option.toList_none, List.append_nil, hbuckets, h.buckets]
  · rw [Placement.objections_concat, herrors, h.errors]

/-- One more block keeps the closed form. -/
theorem Describes.add
    (h : Describes placement blocks grouping)
    (hadd : grouping.add placement block = .ok next) :
    Describes placement (blocks ++ [block]) next := by
  unfold Grouping.add at hadd
  cases hdestination : placement.destination block with
  | homeless cause =>
      rw [hdestination] at hadd
      cases hadd
  | none =>
      rw [hdestination] at hadd
      cases hadd
      refine h.leave ?_ rfl rfl ?_
      · simp [hdestination]
      · simp [Placement.objection?, hdestination, skip]
  | rejected error =>
      rw [hdestination] at hadd
      cases hadd
      refine h.leave ?_ rfl rfl ?_
      · simp [hdestination]
      · simp [Placement.objection?, hdestination, reject]
  | file p =>
      rw [hdestination] at hadd
      cases howner : grouping.owners.get? p with
      | none =>
          simp only [howner, Except.ok.injEq] at hadd
          subst hadd
          refine h.accept hdestination fun owner hknown => ?_
          rw [howner] at hknown
          cases hknown
      | some owner =>
          simp only [howner] at hadd
          split at hadd
          · rename_i hsame
            cases hadd
            refine h.accept hdestination fun other hknown => ?_
            rw [howner] at hknown
            exact Option.some.inj hknown ▸ hsame
          · rename_i hother
            cases hadd
            refine h.leave ?_ rfl rfl ?_
            · rintro q hq
              obtain rfl : p = q := by
                rw [hdestination] at hq
                exact Destination.file.inj hq
              exact ⟨owner, howner, hother⟩
            · have hknown : placement.owner? p (blocks ++ [block]) = some owner := by
                rw [Placement.owner?_concat, ← h.owners p, howner, Option.some_or]
              simp [Placement.objection?, hdestination, hknown, hother, reject]

/-- A whole run keeps the closed form. -/
theorem ofBlocks_describes
    {rest : List RenderedBlock}
    (h : Describes placement blocks grouping)
    (hrun : ofBlocks placement grouping rest = (next, none)) :
    Describes placement (blocks ++ rest) next := by
  induction rest generalizing blocks grouping with
  | nil =>
      cases hrun
      rwa [List.append_nil]
  | cons block rest ih =>
      rw [ofBlocks] at hrun
      split at hrun
      · rename_i added hadd
        have hrest := ih (h.add hadd) hrun
        rwa [List.append_assoc, List.singleton_append] at hrest
      · cases hrun

/-- The targets of a grouping are the accepted blocks, language by language. -/
theorem targets_perm
    (h : Describes placement blocks grouping) :
    grouping.targets.Perm (placement.accepted blocks) := by
  rw [targets, h.buckets]
  exact Dictionary.bucketed_perm _ _

/-- Grouping that has come to its end has met no unknown home directory. -/
theorem destination_ne_homeless
    (hrun : (ofBlocks placement grouping blocks).2 = none) :
    ∀ block ∈ blocks, ∀ cause, placement.destination block ≠ .homeless cause := by
  induction blocks generalizing grouping with
  | nil =>
      simp
  | cons block blocks ih =>
      rw [ofBlocks] at hrun
      split at hrun
      · rename_i added hadd
        intro other hother cause hhomeless
        rcases List.mem_cons.mp hother with rfl | hother
        · rw [Grouping.add, hhomeless] at hadd
          cases hadd
        · exact ih hrun other hother cause hhomeless
      · cases hrun

section Order

variable (h : Describes placement blocks grouping)
include h

theorem Describes.language_of_mem
    {entry : Text × List Target} {target : Target}
    (hentry : entry ∈ grouping.buckets.entries)
    (htarget : target ∈ entry.2) :
    target.block.language = entry.1 ∧ target ∈ placement.accepted blocks := by
  rw [h.buckets] at hentry
  obtain ⟨language, -, rfl⟩ := List.mem_map.mp hentry
  obtain ⟨hmem, hlanguage⟩ := List.mem_filter.mp htarget
  exact ⟨of_decide_eq_true hlanguage, hmem⟩

theorem Describes.keys_eq :
    grouping.buckets.keys =
      ((placement.accepted blocks).map fun target => target.block.language).eraseDups := by
  rw [h.buckets, Dictionary.keys_bucketed]

/-- Buckets have no path in common. -/
theorem Describes.pairwise_path_ne :
    grouping.buckets.entries.Pairwise fun first second =>
      ∀ target ∈ first.2, ∀ other ∈ second.2, target.path ≠ other.path := by
  have hkeys : grouping.buckets.entries.Pairwise fun first second => first.1 ≠ second.1 := by
    have hnodup : grouping.buckets.keys.Nodup := h.keys_eq ▸ Dictionary.nodup_eraseDups _
    exact List.pairwise_map.mp hnodup
  refine hkeys.imp_of_mem ?_
  intro first second hfirst hsecond hother target htarget other hmem hpath
  obtain ⟨hlanguage, haccepted⟩ := h.language_of_mem hfirst htarget
  obtain ⟨hlanguage', haccepted'⟩ := h.language_of_mem hsecond hmem
  have howner := (Placement.of_mem_accepted haccepted).2
  rw [hpath, (Placement.of_mem_accepted haccepted').2, hlanguage, hlanguage'] at howner
  exact hother (Option.some.inj howner).symm

/-- The targets at a path are the accepted blocks there, in order. -/
theorem Describes.filter_targets
    (p : Path) :
    grouping.targets.filter (fun target => target.path = p) =
      (placement.accepted blocks).filter fun target => target.path = p := by
  rw [targets, h.buckets, Dictionary.bucketed, List.flatMap_map, List.filter_flatMap]
  simp only [List.filter_comm (fun target : Target => decide (target.path = p))]
  refine Dictionary.flatMap_filter_key (k := (placement.owner? p blocks).getD [])
    (Dictionary.nodup_eraseDups _) ?_
  intro target htarget
  obtain ⟨hmem, hp⟩ := List.mem_filter.mp htarget
  obtain rfl := of_decide_eq_true hp
  rw [(Placement.of_mem_accepted hmem).2, Option.getD_some]
  exact ⟨rfl, List.mem_eraseDups.mpr (List.mem_map_of_mem hmem)⟩

end Order

/-- **Grouping never reorders a file.**  Every bucket holds blocks of its own language, no path stands in two
buckets, and the buckets come in the order of their first accepted blocks.  At every path the targets are the
blocks that claim it in the language of the first of them, in document order; every other block that claims
it is reported as ambiguous, with that language as the owner, in document order. -/
theorem ofBlocks_keeps_order
    (placement : Placement) (blocks : List RenderedBlock) (grouping : Grouping)
    (hrun : ofBlocks placement {} blocks = (grouping, none)) :
    (∀ entry ∈ grouping.buckets.entries, ∀ target ∈ entry.2, target.block.language = entry.1) ∧
      grouping.buckets.entries.Pairwise (fun first second =>
        ∀ target ∈ first.2, ∀ other ∈ second.2, target.path ≠ other.path) ∧
      grouping.buckets.keys =
        ((placement.accepted blocks).map fun target => target.block.language).eraseDups ∧
      ∀ p,
        grouping.targets.filter (fun target => target.path = p) =
          ((placement.claimants p blocks).filter fun block =>
            placement.owner? p blocks = some block.language).map (Target.mk p) ∧
        grouping.errors.filter (PlacementError.concerns p) =
          ((placement.claimants p blocks).filter fun block =>
            placement.owner? p blocks ≠ some block.language).map fun block =>
              .ambiguous block.name p ((placement.owner? p blocks).getD []) block.language := by
  have h : Describes placement blocks grouping :=
    ofBlocks_describes (describes_empty placement) hrun
  refine ⟨fun entry hentry target htarget => (h.language_of_mem hentry htarget).1,
    h.pairwise_path_ne, h.keys_eq, fun p => ⟨?_, ?_⟩⟩
  · rw [h.filter_targets, Placement.filter_accepted]
  · rw [h.errors, Placement.filter_objections]

/-- Two spellings of one path, a block of another language between them, and a bucket of another file. -/
theorem ofBlocks_keeps_order_two_spellings :
    let directory : Path := ⟨.root, ["d"]⟩
    let placement : Placement :=
      { surroundings := { directory := directory, home := directory }, baseName := "n", directory := directory }
    let block (name language tangle : Text) : RenderedBlock :=
      ⟨{ language := language, name := name, params := ⟨[("tangle", tangle)]⟩, body := [], link := {} }, []⟩
    let blocks : List RenderedBlock :=
      [block "a" "python" "x", block "b" "sh" "y", block "c" "sh" "z/../x", block "e" "python" "./x"]
    let p : Path := ⟨.root, ["d", "x"]⟩
    ∃ grouping, ofBlocks placement {} blocks = (grouping, none) ∧
      grouping.targets.filter (fun target => target.path = p) =
        [⟨p, block "a" "python" "x"⟩, ⟨p, block "e" "python" "./x"⟩] ∧
      grouping.errors.filter (PlacementError.concerns p) = [.ambiguous "c" p "python" "sh"] := by
  intro directory placement block blocks p
  have hnone : (ofBlocks placement {} blocks).2 = none := by
    decide +kernel
  obtain ⟨grouping, hrun⟩ : ∃ grouping, ofBlocks placement {} blocks = (grouping, none) := by
    generalize ofBlocks placement {} blocks = outcome at hnone
    exact ⟨outcome.1, Prod.ext rfl hnone⟩
  obtain ⟨-, -, -, horder⟩ := ofBlocks_keeps_order placement blocks grouping hrun
  obtain ⟨htargets, herrors⟩ := horder p
  refine ⟨grouping, hrun, htargets.trans ?_, herrors.trans ?_⟩
  · decide +kernel
  · decide +kernel

end Grouping
end Literate
