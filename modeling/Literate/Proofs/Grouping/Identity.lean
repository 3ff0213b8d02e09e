import Literate.Proofs.Emission.Deposits
import Literate.Proofs.Grouping
import Literate.Proofs.Path.Spelling
import Mathlib.Data.List.TakeWhile

/-!
# Destinations of one file

On a disk without links a text names one file, whatever dots, detours and
repeated slashes stand in it.  Blocks that name one file share their destination
if they write the root alike: one language owns the file, and a run clears it
once.  A root that is written with exactly two slashes stays apart, and then the
file has two owners and is cleared a second time.

**Naming.**  `Path.follow` reads a text from slash to slash.  `Placement.named?` is
where a text leads: its components are the place of the file, and its anchor is
how the root is written where the reading starts.

**Hidden homes.**  A `~` behind a dot or a slash is a name like any other, but a
destination that begins with one is read from the home directory.

**Main statements.**
* `FileSystem.eq_follow_of_walk`: a walk over a disk that comes to its end has followed
  the text.
* `anchor_of_named?`: the destination of a text is the path that it names.
* `Grouping.Describes.exists_owns`: the blocks for one path have one owner.
* `spellings_of_one_file`: what becomes of two blocks that name one file.
-/

namespace Literate

section Following

variable {here place : Place}

namespace Path

/-- The place that a piece between slashes leads to: an empty one and `.` stay, `..` goes up, a name goes
down. -/
def step (here : Place) (piece : Text) : Place :=
  if piece = [] ∨ piece = ("." : Text) then here
  else if piece = up then here.dropLast
  else here ++ [piece]

/-- The place that a text leads to from another place. -/
def follow (here : Place) (t : Text) : Place :=
  (Text.splitOn '/' t).foldl step here

theorem follow_eq_foldl
    (here : Place) (t : Text) :
    follow here t = (components t).foldl climb here := by
  rw [components, List.foldl_filter]
  refine congrArg (fun f => (Text.splitOn '/' t).foldl f here) (funext fun place => funext fun piece => ?_)
  by_cases hempty : piece = []
  · simp [step, hempty]
  · by_cases hdot : piece = ("." : Text)
    · simp [step, hdot]
    · have hkept : (!(piece.isEmpty || piece == ".".toList)) = true := by
        rw [List.isEmpty_eq_false_iff.mpr hempty, beq_eq_false_iff_ne.mpr hdot]
        rfl
      rw [if_pos hkept, step, if_neg (not_or.mpr ⟨hempty, hdot⟩), climb]

/-- Carrying out every `..` behind some components is to follow the text from where they lead. -/
theorem normalParts_append_components
    (parts : List Text) (t : Text) :
    normalParts (parts ++ components t) = follow (normalParts parts) t := by
  rw [normalParts, List.foldl_append, follow_eq_foldl]
  rfl

end Path

/-- A walk over a disk that comes to its end has followed the text. -/
theorem FileSystem.eq_follow_of_walk
    {fs : FileSystem} {t : Text}
    (h : fs.walk here (Path.components t) = .ok place) :
    place = Path.follow here t := by
  rw [Path.follow_eq_foldl]
  generalize Path.components t = parts at h ⊢
  induction parts generalizing here with
  | nil =>
      exact (Except.ok.inj h).symm
  | cons part rest ih =>
      rw [walk] at h
      split at h
      · cases h
      · cases h
      · split at h
        · rename_i hup
          rw [List.foldl_cons, Path.climb, if_pos hup]
          exact ih h
        · rename_i hup
          rw [List.foldl_cons, Path.climb, if_neg hup]
          split at h
          · cases h
          · exact ih h

end Following

namespace Placement

variable {placement : Placement} {value text : Text} {p : Path} {block : RenderedBlock}

section Naming

/-- Where the reading of a text starts, and what is read from there: at the root, at the home directory of
the user whose name stands between `~` and the next slash, or at the directory. -/
def start? (placement : Placement) (value : Text) : Option (Path × Text) :=
  match value with
  | '/' :: _ => some (⟨Path.anchorOf value, []⟩, value)
  | '~' :: rest =>
      match placement.surroundings.homeOf (rest.takeWhile (· ≠ '/')) with
      | .ok home => some (placement.directory.append home, rest.dropWhile (· ≠ '/'))
      | .error _ => none
  | _ => some (placement.directory, value)

/-- The path that a text names: the place of the file, below the root as it is written where the reading
starts. -/
def named? (placement : Placement) (value : Text) : Option Path :=
  (placement.start? value).map fun start =>
    ⟨start.1.anchor, Path.follow (Path.normalParts start.1.parts) start.2⟩

/-- On a disk a walk along the text, from where its reading starts, comes to its end at a place. -/
def LeadsTo (placement : Placement) (value : Text) (fs : FileSystem) (place : Place) : Prop :=
  ∃ start ∈ placement.start? value,
    fs.walk (Path.normalParts start.1.parts) (Path.components start.2) = .ok place

/-- A text leads to the file that it names, on every disk where it leads anywhere. -/
theorem LeadsTo.parts_eq
    {fs : FileSystem} {place : Place}
    (h : placement.LeadsTo value fs place)
    (hnamed : placement.named? value = some p) :
    p.parts = place := by
  obtain ⟨start, hstart, hwalk⟩ := h
  obtain ⟨start', hstart', rfl⟩ := Option.map_eq_some_iff.mp hnamed
  obtain rfl : start = start' := Option.some.inj ((Option.mem_def.mp hstart).symm.trans hstart')
  exact (FileSystem.eq_follow_of_walk hwalk).symm

/-- The first component begins with `~`, but something that leads nowhere stands in front of it. -/
def HidesHome (value : Text) : Prop :=
  value.head? ≠ some '/' ∧ value.head? ≠ some '~' ∧
    (Path.components value).head?.bind List.head? = some '~'

/-- The destination of a text whose home directory is known. -/
theorem anchor_of_expandHome
    {q : Path}
    (habsolute : placement.directory.isAbsolute = true)
    (h : placement.surroundings.expandHome (Path.ofText value) = .ok q) :
    placement.anchor value =
      .file ⟨(placement.directory.append q).anchor, Path.normalParts (placement.directory.append q).parts⟩ := by
  have hfull : placement.surroundings.directory.append (placement.directory.append q) =
      placement.directory.append q := if_pos (Path.isAbsolute_append q habsolute)
  rw [anchor, h]
  dsimp only
  rw [Surroundings.absolute, Path.absolute, hfull]

theorem components_cons_slash
    (t : Text) :
    Path.components ('/' :: t) = Path.components t :=
  Path.components_append_slash [] t

/-- A `~` in front belongs to the first component, which goes on up to the next slash. -/
theorem components_cons_tilde
    (rest : Text) :
    Path.components ('~' :: rest) =
      ('~' :: rest.takeWhile (· ≠ '/')) :: Path.components (rest.dropWhile (· ≠ '/')) := by
  have hname : Path.components ('~' :: rest.takeWhile (· ≠ '/')) = ['~' :: rest.takeWhile (· ≠ '/')] := by
    refine Path.components_of_isProper ⟨List.cons_ne_nil _ _, by simp, ?_⟩
    rw [List.mem_cons, not_or]
    refine ⟨by decide, fun hmem => ?_⟩
    simpa using List.mem_takeWhile_imp hmem
  have hrest : rest.takeWhile (· ≠ '/') ++ rest.dropWhile (· ≠ '/') = rest := List.takeWhile_append_dropWhile
  cases hafter : rest.dropWhile (· ≠ '/') with
  | nil =>
      rw [hafter, List.append_nil] at hrest
      rw [hrest] at hname ⊢
      exact hname
  | cons c after =>
      have hhead := List.head?_dropWhile_not (· ≠ '/') rest
      rw [hafter] at hhead
      obtain rfl : c = '/' := by simpa using hhead
      rw [hafter] at hrest
      have hsplit := Path.components_append_slash ('~' :: rest.takeWhile (· ≠ '/')) after
      rw [List.cons_append, hrest, hname] at hsplit
      rw [components_cons_slash]
      exact hsplit

theorem anchorOf_cons_slash_ne_relative
    (t : Text) :
    Path.anchorOf ('/' :: t) ≠ .relative := by
  unfold Path.anchorOf
  rw [List.takeWhile_cons_of_pos rfl, List.length_cons]
  split
  · rename_i hzero
    cases hzero
  · decide
  · decide

/-- A text with a slash in front is read from the root. -/
theorem anchor_cons_slash
    (rest : Text)
    (habsolute : placement.directory.isAbsolute = true) :
    placement.anchor ('/' :: rest) =
      .file ⟨Path.anchorOf ('/' :: rest), Path.follow [] ('/' :: rest)⟩ := by
  have hread : (Path.ofText ('/' :: rest)).isAbsolute = true := by
    simp [Path.ofText, Path.isAbsolute, anchorOf_cons_slash_ne_relative]
  have hroot : placement.directory.append (Path.ofText ('/' :: rest)) = Path.ofText ('/' :: rest) :=
    if_pos hread
  rw [anchor_of_expandHome habsolute (Surroundings.expandHome_of_isAbsolute _ hread), hroot]
  exact congrArg (fun parts => Destination.file ⟨_, parts⟩)
    (Path.normalParts_append_components [] ('/' :: rest))

/-- A text with `~` in front is read from the home directory of a user. -/
theorem anchor_cons_tilde
    {rest : Text} {home : Path}
    (habsolute : placement.directory.isAbsolute = true)
    (hhome : placement.surroundings.homeOf (rest.takeWhile (· ≠ '/')) = .ok home) :
    placement.anchor ('~' :: rest) =
      .file ⟨(placement.directory.append home).anchor,
        Path.follow (Path.normalParts (placement.directory.append home).parts)
          (rest.dropWhile (· ≠ '/'))⟩ := by
  have hread : Path.ofText ('~' :: rest) =
      ⟨.relative, ('~' :: rest.takeWhile (· ≠ '/')) :: Path.components (rest.dropWhile (· ≠ '/'))⟩ := by
    rw [Path.ofText, components_cons_tilde, Path.anchorOf_of_head? (by simp)]
  have hexpand : placement.surroundings.expandHome (Path.ofText ('~' :: rest)) =
      .ok (home.append ⟨.relative, Path.components (rest.dropWhile (· ≠ '/'))⟩) := by
    rw [hread]
    exact congrArg (Except.map _) hhome
  have happend : ∀ (directory : Path) (parts : List Text),
      directory.append (home.append ⟨.relative, parts⟩) =
        ⟨(directory.append home).anchor, (directory.append home).parts ++ parts⟩ := by
    intro directory parts
    obtain ⟨anchor, above⟩ := home
    cases anchor <;> simp [Path.append, Path.isAbsolute]
  rw [anchor_of_expandHome habsolute hexpand, happend, Path.normalParts_append_components]

/-- Any other text is read from the directory, if its first component stands for no home. -/
theorem anchor_of_relative
    (habsolute : placement.directory.isAbsolute = true)
    (hslash : value.head? ≠ some '/')
    (hhome : ∀ part ∈ (Path.components value).head?, part.head? ≠ some '~') :
    placement.anchor value =
      .file ⟨placement.directory.anchor,
        Path.follow (Path.normalParts placement.directory.parts) value⟩ := by
  have hread : Path.ofText value = ⟨.relative, Path.components value⟩ := by
    rw [Path.ofText, Path.anchorOf_of_head? hslash]
  have hexpand := placement.surroundings.expandHome_eq_self (p := Path.ofText value) hhome
  rw [anchor_of_expandHome habsolute hexpand, hread]
  exact congrArg (fun parts => Destination.file ⟨_, parts⟩)
    (Path.normalParts_append_components placement.directory.parts value)

/-- The destination of a text is the path that it names, unless it hides a home. -/
theorem anchor_of_named?
    (habsolute : placement.directory.isAbsolute = true)
    (hnamed : placement.named? value = some p)
    (hhome : ¬ HidesHome value) :
    placement.anchor value = .file p := by
  obtain ⟨start, hstart, rfl⟩ := Option.map_eq_some_iff.mp hnamed
  unfold start? at hstart
  split at hstart
  · rename_i rest
    cases hstart
    exact anchor_cons_slash rest habsolute
  · rename_i rest
    split at hstart
    · rename_i home hfound
      cases hstart
      exact anchor_cons_tilde habsolute hfound
    · cases hstart
  · rename_i hslash htilde
    cases hstart
    have hrelative : value.head? ≠ some '/' := by
      intro heq
      obtain ⟨rest, rfl⟩ := List.head?_eq_some_iff.mp heq
      exact hslash rest rfl
    refine anchor_of_relative habsolute hrelative fun part hpart heq => ?_
    refine hhome ⟨hrelative, fun hvalue => ?_, ?_⟩
    · obtain ⟨rest, rfl⟩ := List.head?_eq_some_iff.mp hvalue
      exact htilde rest rfl
    · rw [Option.mem_def.mp hpart]
      exact heq

/-- A hidden home is found: the destination is the one of the components alone, and these begin with `~`. -/
theorem anchor_of_hidesHome
    (placement : Placement)
    (h : HidesHome value) :
    (Text.join "/" (Path.components value)).head? = some '~' ∧
      placement.anchor value = placement.anchor (Text.join "/" (Path.components value)) := by
  obtain ⟨hslash, -, hfirst⟩ := h
  have hproper : ∀ part ∈ Path.components value, Path.IsProper part :=
    fun part hpart => Path.isProper_of_mem_components hpart
  have hread : Path.ofText (Text.join "/" (Path.components value)) = Path.ofText value := by
    rw [Path.ofText, Path.ofText, Path.anchorOf_of_head? (Path.head?_join_ne_slash hproper),
      Path.anchorOf_of_head? hslash, Path.components_join hproper]
  refine ⟨?_, ?_⟩
  · cases hparts : Path.components value with
    | nil =>
        rw [hparts] at hfirst
        cases hfirst
    | cons part rest =>
        rw [hparts] at hfirst
        obtain ⟨t, rfl⟩ := List.head?_eq_some_iff.mp (hfirst : part.head? = some '~')
        cases rest with
        | nil =>
            rfl
        | cons next rest =>
            rfl
  · rw [anchor, anchor, hread]

/-- The text that a block gives its destination by. -/
inductive Spells (placement : Placement) (block : RenderedBlock) : Text → Prop
  /-- The argument is a path. -/
  | value :
      Text.lower block.params.tangle ≠ "no" →
      Text.lower block.params.tangle ≠ "yes" →
      block.params.tangle ≠ [] →
      isMalformed block.params.tangle = false →
      Spells placement block block.params.tangle
  /-- The argument asks for a file named after the document. -/
  | yes :
      Text.lower block.params.tangle = "yes" →
      block.language ≠ [] →
      Spells placement block
        (placement.baseName ++ "." ++ Language.suffixIn placement.suffixes block.language)
  /-- There is no argument, and there is a default destination. -/
  | fallback (c : Char) (target : Text) :
      block.params.tangle = [] →
      placement.fallback = some (c :: target) →
      Spells placement block (c :: target)

theorem Spells.destination_eq
    (h : placement.Spells block text) :
    placement.destination block = placement.anchor text := by
  unfold destination
  dsimp only
  cases h with
  | value hno hyes hne hformed =>
      have hgiven : (!block.params.tangle.isEmpty) = true := by
        simp [hne]
      rw [if_neg hno, if_neg hyes, if_pos hgiven, hformed]
      rfl
  | yes hyes hlanguage =>
      have hno : Text.lower block.params.tangle ≠ "no" := by
        rw [hyes]
        decide
      rw [if_neg hno, if_pos hyes, if_neg (by simp [hlanguage])]
  | fallback c target hempty hfallback =>
      rw [hempty, hfallback]
      rfl

end Naming

/-- What a text names starts at the root, if the directory does. -/
theorem isAbsolute_of_named?
    (habsolute : placement.directory.isAbsolute = true)
    (h : placement.named? value = some p) :
    p.isAbsolute = true := by
  obtain ⟨start, hstart, rfl⟩ := Option.map_eq_some_iff.mp h
  unfold start? at hstart
  split at hstart
  · cases hstart
    simp [Path.isAbsolute, anchorOf_cons_slash_ne_relative]
  · split at hstart
    · cases hstart
      exact Path.isAbsolute_append _ habsolute
    · cases hstart
  · cases hstart
    exact habsolute

end Placement

/-- A disk does not see how the root is written. -/
theorem FileSystem.locate_eq_of_parts_eq
    {p q : Path} (fs : FileSystem) (directory : Path)
    (hp : p.isAbsolute = true)
    (hq : q.isAbsolute = true)
    (h : p.parts = q.parts) :
    fs.locate directory p = fs.locate directory q := by
  rw [locate, locate, Path.hasNull, Path.hasNull, Path.append, Path.append, if_pos hp, if_pos hq, h]

namespace Grouping

variable {placement : Placement} {grouping : Grouping} {blocks shared : List RenderedBlock} {p q : Path}

/-- A language owns a path among blocks for it: its own blocks are accepted, and the others are rejected with
its name. -/
structure Owns (grouping : Grouping) (owner : Text) (p : Path) (blocks : List RenderedBlock) : Prop where
  /-- The grouping knows the owner. -/
  known : grouping.owners.get? p = some owner
  /-- Blocks of the language are accepted. -/
  accepted : ∀ block ∈ blocks, block.language = owner → ⟨p, block⟩ ∈ grouping.targets
  /-- Blocks of another language are rejected. -/
  rejected : ∀ block ∈ blocks, block.language ≠ owner →
    ⟨p, block⟩ ∉ grouping.targets ∧ .ambiguous block.name p owner block.language ∈ grouping.errors

/-- The blocks for one path have one owner. -/
theorem Describes.exists_owns
    {first : RenderedBlock}
    (h : Describes placement blocks grouping)
    (hfirst : first ∈ shared)
    (hshared : ∀ block ∈ shared, block ∈ blocks ∧ placement.destination block = .file p) :
    ∃ owner, grouping.Owns owner p shared := by
  obtain ⟨hmem, hp⟩ := hshared first hfirst
  obtain ⟨owner, howner⟩ := Option.isSome_iff_exists.mp (Placement.owner?_isSome hmem hp)
  refine ⟨owner, (h.owners p).trans howner, ?_, ?_⟩
  · intro block hblock hlanguage
    obtain ⟨hblocks, hdestination⟩ := hshared block hblock
    refine (targets_perm h).mem_iff.mpr (List.mem_filterMap.mpr ⟨block, hblocks, ?_⟩)
    rw [Placement.accepted?, hdestination]
    dsimp only
    rw [howner, if_pos (congrArg some hlanguage.symm)]
  · intro block hblock hlanguage
    obtain ⟨hblocks, hdestination⟩ := hshared block hblock
    have hother : ¬ some owner = some block.language := fun heq => hlanguage (Option.some.inj heq).symm
    refine ⟨fun htarget => ?_, ?_⟩
    · obtain ⟨-, hself⟩ := Placement.of_mem_accepted ((targets_perm h).mem_iff.mp htarget)
      exact hother (howner.symm.trans hself)
    · rw [h.errors]
      refine List.mem_filterMap.mpr ⟨block, hblocks, ?_⟩
      rw [Placement.objection?, hdestination]
      dsimp only
      rw [howner, if_neg hother]
      rfl

/-- Two blocks for two paths are both accepted, whatever their languages are. -/
theorem ofBlocks_apart
    {first second : RenderedBlock}
    (hfirst : placement.destination first = .file p)
    (hsecond : placement.destination second = .file q)
    (hne : p ≠ q) :
    ∃ grouping, ofBlocks placement {} [first, second] = (grouping, none) ∧ grouping.errors = [] ∧
      grouping.targets.Perm [⟨p, first⟩, ⟨q, second⟩] := by
  have hfree : (({} : Grouping).accept p first).owners.get? q = none := by
    rw [accept, get?_insertIfNew, if_neg hne]
    rfl
  have hadd : ({} : Grouping).add placement first = .ok (({} : Grouping).accept p first) := by
    rw [add, hfirst]
    rfl
  have hadd' : (({} : Grouping).accept p first).add placement second =
      .ok ((({} : Grouping).accept p first).accept q second) := by
    rw [add, hsecond]
    dsimp only
    rw [hfree]
  have hrun : ofBlocks placement {} [first, second] =
      ((({} : Grouping).accept p first).accept q second, none) := by
    rw [ofBlocks, hadd]
    dsimp only
    rw [ofBlocks, hadd']
    rfl
  have hdescribes := ofBlocks_describes (describes_empty placement) hrun
  have hp : placement.owner? p [first, second] = some first.language := by
    simp [Placement.owner?, Placement.claimants, hfirst]
  have hq : placement.owner? q [first, second] = some second.language := by
    simp [Placement.owner?, Placement.claimants, hfirst, hsecond, hne]
  refine ⟨_, hrun, rfl, ?_⟩
  refine (targets_perm hdescribes).trans (List.Perm.of_eq ?_)
  simp [Placement.accepted, Placement.accepted?, hfirst, hsecond, hp, hq]

end Grouping

namespace Emitter

/-- A new emitter that has written all targets leaves at a place the content that blocks make. -/
def Leaves (decoration : Decoration) (targets : List Target) (place : Place) (blocks : List RenderedBlock) :
    Prop :=
  ∀ world emitter world', world.Consistent →
    (({ decoration := decoration } : Emitter).emitAll targets : StateM World _) world =
      ((emitter, .ok ()), world') →
    ∃ text, content decoration blocks = .ok text ∧
      world'.files.at? place = some (.file (Text.encode text) (mode blocks) .present)

end Emitter

namespace Placement

open Emitter (Leaves NoReturns blocksAt)

/-- **Spellings of one file.**  Let two blocks name one file below an absolute directory, and let neither hide
a home.  Their destinations are the paths that they name; wherever their texts lead on a disk, it is there, and
every disk takes the two paths for one file.  If both write the root alike, there is one path: a grouping finds
that it has one owner, and a run clears the file once, so that it holds all blocks for the path.  Otherwise
there are two paths: blocks of two languages are both accepted, and the first block by the second path clears
the file again, so that what came by the first path is lost.  A hidden home is taken for a home. -/
theorem spellings_of_one_file
    (placement : Placement)
    (habsolute : placement.directory.isAbsolute = true) :
    (∀ first second text text' p q,
      placement.Spells first text →
      placement.Spells second text' →
      placement.named? text = some p →
      placement.named? text' = some q →
      p.parts = q.parts →
      ¬ HidesHome text →
      ¬ HidesHome text' →
      (placement.destination first = .file p ∧ placement.destination second = .file q) ∧
      (∀ fs place, placement.LeadsTo text fs place ∨ placement.LeadsTo text' fs place → p.parts = place) ∧
      (∀ (fs : FileSystem) directory, fs.locate directory p = fs.locate directory q) ∧
      (p.anchor = q.anchor →
        p = q ∧
        (∀ blocks grouping, first ∈ blocks → second ∈ blocks →
          Grouping.ofBlocks placement {} blocks = (grouping, none) →
          ∃ owner, grouping.Owns owner p [first, second]) ∧
        ∀ decoration targets,
          (∀ t ∈ targets, t.path.IsRooted ∧ NoReturns decoration t.block) →
          (∀ t ∈ targets, t.path.parts = p.parts → t.path = p) →
          ⟨p, first⟩ ∈ targets →
          Leaves decoration targets p.parts (blocksAt p targets)) ∧
      (p.anchor ≠ q.anchor →
        p ≠ q ∧
        (∃ grouping, Grouping.ofBlocks placement {} [first, second] = (grouping, none) ∧
          grouping.errors = [] ∧ grouping.targets.Perm [⟨p, first⟩, ⟨q, second⟩]) ∧
        ∀ decoration before later,
          (∀ t ∈ before ++ later, t.path.IsRooted ∧ NoReturns decoration t.block) →
          (∀ t ∈ before, t.path ≠ q) →
          (∀ t ∈ later, t.path.parts = p.parts → t.path = q) →
          ⟨q, second⟩ ∈ later →
          Leaves decoration (before ++ later) p.parts (blocksAt q later))) ∧
    ∀ text, HidesHome text →
      (Text.join "/" (Path.components text)).head? = some '~' ∧
        placement.anchor text = placement.anchor (Text.join "/" (Path.components text)) := by
  refine ⟨?_, fun text h => anchor_of_hidesHome placement h⟩
  intro first second text text' p q hspells hspells' hnamed hnamed' hparts hhome hhome'
  have hfirst : placement.destination first = .file p :=
    hspells.destination_eq.trans (anchor_of_named? habsolute hnamed hhome)
  have hsecond : placement.destination second = .file q :=
    hspells'.destination_eq.trans (anchor_of_named? habsolute hnamed' hhome')
  have hreaches : ∀ {r : Path} {block : RenderedBlock} {targets : List Target},
      ⟨r, block⟩ ∈ targets → blocksAt r targets ≠ [] := by
    intro r block targets hmem
    exact List.ne_nil_of_mem
      (List.mem_map_of_mem (List.mem_filter.mpr ⟨hmem, decide_eq_true rfl⟩))
  refine ⟨⟨hfirst, hsecond⟩, fun fs place => ?_, fun fs directory => ?_, fun hanchor => ?_, fun hanchor => ?_⟩
  · rintro (hleads | hleads)
    · exact hleads.parts_eq hnamed
    · exact hparts.trans (hleads.parts_eq hnamed')
  · exact fs.locate_eq_of_parts_eq directory (isAbsolute_of_named? habsolute hnamed)
      (isAbsolute_of_named? habsolute hnamed') hparts
  · obtain rfl : p = q := by
      obtain ⟨anchor, parts⟩ := p
      obtain rfl : anchor = q.anchor := hanchor
      obtain rfl : parts = q.parts := hparts
      rfl
    refine ⟨rfl, ?_, ?_⟩
    · intro blocks grouping hmem hmem' hrun
      refine (Grouping.ofBlocks_describes (Grouping.describes_empty placement) hrun).exists_owns
        List.mem_cons_self ?_
      simp [hmem, hmem', hfirst, hsecond]
    · intro decoration targets htargets hspelling hmem world emitter world' hworld hrun
      exact Emitter.emitAll_last_spelling [] targets (fun t ht => (htargets t ht).1) hworld
        (fun t ht => (htargets t ht).2) (by simp) hspelling (hreaches hmem) hrun
  · have hne : p ≠ q := fun heq => hanchor (congrArg Path.anchor heq)
    refine ⟨hne, Grouping.ofBlocks_apart hfirst hsecond hne, ?_⟩
    intro decoration before later htargets hbefore hlater hmem world emitter world' hworld hrun
    rw [hparts] at hlater ⊢
    exact Emitter.emitAll_last_spelling before later (fun t ht => (htargets t ht).1) hworld
      (fun t ht => (htargets t (List.mem_append_right before ht)).2) hbefore hlater (hreaches hmem) hrun

/-- A block with its language and the argument that says where it goes. -/
def sample (language tangle : Text) : RenderedBlock :=
  ⟨{ language := language, name := "a", params := ⟨[("tangle", tangle)]⟩, body := [], link := {} }, "x"⟩

/-- The directory `/d` and the home directory `/h`. -/
def samplePlacement : Placement :=
  { surroundings := { directory := ⟨.root, ["d"]⟩, home := ⟨.root, ["h"]⟩ }
    baseName := "n"
    directory := ⟨.root, ["d"]⟩ }

theorem noReturns_sample
    (language tangle : Text) :
    NoReturns { opening := fun _ => .ok [], closing := fun _ => .ok [] } (sample language tangle) := by
  have hshebang : (sample language tangle).params.shebang = [] := rfl
  refine ⟨fun text hrender => ?_, by simp [hshebang]⟩
  obtain rfl : "x\n".toList = text := Except.ok.inj hrender
  decide

/-- Three spellings of one file: a detour, a dot, and two slashes in front.  The first two share an owner and a
file, and the third puts the file in place of what the first has written. -/
theorem spellings_of_one_file_three :
    let first := sample "sh" "x/../out"
    let second := sample "python" ".//out"
    let third := sample "python" "//d/out"
    let p : Path := ⟨.root, ["d", "out"]⟩
    let q : Path := ⟨.doubleRoot, ["d", "out"]⟩
    let decoration : Decoration := { opening := fun _ => .ok [], closing := fun _ => .ok [] }
    samplePlacement.destination first = .file p ∧
      samplePlacement.destination second = .file p ∧
      samplePlacement.destination third = .file q ∧
      (∀ grouping, Grouping.ofBlocks samplePlacement {} [first, second] = (grouping, none) →
        ∃ owner, grouping.Owns owner p [first, second]) ∧
      Leaves decoration [⟨p, first⟩, ⟨p, second⟩] ["d", "out"] [first, second] ∧
      Leaves decoration [⟨p, first⟩, ⟨q, third⟩] ["d", "out"] [third] ∧
      samplePlacement.anchor "./~/out" = samplePlacement.anchor "~/out" := by
  intro first second third p q decoration
  obtain ⟨hpairs, hhidden⟩ := spellings_of_one_file samplePlacement rfl
  have hrooted : ∀ t : Target, t = ⟨p, first⟩ ∨ t = ⟨p, second⟩ ∨ t = ⟨q, third⟩ →
      t.path.IsRooted ∧ NoReturns decoration t.block := by
    rintro t (rfl | rfl | rfl)
    · exact ⟨⟨rfl, by decide⟩, noReturns_sample _ _⟩
    · exact ⟨⟨rfl, by decide⟩, noReturns_sample _ _⟩
    · exact ⟨⟨rfl, by decide⟩, noReturns_sample _ _⟩
  have hfirst : samplePlacement.Spells first "x/../out" :=
    Spells.value (by decide) (by decide) (by decide) (by decide)
  have hsecond : samplePlacement.Spells second ".//out" :=
    Spells.value (by decide) (by decide) (by decide) (by decide)
  have hthird : samplePlacement.Spells third "//d/out" :=
    Spells.value (by decide) (by decide) (by decide) (by decide)
  have hvisible : ¬ HidesHome "x/../out" := fun h => absurd h.2.2 (by decide)
  obtain ⟨⟨hp, hp'⟩, -, -, hshared, -⟩ := hpairs first second _ _ p p hfirst hsecond (by decide) (by decide)
    rfl hvisible fun h => absurd h.2.2 (by decide)
  obtain ⟨⟨-, hq⟩, -, -, -, hapart⟩ := hpairs first third _ _ p q hfirst hthird (by decide) (by decide)
    rfl hvisible fun h => absurd h.2.2 (by decide)
  obtain ⟨-, howns, honce⟩ := hshared rfl
  obtain ⟨-, -, htwice⟩ := hapart (by decide)
  refine ⟨hp, hp', hq, fun grouping => howns _ grouping (by simp) (by simp), ?_, ?_, ?_⟩
  · refine honce decoration [⟨p, first⟩, ⟨p, second⟩] (fun t ht => hrooted t ?_) ?_ (by simp)
    · simp only [List.mem_cons, List.not_mem_nil, or_false] at ht
      exact ht.imp_right Or.inl
    · simp
  · refine htwice decoration [⟨p, first⟩] [⟨q, third⟩] (fun t ht => hrooted t ?_) ?_ ?_ (by simp)
    · simp only [List.singleton_append, List.mem_cons, List.not_mem_nil, or_false] at ht
      exact ht.imp_right Or.inr
    · simpa using fun heq : p = q => absurd heq (by decide)
    · simp
  · exact (hhidden "./~/out" ⟨by decide, by decide, by decide⟩).2

/-- Two slashes in front make a destination of their own, so that blocks of two languages are both accepted for
one file.  A name that begins with `~` has two destinations, one of them below the home directory. -/
theorem spellings_of_one_file_apart :
    let placement := samplePlacement
    let blocks := [sample "sh" "/x/out", sample "python" "//x/out"]
    (placement.named? "/x/out").map Path.parts = (placement.named? "//x/out").map Path.parts ∧
      placement.anchor "/x/out" ≠ placement.anchor "//x/out" ∧
      (Grouping.ofBlocks placement {} blocks).1.errors = [] ∧
      placement.named? "./~/out" = placement.named? "sub/../~/out" ∧
      placement.anchor "./~/out" ≠ placement.anchor "sub/../~/out" := by
  intro placement blocks
  refine ⟨by decide, by decide, rfl, by decide, by decide⟩

end Placement
end Literate
