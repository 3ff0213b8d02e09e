import Literate.Proofs.Emission.Content
import Literate.Proofs.Emission.Steps
import Literate.Proofs.Text.Lines

/-!
# Runs of an emitter

A new emitter that writes blocks to normal paths leaves in every destination
the content that the blocks which went there make, whatever was there before
and whatever else is written in between.  The comments around a block are any
functions of what is known of it, and there are no links among the files.

**Invariant.**  `Holds` ties what is on disk at one destination to the blocks
that went there and to what the emitter remembers.  A step on another
destination keeps it (`Holds.edits`), a step on the same one extends it by a
block (`write_holds`).  `Tracks` says it of all destinations of a run.

**Main statements.**
* `emit_tracks`, `emitAll_tracks`: one step and a whole run keep the invariant.
* `emitAll_content`: what every destination holds in the end.
-/

namespace Literate
namespace Emitter

section Steps

variable {decoration : Decoration} {blocks : List RenderedBlock} {block : RenderedBlock}
  {file : OutputFile} {world world' : World} {p : Path}

/-- What is remembered about a destination after the blocks that went there. -/
structure Recalls (blocks : List RenderedBlock) (file : OutputFile) : Prop where
  /-- A first line is there when a block has asked for one. -/
  hasShebang : file.hasShebang = (firstShebang blocks).isSome
  /-- The file is executable when a block has asked for a first line. -/
  isExecutable : file.isExecutable = (firstShebang blocks).isSome
  /-- The blocks are counted. -/
  blockCount : file.blockCount = blocks.length

theorem Recalls.extended
    (block : RenderedBlock)
    (h : Recalls blocks file) :
    Recalls (blocks ++ [block]) (file.extended block) := by
  have hsome := isSome_firstShebang_concat block h.hasShebang
  have hsame : file.isExecutable = file.hasShebang := h.isExecutable.trans h.hasShebang.symm
  refine ⟨hsome.symm, ?_, ?_⟩
  · simp [OutputFile.extended, hsome, hsame]
  · simp [OutputFile.extended, h.blockCount]

/-- What is on disk and what is remembered about a destination after the blocks that went there. -/
structure Holds (decoration : Decoration) (blocks : List RenderedBlock) (p : Path)
    (file : OutputFile) (world : World) : Prop where
  /-- The file holds the content that the blocks make; without blocks there is no file. -/
  text : ∃ text, content decoration blocks = .ok text ∧ '\r' ∉ text ∧
    (blocks = [] ∧ ¬ world.files.IsFile p.parts ∨
      world.files.at? p.parts = some (.file (Text.encode text) (mode blocks) .present))
  /-- No records go into the file. -/
  log : world.logFile ≠ some p.parts
  /-- A first line is there when a block has asked for one. -/
  hasShebang : file.hasShebang = (firstShebang blocks).isSome
  /-- The file is executable when a block has asked for a first line. -/
  isExecutable : file.isExecutable = (firstShebang blocks).isSome
  /-- The blocks are counted. -/
  blockCount : file.blockCount = blocks.length

/-- Operations on other files do not matter. -/
theorem Holds.edits
    {touched : Place → Prop}
    (h : Holds decoration blocks p file world)
    (hedits : World.Edits touched world world')
    (hp : ¬ touched p.parts) :
    Holds decoration blocks p file world' := by
  obtain ⟨text, hcontent, hreturn, hdisk⟩ := h.text
  refine ⟨⟨text, hcontent, hreturn, ?_⟩, fun hlog => h.log (hedits.log _ hlog), h.hasShebang,
    h.isExecutable, h.blockCount⟩
  rcases hdisk with ⟨hempty, hfile⟩ | hfile
  · exact Or.inl ⟨hempty, fun hnew => hfile ((hedits.isFile_iff hp h.log).mp hnew)⟩
  · exact Or.inr ((hedits.at?_eq_iff hp h.log _ _ _).mpr hfile)

/-- What is read at a destination is the content that its blocks make, with the mode they ask for. -/
theorem Holds.content_eq
    {old : Text} {fileMode : Nat}
    (hholds : Holds decoration blocks p file world)
    (hreads : world.Reads p old fileMode) :
    content decoration blocks = .ok old ∧ '\r' ∉ old ∧ fileMode = mode blocks := by
  obtain ⟨text, hcontent, hreturn, hdisk⟩ := hholds.text
  rcases hreads with ⟨hnone, rfl, rfl⟩ | ⟨bytes, time, u, hfile, hdecode, rfl⟩
  · rcases hdisk with ⟨rfl, -⟩ | hdisk
    · exact ⟨rfl, by simp, rfl⟩
    · rw [hdisk] at hnone
      cases hnone
  · rcases hdisk with ⟨-, hmissing⟩ | hdisk
    · exact absurd ⟨_, _, _, hfile⟩ hmissing
    · rw [hdisk] at hfile
      cases hfile
      rw [Text.decode?_encode] at hdecode
      cases hdecode
      rw [Text.unifyLineEnds_eq_self hreturn]
      exact ⟨hcontent, hreturn, rfl⟩

/-- Writing one more block extends what the destination holds. -/
theorem write_holds
    {emitter emitter' : Emitter} {text : Text}
    (hp : p.IsNormal)
    (hworld : world.Consistent)
    (hholds : world.Reaches p → Holds decoration blocks p file world)
    (hrender : decoration.render block = .ok text)
    (htext : '\r' ∉ text)
    (hshebang : '\r' ∉ block.params.shebang)
    (h : (emitter.write p file block (pad file block text) : StateM World _) world =
      ((emitter', .ok ()), world')) :
    emitter' = emitter.note p (file.extended block) ∧
      Holds decoration (blocks ++ [block]) p (file.extended block) world' := by
  obtain ⟨old, fileMode, hreach, hreads, hnoted, -, hlogFile, hdisk⟩ := write_eq_ok hp.isRooted hworld h
  have hbefore := hholds hreach
  obtain ⟨hcontent, hold, rfl⟩ := hbefore.content_eq hreads
  have hnew := content_concat hbefore.hasShebang hbefore.blockCount hcontent hrender
  have hreturn : '\r' ∉ extend old (pad file block text) (shebangFor file block) :=
    not_mem_extend (by decide) hold htext hshebang
  have hmode : mode (blocks ++ [block]) = extendedMode file block (mode blocks) :=
    mode_concat block hbefore.hasShebang hbefore.isExecutable
  have hrecalls : Recalls (blocks ++ [block]) (file.extended block) :=
    Recalls.extended block ⟨hbefore.hasShebang, hbefore.isExecutable, hbefore.blockCount⟩
  refine ⟨hnoted, ⟨⟨_, hnew, hreturn, Or.inr ?_⟩, ?_, hrecalls.hasShebang, hrecalls.isExecutable,
    hrecalls.blockCount⟩⟩
  · rw [hmode, hdisk]
  · rw [hlogFile]
    exact hbefore.log

end Steps

section Runs

variable {decoration : Decoration} {emitter emitter' : Emitter} {world world' : World}
  {target : Target}

/-- The blocks that go to a path, in order. -/
def blocksAt (p : Path) (targets : List Target) : List RenderedBlock :=
  (targets.filter fun target => target.path = p).map Target.block

/-- What is written for a block has no carriage returns. -/
structure NoReturns (decoration : Decoration) (block : RenderedBlock) : Prop where
  /-- There is none in its text. -/
  text : ∀ text, decoration.render block = .ok text → '\r' ∉ text
  /-- There is none in the first line it asks for. -/
  shebang : '\r' ∉ block.params.shebang

/-- All destinations of a run hold what the blocks make that went there. -/
structure Tracks (decoration : Decoration) (done : List Target) (emitter : Emitter)
    (world : World) : Prop where
  /-- The world is consistent. -/
  consistent : world.Consistent
  /-- Blocks are decorated in the same way all along. -/
  decorated : emitter.decoration = decoration
  /-- A path that is not remembered has got no block. -/
  fresh : ∀ p, emitter.files.get? p = none → blocksAt p done = []
  /-- A path that is remembered holds its blocks. -/
  known : ∀ p file, p.IsNormal → emitter.files.get? p = some file →
    Holds decoration (blocksAt p done) p file world

theorem blocksAt_concat
    (p : Path) (done : List Target) (target : Target) :
    blocksAt p (done ++ [target]) =
      blocksAt p done ++ if target.path = p then [target.block] else [] := by
  by_cases hpath : target.path = p <;> simp [blocksAt, hpath]

/-- Opening a destination leaves there what its earlier blocks make. -/
theorem openFile_holds
    {done : List Target} {file : OutputFile}
    (hpath : target.path.IsNormal)
    (htracks : Tracks decoration done emitter world)
    (h : (emitter.openFile target : StateM World _) world = ((emitter', .ok file), world')) :
    emitter'.decoration = decoration ∧
      (∀ q, q ≠ target.path → emitter'.files.get? q = emitter.files.get? q) ∧
      World.Edits (· = target.path.parts) world world' ∧
      (world'.Reaches target.path →
        Holds decoration (blocksAt target.path done) target.path file world') := by
  have hedits := openFile_edits hpath.isRooted htracks.consistent h
  rcases openFile_cases h with ⟨known, hknown, hresult, rfl, rfl⟩ | ⟨hnew, hrest⟩
  · cases hresult
    exact ⟨htracks.decorated, fun _ _ => rfl, hedits, fun _ => htracks.known _ _ hpath hknown⟩
  · rcases hrest with ⟨failure, -, herror, -⟩ | ⟨hclear, hresult, rfl⟩
    · cases herror
    · cases hresult
      refine ⟨htracks.decorated, fun q hq => ?_, hedits, fun hreach => ?_⟩
      · rw [get?_enter, if_neg (Ne.symm hq)]
      · obtain ⟨hmissing, hlog⟩ := clear_eq_ok hpath.isRooted htracks.consistent hclear hreach
        rw [htracks.fresh _ hnew]
        exact ⟨⟨[], rfl, by simp, Or.inl ⟨rfl, hmissing⟩⟩, hlog, rfl, rfl, rfl⟩

/-- Writing a block keeps the invariant. -/
theorem emit_tracks
    {done : List Target} {p : Path}
    (hpath : target.path.IsNormal)
    (hreturns : NoReturns decoration target.block)
    (htracks : Tracks decoration done emitter world)
    (h : (emitter.emit target : StateM World _) world = ((emitter', .ok p), world')) :
    Tracks decoration (done ++ [target]) emitter' world' := by
  have hedits := emit_edits hpath.isRooted htracks.consistent h
  obtain ⟨opened, file, between, text, written, hopen, hrender, hwrite, -, rfl⟩ := emit_eq_ok h
  obtain ⟨hdecorated, hothers, hopenEdits, hholds⟩ := openFile_holds hpath htracks hopen
  rw [hdecorated] at hrender
  obtain ⟨rfl, hwritten⟩ :=
    write_holds hpath hopenEdits.consistent hholds hrender (hreturns.text text hrender)
      hreturns.shebang hwrite
  have hrecord := World.addRecord_rewrites (writtenRecord target)
    (write_edits hpath.isRooted hopenEdits.consistent hwrite).consistent
  refine ⟨hedits.consistent, hdecorated, ?_, ?_⟩
  · intro q hq
    rw [get?_note] at hq
    split at hq
    · cases hq
    · rename_i hother
      rw [hothers q (Ne.symm hother)] at hq
      rw [blocksAt_concat, if_neg hother, htracks.fresh q hq]
      rfl
  · intro q known hnormal hq
    rw [get?_note] at hq
    split at hq
    · rename_i hsame
      subst hsame
      cases hq
      rw [blocksAt_concat, if_pos rfl]
      exact hwritten.edits hrecord.toEdits not_false
    · rename_i hother
      rw [hothers q (Ne.symm hother)] at hq
      rw [blocksAt_concat, if_neg hother, List.append_nil]
      refine (htracks.known q known hnormal hq).edits hedits ?_
      intro hparts
      exact hother (hpath.eq_of_parts_eq hnormal hparts.symm)

/-- A whole run keeps the invariant. -/
theorem emitAll_tracks
    {done targets : List Target}
    (hpaths : ∀ target ∈ targets, target.path.IsNormal)
    (hreturns : ∀ target ∈ targets, NoReturns decoration target.block)
    (htracks : Tracks decoration done emitter world)
    (h : (emitter.emitAll targets : StateM World _) world = ((emitter', .ok ()), world')) :
    Tracks decoration (done ++ targets) emitter' world' := by
  induction targets generalizing done emitter world with
  | nil =>
      cases h
      rwa [List.append_nil]
  | cons target rest ih =>
      rcases emitAll_cons h with ⟨failure, -, herror⟩ | ⟨next, p, between, hemit, hrest⟩
      · cases herror
      · have hnext := emit_tracks (hpaths target (by simp)) (hreturns target (by simp)) htracks hemit
        have hlast := ih (fun other hother => hpaths other (List.mem_cons_of_mem _ hother))
          (fun other hother => hreturns other (List.mem_cons_of_mem _ hother)) hnext hrest
        rwa [List.append_assoc, List.singleton_append] at hlast

theorem tracks_nil
    (decoration : Decoration)
    (hworld : world.Consistent) :
    Tracks decoration [] { decoration := decoration } world :=
  ⟨hworld, rfl, fun _ _ => rfl, fun _ _ _ hnone => by cases hnone⟩

/-- Where a block has gone there is the content that the blocks make which went there. -/
theorem Tracks.exists_content
    {targets : List Target} {p : Path}
    (h : Tracks decoration targets emitter world)
    (hp : p.IsNormal)
    (hne : blocksAt p targets ≠ []) :
    ∃ text, content decoration (blocksAt p targets) = .ok text ∧
      world.files.at? p.parts =
        some (.file (Text.encode text) (mode (blocksAt p targets)) .present) := by
  cases hknown : emitter.files.get? p with
  | none =>
      exact absurd (h.fresh p hknown) hne
  | some file =>
      obtain ⟨text, hcontent, -, hdisk⟩ := (h.known p file hp hknown).text
      exact ⟨text, hcontent, hdisk.resolve_left fun hempty => hne hempty.1⟩

/-- Blocks that all go to one path leave there the content that they make. -/
theorem emitAll_onePath
    {p : Path} {blocks : List RenderedBlock} {text : Text}
    (hp : p.IsNormal)
    (hworld : world.Consistent)
    (hne : blocks ≠ [])
    (hreturns : ∀ block ∈ blocks, NoReturns decoration block)
    (hcontent : content decoration blocks = .ok text)
    (h : (({ decoration := decoration } : Emitter).emitAll (blocks.map (Target.mk p)) : StateM World _)
      world = ((emitter, .ok ()), world')) :
    world'.files.at? p.parts = some (.file (Text.encode text) (mode blocks) .present) := by
  have hblocks : blocksAt p (blocks.map (Target.mk p)) = blocks := by
    simp [blocksAt, List.filter_map, Function.comp_def]
  have hpaths : ∀ target ∈ blocks.map (Target.mk p), target.path.IsNormal := by
    intro target htarget
    obtain ⟨block, -, rfl⟩ := List.mem_map.mp htarget
    exact hp
  have hreturns' : ∀ target ∈ blocks.map (Target.mk p), NoReturns decoration target.block := by
    intro target htarget
    obtain ⟨block, hblock, rfl⟩ := List.mem_map.mp htarget
    exact hreturns block hblock
  have htracks := emitAll_tracks hpaths hreturns' (tracks_nil decoration hworld) h
  rw [List.nil_append] at htracks
  obtain ⟨text', hcontent', hdisk⟩ := htracks.exists_content hp (by rwa [hblocks])
  rw [hblocks] at hcontent' hdisk
  rw [hcontent] at hcontent'
  cases hcontent'
  exact hdisk

/-- **What destinations hold.**  After a run of a new emitter that succeeds, every destination holds
exactly the content that the blocks make which went there, with the mode they ask for, whatever was there
before and in whatever order the destinations were reached.  The two comments around a block may be made in
any way, also by one that fails on some blocks. -/
theorem emitAll_content
    (decoration : Decoration) (targets : List Target) (world : World)
    (hworld : world.Consistent)
    (hpaths : ∀ target ∈ targets, target.path.IsNormal)
    (hreturns : ∀ target ∈ targets, NoReturns decoration target.block)
    (emitter : Emitter) (world' : World)
    (hrun : (({ decoration := decoration } : Emitter).emitAll targets : StateM World _).run world =
      ((emitter, .ok ()), world'))
    (p : Path)
    (hp : blocksAt p targets ≠ []) :
    ∃ text, content decoration (blocksAt p targets) = .ok text ∧
      world'.files.at? p.parts =
        some (.file (Text.encode text) (mode (blocksAt p targets)) .present) := by
  have htracks := emitAll_tracks hpaths hreturns (tracks_nil decoration hworld) hrun
  rw [List.nil_append] at htracks
  obtain ⟨block, hblock⟩ := List.exists_mem_of_ne_nil _ hp
  obtain ⟨target, htarget, -⟩ := List.mem_map.mp hblock
  obtain ⟨hmem, hpath⟩ := List.mem_filter.mp htarget
  exact htracks.exists_content (of_decide_eq_true hpath ▸ hpaths target hmem) hp

/-- A block without a name or a language, by its text and its header arguments. -/
def plainBlock (text : Text) (arguments : List (Text × Text)) : RenderedBlock where
  source :=
    { language := []
      name := []
      params := ⟨arguments⟩
      body := text
      link := {} }
  text := text

/-- A first line that is asked for last comes to the top, and a file that was there is gone. -/
theorem emitAll_content_late_shebang :
    let decoration : Decoration := { opening := fun _ => .ok [], closing := fun _ => .ok [] }
    let files : FileSystem :=
      ⟨⟨[(["d"], .directory (.settled 0)), (["d", "a"], .file (Text.encode "old") 0o600 (.settled 0))]⟩⟩
    let world : World := { files := files, surroundings := { directory := ⟨.root, []⟩, home := ⟨.root, []⟩ } }
    let targets : List Target :=
      [⟨⟨.root, ["d", "a"]⟩, plainBlock "x" []⟩,
       ⟨⟨.root, ["d", "b"]⟩, plainBlock "z" []⟩,
       ⟨⟨.root, ["d", "a"]⟩, plainBlock "y" [("shebang", "#!/bin/sh")]⟩]
    world.Consistent ∧
      (∀ target ∈ targets, target.path.IsNormal ∧ NoReturns decoration target.block) ∧
      ∃ emitter world',
        (({ decoration := decoration } : Emitter).emitAll targets : StateM World _).run world =
          ((emitter, .ok ()), world') ∧
        world'.files.at? ["d", "a"] =
          some (.file (Text.encode "#!/bin/sh\nx\n\ny\n") 0o755 .present) := by
  intro decoration files world targets
  have hworld : world.Consistent := by
    refine ⟨?_, fun _ hnone => by cases hnone⟩
    intro place hne hsome
    by_cases hdirectory : ["d".toList] = place
    · rw [← hdirectory]
      exact world.files.isDirectory_nil
    · by_cases hfile : ["d".toList, "a".toList] = place
      · rw [← hfile]
        exact ⟨.settled 0, rfl⟩
      · have hnone : world.files.at? place = none := by
          rw [FileSystem.at?, if_neg (by simpa using hne)]
          exact (if_neg hdirectory).trans (if_neg hfile)
        rw [hnone] at hsome
        cases hsome
  have htargets :
      ∀ target ∈ targets, target.path.IsNormal ∧ NoReturns decoration target.block := by
    simp only [targets, List.forall_mem_cons]
    refine ⟨⟨⟨rfl, by decide⟩, ?_, by decide⟩, ⟨⟨rfl, by decide⟩, ?_, by decide⟩,
      ⟨⟨rfl, by decide⟩, ?_, by decide⟩, by simp⟩
    · intro text hrender
      obtain rfl : ("x\n" : Text) = text := Except.ok.inj hrender
      decide
    · intro text hrender
      obtain rfl : ("z\n" : Text) = text := Except.ok.inj hrender
      decide
    · intro text hrender
      obtain rfl : ("y\n" : Text) = text := Except.ok.inj hrender
      decide
  have hok :
      ((({ decoration := decoration } : Emitter).emitAll targets : StateM World _).run world).1.2 =
        .ok () := by
    rfl
  obtain ⟨emitter, world', hrun⟩ : ∃ emitter world',
      (({ decoration := decoration } : Emitter).emitAll targets : StateM World _).run world =
        ((emitter, .ok ()), world') := by
    generalize (({ decoration := decoration } : Emitter).emitAll targets : StateM World _).run world =
      outcome at hok
    exact ⟨outcome.1.1, outcome.2, Prod.ext (Prod.ext rfl hok) rfl⟩
  obtain ⟨text, hcontent, hfile⟩ := emitAll_content decoration targets world hworld
    (fun target htarget => (htargets target htarget).1)
    (fun target htarget => (htargets target htarget).2) emitter world' hrun ⟨.root, ["d", "a"]⟩
    (by decide)
  obtain rfl : ("#!/bin/sh\nx\n\ny\n" : Text) = text := Except.ok.inj hcontent
  exact ⟨hworld, htargets, emitter, world', hrun, hfile⟩

end Runs

end Emitter
end Literate
