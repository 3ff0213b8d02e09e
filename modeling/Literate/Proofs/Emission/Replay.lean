import Literate.Proofs.Emission.Steps

/-!
# Repeated runs

A run reads back what it has written itself and nothing else: a destination is
cleared before it is read for the first time.  A run that is repeated where it
has ended finds every directory it needs, so that it succeeds again and leaves
at every destination what was there.

**Invariant.**  `Settles` says of one run that the destinations it remembers are
files with a text.  `Mirrors` puts a second run beside it: both are at the same block, and
the same is at the destinations of the blocks before it.

**Main statements.**
* `emit_eq_ok_finds`, `emit_of_finds`: what a block leaves, by what it finds.
* `emit_mirrors`, `emitAll_mirrors`: a block and a whole run of the second run.
* `emitAll_of_reaches`: a run whose destinations can be reached.
* `emitAll_replay`: a run repeated where it has ended.
-/

namespace Literate
namespace Emitter

section Blocks

variable {emitter emitter' : Emitter} {target : Target} {world world' : World} {old : Text} {mode : Nat}

/-- The emitter and what it knows about a destination once the destination is open. -/
def opened (emitter : Emitter) (target : Target) : Emitter × OutputFile :=
  match emitter.files.get? target.path with
  | some file => (emitter, file)
  | none =>
      let file : OutputFile := { language := target.block.language }
      (emitter.enter target.path file, file)

/-- The emitter after a block has been written. -/
def after (emitter : Emitter) (target : Target) : Emitter :=
  (emitter.opened target).1.note target.path ((emitter.opened target).2.extended target.block)

/-- What is at a destination after the text of a block has been added to an old text. -/
def output (emitter : Emitter) (target : Target) (text old : Text) (mode : Nat) : Entry :=
  let file := (emitter.opened target).2
  .file (Text.encode (extend old (pad file target.block text) (shebangFor file target.block)))
    (extendedMode file target.block mode) .present

/-- What a block is added to: what is at a destination that is remembered, nothing otherwise. -/
def Finds (emitter : Emitter) (target : Target) (world : World) (old : Text) (mode : Nat) : Prop :=
  if (emitter.files.get? target.path).isSome then world.Reads target.path old mode
  else old = [] ∧ mode = FileSystem.newFileMode

theorem opened_decoration
    (emitter : Emitter) (target : Target) :
    (emitter.opened target).1.decoration = emitter.decoration := by
  unfold opened
  split <;> rfl

theorem after_decoration
    (emitter : Emitter) (target : Target) :
    (emitter.after target).decoration = emitter.decoration :=
  opened_decoration emitter target

/-- A block by another path changes nothing that is remembered about the path. -/
theorem get?_after_of_ne
    {p : Path} (emitter : Emitter)
    (h : target.path ≠ p) :
    (emitter.after target).files.get? p = emitter.files.get? p := by
  rw [after, get?_note, if_neg h]
  unfold opened
  split
  · rfl
  · dsimp only
    rw [get?_enter, if_neg h]

/-- Only the destination of the block is new to the emitter. -/
theorem isSome_get?_after
    {p : Path}
    (h : ((emitter.after target).files.get? p).isSome) :
    target.path = p ∨ (emitter.files.get? p).isSome := by
  by_cases hpath : target.path = p
  · exact Or.inl hpath
  · rw [get?_after_of_ne emitter hpath] at h
    exact Or.inr h

/-- Opening a destination, from its success: what is read there is what the block finds. -/
theorem openFile_eq_ok_finds
    {file : OutputFile}
    (hpath : target.path.IsRooted)
    (hworld : world.Consistent)
    (hlog : (emitter.files.get? target.path).isSome → world.logFile ≠ some target.path.parts)
    (h : (emitter.openFile target : StateM World _) world = ((emitter', .ok file), world'))
    (hreach : world'.Reaches target.path)
    (hreads : world'.Reads target.path old mode) :
    emitter.opened target = (emitter', file) ∧ emitter.Finds target world old mode ∧
      world'.logFile ≠ some target.path.parts := by
  rcases openFile_cases h with ⟨known, hknown, hresult, rfl, rfl⟩ | ⟨hnew, hrest⟩
  · cases hresult
    refine ⟨by simp [opened, hknown], ?_, hlog (by simp [hknown])⟩
    simpa [Finds, hknown] using hreads
  · rcases hrest with ⟨failure, -, herror, -⟩ | ⟨hclear, hresult, rfl⟩
    · cases herror
    · cases hresult
      obtain ⟨hmissing, hlog'⟩ := clear_eq_ok hpath hworld hclear hreach
      refine ⟨by simp [opened, hnew], ?_, hlog'⟩
      simpa [Finds, hnew] using hreads.eq_of_not_isFile hmissing

/-- Opening a destination that can be reached. -/
theorem openFile_of_finds
    (hpath : target.path.IsRooted)
    (hworld : world.Consistent)
    (hlog : (emitter.files.get? target.path).isSome → world.logFile ≠ some target.path.parts)
    (hreach : world.Reaches target.path)
    (hplace : ¬ world.files.IsDirectory target.path.parts)
    (hfinds : emitter.Finds target world old mode) :
    ∃ world', (emitter.openFile target : StateM World _) world =
        (((emitter.opened target).1, .ok (emitter.opened target).2), world') ∧
      World.Rewrites (· = target.path.parts) world world' ∧
      world'.Reads target.path old mode ∧ world'.logFile ≠ some target.path.parts := by
  unfold Finds at hfinds
  rw [openFile, opened]
  cases hget : emitter.files.get? target.path with
  | some file =>
      rw [hget] at hfinds
      exact ⟨world, rfl, World.Rewrites.refl hworld, hfinds, hlog (by simp [hget])⟩
  | none =>
      rw [hget] at hfinds
      obtain ⟨rfl, rfl⟩ := hfinds
      obtain ⟨cleared, hclear, hrewrites, hvacant⟩ :=
        clear_of_reaches target.block hpath hworld hreach hplace
      refine ⟨cleared, ?_, hrewrites, hvacant.reads, hvacant.log⟩
      dsimp only
      rw [World.bind_apply, hclear]
      rfl

/-- What a block that is written leaves, by what it finds. -/
theorem emit_eq_ok_finds
    {p : Path}
    (hpath : target.path.IsRooted)
    (hworld : world.Consistent)
    (hlog : (emitter.files.get? target.path).isSome → world.logFile ≠ some target.path.parts)
    (h : (emitter.emit target : StateM World _) world = ((emitter', .ok p), world')) :
    ∃ text old mode, emitter.decoration.render target.block = .ok text ∧
      emitter.Finds target world old mode ∧ world'.Reaches target.path ∧
      p = target.path ∧ emitter' = emitter.after target ∧
      world'.logFile ≠ some target.path.parts ∧
      world'.files.at? target.path.parts = some (emitter.output target text old mode) := by
  obtain ⟨first, file, between, text, written, hopen, hrender, hwrite, rfl, rfl⟩ := emit_eq_ok h
  have hconsistent := (openFile_edits hpath hworld hopen).consistent
  obtain ⟨old, mode, hreach, hreads, hnoted, hrewrites, hlogFile, hfile⟩ :=
    write_eq_ok hpath hconsistent hwrite
  obtain ⟨hopened, hfinds, hlog'⟩ := openFile_eq_ok_finds hpath hworld hlog hopen hreach hreads
  have hrecord := World.addRecord_rewrites (writtenRecord target) hrewrites.consistent
  rw [← hlogFile] at hlog'
  refine ⟨text, old, mode, ?_, hfinds, ?_, rfl, ?_, hrecord.log_ne hlog', ?_⟩
  · rw [← opened_decoration emitter target, hopened]
    exact hrender
  · exact (hreach.edits hpath hrewrites.toEdits).edits hpath hrecord.toEdits
  · rw [after, hopened]
    exact hnoted
  · rw [output, hopened]
    exact (hrecord.at?_eq_iff not_false hlog' _ _ _).mpr hfile

/-- A block whose destination can be reached is written. -/
theorem emit_of_finds
    {text : Text}
    (hpath : target.path.IsRooted)
    (hworld : world.Consistent)
    (hlog : (emitter.files.get? target.path).isSome → world.logFile ≠ some target.path.parts)
    (hreach : world.Reaches target.path)
    (hplace : ¬ world.files.IsDirectory target.path.parts)
    (hrender : emitter.decoration.render target.block = .ok text)
    (hfinds : emitter.Finds target world old mode) :
    ∃ world', (emitter.emit target : StateM World _) world =
        ((emitter.after target, .ok target.path), world') ∧
      World.Rewrites (· = target.path.parts) world world' ∧
      world'.files.at? target.path.parts = some (emitter.output target text old mode) := by
  obtain ⟨between, hopen, hopening, hreads, hlog'⟩ :=
    openFile_of_finds hpath hworld hlog hreach hplace hfinds
  obtain ⟨written, hwrite, hwriting, hlogFile, hfile⟩ :=
    write_of_reads (emitter.opened target).1 (emitter.opened target).2 target.block
      (pad (emitter.opened target).2 target.block text) hpath hopening.consistent
      (hreach.edits hpath hopening.toEdits) hreads
  have hrecord := World.addRecord_rewrites (writtenRecord target) hwriting.consistent
  rw [← hlogFile] at hlog'
  refine ⟨written.addRecord (writtenRecord target), ?_,
    (hopening.trans hwriting).trans hrecord.widen, ?_⟩
  · rw [← opened_decoration emitter target] at hrender
    rw [emit, World.bind_apply, hopen]
    dsimp only
    rw [hrender]
    dsimp only
    rw [World.bind_apply, hwrite]
    rfl
  · exact (hrecord.at?_eq_iff not_false hlog' _ _ _).mpr hfile

end Blocks

section Runs

variable {emitter emitter' : Emitter} {target : Target} {done targets : List Target}
  {world world' first first' second : World}

/-- The destinations of a run are files, also those that it remembers. -/
structure Settles (done : List Target) (emitter : Emitter) (world : World) : Prop where
  /-- The world is consistent. -/
  consistent : world.Consistent
  /-- A path that is remembered has got a block. -/
  known : ∀ p, (emitter.files.get? p).isSome → ∃ target ∈ done, target.path = p
  /-- Where a block has gone there is a file with a text, and no records go there. -/
  files : ∀ target ∈ done,
    (∃ text mode, world.files.at? target.path.parts =
      some (.file (Text.encode text) mode .present)) ∧
    world.logFile ≠ some target.path.parts

/-- A run that has written nothing. -/
theorem settles_nil
    (decoration : Decoration)
    (hworld : world.Consistent) :
    Settles [] { decoration := decoration } world := by
  refine ⟨hworld, fun p hsome => ?_, fun target hmem => ?_⟩
  · cases hsome
  · cases hmem

theorem Settles.log_ne
    (h : Settles done emitter world)
    (hsome : (emitter.files.get? target.path).isSome) :
    world.logFile ≠ some target.path.parts := by
  obtain ⟨other, hother, hpath⟩ := h.known _ hsome
  rw [← hpath]
  exact (h.files other hother).2

/-- A block always has something to be added to. -/
theorem Settles.exists_finds
    (h : Settles done emitter world)
    (target : Target) :
    ∃ old mode, emitter.Finds target world old mode := by
  unfold Finds
  cases hsome : (emitter.files.get? target.path).isSome with
  | false =>
      exact ⟨[], _, rfl, rfl⟩
  | true =>
      obtain ⟨other, hother, hpath⟩ := h.known _ hsome
      obtain ⟨⟨text, mode, hentry⟩, -⟩ := h.files other hother
      rw [hpath] at hentry
      exact ⟨_, mode, Or.inr ⟨_, _, text, hentry, Text.decode?_encode text, rfl⟩⟩

/-- Writing a block keeps the destinations files. -/
theorem emit_settles
    {p : Path}
    (hpath : target.path.IsRooted)
    (hsettles : Settles done emitter world)
    (h : (emitter.emit target : StateM World _) world = ((emitter', .ok p), world')) :
    Settles (done ++ [target]) emitter' world' := by
  have hedits := emit_edits hpath hsettles.consistent h
  obtain ⟨text, old, mode, -, -, -, -, rfl, hlog, hfile⟩ :=
    emit_eq_ok_finds hpath hsettles.consistent hsettles.log_ne h
  refine ⟨hedits.consistent, ?_, ?_⟩
  · intro q hq
    rcases isSome_get?_after hq with rfl | hold
    · exact ⟨target, by simp, rfl⟩
    · obtain ⟨other, hother, hpath'⟩ := hsettles.known q hold
      exact ⟨other, List.mem_append_left _ hother, hpath'⟩
  · intro other hother
    by_cases hparts : other.path.parts = target.path.parts
    · rw [hparts]
      exact ⟨⟨_, _, hfile⟩, hlog⟩
    · rcases List.mem_append.mp hother with hold | hnew
      · obtain ⟨⟨old, oldMode, hentry⟩, hlog'⟩ := hsettles.files other hold
        exact ⟨⟨old, oldMode, (hedits.at?_eq_iff hparts hlog' _ _ _).mpr hentry⟩, hedits.log_ne hlog'⟩
      · rw [List.mem_singleton.mp hnew] at hparts
        exact absurd rfl hparts

theorem emitAll_settles
    (hpaths : ∀ target ∈ targets, target.path.IsRooted)
    (hsettles : Settles done emitter world)
    (h : (emitter.emitAll targets : StateM World _) world = ((emitter', .ok ()), world')) :
    Settles (done ++ targets) emitter' world' := by
  induction targets generalizing done emitter world with
  | nil =>
      cases h
      rwa [List.append_nil]
  | cons target rest ih =>
      rcases emitAll_cons h with ⟨failure, -, herror⟩ | ⟨next, p, between, hemit, hrest⟩
      · cases herror
      · have hnext := emit_settles (hpaths target (by simp)) hsettles hemit
        have hlast := ih (fun other hother => hpaths other (List.mem_cons_of_mem _ hother)) hnext hrest
        rwa [List.append_assoc, List.singleton_append] at hlast

/-- A run succeeds when all its destinations can be reached and all its blocks can be rendered. -/
theorem emitAll_of_reaches
    (hpaths : ∀ target ∈ targets, target.path.IsRooted)
    (hsettles : Settles done emitter world)
    (hreach : ∀ target ∈ targets,
      world.Reaches target.path ∧ ¬ world.files.IsDirectory target.path.parts)
    (hrender : ∀ target ∈ targets, ∃ text, emitter.decoration.render target.block = .ok text) :
    ∃ emitter' world', (emitter.emitAll targets : StateM World _) world =
      ((emitter', .ok ()), world') := by
  induction targets generalizing done emitter world with
  | nil =>
      exact ⟨emitter, world, rfl⟩
  | cons target rest ih =>
      simp only [List.forall_mem_cons] at hpaths hreach hrender
      obtain ⟨text, htext⟩ := hrender.1
      obtain ⟨old, mode, hfinds⟩ := hsettles.exists_finds target
      obtain ⟨between, hemit, hrewrites, -⟩ := emit_of_finds hpaths.1 hsettles.consistent
        hsettles.log_ne hreach.1.1 hreach.1.2 htext hfinds
      have hreach' : ∀ other ∈ rest,
          between.Reaches other.path ∧ ¬ between.files.IsDirectory other.path.parts := by
        intro other hother
        obtain ⟨hreaches, hplace⟩ := hreach.2 other hother
        exact ⟨hreaches.edits (hpaths.2 other hother) hrewrites.toEdits,
          fun hdirectory => hplace (hrewrites.directories _ hdirectory)⟩
      have hrender' : ∀ other ∈ rest,
          ∃ text, (emitter.after target).decoration.render other.block = .ok text := by
        rw [after_decoration]
        exact hrender.2
      obtain ⟨emitter', world', hrest⟩ :=
        ih hpaths.2 (emit_settles hpaths.1 hsettles hemit) hreach' hrender'
      refine ⟨emitter', world', ?_⟩
      rw [emitAll, World.bind_apply, hemit]
      exact hrest

/-- A run that succeeds leaves a file where there was one, whether it is a destination or not. -/
theorem emitAll_isFile
    {decoration : Decoration} {place : Place}
    (hpaths : ∀ target ∈ targets, target.path.IsRooted)
    (hworld : world.Consistent)
    (h : (({ decoration := decoration } : Emitter).emitAll targets : StateM World _) world =
      ((emitter, .ok ()), world'))
    (hlog : world.logFile ≠ some place)
    (hfile : world.files.IsFile place) :
    world'.files.IsFile place := by
  by_cases htarget : ∃ target ∈ targets, target.path.parts = place
  · obtain ⟨target, hmem, rfl⟩ := htarget
    obtain ⟨⟨text, mode, hentry⟩, -⟩ :=
      (emitAll_settles hpaths (settles_nil decoration hworld) h).files target (by simpa using hmem)
    exact ⟨_, mode, .present, hentry⟩
  · exact ((emitAll_edits hpaths hworld h).isFile_iff htarget hlog).mpr hfile

/-- Two runs that have written the same blocks: the same is at the destinations of these blocks. -/
structure Mirrors (done : List Target) (emitter : Emitter) (first second : World) : Prop where
  /-- The first run is settled. -/
  left : Settles done emitter first
  /-- The second run is settled. -/
  right : Settles done emitter second
  /-- The same is at the destinations. -/
  same : ∀ target ∈ done, second.files.at? target.path.parts = first.files.at? target.path.parts

/-- A block finds the same in both runs. -/
theorem Mirrors.finds
    {old : Text} {mode : Nat}
    (h : Mirrors done emitter first second)
    (hfinds : emitter.Finds target first old mode) :
    emitter.Finds target second old mode := by
  unfold Finds at hfinds ⊢
  split at hfinds
  · rename_i hsome
    obtain ⟨other, hother, hpath⟩ := h.left.known _ hsome
    rw [if_pos hsome]
    refine hfinds.of_at?_eq ?_
    rw [← hpath]
    exact h.same other hother
  · rename_i hnone
    rwa [if_neg hnone]

/-- A block that the first run has written is written by the second, which makes no directories. -/
theorem emit_mirrors
    {p : Path}
    (hpath : target.path.IsRooted)
    (hmirrors : Mirrors done emitter first second)
    (hdirectories : ∀ place, first'.files.IsDirectory place → second.files.IsDirectory place)
    (hplace : ¬ second.files.IsDirectory target.path.parts)
    (h : (emitter.emit target : StateM World _) first = ((emitter', .ok p), first')) :
    ∃ second', (emitter.emit target : StateM World _) second = ((emitter', .ok p), second') ∧
      World.Rewrites (· = target.path.parts) second second' ∧
      Mirrors (done ++ [target]) emitter' first' second' := by
  have hsettles := emit_settles hpath hmirrors.left h
  have hedits := emit_edits hpath hmirrors.left.consistent h
  obtain ⟨text, old, mode, hrender, hfinds, hreach, rfl, rfl, -, hfile⟩ :=
    emit_eq_ok_finds hpath hmirrors.left.consistent hmirrors.left.log_ne h
  obtain ⟨second', hrun, hrewrites, hfile'⟩ :=
    emit_of_finds hpath hmirrors.right.consistent hmirrors.right.log_ne
      (hreach.of_directories hpath hdirectories) hplace hrender (hmirrors.finds hfinds)
  refine ⟨second', hrun, hrewrites, hsettles, emit_settles hpath hmirrors.right hrun, ?_⟩
  intro other hother
  by_cases hparts : other.path.parts = target.path.parts
  · rw [hparts, hfile, hfile']
  · rcases List.mem_append.mp hother with hold | hnew
    · obtain ⟨⟨text, mode, hentry⟩, hlog⟩ := hmirrors.left.files other hold
      obtain ⟨-, hlog'⟩ := hmirrors.right.files other hold
      have hentry' := hmirrors.same other hold
      rw [hentry] at hentry'
      rw [(hedits.at?_eq_iff hparts hlog _ _ _).mpr hentry,
        (hrewrites.at?_eq_iff hparts hlog' _ _ _).mpr hentry']
    · rw [List.mem_singleton.mp hnew] at hparts
      exact absurd rfl hparts

/-- What the first run has written is written by the second, which makes no directories. -/
theorem emitAll_mirrors
    (hpaths : ∀ target ∈ targets, target.path.IsRooted)
    (hmirrors : Mirrors done emitter first second)
    (hdirectories : ∀ place, first'.files.IsDirectory place → second.files.IsDirectory place)
    (hplaces : ∀ target ∈ targets, ¬ second.files.IsDirectory target.path.parts)
    (h : (emitter.emitAll targets : StateM World _) first = ((emitter', .ok ()), first')) :
    ∃ second', (emitter.emitAll targets : StateM World _) second = ((emitter', .ok ()), second') ∧
      World.Rewrites (fun place => ∃ target ∈ targets, target.path.parts = place) second second' ∧
      Mirrors (done ++ targets) emitter' first' second' := by
  induction targets generalizing done emitter first second with
  | nil =>
      cases h
      rw [List.append_nil]
      exact ⟨second, rfl, World.Rewrites.refl hmirrors.right.consistent, hmirrors⟩
  | cons target rest ih =>
      rcases emitAll_cons h with ⟨failure, -, herror⟩ | ⟨next, p, between, hemit, hrest⟩
      · cases herror
      have hpath := hpaths target (by simp)
      have hpaths' : ∀ other ∈ rest, other.path.IsRooted :=
        fun other hother => hpaths other (List.mem_cons_of_mem _ hother)
      have hlater := emitAll_edits hpaths' (emit_edits hpath hmirrors.left.consistent hemit).consistent hrest
      -- directories only come, so that those of the first run so far are among its last ones
      obtain ⟨second₁, hemit', hrewrites, hmirrors'⟩ := emit_mirrors hpath hmirrors
        (fun place hplace => hdirectories place (hlater.isDirectory hplace)) (hplaces target (by simp)) hemit
      obtain ⟨second', hrest', hrewrites', hlast⟩ := ih hpaths' hmirrors'
        (fun place hplace => hrewrites.toEdits.isDirectory (hdirectories place hplace))
        (fun other hother hplace =>
          hplaces other (List.mem_cons_of_mem _ hother) (hrewrites.directories _ hplace)) hrest
      refine ⟨second', ?_, ?_, ?_⟩
      · rw [emitAll, World.bind_apply, hemit']
        exact hrest'
      · refine (hrewrites.mono ?_).trans (hrewrites'.mono ?_)
        · rintro place rfl
          exact ⟨target, by simp, rfl⟩
        · rintro place ⟨other, hother, hplace⟩
          exact ⟨other, List.mem_cons_of_mem _ hother, hplace⟩
      · rwa [List.append_assoc, List.singleton_append] at hlast

/-- A run that has succeeded succeeds again where it has ended, with the same result, and leaves the same
at its destinations. -/
theorem emitAll_replay
    {decoration : Decoration} {later : World}
    (hpaths : ∀ target ∈ targets, target.path.IsRooted)
    (hworld : world.Consistent)
    (h : (({ decoration := decoration } : Emitter).emitAll targets : StateM World _) world =
      ((emitter, .ok ()), world'))
    (hlater : World.Rewrites (fun _ => False) world' later) :
    ∃ last, (({ decoration := decoration } : Emitter).emitAll targets : StateM World _) later =
        ((emitter, .ok ()), last) ∧
      World.Rewrites (fun place => ∃ target ∈ targets, target.path.parts = place) later last ∧
      ∀ target ∈ targets, last.files.at? target.path.parts = world'.files.at? target.path.parts := by
  have hstart := settles_nil decoration hworld
  have hend := emitAll_settles hpaths hstart h
  rw [List.nil_append] at hend
  have hplaces : ∀ target ∈ targets, ¬ later.files.IsDirectory target.path.parts := by
    intro target htarget hdirectory
    obtain ⟨time, hentry⟩ := hlater.directories _ hdirectory
    obtain ⟨⟨text, mode, hfile⟩, -⟩ := hend.files target htarget
    rw [hfile] at hentry
    cases hentry
  obtain ⟨last, hrun, hrewrites, hmirrors⟩ := emitAll_mirrors hpaths
    ⟨hstart, settles_nil decoration hlater.consistent, fun _ hmem => by cases hmem⟩
    (fun _ hplace => hlater.toEdits.isDirectory hplace) hplaces h
  exact ⟨last, hrun, hrewrites, fun target htarget => hmirrors.same target (by simpa using htarget)⟩

end Runs

end Emitter
end Literate
