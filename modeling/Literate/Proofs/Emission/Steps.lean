import Literate.Emission
import Literate.Proofs.Dictionary
import Literate.Proofs.Host

/-!
# Steps of an emitter

What the steps of an emitter do to the world, whatever comes of them.

**Clearing.**  Either no file is removed, or the destination is vacant afterwards
(`clear_cases`): a removal shows that the path can be reached, so that nothing
after it can fail.

**Writing.**  Writing reads what is at the destination, and succeeds exactly when
the path is reached and what is there can be read (`write_of_reads`,
`write_eq_ok`).  What it leaves depends on what it has read and on nothing
else.  When it fails it has changed nothing (`write_eq_error`).

**Main statements.**
* `emit_edits`, `emitAll_edits`: whatever the outcome, only destinations change.
* `emit_error_cases`: a block that fails changes no file, unless it could not be
  rendered.
* `emitAll_eq_error`: a run that fails stops at the first block that fails.
-/

namespace Literate

namespace World

/-- A destination that can be reached and where nothing is. -/
structure Vacant (world : World) (p : Path) : Prop where
  /-- The path is reached. -/
  reach : world.Reaches p
  /-- Nothing is there. -/
  absent : world.files.at? p.parts = none
  /-- No records go there. -/
  log : world.logFile ≠ some p.parts

/-- The text that a chunk is added to, and the mode of the file it is added to. -/
def Reads (world : World) (p : Path) (old : Text) (mode : Nat) : Prop :=
  (world.files.at? p.parts = none ∧ old = [] ∧ mode = FileSystem.newFileMode) ∨
    ∃ bytes time t, world.files.at? p.parts = some (.file bytes mode time) ∧
      Text.decode? bytes = some t ∧ old = Text.unifyLineEnds t

theorem Vacant.reads
    {world : World} {p : Path}
    (h : world.Vacant p) :
    world.Reads p [] FileSystem.newFileMode :=
  Or.inl ⟨h.absent, rfl, rfl⟩

theorem Reads.not_isDirectory
    {world : World} {p : Path} {old : Text} {mode : Nat}
    (h : world.Reads p old mode) :
    ¬ world.files.IsDirectory p.parts := by
  rintro ⟨time, hdirectory⟩
  rcases h with ⟨hnone, -, -⟩ | ⟨bytes, time', t, hfile, -, -⟩
  · rw [hdirectory] at hnone
    cases hnone
  · rw [hdirectory] at hfile
    cases hfile

/-- What is read depends on what is at the destination alone. -/
theorem Reads.of_at?_eq
    {world world' : World} {p : Path} {old : Text} {mode : Nat}
    (h : world.Reads p old mode)
    (heq : world'.files.at? p.parts = world.files.at? p.parts) :
    world'.Reads p old mode := by
  unfold Reads
  rwa [heq]

/-- Where there is no file, nothing is read. -/
theorem Reads.eq_of_not_isFile
    {world : World} {p : Path} {old : Text} {mode : Nat}
    (h : world.Reads p old mode)
    (hfile : ¬ world.files.IsFile p.parts) :
    old = [] ∧ mode = FileSystem.newFileMode := by
  rcases h with ⟨-, hold, hmode⟩ | ⟨bytes, time, t, hsome, -, -⟩
  · exact ⟨hold, hmode⟩
  · exact absurd ⟨bytes, mode, time, hsome⟩ hfile

end World

/-- What is known about a destination once a block is to be written to it. -/
def OutputFile.begun (file : OutputFile) (block : RenderedBlock) : OutputFile :=
  { file with hasShebang := file.hasShebang || (Emitter.shebangFor file block).isSome }

/-- What is known about a destination after one more block. -/
def OutputFile.extended (file : OutputFile) (block : RenderedBlock) : OutputFile :=
  let hasShebang := file.hasShebang || (Emitter.shebangFor file block).isSome
  { file with
    hasShebang := hasShebang
    isExecutable := file.isExecutable || hasShebang
    blockCount := file.blockCount + 1 }

namespace Emitter

/-- The mode of a destination after one more block. -/
def extendedMode (file : OutputFile) (block : RenderedBlock) (mode : Nat) : Nat :=
  if (file.hasShebang || (shebangFor file block).isSome) && !file.isExecutable then executableMode
  else mode

section Attempts

variable {α : Type} {world world' : World} {p : Path}

/-- An attempt ends as the operation of the host does. -/
theorem attempt_cases
    {operation : StateM World (Except Fault α)} {result : Except Failure α}
    (h : (attempt p operation : ExceptT Failure (StateM World) α).run world = (result, world')) :
    (∃ cause, operation world = (.error cause, world') ∧ result = .error (failureAt p cause)) ∨
      ∃ a, operation world = (.ok a, world') ∧ result = .ok a := by
  rw [attempt, World.run_bind_of_ok (World.run_lift operation world)] at h
  cases hoperation : operation world with
  | mk first between =>
      rw [hoperation] at h
      cases first with
      | error cause =>
          cases h
          exact Or.inl ⟨cause, rfl, rfl⟩
      | ok a =>
          cases h
          exact Or.inr ⟨a, rfl, rfl⟩

/-- An attempt that something follows fails as the operation of the host does, or lets it follow. -/
theorem attempt_bind_cases
    {β : Type} {operation : StateM World (Except Fault α)}
    {f : α → ExceptT Failure (StateM World) β} {result : Except Failure β}
    (h : (attempt p operation >>= f).run world = (result, world')) :
    (∃ cause, operation world = (.error cause, world') ∧ result = .error (failureAt p cause)) ∨
      ∃ a between, operation world = (.ok a, between) ∧ (f a).run between = (result, world') := by
  rcases World.run_bind_cases h with ⟨failure, hfirst, rfl⟩ | ⟨a, between, hfirst, hrest⟩
  · rcases attempt_cases hfirst with ⟨cause, hoperation, hfailure⟩ | ⟨a, -, hok⟩
    · cases hfailure
      exact Or.inl ⟨cause, hoperation, rfl⟩
    · cases hok
  · rcases attempt_cases hfirst with ⟨cause, -, herror⟩ | ⟨value, hoperation, hvalue⟩
    · cases herror
    · cases hvalue
      exact Or.inr ⟨a, between, hoperation, hrest⟩

theorem attempt_of_ok
    {operation : StateM World (Except Fault α)} {a : α}
    (h : operation world = (.ok a, world')) :
    (attempt p operation : ExceptT Failure (StateM World) α).run world = (.ok a, world') := by
  rw [attempt, World.run_bind_of_ok (World.run_lift operation world), h]
  rfl

end Attempts

section Clearing

variable {block : RenderedBlock} {world world' : World} {p : Path} {result : Except Failure Unit}

/-- Making the directories above a destination concerns no file. -/
theorem makeAbove_edits
    (hp : p.IsRooted)
    (hworld : world.Consistent)
    (h : (makeAbove p block : ExceptT Failure (StateM World) Unit).run world = (result, world')) :
    World.Edits (fun _ => False) world world' := by
  unfold makeAbove at h
  split at h
  · rcases attempt_bind_cases h with ⟨cause, hexists, -⟩ | ⟨found, between, hexists, hrest⟩
    · obtain rfl := World.pathExists_state hexists
      exact World.Edits.refl hworld
    · obtain rfl := World.pathExists_state hexists
      cases found with
      | true =>
          cases hrest
          exact World.Edits.refl hworld
      | false =>
          have hedits := World.makeDirectories_edits (p.parts.length + 1) hp.parent hworld
          rcases attempt_cases hrest with ⟨cause, hmake, -⟩ | ⟨made, hmake, -⟩
          · rwa [hmake] at hedits
          · rwa [hmake] at hedits
  · cases h
    exact World.Edits.refl hworld

/-- Above a path that is reached nothing is missing. -/
theorem makeAbove_of_reaches
    (block : RenderedBlock)
    (hp : p.IsRooted)
    (hreach : world.Reaches p) :
    (makeAbove p block : ExceptT Failure (StateM World) Unit).run world = (.ok (), world) := by
  unfold makeAbove
  split
  · rw [World.run_bind_of_ok (attempt_of_ok (World.pathExists_parent hp hreach))]
    rfl
  · rfl

/-- The report of a removal. -/
def removalRecord (p : Path) : Record :=
  ⟨.debug, .emission, "Removed stale " ++ p.toText⟩

/-- After a removal and its report the destination is vacant. -/
theorem removeFile_vacant
    {removed : World}
    (hp : p.IsRooted)
    (hworld : world.Consistent)
    (hreach : world.Reaches p)
    (h : (Host.removeFile p : StateM World _) world = (.ok (), removed)) :
    World.Rewrites (· = p.parts) world (removed.addRecord (removalRecord p)) ∧
      (removed.addRecord (removalRecord p)).Vacant p := by
  obtain ⟨hrewrites, hnone, hlog⟩ := World.removeFile_eq_ok hp hworld h
  have hrecord := World.addRecord_rewrites (removalRecord p) hrewrites.consistent
  have hall := hrewrites.trans hrecord.widen
  refine ⟨hall, hreach.edits hp hall.toEdits, ?_, hrecord.log_ne hlog⟩
  cases hentry : (removed.addRecord (removalRecord p)).files.at? p.parts with
  | none =>
      rfl
  | some entry =>
      cases entry with
      | file content mode time =>
          have hold := (hrecord.at?_eq_iff not_false hlog content mode time).mp hentry
          rw [hnone] at hold
          cases hold
      | directory time =>
          obtain ⟨time', hold⟩ := hrecord.directories _ ⟨time, hentry⟩
          rw [hnone] at hold
          cases hold

/-- Clearing removes no file, or leaves the destination vacant. -/
theorem clear_cases
    (hp : p.IsRooted)
    (hworld : world.Consistent)
    (h : (clear p block : ExceptT Failure (StateM World) Unit).run world = (result, world')) :
    (World.Edits (fun _ => False) world world' ∧
        (result = .ok () → (Host.pathExists p : StateM World _) world = (.ok false, world))) ∨
      (World.Rewrites (· = p.parts) world world' ∧ world'.Vacant p ∧ result = .ok ()) := by
  rcases attempt_bind_cases h with ⟨cause, hexists, rfl⟩ | ⟨found, between, hexists, hrest⟩
  · obtain rfl := World.pathExists_state hexists
    exact Or.inl ⟨World.Edits.refl hworld, fun hok => by cases hok⟩
  · obtain rfl := World.pathExists_state hexists
    cases found with
    | false =>
        exact Or.inl ⟨makeAbove_edits hp hworld hrest, fun _ => hexists⟩
    | true =>
        have hreach := World.reaches_of_pathExists hp hexists
        rcases attempt_bind_cases hrest with ⟨cause, hremove, rfl⟩ | ⟨⟨⟩, removed, hremove, hrest⟩
        · obtain rfl := World.removeFile_eq_error hremove
          exact Or.inl ⟨World.Edits.refl hworld, fun hok => by cases hok⟩
        · obtain ⟨hrewrites, hvacant⟩ := removeFile_vacant hp hworld hreach hremove
          have hmade := makeAbove_of_reaches block hp hvacant.reach
          rw [World.run_bind_of_ok (World.run_lift _ _)] at hrest
          change (makeAbove p block : ExceptT Failure (StateM World) Unit).run
            (removed.addRecord (removalRecord p)) = (result, world') at hrest
          rw [hmade] at hrest
          cases hrest
          exact Or.inr ⟨hrewrites, hvacant, rfl⟩

/-- Where clearing has succeeded there is no file. -/
theorem clear_eq_ok
    (hp : p.IsRooted)
    (hworld : world.Consistent)
    (h : (clear p block : ExceptT Failure (StateM World) Unit).run world = (.ok (), world'))
    (hreach : world'.Reaches p) :
    ¬ world'.files.IsFile p.parts ∧ world'.logFile ≠ some p.parts := by
  rcases clear_cases hp hworld h with ⟨hedits, hexists⟩ | ⟨-, hvacant, -⟩
  · have hfile := World.not_isFile_of_pathExists hp hworld (hreach.hasNull_eq_false hp) (hexists rfl)
    have hlog : world.logFile ≠ some p.parts := fun hlog => hfile (hworld.log _ hlog)
    refine ⟨?_, hedits.log_ne hlog⟩
    rwa [hedits.isFile_iff not_false hlog]
  · refine ⟨?_, hvacant.log⟩
    rintro ⟨content, mode, time, hfile⟩
    rw [hvacant.absent] at hfile
    cases hfile

/-- Clearing a path that is reached and leads to no directory succeeds. -/
theorem clear_of_reaches
    (block : RenderedBlock)
    (hp : p.IsRooted)
    (hworld : world.Consistent)
    (hreach : world.Reaches p)
    (hplace : ¬ world.files.IsDirectory p.parts) :
    ∃ world', (clear p block : ExceptT Failure (StateM World) Unit).run world = (.ok (), world') ∧
      World.Rewrites (· = p.parts) world world' ∧ world'.Vacant p := by
  have hexists := World.pathExists_of_reaches hreach
  cases hentry : world.files.at? p.parts with
  | none =>
      rw [hentry] at hexists
      have hlog : world.logFile ≠ some p.parts := by
        intro hlog
        obtain ⟨content, mode, time, hfile⟩ := hworld.log _ hlog
        rw [hentry] at hfile
        cases hfile
      refine ⟨world, ?_, World.Rewrites.refl hworld, ⟨hreach, hentry, hlog⟩⟩
      rw [clear, World.run_bind_of_ok (attempt_of_ok hexists)]
      exact makeAbove_of_reaches block hp hreach
  | some entry =>
      cases entry with
      | directory time =>
          exact absurd ⟨time, hentry⟩ hplace
      | file content mode time =>
          rw [hentry] at hexists
          obtain ⟨removed, hremove⟩ := World.exists_removeFile_eq_ok hreach ⟨content, mode, time, hentry⟩
          obtain ⟨hrewrites, hvacant⟩ := removeFile_vacant hp hworld hreach hremove
          refine ⟨_, ?_, hrewrites, hvacant⟩
          rw [clear, World.run_bind_of_ok (attempt_of_ok hexists)]
          simp only [Option.isSome_some, if_true]
          rw [World.run_bind_of_ok (attempt_of_ok hremove), World.run_bind_of_ok (World.run_lift _ _)]
          exact makeAbove_of_reaches block hp hvacant.reach

end Clearing

section Writing

variable {emitter emitter' : Emitter} {file : OutputFile} {block : RenderedBlock} {chunk : Text}
  {world world' : World} {p : Path}

/-- Reading a destination changes nothing. -/
theorem existing_state
    {result : Except Failure Text}
    (h : (existing p : ExceptT Failure (StateM World) Text).run world = (result, world')) :
    world' = world := by
  rcases attempt_bind_cases h with ⟨cause, hexists, -⟩ | ⟨found, between, hexists, hrest⟩
  · exact World.pathExists_state hexists
  · obtain rfl := World.pathExists_state hexists
    cases found with
    | false =>
        cases hrest
        rfl
    | true =>
        simp only [if_true] at hrest
        rw [World.run_bind_of_ok (World.run_lift _ _)] at hrest
        have hstate : ((Host.readText p : StateM World _) between).2 = between :=
          World.readText_state between p
        rw [hstate] at hrest
        split at hrest <;> cases hrest <;> rfl

/-- What is read at a path that is reached. -/
theorem existing_of_reads
    {old : Text} {mode : Nat}
    (hreach : world.Reaches p)
    (hreads : world.Reads p old mode) :
    (existing p : ExceptT Failure (StateM World) Text).run world = (.ok old, world) := by
  have hexists := World.pathExists_of_reaches hreach
  rw [existing]
  rcases hreads with ⟨hnone, rfl, -⟩ | ⟨bytes, time, t, hfile, hdecode, rfl⟩
  · rw [hnone] at hexists
    rw [World.run_bind_of_ok (attempt_of_ok hexists)]
    rfl
  · rw [hfile] at hexists
    rw [World.run_bind_of_ok (attempt_of_ok hexists)]
    simp only [Option.isSome_some, if_true]
    rw [World.run_bind_of_ok (World.run_lift _ _), World.readText_of_file hreach hfile hdecode]
    rfl

/-- What has been read at a path that is reached. -/
theorem reads_of_existing
    {old : Text}
    (hp : p.IsRooted)
    (hreach : world.Reaches p)
    (h : (existing p : ExceptT Failure (StateM World) Text).run world = (.ok old, world')) :
    ∃ mode, world.Reads p old mode := by
  have hexists := World.pathExists_of_reaches hreach
  rw [existing, World.run_bind_of_ok (attempt_of_ok hexists)] at h
  cases hentry : world.files.at? p.parts with
  | none =>
      rw [hentry] at h
      cases h
      exact ⟨_, Or.inl ⟨hentry, rfl, rfl⟩⟩
  | some entry =>
      rw [hentry] at h
      simp only [Option.isSome_some, if_true] at h
      rw [World.run_bind_of_ok (World.run_lift _ _)] at h
      cases hread : (Host.readText p : StateM World _) world with
      | mk result between =>
          rw [hread] at h
          cases result with
          | error cause =>
              cases h
          | ok t =>
              cases h
              obtain ⟨-, content, mode, time, u, hfile, hdecode, hold⟩ := World.readText_eq_ok hp hread
              exact ⟨mode, Or.inr ⟨content, time, u, hfile, hdecode, hold⟩⟩

/-- Writing a chunk reads the file, writes it and, when it gets its first line, makes it executable; it stops
at the first of these that fails. -/
theorem write_cases
    {result : Except Failure Unit}
    (h : (emitter.write p file block chunk : StateM World _) world = ((emitter', result), world')) :
    (∃ failure, (existing p : ExceptT Failure (StateM World) Text).run world = (.error failure, world') ∧
        result = .error failure ∧ emitter' = emitter) ∨
      ∃ old read, (existing p : ExceptT Failure (StateM World) Text).run world = (.ok old, read) ∧
        ((∃ cause, (Host.writeText p (extend old chunk (shebangFor file block)) : StateM World _) read =
            (.error cause, world') ∧ result = .error (failureAt p cause) ∧
            emitter' = emitter.note p (file.begun block)) ∨
          ∃ written, (Host.writeText p (extend old chunk (shebangFor file block)) : StateM World _) read =
              (.ok (), written) ∧
            if (file.hasShebang || (shebangFor file block).isSome) && !file.isExecutable then
              (∃ cause, (Host.setMode p executableMode : StateM World _) written = (.error cause, world') ∧
                  result = .error (failureAt p cause) ∧ emitter' = emitter.note p (file.begun block)) ∨
                (Host.setMode p executableMode : StateM World _) written = (.ok (), world') ∧
                  result = .ok () ∧ emitter' = emitter.note p (file.extended block)
            else written = world' ∧ result = .ok () ∧ emitter' = emitter.note p (file.extended block)) := by
  rw [write, World.bind_apply] at h
  cases hexisting : (existing p : ExceptT Failure (StateM World) Text).run world with
  | mk first read =>
      rw [hexisting] at h
      cases first with
      | error failure =>
          cases h
          exact Or.inl ⟨failure, rfl, rfl, rfl⟩
      | ok old =>
          refine Or.inr ⟨old, read, rfl, ?_⟩
          dsimp only at h
          rw [World.bind_apply] at h
          cases hwrite : (Host.writeText p (extend old chunk (shebangFor file block)) :
              StateM World _) read with
          | mk second written =>
              rw [hwrite] at h
              cases second with
              | error cause =>
                  cases h
                  exact Or.inl ⟨cause, rfl, rfl, rfl⟩
              | ok u =>
                  refine Or.inr ⟨written, rfl, ?_⟩
                  dsimp only at h
                  split
                  · rename_i hmode
                    rw [if_pos hmode, World.bind_apply] at h
                    cases hsetMode : (Host.setMode p executableMode : StateM World _) written with
                    | mk third changed =>
                        rw [hsetMode] at h
                        cases third with
                        | error cause =>
                            cases h
                            exact Or.inl ⟨cause, rfl, rfl, rfl⟩
                        | ok u =>
                            cases h
                            have hshebang := ((Bool.and_eq_true _ _).mp hmode).1
                            exact Or.inr ⟨rfl, rfl, by simp [OutputFile.extended, hshebang]⟩
                  · rename_i hmode
                    rw [if_neg hmode] at h
                    cases h
                    refine ⟨rfl, rfl, ?_⟩
                    have hsame : (file.isExecutable ||
                        (file.hasShebang || (shebangFor file block).isSome)) = file.isExecutable := by
                      cases hexecutable : file.isExecutable <;> simp_all
                    simp only [OutputFile.extended, hsame]

/-- What writing a text does to what can be read at a destination. -/
theorem writeText_of_reads
    {old : Text} {mode : Nat} (t : Text)
    (hp : p.IsRooted)
    (hworld : world.Consistent)
    (hreach : world.Reaches p)
    (hreads : world.Reads p old mode) :
    ∃ world', (Host.writeText p t : StateM World _) world = (.ok (), world') ∧
      World.Rewrites (· = p.parts) world world' ∧ world'.logFile = world.logFile ∧
      world'.files.at? p.parts = some (.file (Text.encode t) mode .present) := by
  obtain ⟨world', hwrite⟩ := World.exists_writeText_eq_ok t hreach hreads.not_isDirectory
  obtain ⟨hrewrites, hlog, -, hresult⟩ := World.writeText_eq_ok hp hworld hwrite
  refine ⟨world', hwrite, hrewrites, hlog, ?_⟩
  rcases hreads with ⟨hnone, -, rfl⟩ | ⟨bytes, time, u, hfile, -, -⟩
  · rcases hresult with ⟨old, mode, time, hfile, -⟩ | ⟨-, hresult⟩
    · rw [hnone] at hfile
      cases hfile
    · exact hresult
  · rcases hresult with ⟨old, mode, time, hfile', hresult⟩ | ⟨hnone, -⟩
    · rw [hfile] at hfile'
      cases hfile'
      exact hresult
    · rw [hfile] at hnone
      cases hnone

/-- Writing a chunk where a path is reached and what is there can be read. -/
theorem write_of_reads
    (emitter : Emitter) (file : OutputFile) (block : RenderedBlock) (chunk : Text)
    {old : Text} {mode : Nat}
    (hp : p.IsRooted)
    (hworld : world.Consistent)
    (hreach : world.Reaches p)
    (hreads : world.Reads p old mode) :
    ∃ world', (emitter.write p file block chunk : StateM World _) world =
        ((emitter.note p (file.extended block), .ok ()), world') ∧
      World.Rewrites (· = p.parts) world world' ∧ world'.logFile = world.logFile ∧
      world'.files.at? p.parts =
        some (.file (Text.encode (extend old chunk (shebangFor file block)))
          (extendedMode file block mode) .present) := by
  obtain ⟨written, hwrite, hrewrites, hlog, hfile⟩ :=
    writeText_of_reads (extend old chunk (shebangFor file block)) hp hworld hreach hreads
  obtain ⟨changed, hsetMode⟩ := World.exists_setMode_eq_ok executableMode
    (hreach.edits hp hrewrites.toEdits) ⟨_, _, _, hfile⟩
  obtain ⟨hrewrites', hlog', hfile'⟩ := World.setMode_eq_ok hp hrewrites.consistent hfile hsetMode
  cases hrun : (emitter.write p file block chunk : StateM World _) world with
  | mk outcome world' =>
      obtain ⟨emitter', result⟩ := outcome
      rcases write_cases hrun with ⟨failure, hexisting, -⟩ | ⟨old', read, hexisting, hrest⟩
      · rw [existing_of_reads hreach hreads] at hexisting
        cases hexisting
      · rw [existing_of_reads hreach hreads] at hexisting
        cases hexisting
        rcases hrest with ⟨cause, hfailed, -⟩ | ⟨written', hwrite', hrest⟩
        · rw [hwrite] at hfailed
          cases hfailed
        · rw [hwrite] at hwrite'
          cases hwrite'
          unfold extendedMode
          split at hrest
          · rename_i hset
            rcases hrest with ⟨cause, hfailed, -⟩ | ⟨hsetMode', rfl, rfl⟩
            · rw [hsetMode] at hfailed
              cases hfailed
            · rw [hsetMode] at hsetMode'
              cases hsetMode'
              rw [if_pos hset]
              exact ⟨changed, rfl, hrewrites.trans hrewrites', hlog'.trans hlog, hfile'⟩
          · rename_i hset
            obtain ⟨rfl, rfl, rfl⟩ := hrest
            rw [if_neg hset]
            exact ⟨written, rfl, hrewrites, hlog, hfile⟩

/-- Writing a chunk succeeds only where a path is reached and what is there can be read; what it leaves
depends on what it has read. -/
theorem write_eq_ok
    (hp : p.IsRooted)
    (hworld : world.Consistent)
    (h : (emitter.write p file block chunk : StateM World _) world = ((emitter', .ok ()), world')) :
    ∃ old mode, world.Reaches p ∧ world.Reads p old mode ∧
      emitter' = emitter.note p (file.extended block) ∧
      World.Rewrites (· = p.parts) world world' ∧ world'.logFile = world.logFile ∧
      world'.files.at? p.parts =
        some (.file (Text.encode (extend old chunk (shebangFor file block)))
          (extendedMode file block mode) .present) := by
  rcases write_cases h with ⟨failure, -, herror, -⟩ | ⟨old, read, hexisting, hrest⟩
  · cases herror
  · obtain rfl := existing_state hexisting
    rcases hrest with ⟨cause, -, herror, -⟩ | ⟨written, hwrite, -⟩
    · cases herror
    · obtain ⟨-, -, hreach, -⟩ := World.writeText_eq_ok hp hworld hwrite
      obtain ⟨mode, hreads⟩ := reads_of_existing hp hreach hexisting
      obtain ⟨last, hrun, hresult⟩ := write_of_reads emitter file block chunk hp hworld hreach hreads
      rw [hrun] at h
      cases h
      exact ⟨old, mode, hreach, hreads, rfl, hresult⟩

/-- Writing a chunk that fails has changed nothing. -/
theorem write_eq_error
    {failure : Failure}
    (hp : p.IsRooted)
    (hworld : world.Consistent)
    (h : (emitter.write p file block chunk : StateM World _) world = ((emitter', .error failure), world')) :
    world' = world := by
  rcases write_cases h with ⟨failure', hexisting, -⟩ | ⟨old, read, hexisting, hrest⟩
  · exact existing_state hexisting
  · obtain rfl := existing_state hexisting
    rcases hrest with ⟨cause, hwrite, -⟩ | ⟨written, hwrite, -⟩
    · exact World.writeText_eq_error hwrite
    · -- the file has been written, so that making it executable cannot fail
      obtain ⟨-, -, hreach, -⟩ := World.writeText_eq_ok hp hworld hwrite
      obtain ⟨mode, hreads⟩ := reads_of_existing hp hreach hexisting
      obtain ⟨last, hok, -⟩ := write_of_reads emitter file block chunk hp hworld hreach hreads
      rw [hok] at h
      cases h

/-- Writing a chunk changes at most the destination, whatever the outcome. -/
theorem write_edits
    {result : Except Failure Unit}
    (hp : p.IsRooted)
    (hworld : world.Consistent)
    (h : (emitter.write p file block chunk : StateM World _) world = ((emitter', result), world')) :
    World.Edits (· = p.parts) world world' := by
  cases result with
  | error failure =>
      obtain rfl := write_eq_error hp hworld h
      exact World.Edits.refl hworld
  | ok u =>
      obtain ⟨-, -, -, -, -, hrewrites, -⟩ := write_eq_ok hp hworld h
      exact hrewrites.toEdits

end Writing

section Emitting

variable {emitter emitter' : Emitter} {target : Target} {world world' : World}

theorem get?_note
    (emitter : Emitter) (p q : Path) (file : OutputFile) :
    (emitter.note p file).files.get? q = if p = q then some file else emitter.files.get? q :=
  Dictionary.get?_insert emitter.files p q file

theorem get?_enter
    (emitter : Emitter) (p q : Path) (file : OutputFile) :
    (emitter.enter p file).files.get? q = if p = q then some file else emitter.files.get? q :=
  get?_note emitter p q file

theorem openFile_cases
    {result : Except Failure OutputFile}
    (h : (emitter.openFile target : StateM World _) world = ((emitter', result), world')) :
    (∃ file, emitter.files.get? target.path = some file ∧ result = .ok file ∧ emitter' = emitter ∧
        world' = world) ∨
      emitter.files.get? target.path = none ∧
        ((∃ failure, (clear target.path target.block : ExceptT Failure (StateM World) Unit).run world =
            (.error failure, world') ∧ result = .error failure ∧ emitter' = emitter) ∨
          (clear target.path target.block : ExceptT Failure (StateM World) Unit).run world =
              (.ok (), world') ∧
            result = .ok { language := target.block.language } ∧
            emitter' = emitter.enter target.path { language := target.block.language }) := by
  rw [openFile] at h
  cases hget : emitter.files.get? target.path with
  | some file =>
      rw [hget] at h
      cases h
      exact Or.inl ⟨file, rfl, rfl, rfl, rfl⟩
  | none =>
      rw [hget] at h
      dsimp only at h
      rw [World.bind_apply] at h
      refine Or.inr ⟨rfl, ?_⟩
      cases hclear : (clear target.path target.block : ExceptT Failure (StateM World) Unit).run world with
      | mk first cleared =>
          rw [hclear] at h
          cases first with
          | error failure =>
              cases h
              exact Or.inl ⟨failure, rfl, rfl, rfl⟩
          | ok u =>
              cases h
              exact Or.inr ⟨rfl, rfl, rfl⟩

/-- The report of a block that has been written. -/
def writtenRecord (target : Target) : Record :=
  ⟨.debug, .emission, "Wrote block " ++ target.block.name ++ " to " ++ target.path.toText⟩

/-- Writing a block opens its destination, renders it and writes it; it stops at the first of these that
fails. -/
theorem emit_cases
    {result : Except Failure Path}
    (h : (emitter.emit target : StateM World _) world = ((emitter', result), world')) :
    (∃ failure, (emitter.openFile target : StateM World _) world = ((emitter', .error failure), world') ∧
        result = .error failure) ∨
      ∃ opened file between,
        (emitter.openFile target : StateM World _) world = ((opened, .ok file), between) ∧
        ((∃ cause, opened.decoration.render target.block = .error cause ∧
            result = .error (.template cause) ∧ world' = between ∧ emitter' = opened) ∨
          ∃ text, opened.decoration.render target.block = .ok text ∧
            ((∃ failure, (opened.write target.path file target.block (pad file target.block text) :
                StateM World _) between = ((emitter', .error failure), world') ∧
                result = .error failure) ∨
              ∃ written, (opened.write target.path file target.block (pad file target.block text) :
                  StateM World _) between = ((emitter', .ok ()), written) ∧
                result = .ok target.path ∧ world' = written.addRecord (writtenRecord target))) := by
  rw [emit, World.bind_apply] at h
  cases hopen : (emitter.openFile target : StateM World _) world with
  | mk outcome between =>
      rw [hopen] at h
      obtain ⟨opened, first⟩ := outcome
      cases first with
      | error failure =>
          cases h
          exact Or.inl ⟨failure, rfl, rfl⟩
      | ok file =>
          refine Or.inr ⟨opened, file, between, rfl, ?_⟩
          dsimp only at h
          cases hrender : opened.decoration.render target.block with
          | error cause =>
              rw [hrender] at h
              cases h
              exact Or.inl ⟨cause, rfl, rfl, rfl, rfl⟩
          | ok text =>
              rw [hrender] at h
              dsimp only at h
              rw [World.bind_apply] at h
              refine Or.inr ⟨text, rfl, ?_⟩
              cases hwrite : (opened.write target.path file target.block
                  (pad file target.block text) : StateM World _) between with
              | mk outcome written =>
                  rw [hwrite] at h
                  obtain ⟨last, second⟩ := outcome
                  cases second with
                  | error failure =>
                      cases h
                      exact Or.inl ⟨failure, rfl, rfl⟩
                  | ok u =>
                      cases h
                      exact Or.inr ⟨written, rfl, rfl, rfl⟩

theorem emit_eq_ok
    {p : Path}
    (h : (emitter.emit target : StateM World _) world = ((emitter', .ok p), world')) :
    ∃ opened file between text written,
      (emitter.openFile target : StateM World _) world = ((opened, .ok file), between) ∧
      opened.decoration.render target.block = .ok text ∧
      (opened.write target.path file target.block (pad file target.block text) : StateM World _)
        between = ((emitter', .ok ()), written) ∧
      p = target.path ∧ world' = written.addRecord (writtenRecord target) := by
  rcases emit_cases h with ⟨failure, -, herror⟩ | ⟨opened, file, between, hopen, hrest⟩
  · cases herror
  · rcases hrest with ⟨cause, -, herror, -⟩ | ⟨text, hrender, hrest⟩
    · cases herror
    · rcases hrest with ⟨failure, -, herror⟩ | ⟨written, hwrite, hresult, rfl⟩
      · cases herror
      · cases hresult
        exact ⟨opened, file, between, text, written, hopen, hrender, hwrite, rfl, rfl⟩

/-- Opening a destination changes no file, or leaves it vacant. -/
theorem openFile_effect
    {result : Except Failure OutputFile}
    (hpath : target.path.IsRooted)
    (hworld : world.Consistent)
    (h : (emitter.openFile target : StateM World _) world = ((emitter', result), world')) :
    World.Edits (fun _ => False) world world' ∨
      World.Rewrites (· = target.path.parts) world world' ∧ world'.Vacant target.path ∧
        ∃ file, result = .ok file := by
  rcases openFile_cases h with ⟨file, -, -, -, rfl⟩ | ⟨-, ⟨failure, hclear, -, -⟩ | ⟨hclear, hresult, -⟩⟩
  · exact Or.inl (World.Edits.refl hworld)
  · rcases clear_cases hpath hworld hclear with ⟨hedits, -⟩ | ⟨-, -, hok⟩
    · exact Or.inl hedits
    · cases hok
  · rcases clear_cases hpath hworld hclear with ⟨hedits, -⟩ | ⟨hrewrites, hvacant, -⟩
    · exact Or.inl hedits
    · exact Or.inr ⟨hrewrites, hvacant, _, hresult⟩

theorem openFile_edits
    {result : Except Failure OutputFile}
    (hpath : target.path.IsRooted)
    (hworld : world.Consistent)
    (h : (emitter.openFile target : StateM World _) world = ((emitter', result), world')) :
    World.Edits (· = target.path.parts) world world' := by
  rcases openFile_effect hpath hworld h with hedits | ⟨hrewrites, -, -⟩
  · exact hedits.widen
  · exact hrewrites.toEdits

/-- Writing a block changes at most its destination, whatever the outcome. -/
theorem emit_edits
    {result : Except Failure Path}
    (hpath : target.path.IsRooted)
    (hworld : world.Consistent)
    (h : (emitter.emit target : StateM World _) world = ((emitter', result), world')) :
    World.Edits (· = target.path.parts) world world' := by
  rcases emit_cases h with ⟨failure, hopen, -⟩ | ⟨opened, file, between, hopen, hrest⟩
  · exact openFile_edits hpath hworld hopen
  · have hfirst := openFile_edits hpath hworld hopen
    rcases hrest with ⟨cause, -, -, rfl, -⟩ | ⟨text, -, hrest⟩
    · exact hfirst
    · rcases hrest with ⟨failure, hwrite, -⟩ | ⟨written, hwrite, -, rfl⟩
      · exact hfirst.trans (write_edits hpath hfirst.consistent hwrite)
      · have hsecond := hfirst.trans (write_edits hpath hfirst.consistent hwrite)
        have hrecord := World.addRecord_rewrites (writtenRecord target) hsecond.consistent
        exact hsecond.trans hrecord.toEdits.widen

/-- Opening a destination does not change how blocks are decorated. -/
theorem openFile_decoration
    {result : Except Failure OutputFile}
    (h : (emitter.openFile target : StateM World _) world = ((emitter', result), world')) :
    emitter'.decoration = emitter.decoration := by
  rcases openFile_cases h with ⟨file, -, -, rfl, -⟩ | ⟨-, ⟨failure, -, -, rfl⟩ | ⟨-, -, rfl⟩⟩
  · rfl
  · rfl
  · rfl

/-- Where writing fails, no file has been changed since the destination was to be opened. -/
theorem openFile_edits_of_write
    {opened : Emitter} {file : OutputFile} {chunk : Text} {between : World} {failure : Failure}
    (hpath : target.path.IsRooted)
    (hworld : world.Consistent)
    (hopen : (emitter.openFile target : StateM World _) world = ((opened, .ok file), between))
    (hwrite : (opened.write target.path file target.block chunk : StateM World _) between =
      ((emitter', .error failure), world')) :
    World.Edits (fun _ => False) world world' := by
  rcases openFile_effect hpath hworld hopen with hedits | ⟨hrewrites, hvacant, -⟩
  · obtain rfl := write_eq_error hpath hedits.consistent hwrite
    exact hedits
  · -- what was there has been removed, so that writing cannot fail
    obtain ⟨last, hrun, -⟩ := write_of_reads opened file target.block chunk
      hpath hrewrites.consistent hvacant.reach hvacant.reads
    rw [hrun] at hwrite
    cases hwrite

/-- A block that fails changes no file, unless it could not be rendered. -/
theorem emit_error_cases
    {failure : Failure}
    (hpath : target.path.IsRooted)
    (hworld : world.Consistent)
    (h : (emitter.emit target : StateM World _) world = ((emitter', .error failure), world')) :
    World.Edits (fun _ => False) world world' ∨
      World.Edits (· = target.path.parts) world world' ∧
        ∃ cause, failure = .template cause ∧ emitter.decoration.render target.block = .error cause := by
  have hedits := emit_edits hpath hworld h
  rcases emit_cases h with ⟨failure', hopen, -⟩ | ⟨opened, file, between, hopen, hrest⟩
  · rcases openFile_effect hpath hworld hopen with hnone | ⟨-, -, file, hok⟩
    · exact Or.inl hnone
    · cases hok
  · rcases hrest with ⟨cause, hrender, hfailure, -⟩ | ⟨text, -, ⟨failure', hwrite, -⟩ | ⟨-, -, hok, -⟩⟩
    · cases hfailure
      rw [openFile_decoration hopen] at hrender
      exact Or.inr ⟨hedits, cause, rfl, hrender⟩
    · exact Or.inl (openFile_edits_of_write hpath hworld hopen hwrite)
    · cases hok

/-- A block whose destination cannot be written changes no file. -/
theorem emit_fault_edits
    {p : Path} {cause : Fault}
    (hpath : target.path.IsRooted)
    (hworld : world.Consistent)
    (h : (emitter.emit target : StateM World _) world = ((emitter', .error (.emit p cause)), world')) :
    World.Edits (fun _ => False) world world' := by
  rcases emit_error_cases hpath hworld h with hedits | ⟨-, cause', hother, -⟩
  · exact hedits
  · cases hother

theorem emitAll_cons
    {targets : List Target} {result : Except Failure Unit}
    (h : (emitter.emitAll (target :: targets) : StateM World _) world = ((emitter', result), world')) :
    (∃ failure, (emitter.emit target : StateM World _) world = ((emitter', .error failure), world') ∧
        result = .error failure) ∨
      ∃ next p between, (emitter.emit target : StateM World _) world = ((next, .ok p), between) ∧
        (next.emitAll targets : StateM World _) between = ((emitter', result), world') := by
  rw [emitAll, World.bind_apply] at h
  cases hemit : (emitter.emit target : StateM World _) world with
  | mk outcome between =>
      rw [hemit] at h
      obtain ⟨next, first⟩ := outcome
      cases first with
      | error failure =>
          cases h
          exact Or.inl ⟨failure, rfl, rfl⟩
      | ok p =>
          exact Or.inr ⟨next, p, between, rfl, h⟩

/-- A run changes at most its destinations, whatever the outcome. -/
theorem emitAll_edits
    {targets : List Target} {result : Except Failure Unit}
    (hpaths : ∀ target ∈ targets, target.path.IsRooted)
    (hworld : world.Consistent)
    (h : (emitter.emitAll targets : StateM World _) world = ((emitter', result), world')) :
    World.Edits (fun place => ∃ target ∈ targets, target.path.parts = place) world world' := by
  induction targets generalizing emitter world with
  | nil =>
      cases h
      exact World.Edits.refl hworld
  | cons target rest ih =>
      have hfirst : ∀ {next : Emitter} {first : Except Failure Path} {between : World},
          (emitter.emit target : StateM World _) world = ((next, first), between) →
            World.Edits (fun place => ∃ other ∈ target :: rest, other.path.parts = place)
              world between := by
        intro next first between hemit
        refine (emit_edits (hpaths target (by simp)) hworld hemit).mono ?_
        rintro place rfl
        exact ⟨target, by simp, rfl⟩
      rcases emitAll_cons h with ⟨failure, hemit, -⟩ | ⟨next, p, between, hemit, hrest⟩
      · exact hfirst hemit
      · have hedits := hfirst hemit
        refine hedits.trans ((ih (fun other hother => hpaths other (List.mem_cons_of_mem _ hother))
          hedits.consistent hrest).mono ?_)
        rintro place ⟨other, hother, hplace⟩
        exact ⟨other, List.mem_cons_of_mem _ hother, hplace⟩

/-- A run that fails stops at the first block that fails. -/
theorem emitAll_eq_error
    {targets : List Target} {failure : Failure}
    (h : (emitter.emitAll targets : StateM World _) world = ((emitter', .error failure), world')) :
    ∃ finished target rest next between, targets = finished ++ target :: rest ∧
      (emitter.emitAll finished : StateM World _) world = ((next, .ok ()), between) ∧
      (next.emit target : StateM World _) between = ((emitter', .error failure), world') := by
  induction targets generalizing emitter world with
  | nil =>
      cases h
  | cons target rest ih =>
      rcases emitAll_cons h with ⟨failure', hemit, hfailure⟩ | ⟨next, p, between, hemit, hrest⟩
      · cases hfailure
        exact ⟨[], target, rest, emitter, world, rfl, rfl, hemit⟩
      · obtain ⟨finished, failed, later, last, before, rfl, hfinished, hfailed⟩ := ih hrest
        refine ⟨target :: finished, failed, later, last, before, rfl, ?_, hfailed⟩
        rw [emitAll, World.bind_apply, hemit]
        exact hfinished

end Emitting

end Emitter
end Literate
