import Literate.Host
import Literate.Proofs.FileSystem.Access

/-!
# The pure host

The operations of the pure host in terms of what they leave alone.  A world is
consistent when its files form a tree and its log file, if it has one, is there;
every operation on a rooted path keeps a world consistent.

**Log file.**  Records are added to the log file, so that its content may change
at any time.  A log file that is removed is closed.

**Relations.**  `World.Edits` says what a run of operations may have done to a
world, `World.Rewrites` says the same of a run that makes no directories, and
`World.Reaches` says that a path leads to a place in an existing directory.

**Main statements.**
* `writeText_eq_ok`, `removeFile_eq_ok`, `setMode_eq_ok`: the operations on one
  file when they succeed.
* `exists_writeText_eq_ok`, `exists_removeFile_eq_ok`, `exists_setMode_eq_ok`:
  when they succeed.
* `makeDirectories_edits`, `addRecord_rewrites`: the operations that concern no
  file but the log file.
* `not_isFile_of_pathExists`: a path that is found missing leads to no file.
* `exists_setMode_of_writeText`, `pathExists_of_removeFile`: what comes after a
  change at any path.
-/

namespace Literate

/-- An entry apart from its time: a file by its bytes and its mode, or a directory. -/
def Entry.timeless : Entry → Entry
  | file content mode _ => file content mode .present
  | directory _ => directory .present

namespace World

/-- The files form a tree and the log file is there. -/
structure Consistent (world : World) : Prop where
  /-- Whatever is there stands in a directory. -/
  tree : world.files.IsTree
  /-- The log file is there. -/
  log : ∀ place, world.logFile = some place → world.files.IsFile place

/-- What operations may have done to a world when the only files concerned, apart from the log file, are
at the places `touched`. -/
structure Edits (touched : Place → Prop) (world world' : World) : Prop where
  /-- The world is consistent. -/
  consistent : world'.Consistent
  /-- What has become of the files. -/
  files : FileSystem.Edits (fun place => touched place ∨ world.logFile = some place)
    world.files world'.files
  /-- No log file has been opened. -/
  log : ∀ place, world'.logFile = some place → world.logFile = some place
  /-- The working directory and the home directories are the same. -/
  surroundings : world'.surroundings = world.surroundings

/-- A world without a log file is consistent when every entry stands in a directory. -/
theorem consistent_of_all
    {world : World}
    (hlog : world.logFile = none)
    (h : (world.files.entries.entries.all fun entry =>
      (world.files.at? entry.1.dropLast).any Entry.isDirectory) = true) :
    world.Consistent := by
  refine ⟨FileSystem.isTree_of_all h, fun place hplace => ?_⟩
  rw [hlog] at hplace
  cases hplace

namespace Edits

variable {touched : Place → Prop} {world world' world'' : World} {place : Place}

theorem refl
    (h : world.Consistent) :
    Edits touched world world :=
  ⟨h, FileSystem.Edits.refl _, fun _ hlog => hlog, rfl⟩

theorem trans
    (h : Edits touched world world')
    (h' : Edits touched world' world'') :
    Edits touched world world'' := by
  refine ⟨h'.consistent, h.files.trans (h'.files.mono ?_), fun place hlog => h.log _ (h'.log _ hlog),
    h'.surroundings.trans h.surroundings⟩
  intro place hplace
  exact hplace.imp_right fun hlog => h.log place hlog

theorem mono
    {touched' : Place → Prop}
    (h : Edits touched world world')
    (hmono : ∀ place, touched place → touched' place) :
    Edits touched' world world' := by
  refine ⟨h.consistent, h.files.mono ?_, h.log, h.surroundings⟩
  intro place hplace
  exact hplace.imp_left (hmono place)

/-- Operations that concern no file may pass for operations on any files. -/
theorem widen
    (h : Edits (fun _ => False) world world') :
    Edits touched world world' :=
  h.mono fun _ hfalse => hfalse.elim

/-- Records do not begin to go to a place. -/
theorem log_ne
    (h : Edits touched world world')
    (hlog : world.logFile ≠ some place) :
    world'.logFile ≠ some place :=
  fun hnew => hlog (h.log place hnew)

/-- A file that is not concerned stays as it was. -/
theorem at?_eq_iff
    (h : Edits touched world world')
    (hplace : ¬ touched place)
    (hlog : world.logFile ≠ some place)
    (content : ByteArray) (mode : Nat) (time : Stamp) :
    world'.files.at? place = some (.file content mode time) ↔
      world.files.at? place = some (.file content mode time) :=
  h.files.files place (not_or.mpr ⟨hplace, hlog⟩) content mode time

theorem isFile_iff
    (h : Edits touched world world')
    (hplace : ¬ touched place)
    (hlog : world.logFile ≠ some place) :
    world'.files.IsFile place ↔ world.files.IsFile place :=
  h.files.isFile_iff (not_or.mpr ⟨hplace, hlog⟩)

/-- A directory stays a directory. -/
theorem isDirectory
    (h : Edits touched world world')
    (hplace : world.files.IsDirectory place) :
    world'.files.IsDirectory place :=
  h.files.directories place hplace

end Edits

/-- Where files are the same and directories stay, nothing has changed apart from times, or a directory has
come. -/
theorem timeless_cases
    {world world' : World} {place : Place}
    (hfiles : ∀ content mode time, world'.files.at? place = some (.file content mode time) ↔
      world.files.at? place = some (.file content mode time))
    (hstays : world.files.IsDirectory place → world'.files.IsDirectory place) :
    (world'.files.at? place).map Entry.timeless = (world.files.at? place).map Entry.timeless ∨
      world.files.at? place = none ∧ world'.files.IsDirectory place := by
  cases hold : world.files.at? place with
  | none =>
      cases hnew : world'.files.at? place with
      | none =>
          exact Or.inl rfl
      | some entry =>
          cases entry with
          | file content mode time =>
              rw [(hfiles content mode time).mp hnew] at hold
              cases hold
          | directory time =>
              exact Or.inr ⟨rfl, time, hnew⟩
  | some entry =>
      cases entry with
      | file content mode time =>
          rw [(hfiles content mode time).mpr hold]
          exact Or.inl rfl
      | directory time =>
          obtain ⟨time', hnew⟩ := hstays ⟨time, hold⟩
          rw [hnew]
          exact Or.inl rfl

/-- What operations that make no directories may have done to a world. -/
structure Rewrites (touched : Place → Prop) (world world' : World) : Prop
    extends Edits touched world world' where
  /-- Every directory was there before. -/
  directories : ∀ place, world'.files.IsDirectory place → world.files.IsDirectory place

namespace Rewrites

variable {touched : Place → Prop} {world world' world'' : World}

theorem refl
    (h : world.Consistent) :
    Rewrites touched world world :=
  ⟨Edits.refl h, fun _ hplace => hplace⟩

theorem trans
    (h : Rewrites touched world world')
    (h' : Rewrites touched world' world'') :
    Rewrites touched world world'' :=
  ⟨h.toEdits.trans h'.toEdits, fun place hplace => h.directories place (h'.directories place hplace)⟩

theorem mono
    {touched' : Place → Prop}
    (h : Rewrites touched world world')
    (hmono : ∀ place, touched place → touched' place) :
    Rewrites touched' world world' :=
  ⟨h.toEdits.mono hmono, h.directories⟩

theorem widen
    (h : Rewrites (fun _ => False) world world') :
    Rewrites touched world world' :=
  ⟨h.toEdits.widen, h.directories⟩

/-- Apart from its time, what is not concerned stays as it was. -/
theorem timeless_eq
    {place : Place}
    (h : Rewrites touched world world')
    (hplace : ¬ touched place)
    (hlog : world.logFile ≠ some place) :
    (world'.files.at? place).map Entry.timeless = (world.files.at? place).map Entry.timeless := by
  refine (timeless_cases (h.at?_eq_iff hplace hlog) h.toEdits.isDirectory).resolve_right ?_
  rintro ⟨hnone, hdirectory⟩
  obtain ⟨time, hold⟩ := h.directories place hdirectory
  rw [hold] at hnone
  cases hnone

end Rewrites

/-- A path leads to the place of its components, in an existing directory. -/
def Reaches (world : World) (p : Path) : Prop :=
  world.files.locate world.surroundings.directory p = .ok p.parts

theorem Reaches.hasNull_eq_false
    {world : World} {p : Path}
    (hp : p.IsRooted)
    (h : world.Reaches p) :
    p.hasNull = false :=
  (FileSystem.locate_eq_ok hp h).2.1

/-- A path that is reached stays within reach. -/
theorem Reaches.of_directories
    {world world' : World} {p : Path}
    (hp : p.IsRooted)
    (h : world.Reaches p)
    (hdirectories : ∀ place, world.files.IsDirectory place → world'.files.IsDirectory place) :
    world'.Reaches p :=
  FileSystem.locate_of_directories hp hdirectories h

theorem Reaches.edits
    {touched : Place → Prop} {world world' : World} {p : Path}
    (hp : p.IsRooted)
    (h : world.Reaches p)
    (hedits : Edits touched world world') :
    world'.Reaches p :=
  h.of_directories hp fun _ => hedits.isDirectory

/-- Edits of the files alone are edits of the world as long as the log file is there. -/
theorem edits_files
    {touched : Place → Prop} {world : World} {fs : FileSystem}
    (hworld : world.Consistent)
    (h : FileSystem.Edits touched world.files fs)
    (hlog : ∀ place, touched place → world.logFile = some place → fs.IsFile place) :
    Edits touched world { world with files := fs } := by
  refine ⟨⟨h.isTree hworld.tree, ?_⟩, h.mono fun _ => Or.inl, fun _ hplace => hplace, rfl⟩
  intro place hplace
  by_cases htouched : touched place
  · exact hlog place htouched hplace
  · exact (h.isFile_iff htouched).mpr (hworld.log place hplace)

/-- A record concerns no file but the log file. -/
theorem addRecord_rewrites
    {world : World} (record : Record)
    (hworld : world.Consistent) :
    Rewrites (fun _ => False) world (world.addRecord record) := by
  have hlogFile : (world.addRecord record).logFile = world.logFile := by
    rfl
  cases hlog : world.logFile with
  | none =>
      have hfiles : (world.addRecord record).files = world.files := by
        simp [addRecord, hlog]
      refine ⟨⟨⟨?_, ?_⟩, ?_, fun place hplace => hlogFile ▸ hplace, rfl⟩, ?_⟩
      · rw [hfiles]
        exact hworld.tree
      · intro place hplace
        rw [hlogFile, hlog] at hplace
        cases hplace
      · rw [hfiles]
        exact FileSystem.Edits.refl _
      · rw [hfiles]
        exact fun _ hplace => hplace
  | some place =>
      have hfiles :
          (world.addRecord record).files =
            world.files.appendAt place (Text.encode (record.fileLine world.time)) := by
        simp [addRecord, hlog]
      obtain ⟨hedits, hfile⟩ := FileSystem.appendAt_edits hworld.tree place
        (Text.encode (record.fileLine world.time))
      refine ⟨⟨⟨?_, ?_⟩, ?_, fun place hplace => hlogFile ▸ hplace, rfl⟩, ?_⟩
      · rw [hfiles]
        exact hedits.isTree hworld.tree
      · intro other hother
        rw [hlogFile, hlog] at hother
        obtain rfl : place = other := Option.some.inj hother
        rw [hfiles]
        exact hfile (hworld.log place hlog)
      · rw [hfiles]
        refine hedits.mono ?_
        rintro other rfl
        exact Or.inr hlog
      · rw [hfiles]
        exact fun _ hplace => FileSystem.isDirectory_of_appendAt hplace

/-- A record changes nothing but the log file. -/
theorem at?_addRecord
    {world : World} {place : Place} (record : Record)
    (hlog : world.logFile ≠ some place) :
    (world.addRecord record).files.at? place = world.files.at? place := by
  cases hplace : world.logFile with
  | none =>
      simp [addRecord, hplace]
  | some log =>
      have hother : log ≠ place := by
        rintro rfl
        exact hlog hplace
      simp only [addRecord, hplace, FileSystem.appendAt]
      split
      · rename_i old mode time hfile
        have hne : log ≠ [] := FileSystem.IsFile.ne_nil ⟨old, mode, time, hfile⟩
        rw [FileSystem.at?_put _ _ _ hne, if_neg hother]
      · rfl

/-- The world after records have been written. -/
def addRecords (world : World) (records : List Record) : World :=
  records.foldl addRecord world

theorem addRecords_append
    (world : World) (records records' : List Record) :
    world.addRecords (records ++ records') = (world.addRecords records).addRecords records' :=
  List.foldl_append

/-- Records concern no file but the log file. -/
theorem addRecords_rewrites
    {world : World} (records : List Record)
    (hworld : world.Consistent) :
    Rewrites (fun _ => False) world (world.addRecords records) := by
  induction records generalizing world with
  | nil =>
      exact Rewrites.refl hworld
  | cons record rest ih =>
      have hfirst := addRecord_rewrites record hworld
      exact hfirst.trans (ih hfirst.consistent)

theorem recordAll_apply
    (records : List Record) (world : World) :
    (Host.recordAll records : StateM World Unit) world = ((), world.addRecords records) := by
  induction records generalizing world with
  | nil =>
      rfl
  | cons record rest ih =>
      exact ih (world.addRecord record)

section Operations

/-- A computation and what follows it, one after the other. -/
theorem bind_apply
    {α β : Type} (x : StateM World α) (f : α → StateM World β) (world : World) :
    (x >>= f) world = f (x world).1 (x world).2 := by
  rfl

variable {world world' : World} {p : Path}

/-- A computation fails in its first part, or goes on after it. -/
theorem run_bind_cases
    {ε α β : Type} {x : ExceptT ε (StateM World) α} {f : α → ExceptT ε (StateM World) β}
    {result : Except ε β}
    (h : (x >>= f).run world = (result, world')) :
    (∃ failure, x.run world = (.error failure, world') ∧ result = .error failure) ∨
      ∃ a between, x.run world = (.ok a, between) ∧ (f a).run between = (result, world') := by
  rw [ExceptT.run_bind, World.bind_apply] at h
  cases hx : x.run world with
  | mk first between =>
      rw [hx] at h
      cases first with
      | error failure =>
          cases h
          exact Or.inl ⟨failure, rfl, rfl⟩
      | ok a =>
          exact Or.inr ⟨a, between, rfl, h⟩

theorem run_bind_of_ok
    {ε α β : Type} {x : ExceptT ε (StateM World) α} {f : α → ExceptT ε (StateM World) β} {a : α}
    (h : x.run world = (.ok a, world')) :
    (x >>= f).run world = (f a).run world' := by
  rw [ExceptT.run_bind, World.bind_apply, h]

theorem run_lift
    {ε α : Type} (operation : StateM World α) (world : World) :
    (liftM operation : ExceptT ε (StateM World) α).run world =
      (.ok (operation world).1, (operation world).2) :=
  rfl

theorem change_eq_ok
    {operation : FileSystem → Path → Except Fault FileSystem}
    (h : change operation world = (.ok (), world')) :
    ∃ fs, operation world.files world.surroundings.directory = .ok fs ∧
      world' = { world with files := fs } := by
  unfold change at h
  split at h
  · rename_i fs hoperation
    cases h
    exact ⟨fs, hoperation, rfl⟩
  · cases h

theorem change_eq_error
    {operation : FileSystem → Path → Except Fault FileSystem} {cause : Fault}
    (h : change operation world = (.error cause, world')) :
    world' = world := by
  unfold change at h
  split at h
  · cases h
  · cases h
    rfl

/-- What writing a text does: an old file keeps its mode, a new one gets the mode of new files. -/
theorem writeText_eq_ok
    {t : Text}
    (hp : p.IsRooted)
    (hworld : world.Consistent)
    (h : (Host.writeText p t : StateM World _) world = (.ok (), world')) :
    Rewrites (· = p.parts) world world' ∧ world'.logFile = world.logFile ∧ world.Reaches p ∧
      ((∃ old mode time, world.files.at? p.parts = some (.file old mode time) ∧
          world'.files.at? p.parts = some (.file (Text.encode t) mode .present)) ∨
        (world.files.at? p.parts = none ∧
          world'.files.at? p.parts =
            some (.file (Text.encode t) FileSystem.newFileMode .present))) := by
  have hchange :
      change (fun files directory => files.write directory p (Text.encode t)) world =
        (.ok (), world') := h
  obtain ⟨fs, hwrite, rfl⟩ := change_eq_ok hchange
  obtain ⟨hedits, hreach, hresult⟩ := FileSystem.write_eq_ok hp hwrite
  refine ⟨⟨edits_files hworld hedits ?_, fun _ => FileSystem.isDirectory_of_write hp hwrite⟩, rfl, hreach,
    hresult⟩
  rintro place rfl -
  rcases hresult with ⟨-, mode, -, -, hfile⟩ | ⟨-, hfile⟩
  · exact ⟨_, mode, .present, hfile⟩
  · exact ⟨_, _, .present, hfile⟩

/-- Writing that fails changes nothing. -/
theorem writeText_eq_error
    {t : Text} {cause : Fault}
    (h : (Host.writeText p t : StateM World _) world = (.error cause, world')) :
    world' = world := by
  have hchange :
      change (fun files directory => files.write directory p (Text.encode t)) world =
        (.error cause, world') := h
  exact change_eq_error hchange

/-- What removing a file does; a log file that is removed is closed. -/
theorem removeFile_eq_ok
    (hp : p.IsRooted)
    (hworld : world.Consistent)
    (h : (Host.removeFile p : StateM World _) world = (.ok (), world')) :
    Rewrites (· = p.parts) world world' ∧ world'.files.at? p.parts = none ∧
      world'.logFile ≠ some p.parts := by
  change removeFile p world = (.ok (), world') at h
  unfold removeFile at h
  split at h
  · rename_i place fs hlocate hremove
    obtain ⟨rfl, -, -⟩ := FileSystem.locate_eq_ok hp hlocate
    obtain ⟨hedits, hnone⟩ := FileSystem.remove_eq_ok hp hremove
    cases h
    refine ⟨⟨⟨⟨hedits.isTree hworld.tree, ?_⟩, hedits.mono fun _ => Or.inl, ?_, rfl⟩,
      fun _ => FileSystem.isDirectory_of_remove hp hremove⟩, hnone, ?_⟩
    · intro place hlog
      dsimp only at hlog
      split at hlog
      · cases hlog
      · rename_i hother
        have hplace : place ≠ p.parts := by
          rintro rfl
          exact hother hlog
        exact (hedits.isFile_iff hplace).mpr (hworld.log place hlog)
    · intro place hlog
      dsimp only at hlog
      split at hlog
      · cases hlog
      · exact hlog
    · dsimp only
      split
      · simp
      · assumption
  · cases h
  · cases h

/-- A removal that fails changes nothing. -/
theorem removeFile_eq_error
    {cause : Fault}
    (h : (Host.removeFile p : StateM World _) world = (.error cause, world')) :
    world' = world := by
  change removeFile p world = (.error cause, world') at h
  unfold removeFile at h
  split at h
  · cases h
  · cases h
    rfl
  · cases h
    rfl

/-- What a change of mode does to a file. -/
theorem setMode_eq_ok
    {content : ByteArray} {mode old : Nat} {time : Stamp}
    (hp : p.IsRooted)
    (hworld : world.Consistent)
    (hfile : world.files.at? p.parts = some (.file content old time))
    (h : (Host.setMode p mode : StateM World _) world = (.ok (), world')) :
    Rewrites (· = p.parts) world world' ∧ world'.logFile = world.logFile ∧
      world'.files.at? p.parts = some (.file content mode time) := by
  obtain ⟨fs, hsetMode, rfl⟩ := change_eq_ok h
  obtain ⟨hedits, hresult⟩ := FileSystem.setMode_eq_ok hp hfile hsetMode
  refine ⟨⟨edits_files hworld hedits ?_, fun _ => FileSystem.isDirectory_of_setMode hp hsetMode⟩, rfl,
    hresult⟩
  rintro place rfl -
  exact ⟨content, mode, time, hresult⟩

/-- Making a directory concerns no file, whether it succeeds or not. -/
theorem makeDirectory_edits
    {result : Except Fault Unit}
    (hp : p.IsRooted)
    (hworld : world.Consistent)
    (h : (Host.makeDirectory p : StateM World _) world = (result, world')) :
    Edits (fun _ => False) world world' := by
  cases result with
  | ok u =>
      obtain ⟨fs, hmake, rfl⟩ := change_eq_ok h
      exact edits_files hworld (FileSystem.makeDirectory_eq_ok hp hmake) fun _ hfalse => hfalse.elim
  | error cause =>
      obtain rfl := change_eq_error h
      exact Edits.refl hworld

theorem pathExists_of_ok
    {entry : Entry}
    (h : world.files.entry world.surroundings.directory p = .ok entry) :
    (Host.pathExists p : StateM World _) world = (.ok true, world) := by
  simp only [Host.pathExists, Host.status, bind_apply, h]
  rfl

theorem pathExists_of_error
    {cause : Fault}
    (h : world.files.entry world.surroundings.directory p = .error cause) :
    (Host.pathExists p : StateM World _) world =
      (if cause.meansAbsent then .ok false else .error cause, world) := by
  simp only [Host.pathExists, Host.status, bind_apply, h]
  rfl

/-- A path that is found missing leads to no file. -/
theorem not_isFile_of_pathExists
    (hp : p.IsRooted)
    (hworld : world.Consistent)
    (hnull : p.hasNull = false)
    (h : (Host.pathExists p : StateM World _) world = (.ok false, world')) :
    ¬ world.files.IsFile p.parts := by
  rintro ⟨content, mode, time, hfile⟩
  have hwalk := FileSystem.walk_of_isTree [] hworld.tree hp.down (by
    rw [List.nil_append, hfile]
    rfl)
  have hlocate :
      world.files.locate world.surroundings.directory p = world.files.walk [] p.parts := by
    rw [FileSystem.locate, FileSystem.append_eq_self _ hp, hnull]
    rfl
  rcases hwalk with hplace | hlong
  · have hentry :
        world.files.entry world.surroundings.directory p = .ok (.file content mode time) := by
      simp [FileSystem.entry, hlocate, hplace, bind, Except.bind, hfile]
    rw [pathExists_of_ok hentry] at h
    cases h
  · have hentry : world.files.entry world.surroundings.directory p = .error .nameTooLong := by
      simp [FileSystem.entry, hlocate, hlong, bind, Except.bind]
    rw [pathExists_of_error hentry] at h
    cases h

theorem pathExists_state
    {result : Except Fault Bool}
    (h : (Host.pathExists p : StateM World _) world = (result, world')) :
    world' = world := by
  cases hentry : world.files.entry world.surroundings.directory p with
  | error cause =>
      rw [pathExists_of_error hentry] at h
      cases h
      rfl
  | ok entry =>
      rw [pathExists_of_ok hentry] at h
      cases h
      rfl

/-- Looking at a path changes nothing. -/
theorem status_state
    (world : World) (p : Path) :
    ((Host.status p : StateM World _) world).2 = world := by
  simp only [Host.status]
  split <;> rfl

theorem leadsToFile_state
    (world : World) (p : Path) :
    ((Host.leadsToFile p : StateM World _) world).2 = world := by
  simp only [Host.leadsToFile, bind_apply, status_state]
  cases ((Host.status p : StateM World _) world).1 with
  | ok found =>
      rfl
  | error cause =>
      rfl

theorem leadsToDirectory_state
    (world : World) (p : Path) :
    ((Host.leadsToDirectory p : StateM World _) world).2 = world := by
  simp only [Host.leadsToDirectory, bind_apply, status_state]
  cases ((Host.status p : StateM World _) world).1 with
  | ok found =>
      rfl
  | error cause =>
      rfl

theorem finish_state
    (world : World) (p : Path) :
    ((Host.makeDirectories.finish p : StateM World _) world).2 =
      ((Host.makeDirectory p : StateM World _) world).2 := by
  have hlook : ∀ (cause : Fault) (world : World),
      ((do if ← Host.leadsToDirectory p then pure (.ok ()) else pure (.error cause) :
        StateM World (Except Fault Unit)) world).2 = world := by
    intro cause world
    simp only [bind_apply, leadsToDirectory_state]
    cases ((Host.leadsToDirectory p : StateM World _) world).1 with
    | false =>
        rfl
    | true =>
        rfl
  simp only [Host.makeDirectories.finish, bind_apply]
  cases ((Host.makeDirectory p : StateM World _) world).1 with
  | ok u =>
      rfl
  | error cause =>
      cases cause with
      | nullCharacter =>
          rfl
      | _ =>
          exact hlook _ _

/-- Making directories concerns no file, whether it succeeds or not. -/
theorem makeDirectories_edits
    (depth : Nat)
    (hp : p.IsRooted)
    (hworld : world.Consistent) :
    Edits (fun _ => False) world ((Host.makeDirectories depth p : StateM World _) world).2 := by
  have hfinish : ∀ {world : World}, world.Consistent →
      ∀ {p : Path}, p.IsRooted →
        Edits (fun _ => False) world ((Host.makeDirectories.finish p : StateM World _) world).2 := by
    intro world hworld p hp
    rw [finish_state]
    exact makeDirectory_edits hp hworld rfl
  induction depth generalizing p world with
  | zero =>
      exact Edits.refl hworld
  | succ depth ih =>
      simp only [Host.makeDirectories, bind_apply, status_state]
      cases ((Host.status p.parent : StateM World _) world).1 with
      | ok found =>
          exact hfinish hworld hp
      | error cause =>
          have habove := ih hp.parent hworld
          have hlast := habove.trans (hfinish habove.consistent hp)
          simp only [bind_apply]
          cases ((Host.makeDirectories depth p.parent : StateM World _) world).1 with
          | ok u =>
              exact hlast
          | error cause =>
              cases cause with
              | alreadyExists =>
                  exact hlast
              | _ =>
                  exact habove

theorem readText_state
    (world : World) (p : Path) :
    ((Host.readText p : StateM World _) world).2 = world := by
  simp only [Host.readText, bind_apply, Host.readBytes]
  cases world.files.read world.surroundings.directory p with
  | error cause =>
      rfl
  | ok content =>
      dsimp only
      cases Text.decode? content with
      | none =>
          rfl
      | some t =>
          rfl

/-- What is read is the text of a file with unified line ends. -/
theorem readText_eq_ok
    {t : Text}
    (hp : p.IsRooted)
    (h : (Host.readText p : StateM World _) world = (.ok t, world')) :
    world.Reaches p ∧
      ∃ content mode time u, world.files.at? p.parts = some (.file content mode time) ∧
        Text.decode? content = some u ∧ t = Text.unifyLineEnds u := by
  simp only [Host.readText, bind_apply, Host.readBytes] at h
  cases hread : world.files.read world.surroundings.directory p with
  | error cause =>
      rw [hread] at h
      cases h
  | ok content =>
      rw [hread] at h
      obtain ⟨hreach, mode, time, hfile⟩ := FileSystem.read_eq_ok hp hread
      cases hdecode : Text.decode? content with
      | none =>
          simp only [hdecode] at h
          cases h
      | some u =>
          simp only [hdecode] at h
          cases h
          exact ⟨hreach, content, mode, time, u, hfile, hdecode, rfl⟩

section Success

theorem change_of_ok
    {operation : FileSystem → Path → Except Fault FileSystem} {fs : FileSystem}
    (h : operation world.files world.surroundings.directory = .ok fs) :
    change operation world = (.ok (), { world with files := fs }) := by
  simp [change, h]

theorem exists_writeText_eq_ok
    (t : Text)
    (hreach : world.Reaches p)
    (hplace : ¬ world.files.IsDirectory p.parts) :
    ∃ world', (Host.writeText p t : StateM World _) world = (.ok (), world') := by
  obtain ⟨fs, hwrite⟩ := FileSystem.exists_write_eq_ok (Text.encode t) hreach hplace
  have hchange :
      change (fun files directory => files.write directory p (Text.encode t)) world =
        (.ok (), { world with files := fs }) := change_of_ok hwrite
  exact ⟨_, hchange⟩

theorem exists_removeFile_eq_ok
    (hreach : world.Reaches p)
    (hfile : world.files.IsFile p.parts) :
    ∃ world', (Host.removeFile p : StateM World _) world = (.ok (), world') := by
  obtain ⟨fs, hremove⟩ := FileSystem.exists_remove_eq_ok hreach hfile
  have hlocate : world.files.locate world.surroundings.directory p = .ok p.parts := hreach
  have hresult : (removeFile p world).1 = .ok () := by
    simp only [removeFile, hlocate, hremove]
  exact ⟨(removeFile p world).2, Prod.ext hresult rfl⟩

theorem exists_setMode_eq_ok
    (mode : Nat)
    (hreach : world.Reaches p)
    (hfile : world.files.IsFile p.parts) :
    ∃ world', (Host.setMode p mode : StateM World _) world = (.ok (), world') := by
  obtain ⟨fs, hsetMode⟩ := FileSystem.exists_setMode_eq_ok mode hreach hfile
  exact ⟨_, change_of_ok hsetMode⟩

/-- A path that is found is reached. -/
theorem reaches_of_pathExists
    (hp : p.IsRooted)
    (h : (Host.pathExists p : StateM World _) world = (.ok true, world')) :
    world.Reaches p := by
  cases hlocate : world.files.locate world.surroundings.directory p with
  | ok place =>
      obtain ⟨rfl, -, -⟩ := FileSystem.locate_eq_ok hp hlocate
      exact hlocate
  | error cause =>
      have hentry : world.files.entry world.surroundings.directory p = .error cause := by
        simp [FileSystem.entry, hlocate, bind, Except.bind]
      rw [pathExists_of_error hentry] at h
      split at h <;> cases h

/-- The directory above a path that is reached exists. -/
theorem pathExists_parent
    (hp : p.IsRooted)
    (hreach : world.Reaches p) :
    (Host.pathExists p.parent : StateM World _) world = (.ok true, world) := by
  obtain ⟨-, -, time, hparent⟩ := FileSystem.locate_eq_ok hp hreach
  exact pathExists_of_ok (FileSystem.entry_eq_ok (FileSystem.locate_parent hp hreach) hparent)

theorem pathExists_of_reaches
    (hreach : world.Reaches p) :
    (Host.pathExists p : StateM World _) world = (.ok (world.files.at? p.parts).isSome, world) := by
  cases hentry : world.files.at? p.parts with
  | none =>
      rw [pathExists_of_error (FileSystem.entry_eq_notFound hreach hentry)]
      rfl
  | some entry =>
      exact pathExists_of_ok (FileSystem.entry_eq_ok hreach hentry)

theorem readText_of_file
    {place : Place} {content : ByteArray} {mode : Nat} {time : Stamp} {t : Text}
    (hlocate : world.files.locate world.surroundings.directory p = .ok place)
    (hfile : world.files.at? place = some (.file content mode time))
    (hdecode : Text.decode? content = some t) :
    (Host.readText p : StateM World _) world = (.ok (Text.unifyLineEnds t), world) := by
  have hread : world.files.read world.surroundings.directory p = .ok content := by
    simp [FileSystem.read, FileSystem.entry_eq_ok hlocate hfile, bind, Except.bind]
  simp only [Host.readText, bind_apply, Host.readBytes, hread, hdecode]
  rfl

/-- What writing does to a file that is there, wherever the path leads. -/
theorem writeText_of_file
    {place : Place} {content : ByteArray} {mode : Nat} {time : Stamp}
    (t : Text)
    (hlocate : world.files.locate world.surroundings.directory p = .ok place)
    (hfile : world.files.at? place = some (.file content mode time)) :
    (Host.writeText p t : StateM World _) world =
      (.ok (),
        { world with files := world.files.put place (.file (Text.encode t) mode .present) }) := by
  have hwrite :
      world.files.write world.surroundings.directory p (Text.encode t) =
        .ok (world.files.put place (.file (Text.encode t) mode .present)) := by
    simp [FileSystem.write, hlocate, hfile, bind, Except.bind]
  have hchange :
      change (fun files directory => files.write directory p (Text.encode t)) world =
        (.ok (), { world with files := world.files.put place (.file (Text.encode t) mode .present) }) :=
    change_of_ok hwrite
  exact hchange

/-- What is read at a path stays the same when its file is not concerned. -/
theorem readText_edits
    {touched : Place → Prop} {t : Text}
    (hp : p.IsRooted)
    (hedits : Edits touched world world')
    (hplace : ¬ touched p.parts)
    (hlog : world.logFile ≠ some p.parts)
    (h : (Host.readText p : StateM World _) world = (.ok t, world)) :
    (Host.readText p : StateM World _) world' = (.ok t, world') := by
  obtain ⟨hreach, content, mode, time, u, hfile, hdecode, rfl⟩ := readText_eq_ok hp h
  exact readText_of_file (hreach.edits hp hedits)
    ((hedits.at?_eq_iff hplace hlog content mode time).mpr hfile) hdecode

end Success

section Keeping

theorem addRecord_keeps
    (world : World) {place : Place} (record : Record)
    (h : world.files.IsDirectory place) :
    (world.addRecord record).files.IsDirectory place := by
  cases hlog : world.logFile with
  | none =>
      simpa [addRecord, hlog] using h
  | some log =>
      simpa [addRecord, hlog] using FileSystem.appendAt_keeps h

/-- A file that has just been written can be made executable. -/
theorem exists_setMode_of_writeText
    {t : Text} (mode : Nat)
    (h : (Host.writeText p t : StateM World _) world = (.ok (), world')) :
    ∃ changed, (Host.setMode p mode : StateM World _) world' = (.ok (), changed) := by
  have hchange :
      change (fun files directory => files.write directory p (Text.encode t)) world =
        (.ok (), world') := h
  obtain ⟨fs, hwrite, rfl⟩ := change_eq_ok hchange
  obtain ⟨hkeeps, place, hlocate, hfile⟩ := FileSystem.write_keeps hwrite
  obtain ⟨changed, hmode⟩ :=
    FileSystem.exists_setMode_eq_ok mode (FileSystem.locate_of_keeps hkeeps hlocate) hfile
  exact ⟨_, change_of_ok hmode⟩

theorem readText_of_error
    {cause : Fault}
    (h : world.files.read world.surroundings.directory p = .error cause) :
    (Host.readText p : StateM World _) world = (.error (.fault cause), world) := by
  simp only [Host.readText, bind_apply, Host.readBytes, h]
  rfl

/-- What is found but cannot be removed is a directory. -/
theorem removeFile_of_entry
    {entry : Entry} {cause : Fault}
    (hentry : world.files.entry world.surroundings.directory p = .ok entry)
    (h : (Host.removeFile p : StateM World _) world = (.error cause, world')) :
    cause = .isDirectory := by
  obtain ⟨place, hlocate, hplace⟩ := FileSystem.exists_locate_of_bind hentry
  have hremove : world.files.remove world.surroundings.directory p = .error cause := by
    change removeFile p world = (.error cause, world') at h
    unfold removeFile at h
    split at h
    · cases h
    · rename_i hremove
      cases h
      exact hremove
    · rename_i hfailed _
      rw [hlocate] at hfailed
      cases hfailed
  simp only [FileSystem.remove, hlocate, bind, Except.bind] at hremove
  split at hplace
  · rename_i found hfound
    cases found with
    | file content mode time =>
        rw [hfound] at hremove
        cases hremove
    | directory time =>
        rw [hfound] at hremove
        cases hremove
        rfl
  · cases hplace

/-- After a file has been removed and this has been reported, nothing is at its path. -/
theorem pathExists_of_removeFile
    {removed : World} (record : Record)
    (h : (Host.removeFile p : StateM World _) world = (.ok (), removed)) :
    (Host.pathExists p : StateM World _) (removed.addRecord record) =
      (.ok false, removed.addRecord record) := by
  change removeFile p world = (.ok (), removed) at h
  unfold removeFile at h
  split at h
  · rename_i place fs hplace hremove
    cases h
    obtain ⟨hkeeps, place', hlocate, hnone⟩ := FileSystem.remove_keeps hremove
    obtain rfl : place = place' := Except.ok.inj (hplace.symm.trans hlocate)
    generalize hafter : (if world.logFile = some place then none else world.logFile) = log
    have hlog : log ≠ some place := by
      rw [← hafter]
      split
      · simp
      · assumption
    have hstill := FileSystem.locate_of_keeps (fun other hother => addRecord_keeps
      { world with files := fs, logFile := log } record (hkeeps other hother)) hlocate
    refine pathExists_of_error (FileSystem.entry_eq_notFound hstill ?_)
    rw [at?_addRecord record hlog]
    exact hnone
  · cases h
  · cases h

end Keeping

end Operations

end World

end Literate
