import Literate.Proofs.Emission.Replay

/-!
# What stops an emitter

An emitter that cannot write a block says at which destination it failed.  Its
failure is that of a destination, unless the path of the destination holds a null
character, in which case the host is not asked at all.

**Null characters.**  No operation of the host meets a null character but in the path
that it was asked for (`BlamesNull`).

**Texts.**  A destination is read only after it has been written in the same run, so
that it can always be read (`emit_blamed`).

**Main statements.**
* `emit_blamed`, `emitAll_blamed`: a block and a whole run that fail.
-/

namespace Literate

namespace FileSystem

variable {fs : FileSystem} {directory p : Path}

theorem walk_ne_nullCharacter
    (fs : FileSystem) (place : Place) (parts : List Text) :
    fs.walk place parts ≠ .error .nullCharacter := by
  induction parts generalizing place with
  | nil =>
      simp [walk]
  | cons part rest ih =>
      intro h
      rw [walk] at h
      split at h
      · cases h
      · cases h
      · split at h
        · exact ih _ h
        · split at h
          · cases h
          · exact ih _ h

/-- Whatever is done at the place of a path, the null character is met in the path. -/
theorem hasNull_of_locate_bind
    {α : Type} {f : Place → Except Fault α}
    (hf : ∀ place, f place ≠ .error .nullCharacter)
    (h : (fs.locate directory p >>= f) = .error .nullCharacter) :
    p.hasNull = true := by
  cases hnull : p.hasNull with
  | true =>
      rfl
  | false =>
      exfalso
      cases hwalk : fs.walk [] (directory.append p).parts with
      | error cause =>
          have hlocate : fs.locate directory p = .error cause := by
            simp [locate, hnull, hwalk]
          rw [hlocate] at h
          cases h
          exact walk_ne_nullCharacter fs _ _ hwalk
      | ok place =>
          have hlocate : fs.locate directory p = .ok place := by
            simp [locate, hnull, hwalk]
          rw [hlocate] at h
          exact hf place h

theorem hasNull_of_read
    (h : fs.read directory p = .error .nullCharacter) :
    p.hasNull = true := by
  unfold read entry at h
  rw [bind_assoc] at h
  refine hasNull_of_locate_bind (fun place hplace => ?_) h
  cases hentry : fs.at? place with
  | none =>
      simp [hentry, bind, Except.bind] at hplace
  | some entry =>
      cases entry <;> simp [hentry, bind, Except.bind] at hplace

theorem hasNull_of_write
    {content : ByteArray}
    (h : fs.write directory p content = .error .nullCharacter) :
    p.hasNull = true := by
  refine hasNull_of_locate_bind (fun place hplace => ?_) h
  split at hplace <;> cases hplace

theorem hasNull_of_remove
    (h : fs.remove directory p = .error .nullCharacter) :
    p.hasNull = true := by
  refine hasNull_of_locate_bind (fun place hplace => ?_) h
  split at hplace <;> cases hplace

theorem hasNull_of_makeDirectory
    (h : fs.makeDirectory directory p = .error .nullCharacter) :
    p.hasNull = true := by
  refine hasNull_of_locate_bind (fun place hplace => ?_) h
  split at hplace <;> cases hplace

theorem hasNull_of_setMode
    {mode : Nat}
    (h : fs.setMode directory p mode = .error .nullCharacter) :
    p.hasNull = true := by
  refine hasNull_of_locate_bind (fun place hplace => ?_) h
  split at hplace <;> cases hplace

end FileSystem

namespace World

/-- An operation of the host meets a null character only if the path holds one. -/
def BlamesNull {α : Type} (p : Path) (operation : StateM World (Except Fault α)) : Prop :=
  ∀ world world', operation world = (.error .nullCharacter, world') → p.hasNull = true

variable {p : Path}

theorem blamesNull_change
    {operation : FileSystem → Path → Except Fault FileSystem}
    (h : ∀ fs directory, operation fs directory = .error .nullCharacter → p.hasNull = true) :
    BlamesNull p (change operation) := by
  intro world world' hrun
  unfold change at hrun
  split at hrun
  · cases hrun
  · rename_i cause hoperation
    cases hrun
    exact h _ _ hoperation

theorem blamesNull_writeText
    (p : Path) (t : Text) :
    BlamesNull p (Host.writeText p t : StateM World _) := by
  have hchange : BlamesNull p (change fun fs directory => fs.write directory p (Text.encode t)) :=
    blamesNull_change fun _ _ => FileSystem.hasNull_of_write
  exact hchange

theorem blamesNull_setMode
    (p : Path) (mode : Nat) :
    BlamesNull p (Host.setMode p mode : StateM World _) :=
  blamesNull_change fun _ _ => FileSystem.hasNull_of_setMode

theorem blamesNull_makeDirectory
    (p : Path) :
    BlamesNull p (Host.makeDirectory p : StateM World _) :=
  blamesNull_change fun _ _ => FileSystem.hasNull_of_makeDirectory

theorem blamesNull_removeFile
    (p : Path) :
    BlamesNull p (Host.removeFile p : StateM World _) := by
  intro world world' h
  change removeFile p world = _ at h
  unfold removeFile at h
  split at h
  · cases h
  · rename_i cause hremove
    cases h
    exact FileSystem.hasNull_of_remove hremove
  · rename_i cause hlocate hnone
    cases h
    have hremove : world.files.remove world.surroundings.directory p = .error .nullCharacter := by
      rw [FileSystem.remove, hlocate]
      rfl
    exact absurd hremove (hnone .nullCharacter)

/-- A path is never found to hold a null character when it is looked for. -/
theorem blamesNull_pathExists
    (p q : Path) :
    BlamesNull p (Host.pathExists q : StateM World _) := by
  intro world world' h
  cases hentry : world.files.entry world.surroundings.directory q with
  | ok entry =>
      rw [pathExists_of_ok hentry] at h
      cases h
  | error cause =>
      rw [pathExists_of_error hentry] at h
      split at h
      · cases h
      · rename_i hpresent
        cases h
        exact absurd rfl hpresent

theorem blamesNull_finish
    (p : Path) :
    BlamesNull p (Host.makeDirectories.finish p : StateM World _) := by
  intro world world' h
  simp only [Host.makeDirectories.finish, bind_apply] at h
  cases hmake : (Host.makeDirectory p : StateM World _) world with
  | mk result made =>
      rw [hmake] at h
      cases result with
      | ok u =>
          cases h
      | error cause =>
          cases cause with
          | nullCharacter =>
              exact blamesNull_makeDirectory p world made hmake
          | _ =>
              simp only [bind_apply] at h
              split at h <;> cases h

theorem blamesNull_makeDirectories
    (depth : Nat) (p : Path) :
    BlamesNull p (Host.makeDirectories depth p : StateM World _) := by
  induction depth generalizing p with
  | zero =>
      intro world world' h
      cases h
  | succ depth ih =>
      intro world world' h
      simp only [Host.makeDirectories, bind_apply, status_state] at h
      cases habove : ((Host.status p.parent : StateM World _) world).1 with
      | ok found =>
          rw [habove] at h
          exact blamesNull_finish p _ _ h
      | error cause =>
          rw [habove] at h
          simp only [bind_apply] at h
          cases hmake : (Host.makeDirectories depth p.parent : StateM World _) world with
          | mk result made =>
              rw [hmake] at h
              cases result with
              | ok u =>
                  exact blamesNull_finish p _ _ h
              | error fault =>
                  cases fault with
                  | alreadyExists =>
                      exact blamesNull_finish p _ _ h
                  | nullCharacter =>
                      exact Path.hasNull_of_parent (ih p.parent world made hmake)
                  | _ =>
                      cases h

/-- A text that cannot be read: the bytes cannot be read, or they are no text. -/
theorem readText_eq_error
    {world world' : World} {cause : Host.ReadFault}
    (h : (Host.readText p : StateM World _) world = (.error cause, world')) :
    (∃ fault, cause = .fault fault ∧
        world.files.read world.surroundings.directory p = .error fault) ∨
      cause = .undecodable ∧ ∃ content,
        world.files.read world.surroundings.directory p = .ok content ∧
          Text.decode? content = none := by
  simp only [Host.readText, bind_apply, Host.readBytes] at h
  cases hread : world.files.read world.surroundings.directory p with
  | error fault =>
      rw [hread] at h
      cases h
      exact Or.inl ⟨fault, rfl, rfl⟩
  | ok content =>
      rw [hread] at h
      cases hdecode : Text.decode? content with
      | none =>
          simp only [hdecode] at h
          cases h
          exact Or.inr ⟨rfl, content, rfl, hdecode⟩
      | some t =>
          simp only [hdecode] at h
          cases h

end World

namespace Emitter

variable {p : Path} {block : RenderedBlock} {emitter emitter' : Emitter} {target : Target}
  {world world' : World} {failure : Failure}

/-- A failure at a destination, which is one of a null character only if the path holds one. -/
def Blamed (p : Path) (failure : Failure) : Prop :=
  ∃ cause, failure = failureAt p cause ∧ (cause = .nullCharacter → p.hasNull = true)

theorem blamed_of_fault
    {α : Type} {operation : StateM World (Except Fault α)} {cause : Fault}
    (hoperation : World.BlamesNull p operation)
    (h : operation world = (.error cause, world')) :
    Blamed p (failureAt p cause) := by
  refine ⟨cause, rfl, ?_⟩
  rintro rfl
  exact hoperation world world' h

theorem makeAbove_blamed
    (h : (makeAbove p block : ExceptT Failure (StateM World) Unit).run world =
      (.error failure, world')) :
    Blamed p failure := by
  unfold makeAbove at h
  split at h
  · rcases attempt_bind_cases h with ⟨cause, hexists, hfailure⟩ | ⟨found, between, -, hrest⟩
    · cases hfailure
      exact blamed_of_fault (World.blamesNull_pathExists p p.parent) hexists
    · cases found with
      | true =>
          cases hrest
      | false =>
          rcases attempt_cases hrest with ⟨cause, hmake, hfailure⟩ | ⟨made, -, hok⟩
          · cases hfailure
            refine ⟨cause, rfl, ?_⟩
            rintro rfl
            exact Path.hasNull_of_parent (World.blamesNull_makeDirectories _ _ _ _ hmake)
          · cases hok
  · cases h

theorem clear_blamed
    (h : (clear p block : ExceptT Failure (StateM World) Unit).run world = (.error failure, world')) :
    Blamed p failure := by
  rcases attempt_bind_cases h with ⟨cause, hexists, hfailure⟩ | ⟨found, between, -, hrest⟩
  · cases hfailure
    exact blamed_of_fault (World.blamesNull_pathExists p p) hexists
  · cases found with
    | false =>
        exact makeAbove_blamed hrest
    | true =>
        rcases attempt_bind_cases hrest with ⟨cause, hremove, hfailure⟩ | ⟨⟨⟩, removed, -, hrest⟩
        · cases hfailure
          exact blamed_of_fault (World.blamesNull_removeFile p) hremove
        · rw [World.run_bind_of_ok (World.run_lift _ _)] at hrest
          exact makeAbove_blamed hrest

/-- A destination that cannot be read fails as a destination, or its content is no text. -/
theorem existing_blamed
    (h : (existing p : ExceptT Failure (StateM World) Text).run world = (.error failure, world')) :
    Blamed p failure ∨
      ∃ content, world.files.read world.surroundings.directory p = .ok content ∧
        Text.decode? content = none := by
  rcases attempt_bind_cases h with ⟨cause, hexists, hfailure⟩ | ⟨found, between, hexists, hrest⟩
  · cases hfailure
    exact Or.inl (blamed_of_fault (World.blamesNull_pathExists p p) hexists)
  · obtain rfl := World.pathExists_state hexists
    cases found with
    | false =>
        cases hrest
    | true =>
        simp only [if_true] at hrest
        rw [World.run_bind_of_ok (World.run_lift _ _)] at hrest
        cases hread : (Host.readText p : StateM World _) between with
        | mk result read =>
            rw [hread] at hrest
            cases result with
            | ok t =>
                cases hrest
            | error cause =>
                cases hrest
                rcases World.readText_eq_error hread with ⟨fault, rfl, hfault⟩ | ⟨-, hcontent⟩
                · refine Or.inl ⟨fault, rfl, ?_⟩
                  rintro rfl
                  exact FileSystem.hasNull_of_read hfault
                · exact Or.inr hcontent

/-- A chunk that cannot be written: so it is with its destination, or its content is no text. -/
theorem write_blamed
    {file : OutputFile} {chunk : Text}
    (h : (emitter.write p file block chunk : StateM World _) world =
      ((emitter', .error failure), world')) :
    Blamed p failure ∨
      ∃ content, world.files.read world.surroundings.directory p = .ok content ∧
        Text.decode? content = none := by
  rcases write_cases h with ⟨cause, hexisting, hfailure, -⟩ | ⟨old, read, -, hrest⟩
  · cases hfailure
    exact existing_blamed hexisting
  · rcases hrest with ⟨cause, hwrite, hfailure, -⟩ | ⟨written, -, hrest⟩
    · cases hfailure
      exact Or.inl (blamed_of_fault (World.blamesNull_writeText p _) hwrite)
    · split at hrest
      · rcases hrest with ⟨cause, hsetMode, hfailure, -⟩ | ⟨-, hok, -⟩
        · cases hfailure
          exact Or.inl (blamed_of_fault (World.blamesNull_setMode p _) hsetMode)
        · cases hok
      · cases hrest.2.1

/-- What is read at a destination that has been opened is a text. -/
theorem decode?_ne_none_of_openFile
    {done : List Target} {file : OutputFile} {content : ByteArray}
    (hpath : target.path.IsRooted)
    (hsettles : Settles done emitter world)
    (h : (emitter.openFile target : StateM World _) world = ((emitter', .ok file), world'))
    (hread : world'.files.read world'.surroundings.directory target.path = .ok content) :
    Text.decode? content ≠ none := by
  obtain ⟨hreach, mode, time, hfile⟩ := FileSystem.read_eq_ok hpath hread
  rcases openFile_cases h with ⟨known, hknown, -, -, rfl⟩ | ⟨-, ⟨cause, -, herror, -⟩ | ⟨hclear, -, -⟩⟩
  · -- the destination has been written before
    obtain ⟨other, hother, hsame⟩ := hsettles.known target.path (by rw [hknown]; rfl)
    obtain ⟨⟨text, mode', hentry⟩, -⟩ := hsettles.files other hother
    rw [hsame, hfile] at hentry
    cases hentry
    rw [Text.decode?_encode]
    exact Option.some_ne_none text
  · cases herror
  · -- the destination has been cleared, so that there is nothing to read
    have hmissing := (clear_eq_ok hpath hsettles.consistent hclear hreach).1
    exact absurd ⟨content, mode, time, hfile⟩ hmissing

/-- A block that can be rendered fails at its destination or not at all. -/
theorem emit_blamed
    {done : List Target}
    (hpath : target.path.IsRooted)
    (hsettles : Settles done emitter world)
    (hrender : ∃ text, emitter.decoration.render target.block = .ok text)
    (h : (emitter.emit target : StateM World _) world = ((emitter', .error failure), world')) :
    Blamed target.path failure := by
  rcases emit_cases h with ⟨cause, hopen, hfailure⟩ | ⟨opened, file, between, hopen, hrest⟩
  · cases hfailure
    rcases openFile_cases hopen with ⟨known, -, hok, -, -⟩ | ⟨-, ⟨cause, hclear, hfailure, -⟩ | ⟨-, hok, -⟩⟩
    · cases hok
    · cases hfailure
      exact clear_blamed hclear
    · cases hok
  · rcases hrest with ⟨cause, hunrendered, -, -⟩ | ⟨text, -, ⟨cause, hwrite, hfailure⟩ | ⟨written, -, hok, -⟩⟩
    · obtain ⟨text, htext⟩ := hrender
      have hdecoration : opened.decoration = emitter.decoration := by
        rcases openFile_cases hopen with ⟨known, -, -, rfl, -⟩ | ⟨-, ⟨cause, -, -, rfl⟩ | ⟨-, -, rfl⟩⟩
        · rfl
        · rfl
        · rfl
      rw [hdecoration, htext] at hunrendered
      cases hunrendered
    · cases hfailure
      rcases write_blamed hwrite with hblamed | ⟨content, hread, hdecode⟩
      · exact hblamed
      · exact absurd hdecode (decode?_ne_none_of_openFile hpath hsettles hopen hread)
    · cases hok

/-- A run whose blocks can be rendered fails at one of its destinations or not at all. -/
theorem emitAll_blamed
    {done targets : List Target}
    (hpaths : ∀ target ∈ targets, target.path.IsRooted)
    (hsettles : Settles done emitter world)
    (hrender : ∀ target ∈ targets, ∃ text, emitter.decoration.render target.block = .ok text)
    (h : (emitter.emitAll targets : StateM World _) world = ((emitter', .error failure), world')) :
    ∃ target ∈ targets, Blamed target.path failure := by
  induction targets generalizing done emitter world with
  | nil =>
      cases h
  | cons target rest ih =>
      simp only [List.forall_mem_cons] at hpaths hrender
      rcases emitAll_cons h with ⟨cause, hemit, hfailure⟩ | ⟨next, p, between, hemit, hrest⟩
      · cases hfailure
        exact ⟨target, by simp, emit_blamed hpaths.1 hsettles hrender.1 hemit⟩
      · obtain ⟨-, -, -, -, -, -, -, rfl, -⟩ :=
          emit_eq_ok_finds hpaths.1 hsettles.consistent hsettles.log_ne hemit
        have hrender' : ∀ other ∈ rest,
            ∃ text, (emitter.after target).decoration.render other.block = .ok text := by
          rw [after_decoration]
          exact hrender.2
        obtain ⟨failed, hmem, hblamed⟩ :=
          ih hpaths.2 (emit_settles hpaths.1 hsettles hemit) hrender' hrest
        exact ⟨failed, List.mem_cons_of_mem _ hmem, hblamed⟩

end Emitter

end Literate
