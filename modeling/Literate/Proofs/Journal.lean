import Literate.Document.Basic
import Literate.Proofs.Emission.Steps

/-!
# Computations that do not warn

Warnings are written where a block is skipped and nowhere else.  A computation
is quiet when it writes no warning, whatever comes of it; this is kept by
sequencing, so that it holds of a program whose steps are quiet.

**Main statements.**
* `Quiet.bind`, `Quiet.run_bind`: sequencing keeps computations quiet.
* `Emitter.quiet_emitAll`, `Document.quiet_save`: writing blocks and saving a
  document are quiet.
-/

namespace Literate

/-- The warnings among records. -/
def warnings (records : List Record) : List Record :=
  records.filter fun record => record.level = .warning

theorem warnings_append
    (records later : List Record) :
    warnings (records ++ later) = warnings records ++ warnings later :=
  List.filter_append ..

namespace World

/-- Between two worlds no warning has been written, and the surroundings are the same. -/
structure Calm (world world' : World) : Prop where
  /-- There are no new warnings. -/
  warnings : warnings world'.records = warnings world.records
  /-- The surroundings are the same. -/
  surroundings : world'.surroundings = world.surroundings

theorem Calm.refl
    (world : World) :
    Calm world world :=
  ⟨rfl, rfl⟩

theorem Calm.trans
    {world between world' : World}
    (h : Calm world between)
    (h' : Calm between world') :
    Calm world world' :=
  ⟨h'.warnings.trans h.warnings, h'.surroundings.trans h.surroundings⟩

theorem calm_addRecord
    (world : World) {record : Record}
    (h : record.level ≠ .warning) :
    Calm world (world.addRecord record) := by
  refine ⟨?_, rfl⟩
  change Literate.warnings (world.records ++ [record]) = _
  simp [Literate.warnings, h]

theorem warnings_addRecords
    (world : World) (records : List Record) :
    Literate.warnings (world.addRecords records).records =
      Literate.warnings world.records ++ Literate.warnings records := by
  induction records generalizing world with
  | nil =>
      simp [addRecords, Literate.warnings]
  | cons record records ih =>
      have hfirst : Literate.warnings (world.addRecord record).records =
          Literate.warnings world.records ++ Literate.warnings [record] :=
        warnings_append world.records [record]
      change Literate.warnings ((world.addRecord record).addRecords records).records = _
      rw [ih, hfirst, List.append_assoc, ← warnings_append, List.singleton_append]

/-- A computation writes no warning and stays in its surroundings. -/
def Quiet {α : Type} (x : StateM World α) : Prop :=
  ∀ world, Calm world (x world).2

section Sequencing

variable {ε α β : Type}

theorem quiet_pure
    (a : α) :
    Quiet (pure a : StateM World α) :=
  fun world => Calm.refl world

theorem Quiet.bind
    {x : StateM World α} {f : α → StateM World β}
    (hx : Quiet x)
    (hf : ∀ a, Quiet (f a)) :
    Quiet (x >>= f) := by
  intro world
  rw [bind_apply]
  exact (hx world).trans (hf _ _)

theorem Quiet.run_bind
    {x : ExceptT ε (StateM World) α} {f : α → ExceptT ε (StateM World) β}
    (hx : Quiet x.run)
    (hf : ∀ a, Quiet (f a).run) :
    Quiet (x >>= f).run := by
  rw [ExceptT.run_bind]
  refine hx.bind fun result => ?_
  cases result with
  | error failure =>
      exact quiet_pure _
  | ok a =>
      exact hf a

theorem Quiet.run_lift
    {x : StateM World α}
    (hx : Quiet x) :
    Quiet (liftM x : ExceptT ε (StateM World) α).run :=
  fun world => hx world

theorem quiet_of_state
    {x : StateM World α}
    (h : ∀ world, (x world).2 = world) :
    Quiet x := by
  intro world
  rw [h]
  exact Calm.refl world

end Sequencing

section Operations

theorem quiet_change
    (operation : FileSystem → Path → Except Fault FileSystem) :
    Quiet (change operation) := by
  intro world
  unfold change
  split
  · exact ⟨rfl, rfl⟩
  · exact Calm.refl world

theorem quiet_removeFile
    (p : Path) :
    Quiet (Host.removeFile p : StateM World _) := by
  intro world
  change Calm world (removeFile p world).2
  unfold removeFile
  split
  · exact ⟨rfl, rfl⟩
  · exact Calm.refl world
  · exact Calm.refl world

theorem quiet_pathExists
    (p : Path) :
    Quiet (Host.pathExists p : StateM World _) :=
  quiet_of_state fun _ => pathExists_state rfl

theorem quiet_makeDirectories
    (depth : Nat) (p : Path) :
    Quiet (Host.makeDirectories depth p : StateM World _) := by
  have hfinish : ∀ p, Quiet (Host.makeDirectories.finish p : StateM World _) := by
    intro p world
    rw [finish_state]
    exact quiet_change _ world
  induction depth generalizing p with
  | zero =>
      exact quiet_pure _
  | succ depth ih =>
      unfold Host.makeDirectories
      refine (quiet_of_state fun world => status_state world p.parent).bind fun above => ?_
      cases above with
      | ok found =>
          exact hfinish p
      | error cause =>
          refine (ih p.parent).bind fun made => ?_
          dsimp only
          split
          · exact hfinish p
          · exact quiet_pure _
          · exact hfinish p

theorem quiet_record
    {record : Record}
    (h : record.level ≠ .warning) :
    Quiet (Host.record record : StateM World Unit) :=
  fun world => calm_addRecord world h

end Operations

end World

namespace Document

open World

/-- Saving a document does not warn. -/
theorem quiet_save
    (document : Document) :
    Quiet (document.save : ExceptT Failure (StateM World) Document).run := by
  unfold save
  split
  · exact quiet_pure _
  · split
    · refine Quiet.run_bind (Quiet.run_lift (quiet_record ?_)) fun _ => quiet_pure _
      simp
    · refine Quiet.run_bind (Quiet.run_lift (quiet_change _)) fun written => ?_
      split
      · exact quiet_pure _
      · exact quiet_pure _
      · refine Quiet.run_bind (Quiet.run_lift (quiet_record ?_)) fun _ => quiet_pure _
        simp

end Document

namespace Emitter

open World

variable {p : Path} {block : RenderedBlock}

theorem quiet_attempt
    {α : Type} {operation : StateM World (Except Fault α)}
    (h : Quiet operation) :
    Quiet (attempt p operation : ExceptT Failure (StateM World) α).run := by
  unfold attempt
  refine Quiet.run_bind (Quiet.run_lift h) fun result => ?_
  cases result with
  | ok value =>
      exact quiet_pure _
  | error cause =>
      exact quiet_pure _

theorem quiet_makeAbove :
    Quiet (makeAbove p block : ExceptT Failure (StateM World) Unit).run := by
  unfold makeAbove
  split
  · refine Quiet.run_bind (quiet_attempt (quiet_pathExists p.parent)) fun found => ?_
    split
    · exact quiet_attempt (quiet_makeDirectories _ _)
    · exact quiet_pure _
  · exact quiet_pure _

theorem quiet_clear :
    Quiet (clear p block : ExceptT Failure (StateM World) Unit).run := by
  unfold clear
  refine Quiet.run_bind (quiet_attempt (quiet_pathExists p)) fun found => ?_
  split
  · refine Quiet.run_bind (quiet_attempt (quiet_removeFile p)) fun _ => ?_
    refine Quiet.run_bind (Quiet.run_lift (quiet_record ?_)) fun _ => quiet_makeAbove
    simp
  · exact quiet_makeAbove

theorem quiet_write
    (emitter : Emitter) (file : OutputFile) (chunk : Text) :
    Quiet (emitter.write p file block chunk : StateM World _) := by
  unfold write
  refine (quiet_of_state fun world => existing_state rfl).bind fun old => ?_
  cases old with
  | error failure =>
      exact quiet_pure _
  | ok old =>
      refine Quiet.bind (quiet_change _) fun written => ?_
      cases written with
      | error cause =>
          exact quiet_pure _
      | ok u =>
          dsimp only
          split
          · refine Quiet.bind (quiet_change _) fun changed => ?_
            cases changed with
            | error cause =>
                exact quiet_pure _
            | ok u =>
                exact quiet_pure _
          · exact quiet_pure _

theorem quiet_openFile
    (emitter : Emitter) (target : Target) :
    Quiet (emitter.openFile target : StateM World _) := by
  unfold openFile
  split
  · exact quiet_pure _
  · refine Quiet.bind quiet_clear fun cleared => ?_
    cases cleared with
    | error failure =>
        exact quiet_pure _
    | ok u =>
        exact quiet_pure _

theorem quiet_emit
    (emitter : Emitter) (target : Target) :
    Quiet (emitter.emit target : StateM World _) := by
  unfold emit
  refine (quiet_openFile emitter target).bind fun opened => ?_
  split
  · exact quiet_pure _
  · split
    · exact quiet_pure _
    · refine (quiet_write _ _ _).bind fun written => ?_
      split
      · exact quiet_pure _
      · refine (quiet_record ?_).bind fun _ => quiet_pure _
        simp

/-- Writing blocks does not warn. -/
theorem quiet_emitAll
    (emitter : Emitter) (targets : List Target) :
    Quiet (emitter.emitAll targets : StateM World _) := by
  induction targets generalizing emitter with
  | nil =>
      exact quiet_pure _
  | cons target targets ih =>
      refine (quiet_emit emitter target).bind fun emitted => ?_
      split
      · exact quiet_pure _
      · exact ih _

end Emitter

end Literate
