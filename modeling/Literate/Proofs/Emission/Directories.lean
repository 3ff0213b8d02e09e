import Literate.Proofs.Emission.Steps

/-!
# Directories that a run makes

A run makes a directory only for a block that asks for it, and only on the way
to the destination of that block.

**Main statements.**
* `makeDirectories_makes`: making a directory makes only those above it.
* `emit_makes`, `emitAll_makes`: the directories that a block and a whole run make.
-/

namespace Literate

namespace World

/-- Every directory of the second world was there before, or is at one of the places `made`. -/
def Makes (made : Place → Prop) (world world' : World) : Prop :=
  ∀ place, world'.files.IsDirectory place → world.files.IsDirectory place ∨ made place

namespace Makes

variable {made : Place → Prop} {world world' world'' : World}

theorem refl : Makes made world world :=
  fun _ => Or.inl

theorem trans
    (h : Makes made world world')
    (h' : Makes made world' world'') :
    Makes made world world'' :=
  fun place hplace => (h' place hplace).elim (h place) Or.inr

theorem mono
    {made' : Place → Prop}
    (h : Makes made world world')
    (hmono : ∀ place, made place → made' place) :
    Makes made' world world' :=
  fun place hplace => (h place hplace).imp_right (hmono place)

end Makes

/-- Operations on files make no directory. -/
theorem Rewrites.makes
    {touched made : Place → Prop} {world world' : World}
    (h : Rewrites touched world world') :
    Makes made world world' :=
  fun place hplace => Or.inl (h.directories place hplace)

variable {world : World} {p : Path}

theorem makeDirectory_makes
    (hp : p.IsRooted) :
    Makes (· = p.parts) world ((Host.makeDirectory p : StateM World _) world).2 := by
  cases h : (Host.makeDirectory p : StateM World _) world with
  | mk result world' =>
      cases result with
      | ok u =>
          obtain ⟨fs, hmake, rfl⟩ := change_eq_ok h
          exact fun place hplace => FileSystem.isDirectory_of_makeDirectory hp hmake hplace
      | error cause =>
          obtain rfl := change_eq_error h
          exact Makes.refl

/-- Making a directory makes only those on the way. -/
theorem makeDirectories_makes
    (depth : Nat)
    (hp : p.IsRooted) :
    Makes (· <+: p.parts) world ((Host.makeDirectories depth p : StateM World _) world).2 := by
  have hfinish : ∀ (world : World) {p : Path}, p.IsRooted →
      Makes (· <+: p.parts) world ((Host.makeDirectories.finish p : StateM World _) world).2 := by
    intro world p hp
    rw [finish_state]
    refine (makeDirectory_makes hp).mono ?_
    rintro place rfl
    exact List.prefix_refl _
  induction depth generalizing p world with
  | zero =>
      exact Makes.refl
  | succ depth ih =>
      simp only [Host.makeDirectories, bind_apply, status_state]
      cases ((Host.status p.parent : StateM World _) world).1 with
      | ok found =>
          exact hfinish world hp
      | error cause =>
          have habove : Makes (· <+: p.parts) world
              ((Host.makeDirectories depth p.parent : StateM World _) world).2 :=
            (ih hp.parent).mono fun _ hplace => hplace.trans (List.dropLast_prefix _)
          have hlast := habove.trans (hfinish _ hp)
          simp only [bind_apply]
          cases ((Host.makeDirectories depth p.parent : StateM World _) world).1 with
          | ok u =>
              exact hlast
          | error cause =>
              cases cause with
              | alreadyExists =>
                  exact hlast
              | _ =>
                  exact habove

end World

namespace Emitter

variable {emitter emitter' : Emitter} {target : Target} {block : RenderedBlock} {world world' : World}
  {p : Path}

/-- The places at which a block may make directories. -/
def MadeFor (target : Target) (place : Place) : Prop :=
  target.block.params.makesDirectories = true ∧ place <+: target.path.parts.dropLast

theorem makeAbove_makes
    {result : Except Failure Unit}
    (hp : p.IsRooted)
    (h : (makeAbove p block : ExceptT Failure (StateM World) Unit).run world = (result, world')) :
    World.Makes (MadeFor ⟨p, block⟩) world world' := by
  unfold makeAbove at h
  split at h
  · rename_i hasks
    rcases attempt_bind_cases h with ⟨cause, hexists, -⟩ | ⟨found, between, hexists, hrest⟩
    · obtain rfl := World.pathExists_state hexists
      exact World.Makes.refl
    · obtain rfl := World.pathExists_state hexists
      cases found with
      | true =>
          cases hrest
          exact World.Makes.refl
      | false =>
          have hmakes : World.Makes (MadeFor ⟨p, block⟩) between
              ((Host.makeDirectories (p.parts.length + 1) p.parent : StateM World _) between).2 :=
            (World.makeDirectories_makes (p.parts.length + 1) hp.parent).mono fun _ hplace =>
              ⟨hasks, hplace⟩
          rcases attempt_cases hrest with ⟨cause, hmake, -⟩ | ⟨made, hmake, -⟩
          · rwa [hmake] at hmakes
          · rwa [hmake] at hmakes
  · cases h
    exact World.Makes.refl

theorem clear_makes
    {result : Except Failure Unit}
    (hp : p.IsRooted)
    (hworld : world.Consistent)
    (h : (clear p block : ExceptT Failure (StateM World) Unit).run world = (result, world')) :
    World.Makes (MadeFor ⟨p, block⟩) world world' := by
  rcases attempt_bind_cases h with ⟨cause, hexists, -⟩ | ⟨found, between, hexists, hrest⟩
  · obtain rfl := World.pathExists_state hexists
    exact World.Makes.refl
  · obtain rfl := World.pathExists_state hexists
    cases found with
    | false =>
        exact makeAbove_makes hp hrest
    | true =>
        rcases attempt_bind_cases hrest with ⟨cause, hremove, -⟩ | ⟨⟨⟩, removed, hremove, hrest⟩
        · obtain rfl := World.removeFile_eq_error hremove
          exact World.Makes.refl
        · obtain ⟨hrewrites, -, -⟩ := World.removeFile_eq_ok hp hworld hremove
          have hrecord := World.addRecord_rewrites (removalRecord p) hrewrites.consistent
          rw [World.run_bind_of_ok (World.run_lift _ _)] at hrest
          exact (hrewrites.makes.trans hrecord.makes).trans (makeAbove_makes hp hrest)

theorem openFile_makes
    {result : Except Failure OutputFile}
    (hpath : target.path.IsRooted)
    (hworld : world.Consistent)
    (h : (emitter.openFile target : StateM World _) world = ((emitter', result), world')) :
    World.Makes (MadeFor target) world world' := by
  rcases openFile_cases h with ⟨file, -, -, -, rfl⟩ | ⟨-, ⟨failure, hclear, -, -⟩ | ⟨hclear, -, -⟩⟩
  · exact World.Makes.refl
  · exact clear_makes hpath hworld hclear
  · exact clear_makes hpath hworld hclear

/-- A block makes directories only if it asks for it, and only above its destination. -/
theorem emit_makes
    {result : Except Failure Path}
    (hpath : target.path.IsRooted)
    (hworld : world.Consistent)
    (h : (emitter.emit target : StateM World _) world = ((emitter', result), world')) :
    World.Makes (MadeFor target) world world' := by
  rcases emit_cases h with ⟨failure, hopen, -⟩ | ⟨opened, file, between, hopen, hrest⟩
  · exact openFile_makes hpath hworld hopen
  · have hfirst := openFile_makes hpath hworld hopen
    have hconsistent := (openFile_edits hpath hworld hopen).consistent
    rcases hrest with ⟨cause, -, -, rfl, -⟩ | ⟨text, -, ⟨failure, hwrite, -⟩ | ⟨written, hwrite, -, rfl⟩⟩
    · exact hfirst
    · obtain rfl := write_eq_error hpath hconsistent hwrite
      exact hfirst
    · obtain ⟨-, -, -, -, -, hrewrites, -⟩ := write_eq_ok hpath hconsistent hwrite
      have hrecord := World.addRecord_rewrites (writtenRecord target) hrewrites.consistent
      exact hfirst.trans (hrewrites.makes.trans hrecord.makes)

/-- A run makes directories only for blocks that ask for it, and only above their destinations. -/
theorem emitAll_makes
    {targets : List Target} {result : Except Failure Unit}
    (hpaths : ∀ target ∈ targets, target.path.IsRooted)
    (hworld : world.Consistent)
    (h : (emitter.emitAll targets : StateM World _) world = ((emitter', result), world')) :
    World.Makes (fun place => ∃ target ∈ targets, MadeFor target place) world world' := by
  induction targets generalizing emitter world with
  | nil =>
      cases h
      exact World.Makes.refl
  | cons target rest ih =>
      simp only [List.forall_mem_cons] at hpaths
      have hfirst : ∀ place, MadeFor target place → ∃ other ∈ target :: rest, MadeFor other place :=
        fun place hplace => ⟨target, List.mem_cons_self, hplace⟩
      rcases emitAll_cons h with ⟨failure, hemit, -⟩ | ⟨next, p, between, hemit, hrest⟩
      · exact (emit_makes hpaths.1 hworld hemit).mono hfirst
      · have hconsistent := (emit_edits hpaths.1 hworld hemit).consistent
        refine ((emit_makes hpaths.1 hworld hemit).mono hfirst).trans
          ((ih hpaths.2 hconsistent hrest).mono ?_)
        rintro place ⟨other, hother, hplace⟩
        exact ⟨other, List.mem_cons_of_mem _ hother, hplace⟩

end Emitter
end Literate
