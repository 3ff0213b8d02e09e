import Literate.Proofs.Emission.Replay
import Literate.Proofs.Emission.Run

/-!
# What a run leaves at a place

A run reads nothing that was there before it began: what it leaves at a place is
said by the blocks that went there, even if they spell the root in two ways, so
that the place is cleared twice.  A place that no block has been written to is
left alone, unless a block for it could not be rendered: the place is cleared
before the block is rendered.

**Main statements.**
* `emitAll_left`: what a run that succeeds leaves at a place.
* `emitAll_spares`: what any run leaves at a place that it has written no block to.
* `emitAll_last_spelling`: what a run leaves at a place that several paths lead to.
-/

namespace Literate
namespace Emitter

section Left

variable {emitter emitter' : Emitter} {target : Target} {world world' : World} {place : Place}
  {entry : Option Entry}

/-- The text and the mode that a chunk is added to at a place. -/
def reading : Option Entry → Text × Nat
  | some (.file bytes mode _) => (((Text.decode? bytes).map Text.unifyLineEnds).getD [], mode)
  | _ => ([], FileSystem.newFileMode)

/-- The text and the mode that a block is added to: what is at a destination that is remembered, nothing
otherwise. -/
def found (emitter : Emitter) (target : Target) (entry : Option Entry) : Text × Nat :=
  if (emitter.files.get? target.path).isSome then reading entry else ([], FileSystem.newFileMode)

/-- What is at a place after a block has been written. -/
def deposit (emitter : Emitter) (place : Place) (entry : Option Entry) (target : Target) : Option Entry :=
  if target.path.parts = place then
    match emitter.decoration.render target.block with
    | .ok text =>
        some (emitter.output target text (emitter.found target entry).1 (emitter.found target entry).2)
    | .error _ => entry
  else entry

/-- What is at a place after blocks have been written, from what is there before. -/
def left (place : Place) (emitter : Emitter) (entry : Option Entry) : List Target → Option Entry
  | [] => entry
  | target :: rest => left place (emitter.after target) (emitter.deposit place entry target) rest

theorem eq_reading_of_reads
    {p : Path} {old : Text} {mode : Nat}
    (h : world.Reads p old mode) :
    (old, mode) = reading (world.files.at? p.parts) := by
  rcases h with ⟨hnone, rfl, rfl⟩ | ⟨bytes, time, t, hfile, hdecode, rfl⟩
  · rw [hnone]
    rfl
  · rw [hfile, reading, hdecode]
    rfl

/-- What a block finds, from what is at its destination. -/
theorem eq_found_of_finds
    {old : Text} {mode : Nat}
    (hentry : (emitter.files.get? target.path).isSome → world.files.at? target.path.parts = entry)
    (h : emitter.Finds target world old mode) :
    (old, mode) = emitter.found target entry := by
  unfold Finds at h
  unfold found
  split at h
  · rename_i hsome
    rw [if_pos hsome, ← hentry hsome]
    exact eq_reading_of_reads h
  · rename_i hnew
    rw [if_neg hnew, h.1, h.2]

/-- A run has left an entry at a place, if it has written a block there. -/
def HasLeft (place : Place) (entry : Option Entry) (done : List Target) (world : World) : Prop :=
  (∃ target ∈ done, target.path.parts = place) → world.files.at? place = entry

/-- A block that is written leaves its deposit, whatever was there before the run. -/
theorem emit_left
    {done : List Target} {p : Path}
    (hpath : target.path.IsRooted)
    (hsettles : Settles done emitter world)
    (hleft : HasLeft place entry done world)
    (h : (emitter.emit target : StateM World _) world = ((emitter', .ok p), world')) :
    emitter' = emitter.after target ∧
      HasLeft place (emitter.deposit place entry target) (done ++ [target]) world' := by
  have hedits := emit_edits hpath hsettles.consistent h
  obtain ⟨text, old, mode, hrender, hfinds, -, -, hafter, -, hfile⟩ :=
    emit_eq_ok_finds hpath hsettles.consistent hsettles.log_ne h
  refine ⟨hafter, ?_⟩
  rintro ⟨other, hother, hplace⟩
  unfold deposit
  by_cases hparts : target.path.parts = place
  · have hknown : (emitter.files.get? target.path).isSome →
        world.files.at? target.path.parts = entry := by
      intro hsome
      obtain ⟨earlier, hearlier, hsame⟩ := hsettles.known _ hsome
      rw [hparts]
      exact hleft ⟨earlier, hearlier, by rw [hsame, hparts]⟩
    have hfound := eq_found_of_finds hknown hfinds
    rw [if_pos hparts, hrender, ← hfound, ← hparts]
    exact hfile
  · rw [if_neg hparts]
    rcases List.mem_append.mp hother with hold | hnew
    · obtain ⟨⟨before, oldMode, hentry⟩, hlog⟩ := hsettles.files other hold
      rw [hplace] at hentry hlog
      have hsame := hleft ⟨other, hold, hplace⟩
      rw [← hsame, hentry]
      exact (hedits.at?_eq_iff (Ne.symm hparts) hlog _ _ _).mpr hentry
    · rw [List.mem_singleton.mp hnew] at hplace
      exact absurd hplace hparts

/-- A run that succeeds leaves at a place what its blocks leave there. -/
theorem emitAll_hasLeft
    {done targets : List Target}
    (hpaths : ∀ target ∈ targets, target.path.IsRooted)
    (hsettles : Settles done emitter world)
    (hleft : HasLeft place entry done world)
    (h : (emitter.emitAll targets : StateM World _) world = ((emitter', .ok ()), world')) :
    HasLeft place (left place emitter entry targets) (done ++ targets) world' := by
  induction targets generalizing done emitter entry world with
  | nil =>
      cases h
      rwa [List.append_nil]
  | cons target rest ih =>
      simp only [List.forall_mem_cons] at hpaths
      rcases emitAll_cons h with ⟨failure, -, herror⟩ | ⟨next, p, between, hemit, hrest⟩
      · cases herror
      · have hnext := emit_settles hpaths.1 hsettles hemit
        obtain ⟨rfl, hdeposit⟩ := emit_left hpaths.1 hsettles hleft hemit
        have hlast := ih hpaths.2 hnext hdeposit hrest
        rwa [List.append_assoc, List.singleton_append] at hlast

/-- What a new run that succeeds leaves at a place that some block goes to: a file, by the blocks alone. -/
theorem emitAll_left
    {decoration : Decoration} {targets : List Target}
    (hpaths : ∀ target ∈ targets, target.path.IsRooted)
    (hworld : world.Consistent)
    (h : (({ decoration := decoration } : Emitter).emitAll targets : StateM World _) world =
      ((emitter, .ok ()), world'))
    (hplace : ∃ target ∈ targets, target.path.parts = place) :
    (∃ text mode, world'.files.at? place = some (.file (Text.encode text) mode .present)) ∧
      world'.files.at? place = left place { decoration := decoration } none targets ∧
      world'.logFile ≠ some place := by
  have hstart := settles_nil decoration hworld
  have hsettles := emitAll_settles hpaths hstart h
  have hnothing : HasLeft place none [] world := by
    rintro ⟨target, hmem, -⟩
    cases hmem
  have hleft := emitAll_hasLeft hpaths hstart hnothing h
  rw [List.nil_append] at hsettles hleft
  obtain ⟨target, hmem, rfl⟩ := hplace
  obtain ⟨hfile, hlog⟩ := hsettles.files target hmem
  exact ⟨hfile, hleft ⟨target, hmem, rfl⟩, hlog⟩

end Left

section Spared

variable {emitter emitter' : Emitter} {target : Target} {targets : List Target} {world world' : World}
  {place : Place}

/-- The blocks that a run writes, up to the first that fails. -/
def written (emitter : Emitter) : List Target → World → List Target
  | [], _ => []
  | target :: rest, world =>
      match (emitter.emit target : StateM World _) world with
      | ((_, .error _), _) => []
      | ((next, .ok _), between) => target :: next.written rest between

theorem written_of_ok
    {p : Path} (rest : List Target)
    (h : (emitter.emit target : StateM World _) world = ((emitter', .ok p), world')) :
    emitter.written (target :: rest) world = target :: emitter'.written rest world' := by
  rw [written, h]

/-- A run that succeeds has written all its blocks. -/
theorem written_eq_self
    (h : (emitter.emitAll targets : StateM World _) world = ((emitter', .ok ()), world')) :
    emitter.written targets world = targets := by
  induction targets generalizing emitter world with
  | nil =>
      rfl
  | cons target rest ih =>
      rcases emitAll_cons h with ⟨failure, -, herror⟩ | ⟨next, p, between, hemit, hrest⟩
      · cases herror
      · rw [written_of_ok rest hemit, ih hrest]

/-- **Spared places.**  Whatever the outcome, a place that the run has written no block to holds the file
that it held before, unless a block for that place could not be rendered. -/
theorem emitAll_spares
    {done : List Target} {result : Except Failure Unit}
    (hpaths : ∀ target ∈ targets, target.path.IsRooted)
    (hsettles : Settles done emitter world)
    (hlog : world.logFile ≠ some place)
    (h : (emitter.emitAll targets : StateM World _) world = ((emitter', result), world'))
    (hspared : ∀ target ∈ emitter.written targets world, target.path.parts ≠ place) :
    (∀ content mode time, world'.files.at? place = some (.file content mode time) ↔
        world.files.at? place = some (.file content mode time)) ∨
      ∃ cause, result = .error (.template cause) ∧
        ∃ target ∈ targets, target.path.parts = place ∧
          emitter.decoration.render target.block = .error cause := by
  induction targets generalizing done emitter world with
  | nil =>
      cases h
      exact Or.inl fun _ _ _ => Iff.rfl
  | cons target rest ih =>
      simp only [List.forall_mem_cons] at hpaths
      rcases emitAll_cons h with ⟨failure, hemit, rfl⟩ | ⟨next, p, between, hemit, hrest⟩
      · rcases emit_error_cases hpaths.1 hsettles.consistent hemit with
          hedits | ⟨hedits, cause, rfl, hrender⟩
        · exact Or.inl (hedits.at?_eq_iff not_false hlog)
        · by_cases hparts : target.path.parts = place
          · exact Or.inr ⟨cause, rfl, target, List.mem_cons_self, hparts, hrender⟩
          · exact Or.inl (hedits.at?_eq_iff (Ne.symm hparts) hlog)
      · rw [written_of_ok rest hemit, List.forall_mem_cons] at hspared
        have hedits := emit_edits hpaths.1 hsettles.consistent hemit
        have hnext := emit_settles hpaths.1 hsettles hemit
        have hsame := hedits.at?_eq_iff (Ne.symm hspared.1) hlog
        obtain ⟨-, -, -, -, -, -, -, rfl, -, -⟩ :=
          emit_eq_ok_finds hpaths.1 hsettles.consistent hsettles.log_ne hemit
        rcases ih hpaths.2 hnext (hedits.log_ne hlog) hrest hspared.2 with
          hlater | ⟨cause, rfl, other, hother, hplace, hrender⟩
        · exact Or.inl fun content mode time => (hlater content mode time).trans (hsame content mode time)
        · rw [after_decoration] at hrender
          exact Or.inr ⟨cause, rfl, other, List.mem_cons_of_mem _ hother, hplace, hrender⟩

end Spared

section Spelling

variable {decoration : Decoration} {emitter emitter' : Emitter} {target : Target} {targets : List Target}
  {world world' : World} {p : Path} {blocks : List RenderedBlock} {entry : Option Entry}

/-- A run that succeeds has rendered all its blocks. -/
theorem emitAll_renders
    {done : List Target}
    (hpaths : ∀ target ∈ targets, target.path.IsRooted)
    (hsettles : Settles done emitter world)
    (h : (emitter.emitAll targets : StateM World _) world = ((emitter', .ok ()), world')) :
    ∀ target ∈ targets, ∃ text, emitter.decoration.render target.block = .ok text := by
  induction targets generalizing done emitter world with
  | nil =>
      simp
  | cons target rest ih =>
      simp only [List.forall_mem_cons] at hpaths ⊢
      rcases emitAll_cons h with ⟨failure, -, herror⟩ | ⟨next, p, between, hemit, hrest⟩
      · cases herror
      · have hnext := emit_settles hpaths.1 hsettles hemit
        obtain ⟨text, -, -, hrender, -, -, -, rfl, -, -⟩ :=
          emit_eq_ok_finds hpaths.1 hsettles.consistent hsettles.log_ne hemit
        have hlater := ih hpaths.2 hnext hrest
        rw [after_decoration] at hlater
        exact ⟨⟨text, hrender⟩, hlater⟩

/-- What the emitter remembers about a path and what is at its place are what the blocks make that went there
by this path.  Before the first of them the path is not remembered, whatever is at its place. -/
def Agrees (decoration : Decoration) (p : Path) (blocks : List RenderedBlock) (emitter : Emitter)
    (entry : Option Entry) : Prop :=
  emitter.decoration = decoration ∧
    match emitter.files.get? p with
    | none => blocks = []
    | some file => Recalls blocks file ∧ ∃ text, content decoration blocks = .ok text ∧ '\r' ∉ text ∧
        entry = some (.file (Text.encode text) (mode blocks) .present)

/-- An open destination is remembered by its blocks. -/
theorem Agrees.recalls
    (h : Agrees decoration target.path blocks emitter entry) :
    Recalls blocks (emitter.opened target).2 := by
  obtain ⟨-, hfile⟩ := h
  unfold opened
  split at hfile
  · rename_i hnone
    obtain rfl := hfile
    rw [hnone]
    exact ⟨rfl, rfl, rfl⟩
  · rename_i file hsome
    rw [hsome]
    exact hfile.1

/-- A block finds what the blocks before it make. -/
theorem Agrees.exists_found
    (h : Agrees decoration target.path blocks emitter entry) :
    ∃ old, content decoration blocks = .ok old ∧ '\r' ∉ old ∧
      emitter.found target entry = (old, mode blocks) := by
  obtain ⟨-, hfile⟩ := h
  unfold found
  split at hfile
  · rename_i hnone
    obtain rfl := hfile
    rw [hnone]
    exact ⟨[], rfl, by simp, rfl⟩
  · rename_i file hsome
    obtain ⟨-, text, hcontent, hreturn, rfl⟩ := hfile
    rw [hsome, if_pos Option.isSome_some, reading, Text.decode?_encode, Option.map_some, Option.getD_some,
      Text.unifyLineEnds_eq_self hreturn]
    exact ⟨text, hcontent, hreturn, rfl⟩

/-- One more block by the path. -/
theorem Agrees.deposit
    {text : Text}
    (hrender : decoration.render target.block = .ok text)
    (hreturns : NoReturns decoration target.block)
    (h : Agrees decoration target.path blocks emitter entry) :
    Agrees decoration target.path (blocks ++ [target.block]) (emitter.after target)
      (emitter.deposit target.path.parts entry target) := by
  have hrecalls := h.recalls
  obtain ⟨old, hold, hreturn, hfound⟩ := h.exists_found
  refine ⟨(after_decoration emitter target).trans h.1, ?_⟩
  rw [after, get?_note, if_pos rfl]
  refine ⟨hrecalls.extended target.block, _,
    content_concat hrecalls.hasShebang hrecalls.blockCount hold hrender,
    not_mem_extend (by decide) hreturn (hreturns.text text hrender) hreturns.shebang, ?_⟩
  rw [Emitter.deposit, if_pos rfl, h.1, hrender, hfound,
    mode_concat target.block hrecalls.hasShebang hrecalls.isExecutable]
  rfl

/-- One more block that goes to another place. -/
theorem Agrees.elsewhere
    (hparts : target.path.parts ≠ p.parts)
    (h : Agrees decoration p blocks emitter entry) :
    Agrees decoration p blocks (emitter.after target) (emitter.deposit p.parts entry target) := by
  have hpath : target.path ≠ p := fun heq => hparts (congrArg Path.parts heq)
  rw [Emitter.deposit, if_neg hparts, Agrees, after_decoration, get?_after_of_ne emitter hpath]
  exact h

/-- A run whose blocks reach the place by the path alone. -/
theorem Agrees.left
    (hspelling : ∀ target ∈ targets, target.path.parts = p.parts → target.path = p)
    (hrender : ∀ target ∈ targets, ∃ text, decoration.render target.block = .ok text)
    (hreturns : ∀ target ∈ targets, NoReturns decoration target.block)
    (h : Agrees decoration p blocks emitter entry) :
    Agrees decoration p (blocks ++ blocksAt p targets) (targets.foldl after emitter)
      (Emitter.left p.parts emitter entry targets) := by
  induction targets generalizing blocks emitter entry with
  | nil =>
      rwa [blocksAt, List.filter_nil, List.map_nil, List.append_nil]
  | cons target rest ih =>
      simp only [List.forall_mem_cons] at hspelling hrender hreturns
      have hcons : blocksAt p (target :: rest) = blocksAt p [target] ++ blocksAt p rest := by
        rw [blocksAt, blocksAt, blocksAt, ← List.map_append, ← List.filter_append, List.singleton_append]
      rw [hcons, ← List.append_assoc]
      refine ih hspelling.2 hrender.2 hreturns.2 ?_
      by_cases hparts : target.path.parts = p.parts
      · obtain rfl := hspelling.1 hparts
        obtain ⟨text, htext⟩ := hrender.1
        have hself : blocksAt target.path [target] = [target.block] := by
          simp [blocksAt]
        rw [hself]
        exact h.deposit htext hreturns.1
      · have hpath : target.path ≠ p := fun heq => hparts (congrArg Path.parts heq)
        have hnone : blocksAt p [target] = [] := by
          simp [blocksAt, hpath]
        rw [hnone, List.append_nil]
        exact h.elsewhere hparts

theorem left_append
    (place : Place) (emitter : Emitter) (entry : Option Entry) (before later : List Target) :
    left place emitter entry (before ++ later) =
      left place (before.foldl after emitter) (left place emitter entry before) later := by
  induction before generalizing emitter entry with
  | nil =>
      rfl
  | cons target rest ih =>
      exact ih (emitter.after target) (emitter.deposit place entry target)

/-- Blocks by other paths leave a path unknown. -/
theorem agrees_of_other_paths
    (entry : Option Entry)
    (hpaths : ∀ target ∈ targets, target.path ≠ p)
    (hdecoration : emitter.decoration = decoration)
    (hnone : emitter.files.get? p = none) :
    Agrees decoration p [] (targets.foldl after emitter) entry := by
  induction targets generalizing emitter with
  | nil =>
      refine ⟨hdecoration, ?_⟩
      rw [List.foldl_nil, hnone]
  | cons target rest ih =>
      simp only [List.forall_mem_cons] at hpaths
      refine ih hpaths.2 ((after_decoration emitter target).trans hdecoration) ?_
      rw [get?_after_of_ne emitter hpaths.1, hnone]

/-- **The last spelling wins.**  The first block that reaches a place by a path clears it, so that what other
paths have put there is lost.  From then on the blocks that use the path make the content, if no other path
leads there any more. -/
theorem emitAll_last_spelling
    (before later : List Target)
    (hpaths : ∀ target ∈ before ++ later, target.path.IsRooted)
    (hworld : world.Consistent)
    (hreturns : ∀ target ∈ later, NoReturns decoration target.block)
    (hbefore : ∀ target ∈ before, target.path ≠ p)
    (hlater : ∀ target ∈ later, target.path.parts = p.parts → target.path = p)
    (hne : blocksAt p later ≠ [])
    (h : (({ decoration := decoration } : Emitter).emitAll (before ++ later) : StateM World _) world =
      ((emitter, .ok ()), world')) :
    ∃ text, content decoration (blocksAt p later) = .ok text ∧
      world'.files.at? p.parts =
        some (.file (Text.encode text) (mode (blocksAt p later)) .present) := by
  have hrender := emitAll_renders hpaths (settles_nil decoration hworld) h
  obtain ⟨block, hblock⟩ := List.exists_mem_of_ne_nil _ hne
  obtain ⟨target, htarget, rfl⟩ := List.mem_map.mp hblock
  obtain ⟨hmem, hpath⟩ := List.mem_filter.mp htarget
  have hplace : ∃ target ∈ before ++ later, target.path.parts = p.parts :=
    ⟨target, List.mem_append_right before hmem, congrArg Path.parts (of_decide_eq_true hpath)⟩
  obtain ⟨-, hleft, -⟩ := emitAll_left hpaths hworld h hplace
  rw [left_append] at hleft
  have hstart : Agrees decoration p [] (before.foldl after { decoration := decoration })
      (left p.parts { decoration := decoration } none before) :=
    agrees_of_other_paths _ hbefore rfl rfl
  obtain ⟨-, hend⟩ := hstart.left hlater
    (fun target hmem => hrender target (List.mem_append_right before hmem)) hreturns
  rw [List.nil_append, ← hleft] at hend
  split at hend
  · exact absurd hend hne
  · obtain ⟨-, text, hcontent, -, hentry⟩ := hend
    exact ⟨text, hcontent, hentry⟩

end Spelling

end Emitter
end Literate
