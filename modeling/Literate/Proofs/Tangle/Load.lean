import Literate.Proofs.Emission.Deposits
import Literate.Proofs.Emission.Directories
import Literate.Proofs.Settings
import Literate.Proofs.Tangle.Outcome

/-!
# Loading a module

A module is loaded only if it is as new as its document, or if the run that was
started to renew it has written it.  What is loaded then is what the blocks of
this run make, and nothing of an older module is left in it.  Templates may be read
by any engine, and there are no links among the files.

**Refusal.**  A module that is out of date and that no block has been written to is
not loaded, and it stays as it was.  There are two exceptions.  Where nothing was,
a directory may have been made on the way to another destination.  And a module is
cleared before its first block is rendered, so that it is lost when that fails.

**Directories.**  Where a directory is in the place of the module, its main file is
run.  It is the age of the directory that is compared, so that the main file may be
older than the document.

**Main statements.**
* `isStale_cases`, `isStale_of_isOutdated`: when a module counts as out of date.
* `Tangler.tangleFile_cases`: what tangling the document in a file does.
* `load_cases`, `renewal_cases`: what loading does, and what the run does that it starts.
* `load_never_stale`: what is loaded, and what becomes of a module that is not.
* `load_exceptions`: the exceptions do occur.
-/

namespace Literate

namespace Document

variable {p : Path} {world world' : World}

/-- Reading a document changes nothing, and a document that has been read has not been edited. -/
theorem load_state
    {result : Except Failure Document}
    (h : (load p : ExceptT Failure (StateM World) Document).run world = (result, world')) :
    world' = world ∧ ∀ document, result = .ok document → document.isModified = false := by
  unfold load at h
  rw [World.run_bind_of_ok (World.run_lift _ _)] at h
  rcases World.run_bind_cases h with ⟨failure, hexpand, rfl⟩ | ⟨expanded, between, hexpand, hrest⟩
  · obtain rfl : world' = world := (congrArg Prod.snd hexpand).symm
    exact ⟨rfl, fun document hok => by cases hok⟩
  · obtain rfl : between = world := (congrArg Prod.snd hexpand).symm
    rw [World.run_bind_of_ok (World.run_lift _ _), World.readText_state] at hrest
    split at hrest
    · cases hrest
      exact ⟨rfl, fun document hok => by cases hok⟩
    · cases hrest
      exact ⟨rfl, fun document hok => by cases hok⟩
    · cases hrest
      exact ⟨rfl, fun document hok => by cases hok⟩
    · rename_i t _
      obtain rfl : world' = between := (congrArg Prod.snd hrest).symm
      refine ⟨rfl, ?_⟩
      rintro document rfl
      have hmade : ofText world'.surroundings t (some expanded) = .ok document :=
        congrArg Prod.fst hrest
      simp only [ofText, resolvePath] at hmade
      split at hmade
      · cases hmade
      · cases hmade
        rfl

/-- A document that has not been edited is not written. -/
theorem save_of_clean
    {document : Document} (world : World)
    (h : document.isModified = false) :
    (document.save : ExceptT Failure (StateM World) Document).run world = (.ok document, world) := by
  unfold save
  rw [h]
  rfl

end Document

namespace Tangler

variable {tangler : Tangler} {document : Document} {p : Path} {target language : Option Text}
  {world world' : World}

/-- The blocks of the document in a file that have a destination, in the order in which they are written. -/
def planned (tangler : Tangler) (p : Path) (target language : Option Text) (world : World) :
    List Target :=
  match ((Document.load p : ExceptT Failure (StateM World) Document).run world).1 with
  | .ok document => tangler.targets world.surroundings document target language
  | .error _ => []

/-- The blocks of the document in a file that a run writes. -/
def emitted (tangler : Tangler) (p : Path) (target language : Option Text) (world : World) :
    List Target :=
  match ((Document.load p : ExceptT Failure (StateM World) Document).run world).1 with
  | .error _ => []
  | .ok document =>
      match document.scanError, (tangler.grouping world.surroundings document target language).2,
          tangler.decoration with
      | none, none, .ok decoration =>
          ({ decoration := decoration } : Emitter).written
            (tangler.targets world.surroundings document target language)
            (world.addRecords (tangler.reports world.surroundings document target language))
      | _, _, _ => []

/-- Tangling the document in a file fails before a block is written, or goes as the writing of the blocks
goes. -/
theorem tangleFile_cases
    {outcome : Except Failure (List Path)}
    (h : (tangler.tangleFile p target language : ExceptT Failure (StateM World) (List Path)).run world =
      (outcome, world')) :
    (∃ failure records, outcome = .error failure ∧ world' = world.addRecords records) ∨
      ∃ document decoration emitter result between,
        tangler.planned p target language world =
          tangler.targets world.surroundings document target language ∧
        tangler.emitted p target language world =
          ({ decoration := decoration } : Emitter).written
            (tangler.targets world.surroundings document target language)
            (world.addRecords (tangler.reports world.surroundings document target language)) ∧
        (tangler.grouping world.surroundings document target language).2 = none ∧
        tangler.decoration = .ok decoration ∧
        (({ decoration := decoration } : Emitter).emitAll
            (tangler.targets world.surroundings document target language) : StateM World _)
          (world.addRecords (tangler.reports world.surroundings document target language)) =
            ((emitter, result), between) ∧
        ((∃ failure, result = .error failure ∧ outcome = .error failure ∧ world' = between) ∨
          result = .ok () ∧
            outcome = .ok (Grouping.distinct
              ((tangler.targets world.surroundings document target language).map Target.path)) ∧
            ∃ record, world' = between.addRecord record) := by
  rcases World.run_bind_cases h with ⟨failure, hload, rfl⟩ | ⟨document, start, hload, hrest⟩
  · obtain ⟨rfl, -⟩ := Document.load_state hload
    exact Or.inl ⟨failure, [], rfl, rfl⟩
  obtain ⟨rfl, hclean⟩ := Document.load_state hload
  have hsave := Document.save_of_clean start (hclean document rfl)
  rw [World.run_bind_of_ok (World.run_lift _ _)] at hrest
  cases hrun : (tangler.tangleSaved document target language :
      ExceptT Failure (StateM World) Summary).run start with
  | mk ended last =>
      rw [tangle_of_save hsave hrun] at hrest
      rcases tangleSaved_cases hrun with ⟨records, failure, -, rfl, rfl⟩ |
        ⟨hscan, hgrouped, decoration, emitter, result, between, hdecoration, hemit, hend⟩
      · cases hrest
        exact Or.inl ⟨failure, records, rfl, rfl⟩
      · have hplanned : tangler.planned p target language start =
            tangler.targets start.surroundings document target language := by
          simp only [planned, hload]
        refine Or.inr ⟨document, decoration, emitter, result, between, hplanned, ?_, hgrouped,
          hdecoration, hemit, ?_⟩
        · simp only [emitted, hload, hscan, hgrouped, hdecoration]
        · rcases hend with ⟨failure, rfl, rfl, rfl⟩ | ⟨rfl, rfl, rfl⟩
          · cases hrest
            exact Or.inl ⟨failure, rfl, rfl, rfl⟩
          · cases hrest
            exact Or.inr ⟨rfl, rfl, _, rfl⟩

/-- A run with a language writes blocks of that language. -/
theorem language_of_mem_targets
    {surroundings : Surroundings} {word : Text} {t : Target}
    (hgrouped : (tangler.grouping surroundings document target (some word)).2 = none)
    (h : t ∈ tangler.targets surroundings document target (some word)) :
    t.block.language = word := by
  obtain ⟨haccount, -⟩ := mem_accounts_of_target hgrouped h
  have hblock : t.block.source ∈ document.collect (some word) := by
    rw [← map_fst_accounts tangler surroundings document target (some word)]
    exact List.mem_map_of_mem haccount
  exact beq_iff_eq.mp (List.mem_filter.mp hblock).2

/-- A path is among those produced, apart from the spelling of the root, if a block leads there. -/
theorem mem_produced_iff
    {targets : List Target} {surroundings : Surroundings}
    (hp : p.IsNormal)
    (hpaths : ∀ t ∈ targets, t.path.IsRooted) :
    ((Grouping.distinct (targets.map Target.path)).map surroundings.resolved).contains p = true ↔
      ∃ t ∈ targets, t.path.parts = p.parts := by
  have hproduced : ∀ q, q ∈ Grouping.distinct (targets.map Target.path) ↔ ∃ t ∈ targets, t.path = q := by
    intro q
    rw [Grouping.distinct_eq_eraseDups, List.mem_eraseDups, List.mem_map]
  have hresolved : ∀ t ∈ targets, surroundings.resolved t.path = ⟨.root, t.path.parts⟩ :=
    fun t ht => Path.resolved_of_isRooted surroundings.directory (hpaths t ht)
  rw [List.contains_iff_mem, List.mem_map]
  constructor
  · rintro ⟨q, hq, rfl⟩
    obtain ⟨t, ht, rfl⟩ := (hproduced q).mp hq
    exact ⟨t, ht, by rw [hresolved t ht]⟩
  · rintro ⟨t, ht, hparts⟩
    refine ⟨t.path, (hproduced _).mpr ⟨t, ht, rfl⟩, ?_⟩
    rw [hresolved t ht]
    exact Path.IsNormal.eq_of_parts_eq ⟨rfl, (hpaths t ht).down⟩ hp hparts

end Tangler

namespace Module

open Emitter (left content mode blocksAt NoReturns MadeFor)

section Staleness

variable {source generated : Path} {world world' : World}

/-- A module that is missing or older than its document. -/
def IsOutdated (source generated : Path) (world : World) : Prop :=
  (∃ cause, world.files.entry world.surroundings.directory generated = .error cause ∧
      cause.meansAbsent = true) ∨
    ∃ document found, world.files.entry world.surroundings.directory source = .ok document ∧
      world.files.entry world.surroundings.directory generated = .ok found ∧
      document.time.isAfter found.time = true

theorem status_apply
    (p : Path) (world : World) :
    (Host.status p : StateM World _) world =
      ((world.files.entry world.surroundings.directory p).map fun found => ⟨found.isDirectory, found.time⟩,
        world) := by
  simp only [Host.status]
  cases world.files.entry world.surroundings.directory p with
  | error cause =>
      rfl
  | ok found =>
      rfl

/-- The test compares the times of the document and of the module that is there. -/
theorem isStale_of_found
    {found : Entry}
    (hfound : world.files.entry world.surroundings.directory generated = .ok found) :
    (isStale source generated : ExceptT Failure (StateM World) Bool).run world =
      (match world.files.entry world.surroundings.directory source with
        | .error cause => .error (.file ⟨cause, source⟩)
        | .ok document => .ok (document.time.isAfter found.time), world) := by
  have hexists : (Settings.checked generated (Host.pathExists generated) :
      ExceptT Failure (StateM World) Bool).run world = (.ok true, world) := by
    rw [Settings.checked_run, World.pathExists_of_ok hfound]
    rfl
  have htarget : (Settings.checked generated (Host.status generated) :
      ExceptT Failure (StateM World) Status).run world =
        (.ok ⟨found.isDirectory, found.time⟩, world) := by
    rw [Settings.checked_run, status_apply, hfound]
    rfl
  rw [isStale, World.run_bind_of_ok hexists]
  simp only [if_true]
  cases hsource : world.files.entry world.surroundings.directory source with
  | error cause =>
      have hfailed : (Settings.checked source (Host.status source) :
          ExceptT Failure (StateM World) Status).run world = (.error (.file ⟨cause, source⟩), world) := by
        rw [Settings.checked_run, status_apply, hsource]
        rfl
      rw [ExceptT.run_bind, World.bind_apply, hfailed]
      rfl
  | ok document =>
      have hread : (Settings.checked source (Host.status source) :
          ExceptT Failure (StateM World) Status).run world =
            (.ok ⟨document.isDirectory, document.time⟩, world) := by
        rw [Settings.checked_run, status_apply, hsource]
        rfl
      rw [World.run_bind_of_ok hread, World.run_bind_of_ok htarget]
      rfl

theorem isStale_of_missing
    {cause : Fault}
    (hmissing : world.files.entry world.surroundings.directory generated = .error cause) :
    (isStale source generated : ExceptT Failure (StateM World) Bool).run world =
      (if cause.meansAbsent then .ok true else .error (.file ⟨cause, generated⟩), world) := by
  have hexists : (Settings.checked generated (Host.pathExists generated) :
      ExceptT Failure (StateM World) Bool).run world =
        (if cause.meansAbsent then .ok false else .error (.file ⟨cause, generated⟩), world) := by
    rw [Settings.checked_run, World.pathExists_of_error hmissing]
    cases cause.meansAbsent <;> rfl
  rw [isStale, ExceptT.run_bind, World.bind_apply, hexists]
  cases cause.meansAbsent <;> rfl

/-- The test changes nothing, and answers whether the module is out of date. -/
theorem isStale_cases
    {result : Except Failure Bool}
    (h : (isStale source generated : ExceptT Failure (StateM World) Bool).run world = (result, world')) :
    world' = world ∧
      (result = .ok true → IsOutdated source generated world) ∧
      (result = .ok false → ∃ document found,
        world.files.entry world.surroundings.directory source = .ok document ∧
        world.files.entry world.surroundings.directory generated = .ok found ∧
        document.time.isAfter found.time = false) := by
  cases hfound : world.files.entry world.surroundings.directory generated with
  | error cause =>
      rw [isStale_of_missing hfound] at h
      cases h
      refine ⟨rfl, fun hstale => Or.inl ⟨cause, hfound, ?_⟩, fun hcurrent => ?_⟩
      · by_contra habsent
        rw [if_neg habsent] at hstale
        cases hstale
      · split at hcurrent <;> cases hcurrent
  | ok found =>
      rw [isStale_of_found hfound] at h
      cases h
      cases hsource : world.files.entry world.surroundings.directory source with
      | error cause =>
          exact ⟨rfl, fun hstale => (by cases hstale), fun hcurrent => (by cases hcurrent)⟩
      | ok document =>
          refine ⟨rfl, fun hstale => Or.inr ⟨document, found, hsource, hfound, ?_⟩, fun hcurrent => ?_⟩
          · exact Except.ok.inj hstale
          · exact ⟨document, found, rfl, rfl, Except.ok.inj hcurrent⟩

theorem isStale_of_isOutdated
    (h : IsOutdated source generated world) :
    (isStale source generated : ExceptT Failure (StateM World) Bool).run world = (.ok true, world) := by
  rcases h with ⟨cause, hmissing, habsent⟩ | ⟨document, found, hsource, hfound, hafter⟩
  · rw [isStale_of_missing hmissing, if_pos habsent]
  · rw [isStale_of_found hfound, hsource]
    simp only [hafter]

end Staleness

section Loading

variable {tangler : Tangler} {p : Path} {q : Option Path} {source generated : Path} {world world' : World}
  {result : Except Failure Path}

/-- The world in which a run to renew a module starts: that has been reported. -/
def started (source generated : Path) (world : World) : World :=
  world.addRecord ⟨.info, .tangling, "Tangling " ++ source.name ++ " into " ++ generated.name⟩

/-- The run that renews a module. -/
def renewal (tangler : Tangler) (source generated : Path) (world : World) :
    Except Failure (List Path) × World :=
  (tangler.tangleFile source (some generated.toText) (some language) :
    ExceptT Failure (StateM World) (List Path)).run (started source generated world)

/-- The blocks that a run to renew a module writes. -/
def emitted (tangler : Tangler) (source generated : Path) (world : World) : List Target :=
  tangler.emitted source (some generated.toText) (some language) (started source generated world)

/-- The blocks that a run to renew a module is going to write. -/
def planned (tangler : Tangler) (source generated : Path) (world : World) : List Target :=
  tangler.planned source (some generated.toText) (some language) (started source generated world)

/-- What is run at a path: the file that is there, or the main file of the directory that is there. -/
def Executes (p : Path) (world : World) (file : Path) : Prop :=
  if ((Host.leadsToDirectory p : StateM World Bool) world).1 then
    ((Host.leadsToFile (mainFile p) : StateM World Bool) world).1 = true ∧ file = mainFile p
  else file = p

/-- A look at what is run changes nothing; it fails in a directory without a main file. -/
theorem executed_cases
    (h : (executed p : ExceptT Failure (StateM World) Path).run world = (result, world')) :
    world' = world ∧ (result = .error .notModule ∨ ∃ file, result = .ok file ∧ Executes p world file) := by
  unfold executed at h
  rw [World.run_bind_of_ok (World.run_lift _ _), World.leadsToDirectory_state] at h
  unfold Executes
  cases hdirectory : ((Host.leadsToDirectory p : StateM World Bool) world).1 with
  | false =>
      rw [hdirectory] at h
      cases h
      exact ⟨rfl, Or.inr ⟨p, rfl, rfl⟩⟩
  | true =>
      rw [hdirectory] at h
      simp only [if_true] at h
      rw [World.run_bind_of_ok (World.run_lift _ _), World.leadsToFile_state] at h
      cases hfile : ((Host.leadsToFile (mainFile p) : StateM World Bool) world).1 with
      | false =>
          rw [hfile] at h
          cases h
          exact ⟨rfl, Or.inl rfl⟩
      | true =>
          rw [hfile] at h
          cases h
          exact ⟨rfl, Or.inr ⟨mainFile p, rfl, rfl, rfl⟩⟩

/-- How loading ends once the module is up to date: it is run and reported, unless there is nothing to run. -/
def Finishes (generated : Path) (ready : World) (result : Except Failure Path) (world' : World) : Prop :=
  (result = .error .notModule ∧ world' = ready) ∨
    ∃ file, result = .ok file ∧ Executes generated ready file ∧
      world' = ready.addRecord ⟨.info, .tangling, "Loaded " ++ generated.toText⟩

/-- Loading fails at the test, or finds the module up to date, or starts a run to renew it, which fails, or
does not write the module, or makes it up to date. -/
theorem load_cases
    (hsource : resolve world.surroundings p = .ok source)
    (hgenerated : generatedPath world.surroundings source q = .ok generated)
    (h : (load tangler p q : ExceptT Failure (StateM World) Path).run world = (result, world')) :
    (∃ failure, (isStale source generated : ExceptT Failure (StateM World) Bool).run world =
        (.error failure, world') ∧ result = .error failure) ∨
      ((isStale source generated : ExceptT Failure (StateM World) Bool).run world = (.ok false, world) ∧
        ∃ record, Finishes generated (world.addRecord record) result world') ∨
      ((isStale source generated : ExceptT Failure (StateM World) Bool).run world = (.ok true, world) ∧
        ((∃ failure, renewal tangler source generated world = (.error failure, world') ∧
            result = .error failure) ∨
          ∃ produced after, renewal tangler source generated world = (.ok produced, after) ∧
            (((produced.map world.surroundings.resolved).contains generated = false ∧
                result = .error (.document (.nothingTangled generated)) ∧ world' = after) ∨
              ((produced.map world.surroundings.resolved).contains generated = true ∧
                Finishes generated after result world')))) := by
  have hfinish : ∀ {ready : World},
      ((do
        let file ← executed generated
        (Host.record ⟨.info, .tangling, "Loaded " ++ generated.toText⟩ : StateM World Unit)
        pure file : ExceptT Failure (StateM World) Path)).run ready = (result, world') →
        Finishes generated ready result world' := by
    intro ready hready
    rcases World.run_bind_cases hready with ⟨failure, hrun, rfl⟩ | ⟨file, between, hrun, hrest⟩
    · obtain ⟨rfl, hfailed | ⟨file, hok, -⟩⟩ := executed_cases hrun
      · exact Or.inl ⟨hfailed, rfl⟩
      · cases hok
    · obtain ⟨rfl, hfailed | ⟨other, hok, hexecutes⟩⟩ := executed_cases hrun
      · cases hfailed
      · cases hok
        cases hrest
        exact Or.inr ⟨file, rfl, hexecutes, rfl⟩
  have hsurroundings : (Host.surroundings : StateM World _) world = (world.surroundings, world) := rfl
  have hfirst : (ExceptT.mk (pure (resolve world.surroundings p)) :
      ExceptT Failure (StateM World) Path).run world = (.ok source, world) := by
    rw [hsource]
    rfl
  have hsecond : (ExceptT.mk (pure (generatedPath world.surroundings source q)) :
      ExceptT Failure (StateM World) Path).run world = (.ok generated, world) := by
    rw [hgenerated]
    rfl
  unfold load at h
  rw [World.run_bind_of_ok (World.run_lift _ _), hsurroundings] at h
  dsimp only at h
  rw [World.run_bind_of_ok hfirst, World.run_bind_of_ok hsecond] at h
  rcases World.run_bind_cases h with ⟨failure, hstale, rfl⟩ | ⟨stale, between, hstale, hrest⟩
  · exact Or.inl ⟨failure, hstale, rfl⟩
  obtain ⟨rfl, -⟩ := isStale_cases hstale
  cases stale with
  | false =>
      simp only [Bool.false_eq_true, if_false] at hrest
      rw [World.run_bind_of_ok (World.run_lift _ _)] at hrest
      exact Or.inr (Or.inl ⟨hstale, _, hfinish hrest⟩)
  | true =>
      refine Or.inr (Or.inr ⟨hstale, ?_⟩)
      simp only [if_true] at hrest
      rw [World.run_bind_of_ok (World.run_lift _ _)] at hrest
      rcases World.run_bind_cases hrest with ⟨failure, hrun, rfl⟩ | ⟨produced, after, hrun, hrest⟩
      · exact Or.inl ⟨failure, hrun, rfl⟩
      · refine Or.inr ⟨produced, after, hrun, ?_⟩
        cases hcontains : (produced.map between.surroundings.resolved).contains generated with
        | false =>
            rw [hcontains] at hrest
            cases hrest
            exact Or.inl ⟨rfl, rfl, rfl⟩
        | true =>
            rw [hcontains] at hrest
            exact Or.inr ⟨rfl, hfinish hrest⟩

/-- A run to renew a module fails before a block is written, or goes as the writing of the planned blocks
goes, all of which are of one language. -/
theorem renewal_cases
    {outcome : Except Failure (List Path)} {after : World}
    (hworld : world.Consistent)
    (hdirectory : world.surroundings.directory.isAbsolute = true)
    (h : renewal tangler source generated world = (outcome, after)) :
    (∃ failure, outcome = .error failure ∧ World.Rewrites (fun _ => False) world after) ∨
      ∃ decoration emitter written start between,
        tangler.decoration = .ok decoration ∧
        World.Rewrites (fun _ => False) world start ∧
        (∀ t ∈ planned tangler source generated world, t.path.IsRooted ∧ t.block.language = language) ∧
        emitted tangler source generated world =
          ({ decoration := decoration } : Emitter).written (planned tangler source generated world) start ∧
        (({ decoration := decoration } : Emitter).emitAll (planned tangler source generated world) :
            StateM World _) start = ((emitter, written), between) ∧
        ((∃ failure, written = .error failure ∧ outcome = .error failure ∧ after = between) ∨
          written = .ok () ∧
            outcome = .ok (Grouping.distinct ((planned tangler source generated world).map Target.path)) ∧
            ∃ record, after = between.addRecord record) := by
  have hstart : World.Rewrites (fun _ => False) world (started source generated world) :=
    World.addRecord_rewrites _ hworld
  rcases Tangler.tangleFile_cases h with ⟨failure, records, rfl, rfl⟩ |
    ⟨document, decoration, emitter, written, between, hplanned, hemitted, hgrouped, hdecoration, hemit, hend⟩
  · exact Or.inl ⟨failure, rfl, hstart.trans (World.addRecords_rewrites records hstart.consistent)⟩
  rw [← hplanned] at hemitted hemit hend
  refine Or.inr ⟨decoration, emitter, written, _, between, hdecoration,
    hstart.trans (World.addRecords_rewrites _ hstart.consistent), ?_, hemitted, hemit, hend⟩
  intro t ht
  have htarget := (congrArg (t ∈ ·) hplanned).mp ht
  exact ⟨Tangler.targets_isRooted hdirectory hgrouped t htarget,
    Tangler.language_of_mem_targets hgrouped htarget⟩

theorem isNormal_of_resolve
    {surroundings : Surroundings}
    (h : resolve surroundings p = .ok source) :
    source.IsNormal := by
  unfold resolve at h
  cases hexpand : Document.expandPath surroundings p with
  | error failure =>
      rw [hexpand] at h
      cases h
  | ok expanded =>
      rw [hexpand] at h
      change Document.resolvePath surroundings expanded = .ok source at h
      unfold Document.resolvePath at h
      split at h
      · cases h
      · cases h
        exact Path.isNormal_resolved _ _

theorem isNormal_of_generatedPath
    {surroundings : Surroundings}
    (hsource : source.IsNormal)
    (h : generatedPath surroundings source q = .ok generated) :
    generated.IsNormal := by
  unfold generatedPath at h
  split at h
  · exact isNormal_of_resolve h
  · split at h
    · rename_i hsuffix
      cases h
      exact @Path.IsNormal.of_withSuffix? _ _ _ 'y' hsource (by decide) (by decide) hsuffix
    · cases h

/-- What is found at a path. -/
theorem reaches_of_entry
    {found : Entry}
    (hp : p.IsRooted)
    (h : world.files.entry world.surroundings.directory p = .ok found) :
    world.Reaches p ∧ world.files.at? p.parts = some found := by
  have hreach := World.reaches_of_pathExists hp (World.pathExists_of_ok h)
  refine ⟨hreach, ?_⟩
  cases hentry : world.files.at? p.parts with
  | none =>
      rw [FileSystem.entry_eq_notFound hreach hentry] at h
      cases h
  | some entry =>
      rw [FileSystem.entry_eq_ok hreach hentry] at h
      cases h
      rfl

/-- A directory is still found after a record has been written. -/
theorem leadsToDirectory_addRecord
    {time : Stamp} (record : Record)
    (hp : p.IsRooted)
    (hworld : world.Consistent)
    (h : world.files.entry world.surroundings.directory p = .ok (.directory time)) :
    ((Host.leadsToDirectory p : StateM World Bool) (world.addRecord record)).1 = true := by
  obtain ⟨hreach, hdirectory⟩ := reaches_of_entry hp h
  have hrecord := World.addRecord_rewrites record hworld
  obtain ⟨time', hlater⟩ := hrecord.toEdits.isDirectory ⟨time, hdirectory⟩
  have hentry := FileSystem.entry_eq_ok (hreach.edits hp hrecord.toEdits) hlater
  simp only [Host.leadsToDirectory, World.bind_apply, status_apply, hentry]
  rfl

/-- Where a directory is found there is no file. -/
theorem not_isFile_of_leadsToDirectory
    (hp : p.IsRooted)
    (h : ((Host.leadsToDirectory p : StateM World Bool) world).1 = true) :
    ¬ world.files.IsFile p.parts := by
  simp only [Host.leadsToDirectory, World.bind_apply, status_apply] at h
  rintro ⟨content, mode, time, hfile⟩
  cases hentry : world.files.entry world.surroundings.directory p with
  | error cause =>
      rw [hentry] at h
      cases h
  | ok found =>
      have hplace := (reaches_of_entry hp hentry).2
      rw [hfile] at hplace
      cases hplace
      rw [hentry] at h
      cases h

/-- What is found to be a file is one. -/
theorem isFile_of_leadsToFile
    (hp : p.IsRooted)
    (h : ((Host.leadsToFile p : StateM World Bool) world).1 = true) :
    world.files.IsFile p.parts := by
  simp only [Host.leadsToFile, World.bind_apply, status_apply] at h
  cases hentry : world.files.entry world.surroundings.directory p with
  | error cause =>
      rw [hentry] at h
      cases h
  | ok found =>
      rw [hentry] at h
      cases found with
      | directory time =>
          cases h
      | file content mode time =>
          exact ⟨content, mode, time, (reaches_of_entry hp hentry).2⟩

/-- A file is run itself. -/
theorem Executes.eq_of_isFile
    {file : Path}
    (h : Executes p world file)
    (hp : p.IsRooted)
    (hfile : world.files.IsFile p.parts) :
    file = p := by
  unfold Executes at h
  split at h
  · rename_i hlooked
    exact absurd hfile (not_isFile_of_leadsToDirectory hp hlooked)
  · exact h

/-- A record makes no file and removes none. -/
theorem isFile_addRecord_iff
    {place : Place} (record : Record)
    (hworld : world.Consistent) :
    (world.addRecord record).files.IsFile place ↔ world.files.IsFile place := by
  by_cases hlog : world.logFile = some place
  · exact iff_of_true ((World.addRecord_rewrites record hworld).consistent.log place hlog)
      (hworld.log place hlog)
  · unfold FileSystem.IsFile
    rw [World.at?_addRecord record hlog]

theorem isRooted_mainFile
    (h : p.IsRooted) :
    (mainFile p).IsRooted := by
  refine ⟨h.absolute, fun hup => ?_⟩
  rcases List.mem_append.mp hup with habove | hname
  · exact h.down habove
  · exact absurd (List.mem_singleton.mp hname) (by decide)

/-- The module was not older than its document, and no file has been changed but the log file.  What is run is
the module itself, or, if the module is a directory, the main file in it, however old this file is. -/
structure IsCurrent (source generated file : Path) (world world' : World) : Prop where
  /-- The module is not older. -/
  newer : ∃ document found,
    world.files.entry world.surroundings.directory source = .ok document ∧
    world.files.entry world.surroundings.directory generated = .ok found ∧
    document.time.isAfter found.time = false ∧
    if found.isDirectory then file = mainFile generated ∧ world.files.IsFile file.parts
    else file = generated
  /-- Nothing has changed. -/
  unchanged : ∀ place, world.logFile ≠ some place → world'.files.at? place = world.files.at? place

/-- The module was out of date, and the run that renewed it has written it. -/
structure IsReplaced (tangler : Tangler) (source generated : Path) (world world' : World) : Prop where
  /-- The module was missing or older than its document. -/
  outdated : IsOutdated source generated world
  /-- The run has come to its end. -/
  renewed : ∃ produced, (renewal tangler source generated world).1 = .ok produced
  /-- It has written blocks of one language. -/
  language : ∀ t ∈ emitted tangler source generated world, t.block.language = language
  /-- One of them went to the module. -/
  reached : ∃ t ∈ emitted tangler source generated world, t.path.parts = generated.parts
  /-- The module is a new file and holds what these blocks leave, from nothing. -/
  file : ∃ decoration text mode, tangler.decoration = .ok decoration ∧
    left generated.parts { decoration := decoration } none (emitted tangler source generated world) =
      some (.file (Text.encode text) mode .present) ∧
    world'.files.at? generated.parts = some (.file (Text.encode text) mode .present)
  /-- If no path is written with two slashes and nothing is written with carriage returns, these are the
  texts of the blocks for the module one after another. -/
  content : ∀ decoration, tangler.decoration = .ok decoration →
    (∀ t ∈ emitted tangler source generated world, t.path.IsNormal ∧ NoReturns decoration t.block) →
    ∃ text, content decoration (blocksAt generated (emitted tangler source generated world)) = .ok text ∧
      world'.files.at? generated.parts =
        some (.file (Text.encode text)
          (mode (blocksAt generated (emitted tangler source generated world))) .present)

/-- The module has not been loaded, and is as it was. -/
structure IsRefused (tangler : Tangler) (source generated : Path) (result : Except Failure Path)
    (world world' : World) : Prop where
  /-- Nothing was written to the module, or the run that was to renew it failed. -/
  failed : (∃ produced, (renewal tangler source generated world).1 = .ok produced ∧
      result = .error (.document (.nothingTangled generated))) ∨
    ∃ failure, (renewal tangler source generated world).1 = .error failure ∧ result = .error failure
  /-- What is at the module is the same apart from its time; or nothing was there, and a directory has been
  made on the way to another destination; or a block for the module could not be rendered. -/
  kept : (world'.files.at? generated.parts).map Entry.timeless =
      (world.files.at? generated.parts).map Entry.timeless ∨
    (world.files.at? generated.parts = none ∧ world'.files.IsDirectory generated.parts ∧
      ∃ t ∈ planned tangler source generated world, MadeFor t generated.parts) ∨
    ∃ decoration cause, tangler.decoration = .ok decoration ∧ result = .error (.template cause) ∧
      ∃ t ∈ planned tangler source generated world, t.path.parts = generated.parts ∧
        decoration.render t.block = .error cause

theorem isCurrent_of_finishes
    {record : Record} {file : Path}
    (hgenerated : generated.IsRooted)
    (hworld : world.Consistent)
    (hstale : (isStale source generated : ExceptT Failure (StateM World) Bool).run world =
      (.ok false, world))
    (h : Finishes generated (world.addRecord record) (.ok file) world') :
    IsCurrent source generated file world world' := by
  rcases h with ⟨herror, -⟩ | ⟨other, hother, hexecutes, rfl⟩
  · cases herror
  cases hother
  obtain ⟨-, -, hcurrent⟩ := isStale_cases hstale
  obtain ⟨document, found, hsource, hfound, hafter⟩ := hcurrent rfl
  refine ⟨⟨document, found, hsource, hfound, hafter, ?_⟩, ?_⟩
  · cases found with
    | directory time =>
        unfold Executes at hexecutes
        rw [leadsToDirectory_addRecord record hgenerated hworld hfound] at hexecutes
        obtain ⟨hmain, rfl⟩ := hexecutes
        have hthere := isFile_of_leadsToFile (isRooted_mainFile hgenerated) hmain
        exact ⟨rfl, (isFile_addRecord_iff record hworld).mp hthere⟩
    | file bytes mode time =>
        have hthere : (world.addRecord record).files.IsFile generated.parts :=
          (isFile_addRecord_iff record hworld).mpr ⟨bytes, mode, time, (reaches_of_entry hgenerated hfound).2⟩
        exact hexecutes.eq_of_isFile hgenerated hthere
  · intro place hlog
    have hlog' : (world.addRecord record).logFile ≠ some place := hlog
    rw [World.at?_addRecord _ hlog', World.at?_addRecord _ hlog]

theorem isReplaced_of_finishes
    {produced : List Path} {after : World} {run : Path}
    (hgenerated : generated.IsNormal)
    (hworld : world.Consistent)
    (hdirectory : world.surroundings.directory.isAbsolute = true)
    (hstale : (isStale source generated : ExceptT Failure (StateM World) Bool).run world =
      (.ok true, world))
    (hrenewal : renewal tangler source generated world = (.ok produced, after))
    (hcontains : (produced.map world.surroundings.resolved).contains generated = true)
    (h : Finishes generated after (.ok run) world') :
    run = generated ∧ IsReplaced tangler source generated world world' := by
  rcases h with ⟨herror, -⟩ | ⟨other, hother, hexecutes, rfl⟩
  · cases herror
  cases hother
  rcases renewal_cases hworld hdirectory hrenewal with ⟨failure, herror, -⟩ |
    ⟨decoration, emitter, written, start, between, hdecoration, hstart, hplanned, hemitted, hemit, hend⟩
  · cases herror
  rcases hend with ⟨failure, -, herror, -⟩ | ⟨rfl, hproduced, record, rfl⟩
  · cases herror
  cases hproduced
  have hpaths : ∀ t ∈ planned tangler source generated world, t.path.IsRooted :=
    fun t ht => (hplanned t ht).1
  -- a run that comes to its end has written all that was planned
  have hall : emitted tangler source generated world = planned tangler source generated world :=
    hemitted.trans (Emitter.written_eq_self hemit)
  have hreached := (Tangler.mem_produced_iff hgenerated hpaths).mp hcontains
  obtain ⟨⟨text, mode, hfile⟩, hleft, hlog⟩ :=
    Emitter.emitAll_left hpaths hstart.consistent hemit hreached
  -- the two records that follow do not go into the module
  have hlast : ∀ loaded, ((between.addRecord record).addRecord loaded).files.at? generated.parts =
      between.files.at? generated.parts := by
    intro loaded
    have hlog' : (between.addRecord record).logFile ≠ some generated.parts := hlog
    rw [World.at?_addRecord _ hlog', World.at?_addRecord _ hlog]
  have hthere : (between.addRecord record).files.IsFile generated.parts :=
    ⟨_, _, _, (World.at?_addRecord record hlog).trans hfile⟩
  have hrun : run = generated := hexecutes.eq_of_isFile hgenerated.isRooted hthere
  obtain ⟨-, houtdated, -⟩ := isStale_cases hstale
  refine ⟨hrun, houtdated rfl, ⟨_, congrArg Prod.fst hrenewal⟩, ?_, ?_, ?_, ?_⟩
  · rw [hall]
    exact fun t ht => (hplanned t ht).2
  · rw [hall]
    exact hreached
  · rw [hall]
    refine ⟨decoration, text, mode, hdecoration, ?_, ?_⟩
    · rw [← hleft, hfile]
    · rw [hlast, hfile]
  · rw [hall, hlast]
    intro other hother hplain
    rw [hdecoration] at hother
    cases hother
    have htracks := Emitter.emitAll_tracks (fun t ht => (hplain t ht).1) (fun t ht => (hplain t ht).2)
      (Emitter.tracks_nil decoration hstart.consistent) hemit
    refine htracks.exists_content hgenerated ?_
    obtain ⟨t, ht, hparts⟩ := hreached
    have hpath : t.path = generated := (hplain t ht).1.eq_of_parts_eq hgenerated hparts
    refine List.ne_nil_of_mem (a := t.block) (List.mem_map_of_mem (List.mem_filter.mpr ⟨ht, ?_⟩))
    exact decide_eq_true hpath

/-- What becomes of a module that a run to renew it has written no block to. -/
theorem kept_of_emitAll
    {targets : List Target} {decoration : Decoration} {emitter : Emitter} {result : Except Failure Unit}
    {start between : World}
    (hstart : World.Rewrites (fun _ => False) world start)
    (hpaths : ∀ t ∈ targets, t.path.IsRooted)
    (hlog : world.logFile ≠ some generated.parts)
    (hemit : (({ decoration := decoration } : Emitter).emitAll targets : StateM World _) start =
      ((emitter, result), between))
    (hspared : ∀ t ∈ ({ decoration := decoration } : Emitter).written targets start,
      t.path.parts ≠ generated.parts)
    (hend : World.Rewrites (fun _ => False) between world') :
    (world'.files.at? generated.parts).map Entry.timeless =
        (world.files.at? generated.parts).map Entry.timeless ∨
      (world.files.at? generated.parts = none ∧ world'.files.IsDirectory generated.parts ∧
        ∃ t ∈ targets, MadeFor t generated.parts) ∨
      ∃ cause, result = .error (.template cause) ∧
        ∃ t ∈ targets, t.path.parts = generated.parts ∧ decoration.render t.block = .error cause := by
  have hedits := Emitter.emitAll_edits hpaths hstart.consistent hemit
  have hmakes : World.Makes (fun place => ∃ t ∈ targets, MadeFor t place) world world' :=
    (hstart.makes.trans (Emitter.emitAll_makes hpaths hstart.consistent hemit)).trans hend.makes
  have hlogStart := hstart.log_ne hlog
  rcases Emitter.emitAll_spares hpaths (Emitter.settles_nil decoration hstart.consistent) hlogStart hemit
    hspared with hfiles | htemplate
  · have hsame : ∀ content mode time,
        world'.files.at? generated.parts = some (.file content mode time) ↔
          world.files.at? generated.parts = some (.file content mode time) := fun content mode time =>
      ((hend.at?_eq_iff not_false (hedits.log_ne hlogStart) content mode time).trans
        (hfiles content mode time)).trans (hstart.at?_eq_iff not_false hlog content mode time)
    have hstays : world.files.IsDirectory generated.parts → world'.files.IsDirectory generated.parts :=
      fun hdirectory => hend.isDirectory (hedits.isDirectory (hstart.isDirectory hdirectory))
    rcases World.timeless_cases hsame hstays with heq | ⟨hnone, hnew⟩
    · exact Or.inl heq
    · refine Or.inr (Or.inl ⟨hnone, hnew, (hmakes _ hnew).resolve_left ?_⟩)
      rintro ⟨time, hold⟩
      rw [hold] at hnone
      cases hnone
  · exact Or.inr (Or.inr htemplate)

theorem isRefused_of_renewal
    {outcome : Except Failure (List Path)} {after : World}
    (hgenerated : generated.IsNormal)
    (hworld : world.Consistent)
    (hdirectory : world.surroundings.directory.isAbsolute = true)
    (hlog : world.logFile ≠ some generated.parts)
    (hrenewal : renewal tangler source generated world = (outcome, after))
    (hspared : ∀ t ∈ emitted tangler source generated world, t.path.parts ≠ generated.parts) :
    (∀ produced, outcome = .ok produced →
      (produced.map world.surroundings.resolved).contains generated = false ∧
        IsRefused tangler source generated (.error (.document (.nothingTangled generated))) world after) ∧
    ∀ failure, outcome = .error failure →
      IsRefused tangler source generated (.error failure) world after := by
  have houtcome : (renewal tangler source generated world).1 = outcome := congrArg Prod.fst hrenewal
  rcases renewal_cases hworld hdirectory hrenewal with ⟨failure, rfl, hrewrites⟩ |
    ⟨decoration, emitter, written, start, between, hdecoration, hstart, hplanned, hemitted, hemit, hend⟩
  · constructor
    · intro produced hok
      cases hok
    · rintro _ ⟨⟩
      exact ⟨Or.inr ⟨failure, houtcome, rfl⟩, Or.inl (hrewrites.timeless_eq not_false hlog)⟩
  have hpaths : ∀ t ∈ planned tangler source generated world, t.path.IsRooted :=
    fun t ht => (hplanned t ht).1
  have hedits := Emitter.emitAll_edits hpaths hstart.consistent hemit
  rw [hemitted] at hspared
  rcases hend with ⟨failure, rfl, rfl, rfl⟩ | ⟨rfl, rfl, record, rfl⟩
  · constructor
    · intro produced hok
      cases hok
    · rintro _ ⟨⟩
      refine ⟨Or.inr ⟨failure, houtcome, rfl⟩, ?_⟩
      rcases kept_of_emitAll hstart hpaths hlog hemit hspared (World.Rewrites.refl hedits.consistent)
        with hsame | hmade | ⟨cause, hfailure, hrender⟩
      · exact Or.inl hsame
      · exact Or.inr (Or.inl hmade)
      · cases hfailure
        exact Or.inr (Or.inr ⟨decoration, cause, hdecoration, rfl, hrender⟩)
  · constructor
    · rintro _ ⟨⟩
      refine ⟨?_, Or.inl ⟨_, houtcome, rfl⟩, ?_⟩
      · rw [Bool.eq_false_iff]
        intro hcontains
        obtain ⟨t, ht, hparts⟩ := (Tangler.mem_produced_iff hgenerated hpaths).mp hcontains
        rw [Emitter.written_eq_self hemit] at hspared
        exact hspared t ht hparts
      · rcases kept_of_emitAll hstart hpaths hlog hemit hspared
          (World.addRecord_rewrites record hedits.consistent) with hsame | hmade | ⟨cause, hfailure, -⟩
        · exact Or.inl hsame
        · exact Or.inr (Or.inl hmade)
        · cases hfailure
    · intro failure herror
      cases herror

end Loading

end Module
end Literate
