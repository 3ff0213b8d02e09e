import Literate.Proofs.Emission.Steps
import Literate.Proofs.Grouping
import Literate.Tangle

/-!
# The parts of a run

Tangling saves a document, reports what it has collected and where the blocks
go, and writes the blocks.  Where the blocks go depends on the document, the
settings and the surroundings, never on the files: `Tangler.targets` and
`Tangler.reports` say what a run is going to write before it begins.

**Main statements.**
* `targets_isRooted`: destinations lead from the root by names alone.
* `save_cases`, `tangleSaved_cases`: what saving and what comes after it do.
* `save_edits`, `tangle_edits`: the files that a run changes, whatever the outcome.
* `tangle_eq_ok`, `tangle_eq_emit`: what a run has done that succeeds, or that
  fails at a destination.
-/

namespace Literate

namespace Placement

variable {placement : Placement}

theorem isRooted_of_anchor
    {value : Text} {p : Path}
    (hdirectory : placement.surroundings.directory.isAbsolute = true)
    (h : placement.anchor value = .file p) :
    p.IsRooted := by
  unfold anchor at h
  split at h
  · cases h
    exact Path.isRooted_absolute _ hdirectory
  · cases h

/-- The destination of a block leads from the root by names alone. -/
theorem isRooted_of_destination
    {block : RenderedBlock} {p : Path}
    (hdirectory : placement.surroundings.directory.isAbsolute = true)
    (h : placement.destination block = .file p) :
    p.IsRooted := by
  simp only [destination] at h
  split at h
  · cases h
  · split at h
    · split at h
      · cases h
      · exact isRooted_of_anchor hdirectory h
    · split at h
      · split at h
        · cases h
        · exact isRooted_of_anchor hdirectory h
      · split at h
        · exact isRooted_of_anchor hdirectory h
        · cases h

end Placement

namespace Document

variable {document saved : Document} {world world' : World}

/-- A document that was made with a path has a normal one. -/
def IsPlaced (document : Document) : Prop :=
  ∀ p, document.path = some p → p.IsNormal

/-- A document made of a text and a path is placed. -/
theorem isPlaced_of_ofText
    {surroundings : Surroundings} {t : Text} {path : Option Path}
    (h : ofText surroundings t path = .ok document) :
    document.IsPlaced := by
  cases path with
  | none =>
      cases h
      rintro p ⟨⟩
  | some p =>
      simp only [ofText, resolvePath] at h
      split at h
      · cases h
      · cases h
        rintro q ⟨⟩
        exact Path.isNormal_resolved _ _

/-- An edit leaves a document where it is. -/
theorem IsPlaced.setText
    (h : document.IsPlaced) (t : Text) :
    (document.setText t).IsPlaced := by
  unfold Document.setText
  split
  · exact h
  · exact h

/-- A fault while a document is saved. -/
def saveFailure (p : Path) (cause : Fault) : Failure :=
  if cause = .nullCharacter then .file ⟨cause, p⟩ else .document (.unsaved p ⟨cause, p⟩)

/-- What saving does: the text cannot be written, or nothing, or a report, or the text is written and
reported. -/
theorem save_cases
    {result : Except Failure Document}
    (h : (document.save : ExceptT Failure (StateM World) Document).run world = (result, world')) :
    (∃ p cause, document.path = some p ∧
        (Host.writeText p document.text : StateM World _) world = (.error cause, world) ∧
        result = .error (saveFailure p cause) ∧ world' = world) ∨
      (document.isModified = false ∧ result = .ok document ∧ world' = world) ∨
      (document.path = none ∧ result = .ok document ∧ ∃ record, world' = world.addRecord record) ∨
      ∃ p written record, document.isModified = true ∧ document.path = some p ∧
        result = .ok { document with isModified := false } ∧
        (Host.writeText p document.text : StateM World _) world = (.ok (), written) ∧
        world' = written.addRecord record := by
  unfold save at h
  cases hmodified : document.isModified with
  | false =>
      rw [hmodified] at h
      cases h
      exact Or.inr (Or.inl ⟨rfl, rfl, rfl⟩)
  | true =>
      rw [hmodified] at h
      cases hpath : document.path with
      | none =>
          rw [hpath] at h
          cases h
          exact Or.inr (Or.inr (Or.inl ⟨rfl, rfl, _, rfl⟩))
      | some p =>
          rw [hpath] at h
          simp only [Bool.not_true, Bool.false_eq_true, if_false] at h
          rw [World.run_bind_of_ok (World.run_lift _ _)] at h
          cases hwrite : (Host.writeText p document.text : StateM World _) world with
          | mk first written =>
              rw [hwrite] at h
              cases first with
              | error cause =>
                  obtain rfl := World.writeText_eq_error hwrite
                  cases cause <;> cases h <;> exact Or.inl ⟨p, _, rfl, hwrite, rfl, rfl⟩
              | ok u =>
                  cases h
                  exact Or.inr (Or.inr (Or.inr ⟨p, written, _, rfl, rfl, rfl, hwrite, rfl⟩))

/-- Saving does not fail in the way a destination does. -/
theorem save_ne_emit
    {p : Path} {cause : Fault} :
    (document.save : ExceptT Failure (StateM World) Document).run world ≠
      (.error (.emit p cause), world') := by
  intro h
  rcases save_cases h with ⟨q, fault, -, -, hfailure, -⟩ | ⟨-, hok, -⟩ | ⟨-, hok, -⟩ |
    ⟨q, written, record, -, -, hok, -⟩
  · unfold saveFailure at hfailure
    split at hfailure <;> cases hfailure
  · cases hok
  · cases hok
  · cases hok

/-- Saving changes at most the file of the document, and only if the document has been edited. -/
theorem save_edits
    {result : Except Failure Document}
    (hplaced : document.IsPlaced)
    (hworld : world.Consistent)
    (h : (document.save : ExceptT Failure (StateM World) Document).run world = (result, world')) :
    World.Edits (fun place => document.isModified = true ∧ ∃ p, document.path = some p ∧ p.parts = place)
      world world' := by
  rcases save_cases h with ⟨p, cause, -, -, -, rfl⟩ | ⟨-, -, rfl⟩ | ⟨-, -, record, rfl⟩ |
    ⟨p, written, record, hmodified, hpath, -, hwrite, rfl⟩
  · exact World.Edits.refl hworld
  · exact World.Edits.refl hworld
  · exact (World.addRecord_rewrites record hworld).toEdits.widen
  · obtain ⟨hrewrites, -⟩ := World.writeText_eq_ok (hplaced p hpath).isRooted hworld hwrite
    have hrecord := World.addRecord_rewrites record hrewrites.consistent
    refine (hrewrites.toEdits.mono ?_).trans hrecord.toEdits.widen
    rintro place rfl
    exact ⟨hmodified, p, hpath, rfl⟩

/-- Saving changes nothing in the document but the note that it has been edited. -/
theorem save_eq_ok
    (h : (document.save : ExceptT Failure (StateM World) Document).run world = (.ok saved, world')) :
    saved = { document with isModified := saved.isModified } := by
  rcases save_cases h with ⟨p, cause, -, -, herror, -⟩ | ⟨-, hsaved, -⟩ | ⟨-, hsaved, -⟩ |
    ⟨p, written, record, -, -, hsaved, -⟩
  · cases herror
  · cases hsaved
    rfl
  · cases hsaved
    rfl
  · cases hsaved
    rfl

/-- Saving does not make an edit. -/
theorem isModified_of_save
    (h : (document.save : ExceptT Failure (StateM World) Document).run world = (.ok saved, world'))
    (hmodified : saved.isModified = true) :
    document.isModified = true := by
  rcases save_cases h with ⟨p, cause, -, -, herror, -⟩ | ⟨-, hsaved, -⟩ | ⟨-, hsaved, -⟩ |
    ⟨p, written, record, hedited, -⟩
  · cases herror
  · cases hsaved
    exact hmodified
  · cases hsaved
    exact hmodified
  · exact hedited

/-- Saving fails only for a document that has been edited and whose file cannot be written. -/
theorem save_eq_error
    {failure : Failure}
    (h : (document.save : ExceptT Failure (StateM World) Document).run world = (.error failure, world')) :
    ∃ p cause, document.isModified = true ∧ document.path = some p ∧
      (Host.writeText p document.text : StateM World _) world = (.error cause, world) ∧
      failure = saveFailure p cause := by
  rcases save_cases h with ⟨p, cause, hpath, hwrite, hfailure, -⟩ | ⟨-, hok, -⟩ | ⟨-, hok, -⟩ |
    ⟨p, written, record, -, -, hok, -⟩
  · refine ⟨p, cause, ?_, hpath, hwrite, Except.error.inj hfailure⟩
    by_contra hmodified
    unfold save at h
    rw [Bool.eq_false_iff.mpr hmodified] at h
    cases h
  · cases hok
  · cases hok
  · cases hok

/-- A document that has been saved is not written again. -/
theorem save_saved
    {later : World}
    (hlater : later.Consistent)
    (h : (document.save : ExceptT Failure (StateM World) Document).run world = (.ok saved, world')) :
    ∃ later', (saved.save : ExceptT Failure (StateM World) Document).run later = (.ok saved, later') ∧
      World.Rewrites (fun _ => False) later later' := by
  by_cases hmodified : saved.isModified = true
  · have hpath : saved.path = none := by
      rcases save_cases h with ⟨p, cause, -, -, herror, -⟩ | ⟨hclean, hsaved, -⟩ | ⟨hnone, hsaved, -⟩ |
        ⟨p, written, record, -, -, hsaved, -⟩
      · cases herror
      · cases hsaved
        rw [hclean] at hmodified
        cases hmodified
      · cases hsaved
        exact hnone
      · cases hsaved
        cases hmodified
    have hrun : (saved.save : ExceptT Failure (StateM World) Document).run later =
        (.ok saved, later.addRecord
          ⟨.debug, .document, "Document has no backing file; nothing to save"⟩) := by
      unfold save
      rw [hmodified, hpath]
      rfl
    exact ⟨_, hrun, World.addRecord_rewrites _ hlater⟩
  · refine ⟨later, ?_, World.Rewrites.refl hlater⟩
    unfold save
    rw [Bool.eq_false_iff.mpr hmodified]
    rfl

end Document

namespace Summary

theorem count_eq
    (summary : Summary) (p : Path) :
    summary.count p =
      { blockCount := summary.blockCount + 1
        produced := if summary.produced.contains p then summary.produced else summary.produced ++ [p]
        errors := summary.errors } := by
  unfold count addPath
  split <;> rfl

/-- Counting blocks at their paths adds their number and the paths that are new, and no error. -/
theorem foldl_count
    (summary : Summary) (paths : List Path) :
    paths.foldl count summary =
      { blockCount := summary.blockCount + paths.length
        produced := paths.foldl (fun seen p => if seen.contains p then seen else seen ++ [p]) summary.produced
        errors := summary.errors } := by
  induction paths generalizing summary with
  | nil =>
      rfl
  | cons p paths ih =>
      rw [List.foldl_cons, ih, count_eq, List.length_cons]
      simp only [List.foldl_cons, Nat.add_assoc, Nat.add_comm 1]

end Summary

namespace Tangler

variable {tangler : Tangler} {document saved : Document} {target language : Option Text}
  {world world' : World}

/-- The blocks of a document by language and destination, and why grouping stopped if it did. -/
def grouping (tangler : Tangler) (surroundings : Surroundings) (document : Document)
    (target language : Option Text) : Grouping × Option Path.HomeError :=
  Grouping.ofBlocks (tangler.placement surroundings document target) {}
    (Preparation.ofDocument tangler.registry document language).rendered

/-- The blocks that a run writes, with their destinations, in order. -/
def targets (tangler : Tangler) (surroundings : Surroundings) (document : Document)
    (target language : Option Text) : List Target :=
  (tangler.grouping surroundings document target language).1.targets

/-- The reports of a run before it writes its first block. -/
def reports (tangler : Tangler) (surroundings : Surroundings) (document : Document)
    (target language : Option Text) : List Record :=
  (document.collect none).map Document.collectedRecord ++
    (Preparation.ofDocument tangler.registry document language).memo.records ++
    (tangler.grouping surroundings document target language).1.records

/-- How a run decorates blocks. -/
def decoration (tangler : Tangler) : Except Template.TemplateError Decoration :=
  Decoration.ofTexts tangler.comments tangler.settings.opening tangler.settings.closing
    tangler.settings.commentStyles tangler.engine tangler.seed

/-- The errors of single blocks. -/
def errors (tangler : Tangler) (surroundings : Surroundings) (document : Document)
    (target language : Option Text) : List Text :=
  (Preparation.ofDocument tangler.registry document language).errors.map ReferenceError.message ++
    (tangler.grouping surroundings document target language).1.errors.map PlacementError.message

/-- The result of a run that writes all its blocks, as the grouping has it. -/
def summary (tangler : Tangler) (surroundings : Surroundings) (document : Document)
    (target language : Option Text) : Summary where
  blockCount := (tangler.grouping surroundings document target language).1.blockCount
  produced := (tangler.grouping surroundings document target language).1.paths
  errors := tangler.errors surroundings document target language

/-- The result of a run that writes all its blocks, as it is counted block by block. -/
theorem foldl_count_eq_summary
    (tangler : Tangler) (surroundings : Surroundings) (document : Document) (target language : Option Text) :
    ((tangler.targets surroundings document target language).map Target.path).foldl Summary.count
        { errors := tangler.errors surroundings document target language } =
      tangler.summary surroundings document target language := by
  rw [Summary.foldl_count, List.length_map, Nat.zero_add]
  rfl

/-- Writing and counting blocks goes as writing them goes. -/
theorem writeAll_of_emitAll
    {emitter emitter' : Emitter} {targets : List Target} {result : Except Failure Unit} (summary : Summary)
    (h : (emitter.emitAll targets : StateM World _) world = ((emitter', result), world')) :
    (writeAll emitter summary targets : ExceptT Failure (StateM World) Summary).run world =
      (result.map fun _ => (targets.map Target.path).foldl Summary.count summary, world') := by
  induction targets generalizing emitter summary world with
  | nil =>
      cases h
      rfl
  | cons first rest ih =>
      rw [writeAll, World.run_bind_of_ok (World.run_lift _ _)]
      rcases Emitter.emitAll_cons h with ⟨failure, hemit, rfl⟩ | ⟨next, p, between, hemit, hrest⟩
      · rw [hemit]
        rfl
      · rw [hemit]
        exact ih (summary.count first.path) hrest

/-- Destinations lead from the root by names alone. -/
theorem targets_isRooted
    {surroundings : Surroundings}
    (hdirectory : surroundings.directory.isAbsolute = true)
    (hgrouped : (tangler.grouping surroundings document target language).2 = none) :
    ∀ t ∈ tangler.targets surroundings document target language, t.path.IsRooted := by
  intro t ht
  have hdescribes := Grouping.ofBlocks_describes
    (Grouping.describes_empty (tangler.placement surroundings document target)) (Prod.ext rfl hgrouped)
  obtain ⟨entry, hentry, hmem⟩ := List.mem_flatMap.mp ht
  obtain ⟨-, haccepted⟩ := hdescribes.language_of_mem hentry hmem
  exact Placement.isRooted_of_destination hdirectory (Placement.of_mem_accepted haccepted).1

/-- Why a run on a saved document ends before it writes a block. -/
inductive Stops (tangler : Tangler) (surroundings : Surroundings) (document : Document)
    (target language : Option Text) : Failure → Prop
  /-- A block has no end. -/
  | scan {cause : DocumentError} (h : document.scanError = some cause) :
      Stops tangler surroundings document target language (.document cause)
  /-- A destination needs an unknown home directory. -/
  | home {cause : Path.HomeError}
      (h : (tangler.grouping surroundings document target language).2 = some cause) :
      Stops tangler surroundings document target language (.home cause)
  /-- A template cannot be used. -/
  | template {cause : Template.TemplateError} (h : tangler.decoration = .error cause) :
      Stops tangler surroundings document target language (.template cause)

/-- A run on a saved document stops before it writes a block, or goes as the writing of the blocks goes. -/
theorem tangleSaved_cases
    {outcome : Except Failure Summary}
    (h : (tangler.tangleSaved document target language : ExceptT Failure (StateM World) Summary).run world =
      (outcome, world')) :
    (∃ records failure, tangler.Stops world.surroundings document target language failure ∧
        world' = world.addRecords records ∧ outcome = .error failure) ∨
      document.scanError = none ∧
        (tangler.grouping world.surroundings document target language).2 = none ∧
        ∃ decoration emitter result between, tangler.decoration = .ok decoration ∧
          (({ decoration := decoration } : Emitter).emitAll
              (tangler.targets world.surroundings document target language) : StateM World _)
            (world.addRecords (tangler.reports world.surroundings document target language)) =
              ((emitter, result), between) ∧
          ((∃ failure, result = .error failure ∧ outcome = .error failure ∧ world' = between) ∨
            result = .ok () ∧
              outcome = .ok (tangler.summary world.surroundings document target language) ∧
              world' = between.addRecord (summaryRecord document
                (tangler.grouping world.surroundings document target language).1.blockCount)) := by
  have hsurroundings : (Host.surroundings : StateM World _) world = (world.surroundings, world) := rfl
  have hreports : world.addRecords (tangler.reports world.surroundings document target language) =
      ((world.addRecords ((document.collect none).map Document.collectedRecord)).addRecords
        (Preparation.ofDocument tangler.registry document language).memo.records).addRecords
          (tangler.grouping world.surroundings document target language).1.records := by
    rw [reports, World.addRecords_append, World.addRecords_append]
  have hgrouping : Grouping.ofBlocks (tangler.placement world.surroundings document target) {}
      (Preparation.ofDocument tangler.registry document language).rendered =
        tangler.grouping world.surroundings document target language := rfl
  have hdecoration : Decoration.ofTexts tangler.comments tangler.settings.opening
      tangler.settings.closing tangler.settings.commentStyles tangler.engine tangler.seed =
        tangler.decoration := rfl
  unfold tangleSaved at h
  rw [World.run_bind_of_ok (World.run_lift _ _), World.run_bind_of_ok (World.run_lift _ _),
    World.recordAll_apply, hsurroundings] at h
  cases hscan : document.scanError with
  | some cause =>
      rw [hscan] at h
      cases h
      exact Or.inl ⟨_, _, .scan hscan, rfl, rfl⟩
  | none =>
      rw [hscan] at h
      dsimp only at h
      rw [World.run_bind_of_ok (World.run_lift _ _), World.recordAll_apply,
        World.run_bind_of_ok (World.run_lift _ _), World.recordAll_apply] at h
      dsimp only at h
      rw [hgrouping, ← hreports] at h
      cases hhome : (tangler.grouping world.surroundings document target language).2 with
      | some cause =>
          rw [hhome] at h
          cases h
          exact Or.inl ⟨_, _, .home hhome, rfl, rfl⟩
      | none =>
          rw [hhome] at h
          dsimp only at h
          rw [hdecoration] at h
          cases hmade : tangler.decoration with
          | error cause =>
              rw [hmade] at h
              cases h
              exact Or.inl ⟨_, _, .template hmade, rfl, rfl⟩
          | ok decoration =>
              rw [hmade] at h
              dsimp only at h
              refine Or.inr ⟨rfl, rfl, decoration, ?_⟩
              cases hrun : (({ decoration := decoration } : Emitter).emitAll
                  (tangler.targets world.surroundings document target language) : StateM World _)
                (world.addRecords (tangler.reports world.surroundings document target language)) with
              | mk first between =>
                  obtain ⟨emitter, result⟩ := first
                  refine ⟨emitter, result, between, rfl, rfl, ?_⟩
                  have hwrite := writeAll_of_emitAll
                    { errors := tangler.errors world.surroundings document target language } hrun
                  rw [foldl_count_eq_summary] at hwrite
                  rcases World.run_bind_cases h with ⟨cause, hfailed, rfl⟩ | ⟨counted, ended, hcounted, hrest⟩
                  · cases result with
                    | error failure =>
                        cases hwrite.symm.trans hfailed
                        exact Or.inl ⟨cause, rfl, rfl, rfl⟩
                    | ok u =>
                        cases hwrite.symm.trans hfailed
                  · cases result with
                    | error failure =>
                        cases hwrite.symm.trans hcounted
                    | ok u =>
                        cases hwrite.symm.trans hcounted
                        cases hrest
                        exact Or.inr ⟨rfl, rfl, rfl⟩

/-- A run on a saved document whose blocks are all written. -/
theorem tangleSaved_of_emitAll
    {decoration : Decoration} {emitter : Emitter} {between : World}
    (hscan : document.scanError = none)
    (hgrouped : (tangler.grouping world.surroundings document target language).2 = none)
    (hdecoration : tangler.decoration = .ok decoration)
    (hrun : (({ decoration := decoration } : Emitter).emitAll
        (tangler.targets world.surroundings document target language) : StateM World _)
      (world.addRecords (tangler.reports world.surroundings document target language)) =
        ((emitter, .ok ()), between)) :
    (tangler.tangleSaved document target language : ExceptT Failure (StateM World) Summary).run world =
      (.ok (tangler.summary world.surroundings document target language),
        between.addRecord (summaryRecord document
          (tangler.grouping world.surroundings document target language).1.blockCount)) := by
  cases h : (tangler.tangleSaved document target language :
      ExceptT Failure (StateM World) Summary).run world with
  | mk outcome world' =>
      rcases tangleSaved_cases h with ⟨records, failure, hstops, -, -⟩ |
        ⟨-, -, made, last, result, ended, hmade, hrun', hrest⟩
      · exfalso
        cases hstops with
        | scan herror =>
            rw [hscan] at herror
            cases herror
        | home herror =>
            rw [hgrouped] at herror
            cases herror
        | template herror =>
            rw [hdecoration] at herror
            cases herror
      · rw [hdecoration] at hmade
        cases hmade
        rw [hrun] at hrun'
        cases hrun'
        rcases hrest with ⟨failure, herror, -⟩ | ⟨-, rfl, rfl⟩
        · cases herror
        · rfl

/-- After saving, a run changes at most its destinations, whatever the outcome. -/
theorem tangleSaved_edits
    {outcome : Except Failure Summary}
    (hworld : world.Consistent)
    (hdirectory : world.surroundings.directory.isAbsolute = true)
    (h : (tangler.tangleSaved document target language : ExceptT Failure (StateM World) Summary).run world =
      (outcome, world')) :
    World.Edits (fun place => ∃ t ∈ tangler.targets world.surroundings document target language,
      t.path.parts = place) world world' := by
  rcases tangleSaved_cases h with ⟨records, -, -, rfl, -⟩ |
    ⟨-, hgrouped, made, emitter, result, between, -, hrun, hrest⟩
  · exact (World.addRecords_rewrites records hworld).toEdits.widen
  · have hreports := World.addRecords_rewrites
      (tangler.reports world.surroundings document target language) hworld
    have hedits := hreports.toEdits.widen.trans
      (Emitter.emitAll_edits (targets_isRooted hdirectory hgrouped) hreports.consistent hrun)
    rcases hrest with ⟨failure, -, -, rfl⟩ | ⟨-, -, rfl⟩
    · exact hedits
    · exact hedits.trans ((World.addRecord_rewrites _ hedits.consistent).toEdits.widen)

/-- A run saves the document and goes on if that succeeds. -/
theorem tangle_cases
    {outcome : Except Failure Summary}
    (h : (tangler.tangle document target language : StateM World _) world = ((saved, outcome), world')) :
    (∃ failure, (document.save : ExceptT Failure (StateM World) Document).run world =
        (.error failure, world') ∧ saved = document ∧ outcome = .error failure) ∨
      ∃ between, (document.save : ExceptT Failure (StateM World) Document).run world =
          (.ok saved, between) ∧
        (tangler.tangleSaved saved target language : ExceptT Failure (StateM World) Summary).run between =
          (outcome, world') := by
  rw [tangle, World.bind_apply] at h
  cases hsave : (document.save : ExceptT Failure (StateM World) Document).run world with
  | mk first between =>
      rw [hsave] at h
      cases first with
      | error failure =>
          cases h
          exact Or.inl ⟨failure, rfl, rfl, rfl⟩
      | ok kept =>
          dsimp only at h
          rw [World.bind_apply] at h
          cases h
          exact Or.inr ⟨between, rfl, rfl⟩

theorem tangle_of_save
    {outcome : Except Failure Summary} {between : World}
    (hsave : (document.save : ExceptT Failure (StateM World) Document).run world = (.ok saved, between))
    (hrun : (tangler.tangleSaved saved target language : ExceptT Failure (StateM World) Summary).run between =
      (outcome, world')) :
    (tangler.tangle document target language : StateM World _) world = ((saved, outcome), world') := by
  rw [tangle, World.bind_apply, hsave]
  dsimp only
  rw [World.bind_apply, hrun]
  rfl

/-- Where blocks go does not depend on whether the document has been edited. -/
theorem targets_of_save
    {between : World} (tangler : Tangler) (surroundings : Surroundings) (target language : Option Text)
    (h : (document.save : ExceptT Failure (StateM World) Document).run world = (.ok saved, between)) :
    tangler.targets surroundings saved target language =
        tangler.targets surroundings document target language ∧
      tangler.reports surroundings saved target language =
        tangler.reports surroundings document target language := by
  rw [Document.save_eq_ok h]
  exact ⟨rfl, rfl⟩

/-- A run changes at most the file of an edited document and its destinations, whatever the outcome. -/
theorem tangle_edits
    {outcome : Except Failure Summary}
    (hplaced : document.IsPlaced)
    (hworld : world.Consistent)
    (hdirectory : world.surroundings.directory.isAbsolute = true)
    (h : (tangler.tangle document target language : StateM World _) world = ((saved, outcome), world')) :
    World.Edits (fun place =>
        (document.isModified = true ∧ ∃ p, document.path = some p ∧ p.parts = place) ∨
          ∃ t ∈ tangler.targets world.surroundings document target language, t.path.parts = place)
      world world' := by
  rcases tangle_cases h with ⟨failure, hsave, -, -⟩ | ⟨between, hsave, hrest⟩
  · exact (Document.save_edits hplaced hworld hsave).mono fun _ => Or.inl
  · have hsaving := Document.save_edits hplaced hworld hsave
    rw [← hsaving.surroundings] at hdirectory ⊢
    have hlater := tangleSaved_edits hsaving.consistent hdirectory hrest
    rw [(targets_of_save _ _ _ _ hsave).1] at hlater
    exact (hsaving.mono fun _ => Or.inl).trans (hlater.mono fun _ => Or.inr)

/-- A run that succeeds has saved the document and written all blocks. -/
theorem tangle_eq_ok
    {summary : Summary}
    (h : (tangler.tangle document target language : StateM World _) world = ((saved, .ok summary), world')) :
    ∃ start decoration emitter between,
      (document.save : ExceptT Failure (StateM World) Document).run world = (.ok saved, start) ∧
      saved.scanError = none ∧
      (tangler.grouping start.surroundings saved target language).2 = none ∧
      tangler.decoration = .ok decoration ∧
      (({ decoration := decoration } : Emitter).emitAll
          (tangler.targets start.surroundings saved target language) : StateM World _)
        (start.addRecords (tangler.reports start.surroundings saved target language)) =
          ((emitter, .ok ()), between) ∧
      summary = tangler.summary start.surroundings saved target language ∧
      world' = between.addRecord (summaryRecord saved
        (tangler.grouping start.surroundings saved target language).1.blockCount) := by
  rcases tangle_cases h with ⟨failure, -, -, herror⟩ | ⟨start, hsave, hrest⟩
  · cases herror
  · rcases tangleSaved_cases hrest with ⟨records, failure, -, -, herror⟩ |
      ⟨hscan, hgrouped, decoration, emitter, result, between, hdecoration, hrun, hend⟩
    · cases herror
    · rcases hend with ⟨failure, -, herror, -⟩ | ⟨rfl, hsummary, hlast⟩
      · cases herror
      · exact ⟨start, decoration, emitter, between, hsave, hscan, hgrouped, hdecoration, hrun,
          Except.ok.inj hsummary, hlast⟩

/-- A run on a saved document that fails at a destination has written the blocks before that one, and has
changed no file since. -/
theorem tangleSaved_eq_emit
    {p : Path} {cause : Fault}
    (hworld : world.Consistent)
    (hdirectory : world.surroundings.directory.isAbsolute = true)
    (h : (tangler.tangleSaved document target language : ExceptT Failure (StateM World) Summary).run world =
      (.error (.emit p cause), world')) :
    ∃ decoration finished failed rest emitter emitter' between,
      tangler.decoration = .ok decoration ∧
      tangler.targets world.surroundings document target language = finished ++ failed :: rest ∧
      (∀ t ∈ finished, t.path.IsRooted) ∧
      (({ decoration := decoration } : Emitter).emitAll finished : StateM World _)
        (world.addRecords (tangler.reports world.surroundings document target language)) =
          ((emitter, .ok ()), between) ∧
      (emitter.emit failed : StateM World _) between = ((emitter', .error (.emit p cause)), world') ∧
      World.Edits (fun _ => False) between world' := by
  rcases tangleSaved_cases h with ⟨records, failure, hstops, -, herror⟩ |
    ⟨-, hgrouped, decoration, emitter, result, ended, hdecoration, hrun, hend⟩
  · cases herror
    cases hstops
  · rcases hend with ⟨failure, rfl, herror, rfl⟩ | ⟨-, hok, -⟩
    · cases herror
      have hpaths := targets_isRooted hdirectory hgrouped
      obtain ⟨finished, failed, rest, next, between, hsplit, hfinished, hfailed⟩ :=
        Emitter.emitAll_eq_error hrun
      rw [hsplit] at hpaths
      have hpaths' : ∀ t ∈ finished, t.path.IsRooted := fun t ht => hpaths t (List.mem_append_left _ ht)
      have hreports := World.addRecords_rewrites
        (tangler.reports world.surroundings document target language) hworld
      have hedits := Emitter.emitAll_edits hpaths' hreports.consistent hfinished
      exact ⟨decoration, finished, failed, rest, next, emitter, between, hdecoration, hsplit, hpaths',
        hfinished, hfailed, Emitter.emit_fault_edits (hpaths failed (by simp)) hedits.consistent hfailed⟩
    · cases hok

/-- A run that fails at a destination has saved the document and written the blocks before that one, and
has changed no file since. -/
theorem tangle_eq_emit
    {p : Path} {cause : Fault}
    (hplaced : document.IsPlaced)
    (hworld : world.Consistent)
    (hdirectory : world.surroundings.directory.isAbsolute = true)
    (h : (tangler.tangle document target language : StateM World _) world =
      ((saved, .error (.emit p cause)), world')) :
    ∃ start decoration finished failed rest emitter emitter' between,
      (document.save : ExceptT Failure (StateM World) Document).run world = (.ok saved, start) ∧
      tangler.decoration = .ok decoration ∧
      tangler.targets world.surroundings document target language = finished ++ failed :: rest ∧
      (∀ t ∈ finished, t.path.IsRooted) ∧
      (({ decoration := decoration } : Emitter).emitAll finished : StateM World _)
        (start.addRecords (tangler.reports world.surroundings document target language)) =
          ((emitter, .ok ()), between) ∧
      (emitter.emit failed : StateM World _) between = ((emitter', .error (.emit p cause)), world') ∧
      World.Edits (fun _ => False) between world' := by
  rcases tangle_cases h with ⟨failure, hsave, -, herror⟩ | ⟨start, hsave, hrest⟩
  · cases herror
    exact absurd hsave Document.save_ne_emit
  · have hsaving := Document.save_edits hplaced hworld hsave
    obtain ⟨htargets, hreports⟩ := targets_of_save tangler world.surroundings target language hsave
    rw [← hsaving.surroundings] at hdirectory
    obtain ⟨decoration, finished, failed, rest, emitter, emitter', between, hrun⟩ :=
      tangleSaved_eq_emit hsaving.consistent hdirectory hrest
    rw [hsaving.surroundings, htargets, hreports] at hrun
    exact ⟨start, decoration, finished, failed, rest, emitter, emitter', between, hsave, hrun⟩

/-- A run that has come to a summary. -/
theorem exists_eq_of_toBool
    {ended : (Document × Except Failure Summary) × World}
    (h : ended.1.2.toBool = true) :
    ∃ saved summary world', ended = ((saved, .ok summary), world') := by
  obtain ⟨⟨saved, outcome⟩, world'⟩ := ended
  cases outcome with
  | error failure =>
      cases h
  | ok summary =>
      exact ⟨saved, summary, world', rfl⟩

end Tangler

end Literate
