import Literate.Proofs.Tangle.Preparation
import Literate.Proofs.Tangle.Run

/-!
# The accounts of a run

Every block that a run collects has one fate: it is excluded, its references or
its destination fail, it has no destination, or it is written.  The counts, the
paths and the errors that a run returns, and the warnings that it writes, are
all read off these fates.  This holds of every file system and of every engine
that reads the templates.

**Fates.**  A fate depends on the block, on the blocks that are rendered, and on
where they want to go, never on the files (`Placement.fate`).  A run comes to a
summary only when no destination needs an unknown home directory.

**Main statements.**
* `Grouping.reported_ofBlocks`: grouping warns about every block it rejects and
  about nothing else.
* `Emitter.produced_emitAll`: the paths that an emitter has produced.
* `tangle_accounts`: the accounts of a run that comes to a summary.
-/

namespace Literate

namespace Grouping

variable {placement : Placement} {blocks : List RenderedBlock} {grouping next : Grouping}

theorem distinct_eq_eraseDups
    (paths : List Path) :
    distinct paths = paths.eraseDups := by
  induction paths using List.reverseRecOn with
  | nil =>
      rfl
  | append_singleton paths p ih =>
      have hmem : (distinct paths).contains p = decide (p ∈ paths) := by
        simp [ih]
      rw [Dictionary.eraseDups_concat, ← ih, distinct, List.foldl_append, List.foldl_cons, List.foldl_nil]
      change (if (distinct paths).contains p then distinct paths else distinct paths ++ [p]) = _
      rw [hmem]
      simp

/-- The warning about a block that is rejected. -/
def rejectedRecord (error : PlacementError) : Record :=
  ⟨.warning, .placement, error.message ++ "; block skipped"⟩

/-- Every rejected block has been warned about once, in order, and no other block has. -/
def Reported (grouping : Grouping) : Prop :=
  warnings grouping.records = grouping.errors.map rejectedRecord

theorem Reported.reject
    (h : grouping.Reported) (error : PlacementError) :
    (grouping.reject error).Reported := by
  unfold Reported at h ⊢
  simp only [Grouping.reject, warnings_append, List.map_append, h]
  rfl

theorem Reported.skip
    (h : grouping.Reported) (block : RenderedBlock) :
    (grouping.skip block).Reported := by
  unfold Reported at h ⊢
  simp only [Grouping.skip, warnings_append, h]
  simp [warnings]

/-- One more block is warned about if it is rejected. -/
theorem Reported.add
    {block : RenderedBlock}
    (h : grouping.Reported)
    (hadd : grouping.add placement block = .ok next) :
    next.Reported := by
  unfold Grouping.add at hadd
  split at hadd
  · cases hadd
  · cases hadd
    exact h.skip block
  · cases hadd
    exact h.reject _
  · split at hadd
    · split at hadd
      · cases hadd
        exact h
      · cases hadd
        exact h.reject _
    · cases hadd
      exact h

/-- Grouping warns about the blocks that it rejects. -/
theorem reported_ofBlocks
    (h : grouping.Reported) (blocks : List RenderedBlock) :
    (ofBlocks placement grouping blocks).1.Reported := by
  induction blocks generalizing grouping with
  | nil =>
      exact h
  | cons block blocks ih =>
      rw [ofBlocks]
      split
      · rename_i added hadd
        exact ih (h.add hadd)
      · exact h

end Grouping

namespace Emitter

variable {emitter emitter' : Emitter} {target : Target} {world world' : World}

theorem note_of_write
    {p : Path} {file : OutputFile} {block : RenderedBlock} {chunk : Text}
    (h : (emitter.write p file block chunk : StateM World _) world = ((emitter', .ok ()), world')) :
    emitter' = emitter.note p (file.extended block) := by
  rcases write_cases h with ⟨failure, -, herror, -⟩ |
    ⟨old, read, -, ⟨cause, -, herror, -⟩ | ⟨written, -, hrest⟩⟩
  · cases herror
  · cases herror
  · split at hrest
    · rcases hrest with ⟨cause, -, herror, -⟩ | ⟨-, -, hnote⟩
      · cases herror
      · exact hnote
    · exact hrest.2.2

/-- The two books of an emitter agree: it has listed the destinations that it knows, and no others. -/
def Listed (emitter : Emitter) : Prop :=
  emitter.produced = emitter.files.keys

theorem listed_new
    (decoration : Decoration) :
    ({ decoration := decoration } : Emitter).Listed :=
  rfl

/-- What is noted about a destination that is known leaves the list alone. -/
theorem Listed.note
    {p : Path} (file : OutputFile)
    (h : emitter.Listed)
    (hp : p ∈ emitter.files.keys) :
    (emitter.note p file).Listed := by
  change emitter.produced = (emitter.files.insert p file).keys
  rw [Dictionary.keys_insert, if_pos hp]
  exact h

/-- A destination that is new comes last on the list. -/
theorem Listed.enter
    {p : Path} (file : OutputFile)
    (h : emitter.Listed)
    (hp : p ∉ emitter.files.keys) :
    (emitter.enter p file).Listed := by
  change emitter.produced ++ [p] = (emitter.files.insert p file).keys
  rw [Dictionary.keys_insert, if_neg hp, h]

/-- A block that is written adds its path to the list unless it is there. -/
theorem produced_emit
    {p : Path}
    (hlisted : emitter.Listed)
    (h : (emitter.emit target : StateM World _) world = ((emitter', .ok p), world')) :
    emitter'.Listed ∧
      emitter'.produced =
        if emitter.produced.contains target.path then emitter.produced
        else emitter.produced ++ [target.path] := by
  obtain ⟨opened, file, between, text, written, hopen, -, hwrite, -, -⟩ := emit_eq_ok h
  rw [note_of_write hwrite]
  rcases openFile_cases hopen with ⟨known, hknown, -, rfl, -⟩ |
    ⟨hnew, ⟨failure, -, herror, -⟩ | ⟨-, -, rfl⟩⟩
  · have hpath : target.path ∈ opened.files.keys := by
      by_contra hmissing
      rw [Dictionary.get?_eq_none_iff.mpr hmissing] at hknown
      cases hknown
    have hcontains : opened.produced.contains target.path = true := by
      rw [hlisted]
      exact List.contains_iff_mem.mpr hpath
    refine ⟨hlisted.note _ hpath, ?_⟩
    rw [if_pos hcontains]
    rfl
  · cases herror
  · have hpath : target.path ∉ emitter.files.keys := Dictionary.get?_eq_none_iff.mp hnew
    have hcontains : ¬ emitter.produced.contains target.path = true := by
      rw [hlisted]
      exact fun hmem => hpath (List.contains_iff_mem.mp hmem)
    have hentered : target.path ∈
        (emitter.enter target.path { language := target.block.language }).files.keys := by
      rw [← hlisted.enter _ hpath]
      exact List.mem_append_right _ List.mem_cons_self
    refine ⟨(hlisted.enter _ hpath).note _ hentered, ?_⟩
    rw [if_neg hcontains]
    rfl

/-- The paths that an emitter has listed are those of the blocks, each once, in order. -/
theorem produced_emitAll
    {targets : List Target}
    (hlisted : emitter.Listed)
    (h : (emitter.emitAll targets : StateM World _) world = ((emitter', .ok ()), world')) :
    emitter'.produced =
      (targets.map Target.path).foldl (fun seen p => if seen.contains p then seen else seen ++ [p])
        emitter.produced := by
  induction targets generalizing emitter world with
  | nil =>
      cases h
      rfl
  | cons target targets ih =>
      rcases emitAll_cons h with ⟨failure, -, herror⟩ | ⟨next, p, between, hemit, hrest⟩
      · cases herror
      · obtain ⟨hnext, hproduced⟩ := produced_emit hlisted hemit
        rw [ih hnext hrest, hproduced]
        rfl

end Emitter

/-- What becomes of a block in the end. -/
inductive Fate
  /-- It is excluded from every destination. -/
  | excluded
  /-- Its references cannot be expanded. -/
  | unresolved (error : ReferenceError)
  /-- The value of its argument cannot be a destination. -/
  | malformed (error : PlacementError)
  /-- Its destination belongs to another language. -/
  | ambiguous (error : PlacementError)
  /-- It has no destination. -/
  | unplaced
  /-- Its destination needs an unknown home directory. -/
  | homeless (cause : Path.HomeError)
  /-- It is written. -/
  | written (target : Target)
deriving DecidableEq

namespace Fate

/-- The target that is written. -/
def target? : Fate → Option Target
  | written target => some target
  | _ => none

/-- Why references could not be expanded. -/
def referenceError? : Fate → Option ReferenceError
  | unresolved error => some error
  | _ => none

/-- Why there is no destination. -/
def placementError? : Fate → Option PlacementError
  | malformed error => some error
  | ambiguous error => some error
  | _ => none

end Fate

namespace Placement

variable (placement : Placement) (registry : Registry) (blocks : List RenderedBlock)

/-- The fate of a rendered block among others. -/
def renderedFate (block : RenderedBlock) : Fate :=
  match placement.destination block with
  | .none => .unplaced
  | .rejected error => .malformed error
  | .homeless cause => .homeless cause
  | .file p =>
      if placement.owner? p blocks = some block.language then .written ⟨p, block⟩
      else .ambiguous (.ambiguous block.name p ((placement.owner? p blocks).getD []) block.language)

/-- The fate of a block among those that are rendered. -/
def fate (result : Result) : Fate :=
  match result.outcome with
  | .excluded => .excluded
  | .failed error => .unresolved error
  | .expanded body =>
      placement.renderedFate blocks
        ⟨result.block, registry.transform result.block.language body result.block.params⟩

/-- A rendered block is written exactly if it is accepted, and reported exactly if it is objected to. -/
theorem readings_renderedFate
    (block : RenderedBlock) :
    (placement.renderedFate blocks block).target? = placement.accepted? blocks block ∧
      (placement.renderedFate blocks block).referenceError? = none ∧
      (placement.renderedFate blocks block).placementError? = placement.objection? blocks block := by
  unfold renderedFate accepted? objection?
  cases placement.destination block with
  | file p =>
      by_cases howner : placement.owner? p blocks = some block.language
      · simp [howner, Fate.target?, Fate.referenceError?, Fate.placementError?]
      · simp [howner, Fate.target?, Fate.referenceError?, Fate.placementError?]
  | _ =>
      exact ⟨rfl, rfl, rfl⟩

/-- What the fate of a block shows is what its result and its placement show. -/
theorem readings_fate
    (result : Result) :
    (placement.fate registry blocks result).target? =
        (result.rendered? registry).bind (placement.accepted? blocks) ∧
      (placement.fate registry blocks result).referenceError? = result.error? ∧
      (placement.fate registry blocks result).placementError? =
        (result.rendered? registry).bind (placement.objection? blocks) := by
  unfold fate Result.rendered? Result.error?
  cases result.outcome with
  | excluded =>
      exact ⟨rfl, rfl, rfl⟩
  | failed error =>
      exact ⟨rfl, rfl, rfl⟩
  | expanded body =>
      exact placement.readings_renderedFate blocks _

/-- A block is without a home only if its destination is. -/
theorem fate_eq_homeless
    {result : Result} {cause : Path.HomeError}
    (h : placement.fate registry blocks result = .homeless cause) :
    ∃ block, result.rendered? registry = some block ∧ placement.destination block = .homeless cause := by
  unfold fate at h
  unfold Result.rendered?
  cases houtcome : result.outcome with
  | excluded =>
      rw [houtcome] at h
      cases h
  | failed error =>
      rw [houtcome] at h
      cases h
  | expanded body =>
      rw [houtcome] at h
      refine ⟨_, rfl, ?_⟩
      simp only [renderedFate] at h
      split at h
      · cases h
      · cases h
      · rename_i hdestination
        cases h
        exact hdestination
      · split at h <;> cases h

end Placement

namespace Preparation

theorem map_block_results
    (library : Library) (registry : Registry) (preparation : Preparation) (blocks : List Block) :
    (preparation.results library registry blocks).map Result.block = blocks := by
  induction blocks generalizing preparation with
  | nil =>
      rfl
  | cons block blocks ih =>
      rw [results, List.map_cons, ih]
      rfl

end Preparation

namespace Tangler

/-- The blocks that a run collects, each with its fate, in document order. -/
def accounts (tangler : Tangler) (surroundings : Surroundings) (document : Document)
    (target language : Option Text) : List (Block × Fate) :=
  (Preparation.ofDocumentResults tangler.registry document language).map fun result =>
    (result.block,
      (tangler.placement surroundings document target).fate tangler.registry
        (Preparation.ofDocument tangler.registry document language).rendered result)

section Accounts

variable (tangler : Tangler) (surroundings : Surroundings) (document : Document)
  (target language : Option Text)

/-- Every collected block is accounted for once. -/
theorem map_fst_accounts :
    (tangler.accounts surroundings document target language).map Prod.fst =
      document.collect language := by
  rw [accounts, List.map_map]
  exact Preparation.map_block_results _ tangler.registry {} (document.collect language)

/-- What fates show of rendered blocks is what the rendered blocks show. -/
theorem filterMap_accounts
    {α : Type} {show? : Fate → Option α} {judge : RenderedBlock → Option α}
    (h : ∀ result,
      show? ((tangler.placement surroundings document target).fate tangler.registry
        (Preparation.ofDocument tangler.registry document language).rendered result) =
          (result.rendered? tangler.registry).bind judge) :
    (tangler.accounts surroundings document target language).filterMap (fun account => show? account.2) =
      (Preparation.ofDocument tangler.registry document language).rendered.filterMap judge := by
  rw [accounts, List.filterMap_map]
  refine (List.filterMap_congr fun result _ => h result).trans ?_
  rw [(Preparation.grows_ofDocument tangler.registry document language).rendered, List.nil_append,
    List.filterMap_filterMap]

theorem filterMap_referenceError?_accounts :
    (tangler.accounts surroundings document target language).filterMap
        (fun account => account.2.referenceError?) =
      (Preparation.ofDocument tangler.registry document language).errors := by
  rw [accounts, List.filterMap_map,
    (Preparation.grows_ofDocument tangler.registry document language).errors]
  exact List.filterMap_congr fun result _ => (Placement.readings_fate _ _ _ result).2.1

variable {tangler surroundings document target language}

theorem describes_grouping
    (hgrouped : (tangler.grouping surroundings document target language).2 = none) :
    Grouping.Describes (tangler.placement surroundings document target)
      (Preparation.ofDocument tangler.registry document language).rendered
      (tangler.grouping surroundings document target language).1 :=
  Grouping.ofBlocks_describes (Grouping.describes_empty _) (Prod.ext rfl hgrouped)

/-- The blocks that are written are those of that fate. -/
theorem targets_perm_accounts
    (hgrouped : (tangler.grouping surroundings document target language).2 = none) :
    (tangler.targets surroundings document target language).Perm
      ((tangler.accounts surroundings document target language).filterMap fun account =>
        account.2.target?) := by
  rw [filterMap_accounts _ _ _ _ _ fun result => (Placement.readings_fate _ _ _ result).1]
  exact Grouping.targets_perm (describes_grouping hgrouped)

theorem filterMap_placementError?_accounts
    (hgrouped : (tangler.grouping surroundings document target language).2 = none) :
    (tangler.accounts surroundings document target language).filterMap
        (fun account => account.2.placementError?) =
      (tangler.grouping surroundings document target language).1.errors := by
  rw [filterMap_accounts _ _ _ _ _ fun result => (Placement.readings_fate _ _ _ result).2.2,
    (describes_grouping hgrouped).errors]
  rfl

/-- No block is without a home when grouping has come to its end. -/
theorem accounts_ne_homeless
    (hgrouped : (tangler.grouping surroundings document target language).2 = none) :
    ∀ account ∈ tangler.accounts surroundings document target language,
      ∀ cause, account.2 ≠ .homeless cause := by
  intro account haccount cause hhomeless
  obtain ⟨result, hresult, rfl⟩ := List.mem_map.mp haccount
  obtain ⟨block, hblock, hdestination⟩ := Placement.fate_eq_homeless _ _ _ hhomeless
  have hmem : block ∈ (Preparation.ofDocument tangler.registry document language).rendered := by
    rw [(Preparation.grows_ofDocument tangler.registry document language).rendered]
    exact List.mem_append_right _ (List.mem_filterMap.mpr ⟨result, hresult, hblock⟩)
  exact Grouping.destination_ne_homeless hgrouped block hmem cause hdestination

variable (tangler surroundings document target language)

/-- Before it writes its first block, a run warns about the blocks that are skipped. -/
theorem warnings_reports :
    warnings (tangler.reports surroundings document target language) =
      (Preparation.ofDocument tangler.registry document language).errors.map Preparation.skippedRecord ++
        (tangler.grouping surroundings document target language).1.errors.map Grouping.rejectedRecord := by
  have hgrows := Preparation.grows_ofDocument tangler.registry document language
  have hcollected : warnings ((document.collect none).map Document.collectedRecord) = [] := by
    simp [warnings, Document.collectedRecord]
  have hprepared : warnings (Preparation.ofDocument tangler.registry document language).memo.records =
      (Preparation.ofDocument tangler.registry document language).errors.map
        Preparation.skippedRecord := by
    rw [hgrows.warnings, hgrows.errors]
    rfl
  have hempty : ({} : Grouping).Reported := rfl
  have hgrouped : (tangler.grouping surroundings document target language).1.Reported :=
    Grouping.reported_ofBlocks hempty _
  rw [reports, warnings_append, warnings_append, hcollected, hprepared, List.nil_append, hgrouped]

end Accounts

section Run

variable {tangler : Tangler} {document saved : Document} {target language : Option Text}
  {world world' : World} {summary : Summary}

/-- What a run that comes to a summary writes is said by the document as it was before it was saved. -/
theorem exists_emitAll_of_summary
    (h : (tangler.tangle document target language : StateM World _) world = ((saved, .ok summary), world')) :
    ∃ start decoration emitter between record,
      (document.save : ExceptT Failure (StateM World) Document).run world = (.ok saved, start) ∧
      World.Calm world start ∧
      (tangler.grouping world.surroundings document target language).2 = none ∧
      tangler.decoration = .ok decoration ∧
      (({ decoration := decoration } : Emitter).emitAll
          (tangler.targets world.surroundings document target language) : StateM World _)
        (start.addRecords (tangler.reports world.surroundings document target language)) =
          ((emitter, .ok ()), between) ∧
      summary = tangler.summary world.surroundings document target language ∧
      record.level ≠ .warning ∧ world' = between.addRecord record := by
  obtain ⟨start, decoration, emitter, between, hsave, -, hgrouped, hdecoration, hemit, hsummary, hlast⟩ :=
    tangle_eq_ok h
  have hsaving : World.Calm world start := by
    have hquiet := document.quiet_save world
    rwa [hsave] at hquiet
  rw [hsaving.surroundings, Document.save_eq_ok hsave] at hgrouped hemit hsummary
  refine ⟨start, decoration, emitter, between, _, hsave, hsaving, hgrouped, hdecoration, hemit, hsummary, ?_,
    hlast⟩
  simp [summaryRecord]

/-- A run that comes to a summary warns in its reports and nowhere else. -/
theorem warnings_of_summary
    (h : (tangler.tangle document target language : StateM World _) world = ((saved, .ok summary), world')) :
    warnings world'.records =
      warnings world.records ++ warnings (tangler.reports world.surroundings document target language) := by
  obtain ⟨start, decoration, emitter, between, record, -, hsaving, -, -, hemit, -, hlevel, rfl⟩ :=
    exists_emitAll_of_summary h
  have hemitting := Emitter.quiet_emitAll { decoration := decoration }
    (tangler.targets world.surroundings document target language)
    (start.addRecords (tangler.reports world.surroundings document target language))
  rw [hemit] at hemitting
  rw [(World.calm_addRecord between hlevel).warnings, hemitting.warnings, World.warnings_addRecords,
    hsaving.warnings]

end Run

/-- **The accounts of a run.**  When a run comes to a summary, every block that it has collected has one fate,
and none is without a home.  The blocks that are written are those of that fate, and their number is the
count.  The errors are those of the references and then those of the placements, one for each such block, in
document order, and these are the new warnings.  The summary has been counted block by block; the list of the
emitter that has written the blocks, and the paths of the grouping, are the paths of the summary: those of the
written blocks, each once, in the order in which they are first written. -/
theorem tangle_accounts
    (tangler : Tangler) (document : Document) (target language : Option Text) (world : World)
    (saved : Document) (summary : Summary) (world' : World)
    (hrun : (tangler.tangle document target language : StateM World _).run world =
      ((saved, .ok summary), world')) :
    let accounts := tangler.accounts world.surroundings document target language
    let targets := tangler.targets world.surroundings document target language
    accounts.map Prod.fst = document.collect language ∧
      (∀ account ∈ accounts, ∀ cause, account.2 ≠ .homeless cause) ∧
      targets.Perm (accounts.filterMap fun account => account.2.target?) ∧
      summary.blockCount = (accounts.filterMap fun account => account.2.target?).length ∧
      summary.errors =
        (accounts.filterMap fun account => account.2.referenceError?).map ReferenceError.message ++
          (accounts.filterMap fun account => account.2.placementError?).map PlacementError.message ∧
      (∃ news, warnings world'.records = warnings world.records ++ news ∧
        news.map Record.message = summary.errors.map fun message : Text => message ++ "; block skipped") ∧
      summary.produced = (targets.map Target.path).eraseDups ∧ summary.produced.Nodup ∧
      summary.produced = (tangler.grouping world.surroundings document target language).1.paths ∧
      ∃ start decoration emitter between record,
        (document.save : ExceptT Failure (StateM World) Document).run world = (.ok saved, start) ∧
        tangler.decoration = .ok decoration ∧
        (writeAll { decoration := decoration } { errors := summary.errors } targets :
            ExceptT Failure (StateM World) Summary).run
          (start.addRecords (tangler.reports world.surroundings document target language)) =
            (.ok summary, between) ∧
        (({ decoration := decoration } : Emitter).emitAll targets : StateM World _).run
            (start.addRecords (tangler.reports world.surroundings document target language)) =
          ((emitter, .ok ()), between) ∧
        world' = between.addRecord record ∧
        emitter.produced = summary.produced := by
  intro accounts targets
  have hwarnings := warnings_of_summary hrun
  obtain ⟨start, decoration, emitter, between, record, hsave, -, hgrouped, hdecoration, hemit, rfl, -, hlast⟩ :=
    exists_emitAll_of_summary hrun
  have hperm := targets_perm_accounts hgrouped
  have hcounted := writeAll_of_emitAll
    { errors := tangler.errors world.surroundings document target language } hemit
  rw [foldl_count_eq_summary] at hcounted
  have hlisted := Emitter.produced_emitAll (Emitter.listed_new decoration) hemit
  have hdistinct : (tangler.grouping world.surroundings document target language).1.paths =
      (targets.map Target.path).eraseDups := Grouping.distinct_eq_eraseDups _
  refine ⟨map_fst_accounts .., accounts_ne_homeless hgrouped, hperm, hperm.length_eq, ?_,
    ⟨_, hwarnings, ?_⟩, hdistinct, ?_, rfl, start, decoration, emitter, between, record, hsave,
    hdecoration, hcounted, hemit, hlast, hlisted⟩
  · rw [filterMap_referenceError?_accounts, filterMap_placementError?_accounts hgrouped]
    rfl
  · rw [warnings_reports, summary, errors]
    simp only [List.map_append, List.map_map]
    rfl
  · change (tangler.grouping world.surroundings document target language).1.paths.Nodup
    rw [hdistinct]
    exact Dictionary.nodup_eraseDups _

/-- Seven blocks of all fates, two of which are written to one path in two spellings. -/
theorem tangle_accounts_every_fate :
    let tangler : Tangler := ofSettings { root := ⟨.root, []⟩ } none Registry.standard
    let world : World :=
      { files := ⟨⟨[(["d"], .directory (.settled 0))]⟩⟩
        surroundings := { directory := ⟨.root, ["d"]⟩, home := ⟨.root, []⟩ } }
    let document : Document :=
      { text :=
          "#+begin_src sh :tangle no\n#+end_src\n#+begin_src sh :tangle a :noweb yes\n<<m>>\n#+end_src\n" ++
            "#+begin_src sh :tangle b/\n#+end_src\n#+begin_src sh :tangle a\n#+end_src\n" ++
            "#+begin_src text :tangle a\n#+end_src\n#+begin_src text\n#+end_src\n" ++
            "#+begin_src sh :tangle c/../a\n#+end_src\n" }
    ∃ saved summary world',
      (tangler.tangle document none none : StateM World _).run world = ((saved, .ok summary), world') ∧
      summary.blockCount = 2 ∧
      summary.produced = [⟨.root, ["d", "a"]⟩] ∧
      summary.errors =
        [("Block 'block-2' references unknown block 'm'" : Text),
          ("Block 'block-3' has malformed :tangle value 'b/'" : Text),
          ("Block 'block-5' (text) targets /d/a, already claimed by sh blocks" : Text)] := by
  intro tangler world document
  have hok : ((tangler.tangle document none none : StateM World _).run world).1.2.toBool = true := by
    decide +kernel
  obtain ⟨saved, summary, world', hrun⟩ := exists_eq_of_toBool hok
  obtain ⟨-, -, -, hcount, herrors, -, hproduced, -⟩ :=
    tangle_accounts tangler document none none world saved summary world' hrun
  refine ⟨saved, summary, world', hrun, ?_⟩
  rw [hcount, herrors, hproduced]
  decide +kernel

end Tangler

end Literate
