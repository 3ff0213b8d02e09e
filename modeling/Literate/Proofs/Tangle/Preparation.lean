import Literate.Proofs.Expansion.Memory
import Literate.Proofs.Journal
import Literate.Tangle

/-!
# What becomes of the blocks before they are placed

Blocks are expanded one after another under one memory.  An excluded block is
passed over, a block whose references fail is reported, and any other block is
rendered.  This module reads the preparation of a document off the results of
its blocks, and says when a language filter can be seen in them.

**Steady blocks.**  What is remembered can be seen in the expansion of a block
only when its references lead back to its name and that name stands for another
block: then the block alone runs into a cycle, and a remembered text hides it.
Any other block is steady.

**Main statements.**
* `grows_add`, `grows_foldl_add`: one block and any number of blocks add their
  results to the errors, the rendered blocks and the warnings of a preparation.
* `filter_results`: the results of steady blocks are what their expansion without
  memory gives, whatever else is expanded.
* `ofDocument_selects`: a language filter selects from the results.
* `ofDocument_hides_cycle`: it does not where a block is not steady.
-/

namespace Literate

namespace Expansion

/-- The first computation keeps an invariant of the memory, whether it succeeds or fails. -/
def keeps (invariant : Memo → Prop) : Simulation Expansion Expansion where
  rel x _ := ∀ memo, invariant memo → invariant (x.run memo).2
  rel_pure := by
    intro α a memo hmemo
    exact hmemo
  rel_bind := by
    intro α β x y f g hx hf memo hmemo
    have hkept := hx memo hmemo
    rw [run_bind]
    rcases hrun : x.run memo with ⟨r, memo'⟩
    rw [hrun] at hkept
    cases r with
    | error e =>
        exact hkept
    | ok a =>
        exact hf a memo' hkept

section Keeps

variable {invariant : Memo → Prop} {library : Library}

/-- A look-up keeps what remembering a text keeps. -/
theorem keeps_resolve
    (hremembered : ∀ name text count memo,
      invariant memo → invariant (remembered name text count memo))
    (library : Library) (chain : List Text) (name : Text) :
    (keeps invariant).rel (resolve library chain name) (resolve library chain name) := by
  induction chain, name using library.chain_induction with
  | step chain name ih =>
      intro memo hmemo
      rcases run_resolve_cases library chain name memo with
        ⟨-, hrun⟩ | ⟨-, text, -, hrun⟩ | ⟨-, -, hrun⟩ | ⟨hnew, hfound, hrun⟩
      · rw [hrun]
        exact hmemo
      · rw [hrun]
        exact hmemo
      · rw [hrun]
        exact hmemo
      · have hblocks := (keeps invariant).expandBlocks _ _ (library.targets name)
          (fun _ _ _ other _ => ih hnew hfound other) memo hmemo
        rw [hrun]
        rcases hinner : (expandBlocks (expandEveryLine (resolve library (chain ++ [name])))
          (library.targets name)).run memo with ⟨r, memo'⟩
        rw [hinner] at hblocks
        cases r with
        | error e =>
            exact hblocks
        | ok texts =>
            exact hremembered _ _ _ _ hblocks

theorem keeps_ofBlock
    (hremembered : ∀ name text count memo,
      invariant memo → invariant (remembered name text count memo))
    (block : Block) {memo : Memo}
    (h : invariant memo) :
    invariant ((ofBlock library block).run memo).2 := by
  rw [ofBlock, funext (expandBody_eq_expandEveryLine _)]
  exact (keeps invariant).expandBlock _ _ block
    (fun _ name _ => keeps_resolve hremembered library [block.name] name) memo h

/-- Expansions do not warn. -/
theorem warnings_run_ofBlock
    (library : Library) (block : Block) (memo : Memo) :
    warnings ((ofBlock library block).run memo).2.records = warnings memo.records := by
  refine @keeps_ofBlock (fun memo' => warnings memo'.records = warnings memo.records) library ?_ block
    memo rfl
  intro name text count memo' hmemo
  change warnings (memo'.records ++ [_]) = _
  rw [warnings_append, hmemo]
  simp [warnings]

end Keeps

end Expansion

/-- What becomes of a block before it is placed. -/
inductive Outcome
  /-- It is excluded from every destination. -/
  | excluded
  /-- Its references cannot be expanded. -/
  | failed (error : ReferenceError)
  /-- Its body with the references expanded. -/
  | expanded (body : Text)
deriving DecidableEq

/-- The outcome of a block whose expansion gives a result. -/
def Outcome.ofExpansion (block : Block) (result : Except ReferenceError Text) : Outcome :=
  if block.params.isExcluded then .excluded
  else
    match result with
    | .error error => .failed error
    | .ok body => .expanded body

/-- A block with what becomes of it. -/
structure Result where
  /-- The block. -/
  block : Block
  /-- What becomes of it. -/
  outcome : Outcome
deriving DecidableEq

namespace Result

/-- Why the block is skipped. -/
def error? (result : Result) : Option ReferenceError :=
  match result.outcome with
  | .failed error => some error
  | _ => none

/-- The block with the text that goes into its destination. -/
def rendered? (registry : Registry) (result : Result) : Option RenderedBlock :=
  match result.outcome with
  | .expanded body =>
      some ⟨result.block, registry.transform result.block.language body result.block.params⟩
  | _ => none

end Result

namespace Preparation

/-- The warning about a block that is skipped. -/
def skippedRecord (error : ReferenceError) : Record :=
  ⟨.warning, .tangling, error.message ++ "; block skipped"⟩

/-- One preparation goes on to another one by results. -/
structure Grows (library : Library) (registry : Registry) (results : List Result)
    (preparation later : Preparation) : Prop where
  /-- The errors are added in order. -/
  errors : later.errors = preparation.errors ++ results.filterMap Result.error?
  /-- The rendered blocks are added in order. -/
  rendered : later.rendered = preparation.rendered ++ results.filterMap (Result.rendered? registry)
  /-- Every error is reported once, and nothing else is warned about. -/
  warnings : warnings later.memo.records =
    warnings preparation.memo.records ++ (results.filterMap Result.error?).map skippedRecord
  /-- The memory stays faithful. -/
  faithful : preparation.memo.Faithful library → later.memo.Faithful library

section Growth

variable {library : Library} {registry : Registry} {preparation middle later : Preparation}

theorem Grows.refl : Grows library registry [] preparation preparation := by
  refine ⟨?_, ?_, ?_, id⟩ <;> simp

theorem Grows.trans
    {results results' : List Result}
    (h : Grows library registry results preparation middle)
    (h' : Grows library registry results' middle later) :
    Grows library registry (results ++ results') preparation later := by
  refine ⟨?_, ?_, ?_, fun hfaithful => h'.faithful (h.faithful hfaithful)⟩
  · rw [h'.errors, h.errors, List.filterMap_append, List.append_assoc]
  · rw [h'.rendered, h.rendered, List.filterMap_append, List.append_assoc]
  · rw [h'.warnings, h.warnings, List.filterMap_append, List.map_append, List.append_assoc]

/-- What becomes of the next block. -/
def next (library : Library) (preparation : Preparation) (block : Block) : Result where
  block := block
  outcome := .ofExpansion block
    ((Expansion.ofBlock library block).run (preparation.report (Document.collectedRecord block)).memo).1

theorem warnings_report
    (preparation : Preparation) (block : Block) :
    Literate.warnings (preparation.report (Document.collectedRecord block)).memo.records =
      Literate.warnings preparation.memo.records := by
  simp [report, Literate.warnings, Document.collectedRecord]

/-- One more block adds its result. -/
theorem grows_add
    (library : Library) (registry : Registry) (preparation : Preparation) (block : Block) :
    Grows library registry [preparation.next library block] preparation
      (preparation.add library registry block) := by
  have hreport := warnings_report preparation block
  have hwarnings := Expansion.warnings_run_ofBlock library block
    (preparation.report (Document.collectedRecord block)).memo
  have hfaithful : preparation.memo.Faithful library →
      ((Expansion.ofBlock library block).run
        (preparation.report (Document.collectedRecord block)).memo).2.Faithful library :=
    fun h => Expansion.faithful_run_ofBlock block h
  unfold next add Outcome.ofExpansion
  dsimp only
  rcases hrun : (Expansion.ofBlock library block).run
    (preparation.report (Document.collectedRecord block)).memo with ⟨result, memo⟩
  rw [hrun, hreport] at hwarnings
  rw [hrun] at hfaithful
  by_cases hexcluded : block.params.isExcluded = true
  · rw [if_pos hexcluded, if_pos hexcluded]
    refine ⟨?_, ?_, ?_, id⟩
    · simp [Result.error?, report]
    · simp [Result.rendered?, report]
    · simp [Result.error?, hreport]
  · rw [if_neg hexcluded, if_neg hexcluded]
    cases result with
    | error error =>
        refine ⟨?_, ?_, ?_, hfaithful⟩
        · simp [Result.error?, report]
        · simp [Result.rendered?, report]
        · change Literate.warnings (memo.records ++ [skippedRecord error]) = _
          rw [warnings_append, hwarnings]
          simp [Result.error?, Literate.warnings, skippedRecord]
    | ok body =>
        refine ⟨?_, ?_, ?_, hfaithful⟩
        · simp [Result.error?, report]
        · simp [Result.rendered?, report]
        · change Literate.warnings memo.records = _
          rw [hwarnings]
          simp [Result.error?]

/-- What becomes of blocks that are added one after another. -/
def results (library : Library) (registry : Registry) (preparation : Preparation) :
    List Block → List Result
  | [] => []
  | block :: rest =>
      preparation.next library block :: results library registry (preparation.add library registry block) rest

/-- Any number of blocks add their results. -/
theorem grows_foldl_add
    (library : Library) (registry : Registry) (preparation : Preparation) (blocks : List Block) :
    Grows library registry (preparation.results library registry blocks) preparation
      (blocks.foldl (add library registry) preparation) := by
  induction blocks generalizing preparation with
  | nil =>
      exact Grows.refl
  | cons block blocks ih =>
      exact (grows_add library registry preparation block).trans (ih _)

end Growth

/-- What becomes of the blocks of a document that pass a language filter. -/
def ofDocumentResults (registry : Registry) (document : Document) (language : Option Text) : List Result :=
  results ⟨document.collect none⟩ registry {} (document.collect language)

theorem grows_ofDocument
    (registry : Registry) (document : Document) (language : Option Text) :
    Grows ⟨document.collect none⟩ registry (ofDocumentResults registry document language) {}
      (ofDocument registry document language) :=
  grows_foldl_add _ registry {} (document.collect language)

end Preparation

/-- The blocks of a language are found among all blocks. -/
theorem Document.collect_some
    (document : Document) (language : Text) :
    document.collect (some language) = (document.collect none).filter (passes (some language)) := by
  have hall : document.collect none = numberBlocks 1 document.scanned.blocks := List.filter_true _
  rw [hall]
  rfl

/-- The memory of earlier expansions cannot be seen in a block: it is not expanded, or it is the first
block with its name, or its references do not lead back to its name. -/
def Library.IsSteady (library : Library) (block : Block) : Prop :=
  block.params.isExcluded = true ∨ block.params.expandsReferences = false ∨
    library.named block.name = some block ∨ ¬ library.ReachedFrom block block.name

namespace Preparation

section Filter

variable {library : Library} {preparation : Preparation} {block : Block}

/-- A steady block becomes what its expansion without memory gives. -/
theorem next_of_steady
    (hsteady : library.IsSteady block)
    (h : preparation.memo.Faithful library) :
    preparation.next library block =
      ⟨block, .ofExpansion block (Expansion.Plain.ofBlock library block)⟩ := by
  have hreported : (preparation.report (Document.collectedRecord block)).memo.Faithful library := h
  unfold next
  rcases hsteady with hexcluded | hliteral | hfirst | hapart
  · simp [Outcome.ofExpansion, hexcluded]
  · simp [Expansion.ofBlock, Expansion.Plain.ofBlock, Expansion.expandBlock, hliteral]
    rfl
  · rw [Expansion.run_ofBlock_of_faithful hfirst hreported]
  · -- nothing that the block reaches leads back to it, remembered or not
    have hfits : (preparation.report (Document.collectedRecord block)).memo.Fits library block := by
      refine ⟨hreported, ?_⟩
      rintro name text - ⟨first, hfirst, hforth⟩ hback
      exact hapart ⟨first, hfirst, hforth.trans hback⟩
    rw [Expansion.run_ofBlock_eq_plain hfits]

/-- The results of steady blocks do not depend on what else is expanded. -/
theorem filter_results
    (registry : Registry) {blocks : List Block} (p : Block → Bool)
    (hsteady : ∀ block ∈ blocks, p block = true → library.IsSteady block)
    (h : preparation.memo.Faithful library) :
    (preparation.results library registry blocks).filter (fun result => p result.block) =
      (blocks.filter p).map fun block =>
        ⟨block, .ofExpansion block (Expansion.Plain.ofBlock library block)⟩ := by
  induction blocks generalizing preparation with
  | nil =>
      rfl
  | cons block blocks ih =>
      have hrest := ih (fun other hother => hsteady other (List.mem_cons_of_mem _ hother))
        ((grows_add library registry preparation block).faithful h)
      rw [results]
      by_cases hp : p block = true
      · have hnext := next_of_steady (hsteady block List.mem_cons_self hp) h
        rw [List.filter_cons_of_pos (by exact hp), List.filter_cons_of_pos hp, List.map_cons, hrest, hnext]
      · rw [List.filter_cons_of_neg (by exact hp), List.filter_cons_of_neg hp, hrest]

end Filter

theorem filter_ofDocumentResults
    (registry : Registry) {document : Document} {language : Option Text} (p : Block → Bool)
    (hsteady : ∀ block ∈ document.collect language, p block = true →
      Library.IsSteady ⟨document.collect none⟩ block) :
    (ofDocumentResults registry document language).filter (fun result => p result.block) =
      ((document.collect language).filter p).map fun block =>
        ⟨block, .ofExpansion block (Expansion.Plain.ofBlock ⟨document.collect none⟩ block)⟩ :=
  filter_results registry p hsteady Expansion.faithful_empty

/-- **A language filter selects.**  If the blocks of a language are steady, the results under the filter
are the results of those blocks without it.  The errors and the rendered blocks of a preparation are read
off the results. -/
theorem ofDocument_selects
    (registry : Registry) (document : Document) (language : Text)
    (hsteady : ∀ block ∈ document.collect (some language),
      Library.IsSteady ⟨document.collect none⟩ block) :
    ofDocumentResults registry document (some language) =
        (ofDocumentResults registry document none).filter
          (fun result => result.block.language == language) ∧
      ∀ filter,
        (ofDocument registry document filter).errors =
            (ofDocumentResults registry document filter).filterMap Result.error? ∧
          (ofDocument registry document filter).rendered =
            (ofDocumentResults registry document filter).filterMap (Result.rendered? registry) := by
  refine ⟨?_, fun filter => ⟨?_, ?_⟩⟩
  · have hunder := filter_ofDocumentResults registry (fun _ => true) fun block hblock _ =>
      hsteady block hblock
    have hwithout := filter_ofDocumentResults registry (Document.passes (some language))
      fun block hblock hpasses => hsteady block (by
        rw [Document.collect_some]
        exact List.mem_filter.mpr ⟨hblock, hpasses⟩)
    rw [List.filter_true, List.filter_true, Document.collect_some] at hunder
    exact hunder.trans hwithout.symm
  · exact (grows_ofDocument registry document filter).errors
  · exact (grows_ofDocument registry document filter).rendered

/-- A reference to a block of another language, and a name that comes again on a block without expansion. -/
theorem ofDocument_selects_across_languages :
    let document : Document :=
      { text :=
          "#+name: part\n#+begin_src sh\nhello\n#+end_src\n#+name: whole\n#+begin_src text :noweb yes\n" ++
            "<<part>>!\n#+end_src\n#+name: part\n#+begin_src text\n<<whole>>\n#+end_src\n" ++
            "#+begin_src text :noweb yes\n<<missing>>\n#+end_src\n" }
    (∀ block ∈ document.collect (some "text"), Library.IsSteady ⟨document.collect none⟩ block) ∧
      ((ofDocumentResults Registry.standard document none).filter
          fun result => result.block.language == ("text" : Text)).map Result.outcome =
        [.expanded "hello!", .expanded "<<whole>>", .failed (.unknown "block-4" "missing")] := by
  intro document
  have hdecided : ∀ block ∈ document.collect (some "text"),
      block.params.expandsReferences = false ∨
        Library.named ⟨document.collect none⟩ block.name = some block := by
    decide +kernel
  have hsteady : ∀ block ∈ document.collect (some "text"),
      Library.IsSteady ⟨document.collect none⟩ block := by
    intro block hblock
    rcases hdecided block hblock with hliteral | hfirst
    · exact Or.inr (Or.inl hliteral)
    · exact Or.inr (Or.inr (Or.inl hfirst))
  refine ⟨hsteady, ?_⟩
  rw [← (ofDocument_selects Registry.standard document "text" hsteady).1]
  decide +kernel

/-- The second block named `part` refers to `whole`, which refers to the first one.  Unfiltered, `whole` is
remembered by the time it is expanded; under the filter it runs into a cycle. -/
theorem ofDocument_hides_cycle :
    let document : Document :=
      { text :=
          "#+name: part\n#+begin_src sh\nhello\n#+end_src\n#+name: whole\n#+begin_src sh :noweb yes\n" ++
            "<<part>>\n#+end_src\n#+begin_src sh :noweb yes\n<<whole>>\n#+end_src\n#+name: part\n" ++
            "#+begin_src text :noweb yes :tangle out.txt\n<<whole>>\n#+end_src\n" }
    (ofDocumentResults Registry.standard document (some "text")).map Result.outcome =
        [.failed (.cycle "part" ["part", "whole", "part"])] ∧
      ((ofDocumentResults Registry.standard document none).filter
          fun result => result.block.language == ("text" : Text)).map Result.outcome = [.expanded "hello"] := by
  decide +kernel

end Preparation

end Literate
