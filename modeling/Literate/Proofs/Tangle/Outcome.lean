import Literate.Proofs.Emission.Decoration
import Literate.Proofs.Emission.Failures
import Literate.Proofs.Tangle.Accounts

/-!
# How a run ends

With standard settings a run comes to a summary, or the document cannot be used, or
a destination cannot be written.  A single block can stop it in two more ways: its
destination begins with the home directory of an unknown user, or it asks for the
file of its language and its language holds a null character.

**Texts.**  The characters of a text are those that can be encoded, and what fails on
writing is what `Literate.FileSystem` lets fail.

**Null characters.**  A destination is made from the surroundings, the path of the
document and the value of an argument or the name of a language.  A value with a null
character is rejected, so that one in a destination comes from the language.

**Main statements.**
* `Placement.null_of_destination`: where a null character in a destination comes from.
* `tangle_ends`: all ways in which a run can end.
* `tangle_unknown_home`: one block stops a run and keeps another one from being
  written.
-/

namespace Literate

/-- No standard suffix holds a null character. -/
theorem Language.null_of_suffixIn
    {language : Text}
    (h : '\x00' ∈ suffixIn (suffixesWith Dictionary.empty) language) :
    '\x00' ∈ language := by
  have htable : ∀ entry ∈ (suffixesWith Dictionary.empty).entries, '\x00' ∉ entry.2 := by
    decide +kernel
  unfold suffixIn at h
  split at h
  · rename_i c suffix hsuffix
    exact absurd h (htable _ (Dictionary.mem_entries_of_get? hsuffix))
  · exact h

/-- No path of the surroundings holds a null character. -/
structure Surroundings.NullFree (surroundings : Surroundings) : Prop where
  /-- There is none in the working directory. -/
  directory : surroundings.directory.hasNull = false
  /-- There is none in a home directory. -/
  homes : ∀ home ∈ surroundings.homes, home.hasNull = false

namespace Document

variable {document : Document} {surroundings : Surroundings}

/-- The path of a document holds no null character. -/
def NullFree (document : Document) : Prop :=
  ∀ p, document.path = some p → p.hasNull = false

/-- A document cannot be made with a null character in its path. -/
theorem nullFree_of_ofText
    {t : Text} {path : Option Path}
    (hsurroundings : surroundings.NullFree)
    (h : ofText surroundings t path = .ok document) :
    document.NullFree := by
  cases path with
  | none =>
      cases h
      rintro p ⟨⟩
  | some p =>
      simp only [ofText, resolvePath] at h
      split at h
      · cases h
      · rename_i hpath
        cases h
        rintro q ⟨⟩
        refine Bool.eq_false_iff.mpr fun hnull => ?_
        rcases Path.hasNull_absolute (p := surroundings.directory) (q := p) hnull with hdirectory | hp
        · rw [hsurroundings.directory] at hdirectory
          cases hdirectory
        · exact hpath hp

theorem NullFree.baseName
    (h : document.NullFree) :
    '\x00' ∉ document.baseName := by
  intro hnull
  unfold Document.baseName at hnull
  split at hnull
  · rename_i p hpath
    have hp := Path.hasNull_of_stem hnull
    rw [h p hpath] at hp
    cases hp
  · revert hnull
    decide

theorem NullFree.directory
    (h : document.NullFree)
    (hsurroundings : surroundings.NullFree) :
    (document.directory surroundings).hasNull = false := by
  unfold Document.directory
  split
  · rename_i p hpath
    refine Bool.eq_false_iff.mpr fun hnull => ?_
    have hp := Path.hasNull_of_parent hnull
    rw [h p hpath] at hp
    cases hp
  · exact hsurroundings.directory

end Document

namespace Placement

variable {placement : Placement}

/-- No path that destinations start from holds a null character. -/
structure NullFree (placement : Placement) : Prop where
  /-- There is none in the surroundings. -/
  surroundings : placement.surroundings.NullFree
  /-- There is none in the directory of the document. -/
  directory : placement.directory.hasNull = false
  /-- There is none in the name of the document. -/
  baseName : '\x00' ∉ placement.baseName

/-- A null character in a destination stands in the value that it was made from. -/
theorem null_of_anchor
    {value : Text} {p : Path}
    (hplacement : placement.NullFree)
    (h : placement.anchor value = .file p)
    (hnull : p.hasNull = true) :
    '\x00' ∈ value := by
  unfold anchor at h
  split at h
  · rename_i q hexpand
    cases h
    rcases Path.hasNull_absolute hnull with hcurrent | hjoined
    · rw [hplacement.surroundings.directory] at hcurrent
      cases hcurrent
    · rcases Path.hasNull_append hjoined with hdirectory | hq
      · rw [hplacement.directory] at hdirectory
        cases hdirectory
      · rcases Surroundings.hasNull_expandHome hexpand hq with ⟨home, hmem, hhome⟩ | hvalue
        · rw [hplacement.surroundings.homes home hmem] at hhome
          cases hhome
        · exact Path.null_of_ofText hvalue
  · cases h

/-- A null character in a destination comes from the language of a block that asks for the file of its
language. -/
theorem null_of_destination
    {block : RenderedBlock} {p : Path}
    (hplacement : placement.NullFree)
    (hsuffixes : placement.suffixes = Language.suffixesWith Dictionary.empty)
    (hfallback : placement.fallback = none)
    (h : placement.destination block = .file p)
    (hnull : p.hasNull = true) :
    block.params.isYes "tangle" = true ∧ '\x00' ∈ block.language := by
  simp only [destination, hfallback] at h
  split at h
  · cases h
  · split at h
    · rename_i hyes
      split at h
      · cases h
      · have hvalue := null_of_anchor hplacement h hnull
        refine ⟨beq_iff_eq.mpr hyes, ?_⟩
        rw [hsuffixes] at hvalue
        rcases List.mem_append.mp hvalue with hfront | hsuffix
        · rcases List.mem_append.mp hfront with hname | hdot
          · exact absurd hname hplacement.baseName
          · simp at hdot
        · exact Language.null_of_suffixIn hsuffix
    · split at h
      · split at h
        · cases h
        · rename_i hmalformed
          -- a value with a null character is malformed
          have hvalue := null_of_anchor hplacement h hnull
          simp [isMalformed, hvalue] at hmalformed
      · cases h

/-- Without a default destination, a block is without a home because of its own value or of the name of the
document. -/
theorem lacksHome_of_destination
    {block : RenderedBlock} {cause : Path.HomeError}
    (hfallback : placement.fallback = none)
    (h : placement.destination block = .homeless cause) :
    placement.surroundings.LacksHome block.params.tangle cause ∨
      block.params.isYes "tangle" = true ∧
        placement.surroundings.LacksHome
          (placement.baseName ++ "." ++ Language.suffixIn placement.suffixes block.language) cause := by
  have hanchor : ∀ value, placement.anchor value = .homeless cause →
      placement.surroundings.LacksHome value cause := by
    intro value hvalue
    unfold anchor at hvalue
    split at hvalue
    · cases hvalue
    · rename_i fault hfault
      cases hvalue
      exact Surroundings.expandHome_eq_error_iff.mp hfault
  simp only [destination, hfallback] at h
  split at h
  · cases h
  · split at h
    · rename_i hyes
      split at h
      · cases h
      · exact Or.inr ⟨beq_iff_eq.mpr hyes, hanchor _ h⟩
    · split at h
      · split at h
        · cases h
        · exact Or.inl (hanchor _ h)
      · cases h

end Placement

namespace Grouping

/-- Grouping stops at a block whose home directory is unknown. -/
theorem exists_homeless
    {placement : Placement} {grouping : Grouping} {blocks : List RenderedBlock} {cause : Path.HomeError}
    (h : (ofBlocks placement grouping blocks).2 = some cause) :
    ∃ block ∈ blocks, placement.destination block = .homeless cause := by
  induction blocks generalizing grouping with
  | nil =>
      cases h
  | cons block rest ih =>
      rw [ofBlocks] at h
      split at h
      · obtain ⟨other, hother, hhomeless⟩ := ih h
        exact ⟨other, List.mem_cons_of_mem _ hother, hhomeless⟩
      · rename_i fault hadd
        cases h
        refine ⟨block, by simp, ?_⟩
        unfold add at hadd
        split at hadd
        · rename_i hdestination
          cases hadd
          exact hdestination
        · cases hadd
        · cases hadd
        · split at hadd
          · split at hadd <;> cases hadd
          · cases hadd

end Grouping

/-- What a run that comes to a summary owes to a block: an error is recorded, and what is to be written is
there. -/
def Fate.Met (summary : Summary) (world : World) : Fate → Prop
  | excluded => True
  | unplaced => True
  | unresolved error => error.message ∈ summary.errors
  | malformed error => error.message ∈ summary.errors
  | ambiguous error => error.message ∈ summary.errors
  | homeless _ => False
  | written target => target.path ∈ summary.produced ∧ world.files.IsFile target.path.parts

theorem Fate.eq_written
    {fate : Fate} {target : Target}
    (h : fate.target? = some target) :
    fate = .written target := by
  cases fate with
  | written other =>
      cases h
      rfl
  | _ =>
      cases h

namespace Tangler

/-- The ways in which a run on a document can end. -/
inductive Ends (document : Document) (accounts : List (Block × Fate)) (world : World) :
    Except Failure Summary → Prop
  /-- It comes to a summary, which does justice to every block. -/
  | summary {summary : Summary} (hscan : document.scanError = none)
      (hmet : ∀ account ∈ accounts, account.2.Met summary world) :
      Ends document accounts world (.ok summary)
  /-- The edited document cannot be saved. -/
  | unsaved {p : Path} (cause : Fault) (hmodified : document.isModified = true)
      (hpath : document.path = some p) :
      Ends document accounts world (.error (.document (.unsaved p ⟨cause, p⟩)))
  /-- The document cannot be read to its end. -/
  | unreadable {cause : DocumentError} (hscan : document.scanError = some cause) :
      Ends document accounts world (.error (.document cause))
  /-- The destination of a block cannot be written. -/
  | destination {block : Block} {target : Target} (cause : Fault)
      (hmem : (block, .written target) ∈ accounts) :
      Ends document accounts world (.error (.emit target.path cause))
  /-- The destination of a block begins with an unknown home directory. -/
  | home {block : Block} {cause : Path.HomeError} (hmem : (block, .homeless cause) ∈ accounts) :
      Ends document accounts world (.error (.home cause))
  /-- A block asks for the file of its language, which holds a null character. -/
  | null {block : Block} {target : Target} (hmem : (block, .written target) ∈ accounts)
      (hyes : block.params.isYes "tangle" = true) (hnull : '\x00' ∈ block.language) :
      Ends document accounts world (.error (.file ⟨.nullCharacter, target.path⟩))

/-- Standard settings have the standard templates. -/
theorem decoration_standard
    (root : Path) (comments : Option Bool) (registry : Registry) :
    (ofSettings { root := root } comments registry).decoration =
      .ok (.standard (comments.getD false) Dictionary.empty) :=
  Decoration.ofTexts_standard (comments.getD false) Dictionary.empty

section Accounts

variable {tangler : Tangler} {surroundings : Surroundings} {document : Document}
  {target language : Option Text}

theorem nullFree_placement
    (hsurroundings : surroundings.NullFree)
    (hdocument : document.NullFree) :
    (tangler.placement surroundings document target).NullFree :=
  ⟨hsurroundings, hdocument.directory hsurroundings, hdocument.baseName⟩

/-- A rendered block is accounted for by what becomes of it. -/
theorem mem_accounts_of_rendered
    {block : RenderedBlock} (surroundings : Surroundings) (target : Option Text)
    (h : block ∈ (Preparation.ofDocument tangler.registry document language).rendered) :
    (block.source, (tangler.placement surroundings document target).renderedFate
        (Preparation.ofDocument tangler.registry document language).rendered block) ∈
      tangler.accounts surroundings document target language := by
  have hgrows := Preparation.grows_ofDocument tangler.registry document language
  rw [hgrows.rendered, List.mem_append] at h
  obtain ⟨result, hresult, hrendered⟩ := List.mem_filterMap.mp (h.resolve_left List.not_mem_nil)
  refine List.mem_map.mpr ⟨result, hresult, ?_⟩
  unfold Result.rendered? at hrendered
  split at hrendered
  · rename_i body houtcome
    cases hrendered
    simp only [Placement.fate, houtcome]
  · cases hrendered

/-- Grouping stops at a block that is accounted for as one without a home. -/
theorem exists_homeless_account
    {cause : Path.HomeError}
    (h : (tangler.grouping surroundings document target language).2 = some cause) :
    ∃ block, (block, .homeless cause) ∈ tangler.accounts surroundings document target language := by
  obtain ⟨block, hblock, hhomeless⟩ := Grouping.exists_homeless h
  have hmem := mem_accounts_of_rendered surroundings target hblock
  simp only [Placement.renderedFate, hhomeless] at hmem
  exact ⟨_, hmem⟩

/-- Without a default destination, a block that is accounted for as one without a home has an unknown user in
its value or in the name of the document. -/
theorem lacksHome_of_account
    {block : Block} {cause : Path.HomeError}
    (h : (block, .homeless cause) ∈ tangler.accounts surroundings document none language) :
    surroundings.LacksHome block.params.tangle cause ∨
      block.params.isYes "tangle" = true ∧
        surroundings.LacksHome
          (document.baseName ++ "." ++
            Language.suffixIn (Language.suffixesWith tangler.settings.suffixes) block.language) cause := by
  obtain ⟨result, -, hresult⟩ := List.mem_map.mp h
  obtain ⟨rfl, hfate⟩ := Prod.mk.inj hresult
  obtain ⟨rendered, hrendered, hhomeless⟩ := Placement.fate_eq_homeless _ _ _ hfate
  have hsource : rendered.source = result.block := by
    unfold Result.rendered? at hrendered
    split at hrendered
    · cases hrendered
      rfl
    · cases hrendered
  rw [← hsource]
  exact Placement.lacksHome_of_destination rfl hhomeless

/-- A block that is written is accounted for as such, and goes where it asks to go. -/
theorem mem_accounts_of_target
    {t : Target}
    (hgrouped : (tangler.grouping surroundings document target language).2 = none)
    (h : t ∈ tangler.targets surroundings document target language) :
    (t.block.source, .written t) ∈ tangler.accounts surroundings document target language ∧
      (tangler.placement surroundings document target).destination t.block = .file t.path := by
  have haccepted := (Grouping.targets_perm (describes_grouping hgrouped)).mem_iff.mp h
  obtain ⟨block, hblock, hjudged⟩ := List.mem_filterMap.mp haccepted
  obtain ⟨hdestination, hsame, -⟩ := Placement.accepted?_eq_some hjudged
  have hmem := mem_accounts_of_rendered surroundings target hblock
  rw [Fate.eq_written ((Placement.readings_renderedFate _ _ block).1.trans hjudged), ← hsame] at hmem
  rw [← hsame] at hdestination
  exact ⟨hmem, hdestination⟩

/-- What becomes of blocks does not depend on whether the document has been edited. -/
theorem accounts_of_save
    {saved : Document} {world between : World}
    (h : (document.save : ExceptT Failure (StateM World) Document).run world = (.ok saved, between)) :
    tangler.accounts surroundings saved target language =
      tangler.accounts surroundings document target language := by
  rw [Document.save_eq_ok h]
  rfl

end Accounts

section Run

variable {tangler : Tangler} {document saved : Document} {language : Option Text}
  {world world' start between : World} {emitter : Emitter} {decoration : Decoration}

/-- What is wrong with a destination stands in the summary. -/
theorem mem_errors_of_account
    {target : Option Text} {surroundings : Surroundings} {account : Block × Fate} {error : PlacementError}
    (hgrouped : (tangler.grouping surroundings document target language).2 = none)
    (haccount : account ∈ tangler.accounts surroundings document target language)
    (herror : account.2.placementError? = some error) :
    error.message ∈ (tangler.summary surroundings document target language).errors := by
  have hmem : error ∈ (tangler.grouping surroundings document target language).1.errors := by
    rw [← filterMap_placementError?_accounts hgrouped]
    exact List.mem_filterMap.mpr ⟨account, haccount, herror⟩
  exact List.mem_append_right _ (List.mem_map_of_mem hmem)

/-- When all blocks have been written, the summary does justice to every block. -/
theorem met_of_emitAll
    {target : Option Text} {surroundings : Surroundings} (record : Record)
    (hdirectory : surroundings.directory.isAbsolute = true)
    (hstart : start.Consistent)
    (hgrouped : (tangler.grouping surroundings document target language).2 = none)
    (hrun : (({ decoration := decoration } : Emitter).emitAll
        (tangler.targets surroundings document target language) : StateM World _) start =
      ((emitter, .ok ()), between)) :
    ∀ account ∈ tangler.accounts surroundings document target language,
      account.2.Met (tangler.summary surroundings document target language)
        (between.addRecord record) := by
  rintro ⟨block, fate⟩ haccount
  cases fate with
  | excluded =>
      trivial
  | unplaced =>
      trivial
  | homeless cause =>
      exact accounts_ne_homeless hgrouped _ haccount cause rfl
  | unresolved error =>
      have herror : error ∈ (Preparation.ofDocument tangler.registry document language).errors := by
        rw [← filterMap_referenceError?_accounts tangler surroundings document target language]
        exact List.mem_filterMap.mpr ⟨_, haccount, rfl⟩
      exact List.mem_append_left _ (List.mem_map_of_mem herror)
  | malformed error =>
      exact mem_errors_of_account hgrouped haccount rfl
  | ambiguous error =>
      exact mem_errors_of_account hgrouped haccount rfl
  | written t =>
      have ht : t ∈ tangler.targets surroundings document target language :=
        (targets_perm_accounts hgrouped).mem_iff.mpr (List.mem_filterMap.mpr ⟨_, haccount, rfl⟩)
      have hproduced : (tangler.grouping surroundings document target language).1.paths =
          ((tangler.targets surroundings document target language).map Target.path).eraseDups :=
        Grouping.distinct_eq_eraseDups _
      have hsettles := Emitter.emitAll_settles (targets_isRooted hdirectory hgrouped)
        (Emitter.settles_nil decoration hstart) hrun
      obtain ⟨⟨text, mode, hfile⟩, hlog⟩ := hsettles.files t (List.mem_append_right _ ht)
      refine ⟨?_, _, _, _, (World.at?_addRecord record hlog).trans hfile⟩
      change t.path ∈ (tangler.grouping surroundings document target language).1.paths
      rw [hproduced]
      exact List.mem_eraseDups.mpr (List.mem_map_of_mem ht)

/-- A failure at a destination that holds a null character is that of a block whose language holds one. -/
theorem ends_of_blamed
    {surroundings : Surroundings} {failure : Failure} {t : Target}
    (hsurroundings : surroundings.NullFree)
    (hdocument : document.NullFree)
    (hsuffixes : tangler.settings.suffixes = Dictionary.empty)
    (hgrouped : (tangler.grouping surroundings document none language).2 = none)
    (ht : t ∈ tangler.targets surroundings document none language)
    (h : Emitter.Blamed t.path failure) :
    Ends document (tangler.accounts surroundings document none language) world (.error failure) := by
  obtain ⟨cause, rfl, hnull⟩ := h
  obtain ⟨hmem, hdestination⟩ := mem_accounts_of_target hgrouped ht
  unfold Emitter.failureAt
  split
  · rename_i hcause
    obtain ⟨hyes, hlanguage⟩ := Placement.null_of_destination
      (nullFree_placement hsurroundings hdocument) (congrArg Language.suffixesWith hsuffixes) rfl
      hdestination (hnull hcause)
    rw [hcause]
    exact .null hmem hyes hlanguage
  · exact .destination cause hmem

/-- A run on a saved document ends as one on the document before it was saved. -/
theorem Ends.of_save
    {accounts : List (Block × Fate)} {outcome : Except Failure Summary}
    (hsave : (document.save : ExceptT Failure (StateM World) Document).run world = (.ok saved, start))
    (h : Ends saved accounts world' outcome) :
    Ends document accounts world' outcome := by
  have hsame := Document.save_eq_ok hsave
  have hscans : saved.scanError = document.scanError := by
    rw [hsame]
    rfl
  cases h with
  | summary hscan hmet =>
      exact .summary (hscans.symm.trans hscan) hmet
  | unsaved cause hmodified hpath =>
      rw [hsame] at hpath
      exact .unsaved cause (Document.isModified_of_save hsave hmodified) hpath
  | unreadable hscan =>
      exact .unreadable (hscans.symm.trans hscan)
  | destination cause hmem =>
      exact .destination cause hmem
  | home hmem =>
      exact .home hmem
  | null hmem hyes hnull =>
      exact .null hmem hyes hnull

/-- After saving, a run with standard templates and suffixes ends in one of these ways. -/
theorem tangleSaved_ends
    {outcome : Except Failure Summary} {styles : Dictionary Text CommentStyle} {comments : Bool}
    (hworld : world.Consistent)
    (hdirectory : world.surroundings.directory.isAbsolute = true)
    (hsurroundings : world.surroundings.NullFree)
    (hdocument : document.NullFree)
    (hsuffixes : tangler.settings.suffixes = Dictionary.empty)
    (hdecoration : tangler.decoration = .ok (.standard comments styles))
    (h : (tangler.tangleSaved document none language : ExceptT Failure (StateM World) Summary).run world =
      (outcome, world')) :
    Ends document (tangler.accounts world.surroundings document none language) world' outcome := by
  rcases tangleSaved_cases h with ⟨records, failure, hstops, -, rfl⟩ |
    ⟨hscan, hgrouped, made, emitter, result, between, hmade, hrun, hend⟩
  · cases hstops with
    | scan hscan =>
        exact .unreadable hscan
    | home hhome =>
        obtain ⟨block, hmem⟩ := exists_homeless_account hhome
        exact .home hmem
    | template htemplate =>
        rw [hdecoration] at htemplate
        cases htemplate
  · rw [hdecoration] at hmade
    cases hmade
    have hreports := World.addRecords_rewrites
      (tangler.reports world.surroundings document none language) hworld
    rcases hend with ⟨failure, rfl, rfl, rfl⟩ | ⟨rfl, rfl, rfl⟩
    · obtain ⟨t, ht, hblamed⟩ := Emitter.emitAll_blamed (targets_isRooted hdirectory hgrouped)
        (Emitter.settles_nil _ hreports.consistent) (fun t _ => ⟨_, Decoration.render_standard _ _ _⟩) hrun
      exact ends_of_blamed hsurroundings hdocument hsuffixes hgrouped ht hblamed
    · exact .summary hscan (met_of_emitAll _ hdirectory hreports.consistent hgrouped hrun)

end Run

/-- **How a run ends.**  With standard settings and no other destination, a run on a document comes to a
summary in which every block that fails is recorded and every other one is written, or it fails because the
document cannot be saved or read or because a destination cannot be written.  Besides, one block can stop
it: one whose destination begins with an unknown home directory, which no run with a summary has, or one
that asks for the file of a language with a null character.  A home is unknown where the value of the block, or
the name of the document that the block asks for, begins with `~` and a name that none of the users has. -/
theorem tangle_ends
    (root : Path) (comments : Option Bool) (registry : Registry) (document : Document)
    (language : Option Text) (world : World) (saved : Document) (outcome : Except Failure Summary)
    (world' : World)
    (hworld : world.Consistent)
    (hdirectory : world.surroundings.directory.isAbsolute = true)
    (hsurroundings : world.surroundings.NullFree)
    (hplaced : document.IsPlaced)
    (hdocument : document.NullFree)
    (hrun : ((ofSettings { root := root } comments registry).tangle document none language :
      StateM World _).run world = ((saved, outcome), world')) :
    let accounts :=
      (ofSettings { root := root } comments registry).accounts world.surroundings document none language
    Ends document accounts world' outcome ∧
      ∀ block cause, (block, Fate.homeless cause) ∈ accounts →
        world.surroundings.LacksHome block.params.tangle cause ∨
          block.params.isYes "tangle" = true ∧
            world.surroundings.LacksHome
              (document.baseName ++ "." ++
                Language.suffixIn (Language.suffixesWith Dictionary.empty) block.language) cause := by
  intro accounts
  refine ⟨?_, fun block cause hmem => lacksHome_of_account hmem⟩
  rcases tangle_cases hrun with ⟨failure, hsave, -, rfl⟩ | ⟨start, hsave, hrest⟩
  · obtain ⟨p, cause, hmodified, hpath, hwrite, rfl⟩ := Document.save_eq_error hsave
    unfold Document.saveFailure
    split
    · rename_i hcause
      rw [hcause] at hwrite
      have hnull := World.blamesNull_writeText p document.text _ _ hwrite
      rw [hdocument p hpath] at hnull
      cases hnull
    · exact .unsaved cause hmodified hpath
  · have hsaving := Document.save_edits hplaced hworld hsave
    have hsaved := Document.save_eq_ok hsave
    rw [← hsaving.surroundings] at hdirectory hsurroundings
    have hnames : saved.NullFree := by
      rw [hsaved]
      exact hdocument
    have hends := tangleSaved_ends hsaving.consistent hdirectory hsurroundings hnames rfl
      (decoration_standard root comments registry) hrest
    rw [hsaving.surroundings, accounts_of_save hsave] at hends
    exact hends.of_save hsave

/-- Values that cannot be destinations are recorded, also one with a null character, and a file in the home
directory of a user is written. -/
theorem tangle_ends_malformed_values :
    let tangler : Tangler := ofSettings { root := ⟨.root, []⟩ } none Registry.standard
    let world : World :=
      { files := ⟨⟨[(["d"], .directory (.settled 0)), (["h"], .directory (.settled 0))]⟩⟩
        surroundings := { directory := ⟨.root, ["d"]⟩, home := ⟨.root, []⟩, users := [("u", ⟨.root, ["h"]⟩)] } }
    let text : Text :=
      "#+begin_src sh :tangle a\x00b\n#+end_src\n#+begin_src sh :tangle b/\n#+end_src\n" ++
        "#+begin_src sh :tangle ~u/c\ny\n#+end_src\n"
    let document : Document := { text := text, path := some ⟨.root, ["d", "n.org"]⟩ }
    Document.ofText world.surroundings text (some ⟨.relative, ["n.org"]⟩) = .ok document ∧
      world.Consistent ∧
      ∃ saved summary world',
        (tangler.tangle document none none : StateM World _).run world = ((saved, .ok summary), world') ∧
        ("Block 'block-1' has malformed :tangle value 'a\\x00b'" : Text) ∈ summary.errors ∧
        ("Block 'block-2' has malformed :tangle value 'b/'" : Text) ∈ summary.errors ∧
        ⟨.root, ["h", "c"]⟩ ∈ summary.produced ∧
        world'.files.IsFile ["h", "c"] := by
  intro tangler world text document
  have hworld : world.Consistent := World.consistent_of_all rfl (by decide +kernel)
  have hsurroundings : world.surroundings.NullFree := ⟨by decide, by decide⟩
  have hmade : Document.ofText world.surroundings text (some ⟨.relative, ["n.org"]⟩) = .ok document := rfl
  have hok : ((tangler.tangle document none none : StateM World _).run world).1.2.toBool = true := by
    decide +kernel
  obtain ⟨saved, summary, world', hrun⟩ := exists_eq_of_toBool hok
  obtain ⟨hends, -⟩ := tangle_ends ⟨.root, []⟩ none Registry.standard document none world saved (.ok summary)
    world' hworld rfl hsurroundings (Document.isPlaced_of_ofText hmade)
    (Document.nullFree_of_ofText hsurroundings hmade) hrun
  have hnull : ∃ account ∈ tangler.accounts world.surroundings document none none,
      account.2 = .malformed (.malformed "block-1" "tangle" "a\x00b") := by
    decide +kernel
  have hslash : ∃ account ∈ tangler.accounts world.surroundings document none none,
      account.2 = .malformed (.malformed "block-2" "tangle" "b/") := by
    decide +kernel
  have hhome : ∃ account ∈ tangler.accounts world.surroundings document none none,
      account.2.target?.map Target.path = some ⟨.root, ["h", "c"]⟩ := by
    decide +kernel
  obtain ⟨first, hfirst, hfirstFate⟩ := hnull
  obtain ⟨second, hsecond, hsecondFate⟩ := hslash
  obtain ⟨third, hthird, hthirdFate⟩ := hhome
  obtain ⟨target, htarget, hpath⟩ := Option.map_eq_some_iff.mp hthirdFate
  cases hends with
  | summary hscan hmet =>
      have hfirstMet := hmet first hfirst
      have hsecondMet := hmet second hsecond
      have hthirdMet := hmet third hthird
      rw [hfirstFate] at hfirstMet
      rw [hsecondFate] at hsecondMet
      rw [Fate.eq_written htarget] at hthirdMet
      simp only [Fate.Met, hpath] at hthirdMet
      exact ⟨hmade, hworld, saved, summary, world', hrun, hfirstMet, hsecondMet, hthirdMet⟩

/-- A block whose destination begins with the home directory of an unknown user keeps another block from
being written. -/
theorem tangle_unknown_home :
    let tangler : Tangler := ofSettings { root := ⟨.root, []⟩ } none Registry.standard
    let world : World :=
      { files := ⟨⟨[(["d"], .directory (.settled 0))]⟩⟩
        surroundings := { directory := ⟨.root, ["d"]⟩, home := ⟨.root, []⟩ } }
    let document : Document :=
      { text :=
          "#+begin_src sh :tangle ~nosuchuser_zz/x\nx\n#+end_src\n#+begin_src sh :tangle ok.sh\ny\n" ++
            "#+end_src\n" }
    let ended := (tangler.tangle document none none : StateM World _).run world
    ended.1.2 = .error (.home .unknownUser) ∧ ended.2.files.at? ["d", "ok.sh"] = none := by
  decide +kernel

-- the other block that stops a run: the null character only shows when the file is opened
example :
    let tangler : Tangler := ofSettings { root := ⟨.root, []⟩ } none Registry.standard
    let world : World :=
      { files := ⟨⟨[(["d"], .directory (.settled 0))]⟩⟩
        surroundings := { directory := ⟨.root, ["d"]⟩, home := ⟨.root, []⟩ } }
    let document : Document := { text := "#+begin_src a\x00b :tangle yes\n#+end_src\n" }
    ((tangler.tangle document none none : StateM World _).run world).1.2 =
      .error (.file ⟨.nullCharacter, ⟨.root, ["d", "untitled.a\x00b"]⟩⟩) := by
  decide +kernel

end Tangler

end Literate
