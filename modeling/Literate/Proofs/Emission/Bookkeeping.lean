import Literate.Proofs.Emission.Failures
import Literate.Proofs.Emission.Run
import Literate.Proofs.Tangle.Accounts

/-!
# The bookkeeping of an emitter

An emitter keeps a record of every destination: the language of the first block, whether a
first line has been put in, whether the file has been made executable, and the number of
blocks written.  A block that fails leaves traces in these records.  A destination is
noted as soon as it has been cleared, and its first line as soon as it is to be
written, so that a failure to write finds both already noted.

**Faults.**  Whatever the file system is like, writing fails before it begins exactly when
the fault is none that means absence: the look at the destination passes such faults on,
and takes the others for a file that is still to be made (`existing_eq_emit`,
`writeText_of_existing`).  Nothing fails after the text has been written
(`exists_setMode_of_writeText`).

**Histories.**  An emitter that has been used, each time in a world of its own, with or
without success, counts exactly the successes (`History.blockCountAt_eq`).

**Main statements.**
* `emit_eq_emit`: what a block that cannot be written leaves in the records.
* `emit_fault_leaves_traces`: the same of an emitter with a history.
* `emit_fault_forgets_shebang`: a first line that is lost.
-/

namespace Literate

namespace Emitter

section Faults

variable {emitter emitter' : Emitter} {file : OutputFile} {block : RenderedBlock} {chunk : Text}
  {world world' : World} {p q : Path} {cause : Fault}

theorem eq_of_failureAt
    {fault : Fault}
    (h : failureAt p fault = .emit q cause) :
    q = p ∧ cause = fault := by
  unfold failureAt at h
  split at h
  · cases h
  · cases h
    exact ⟨rfl, rfl⟩

/-- A destination that cannot be looked at or read has no fault that means absence, and is not found missing. -/
theorem existing_eq_emit
    (h : (existing p : ExceptT Failure (StateM World) Text).run world = (.error (.emit q cause), world')) :
    q = p ∧ cause.meansAbsent = false ∧
      (Host.pathExists p : StateM World _) world ≠ (.ok false, world) := by
  cases hentry : world.files.entry world.surroundings.directory p with
  | error fault =>
      have hexists := World.pathExists_of_error hentry
      rw [existing] at h
      cases habsent : fault.meansAbsent with
      | true =>
          rw [habsent] at hexists
          rw [World.run_bind_of_ok (attempt_of_ok hexists)] at h
          cases h
      | false =>
          rw [habsent] at hexists
          rcases attempt_bind_cases h with ⟨fault', hfault, hresult⟩ | ⟨found, between, hfound, -⟩
          · rw [hexists] at hfault
            cases hfault
            obtain ⟨rfl, rfl⟩ := eq_of_failureAt (Except.error.inj hresult).symm
            refine ⟨rfl, habsent, fun hmissing => ?_⟩
            rw [hexists] at hmissing
            cases hmissing
          · rw [hexists] at hfound
            cases hfound
  | ok entry =>
      have hexists := World.pathExists_of_ok hentry
      rw [existing, World.run_bind_of_ok (attempt_of_ok hexists)] at h
      simp only [if_true] at h
      rw [World.run_bind_of_ok (World.run_lift _ _)] at h
      cases hread : (Host.readText p : StateM World _) world with
      | mk result read =>
          rw [hread] at h
          cases result with
          | ok t =>
              cases h
          | error fault =>
              rcases World.readText_eq_error hread with ⟨fault', rfl, hfault⟩ | ⟨rfl, -⟩
              · obtain ⟨rfl, rfl⟩ := eq_of_failureAt (Except.error.inj (congrArg Prod.fst h))
                simp only [FileSystem.read, hentry, bind, Except.bind] at hfault
                split at hfault
                · cases hfault
                · cases hfault
                  refine ⟨rfl, rfl, fun hmissing => ?_⟩
                  rw [hexists] at hmissing
                  cases hmissing
              · cases h

/-- A text that cannot be written where the destination could be looked at has a fault that means absence. -/
theorem writeText_of_existing
    {old t : Text} {read : World}
    (hexisting : (existing p : ExceptT Failure (StateM World) Text).run world = (.ok old, read))
    (h : (Host.writeText p t : StateM World _) read = (.error cause, world')) :
    cause.meansAbsent = true := by
  obtain rfl := existing_state hexisting
  have hchange :
      World.change (fun files directory => files.write directory p (Text.encode t)) read =
        (.error cause, world') := h
  have hfailed : read.files.write read.surroundings.directory p (Text.encode t) = .error cause := by
    unfold World.change at hchange
    split at hchange
    · cases hchange
    · rename_i fault hfault
      cases hchange
      exact hfault
  cases hlocate : read.files.locate read.surroundings.directory p with
  | error fault =>
      -- the look at the destination has met the same fault, and has not passed it on
      have hentry : read.files.entry read.surroundings.directory p = .error fault := by
        simp [FileSystem.entry, hlocate, bind, Except.bind]
      have hsame : fault = cause := by
        simpa [FileSystem.write, hlocate, bind, Except.bind] using hfailed
      rcases attempt_bind_cases hexisting with ⟨fault', -, herror⟩ | ⟨found, between, hfound, -⟩
      · cases herror
      · rw [World.pathExists_of_error hentry] at hfound
        cases habsent : fault.meansAbsent with
        | true =>
            rwa [← hsame]
        | false =>
            rw [habsent] at hfound
            cases hfound
  | ok place =>
      exfalso
      by_cases hplace : read.files.IsDirectory place
      · obtain ⟨time, htime⟩ := hplace
        have hentry := FileSystem.entry_eq_ok hlocate htime
        rw [existing, World.run_bind_of_ok (attempt_of_ok (World.pathExists_of_ok hentry))] at hexisting
        simp only [if_true] at hexisting
        rw [World.run_bind_of_ok (World.run_lift _ _)] at hexisting
        have hread : read.files.read read.surroundings.directory p = .error .isDirectory := by
          simp [FileSystem.read, hentry, bind, Except.bind]
        rw [World.readText_of_error hread] at hexisting
        cases hexisting
      · obtain ⟨fs, hwritten⟩ := FileSystem.exists_write_eq_ok (Text.encode t) hlocate hplace
        rw [hwritten] at hfailed
        cases hfailed

/-- A chunk that cannot be written: either the destination could not be looked at, and nothing is noted, or
the file could not be made, and what was to be written is noted. -/
theorem write_eq_emit
    (h : (emitter.write p file block chunk : StateM World _) world =
      ((emitter', .error (.emit q cause)), world')) :
    q = p ∧
      (cause.meansAbsent = false ∧ emitter' = emitter ∧
          (Host.pathExists p : StateM World _) world ≠ (.ok false, world) ∨
        cause.meansAbsent = true ∧ emitter' = emitter.note p (file.begun block)) := by
  rcases write_cases h with ⟨failure, hexisting, hfailure, hsame⟩ | ⟨old, read, hexisting, hrest⟩
  · cases hfailure
    obtain ⟨rfl, hcause, hfound⟩ := existing_eq_emit hexisting
    exact ⟨rfl, Or.inl ⟨hcause, hsame, hfound⟩⟩
  · rcases hrest with ⟨fault, hwrite, hfailure, hnoted⟩ | ⟨written, hwrite, hrest⟩
    · obtain ⟨rfl, rfl⟩ := eq_of_failureAt (Except.error.inj hfailure).symm
      exact ⟨rfl, Or.inr ⟨writeText_of_existing hexisting hwrite, hnoted⟩⟩
    · obtain ⟨changed, hmode⟩ := World.exists_setMode_of_writeText executableMode hwrite
      split at hrest
      · rcases hrest with ⟨fault, hfailed, -⟩ | ⟨-, hok, -⟩
        · rw [hmode] at hfailed
          cases hfailed
        · cases hok
      · cases hrest.2.1

/-- Without directories to be made, a destination that has been cleared is found missing, and one that cannot
be cleared has no fault that means absence. -/
theorem clear_of_plain
    {result : Except Failure Unit}
    (hplain : block.params.makesDirectories = false)
    (h : (clear p block : ExceptT Failure (StateM World) Unit).run world = (result, world')) :
    (result = .ok () ∧ (Host.pathExists p : StateM World _) world' = (.ok false, world')) ∨
      ∃ fault, result = .error (failureAt p fault) ∧ fault.meansAbsent = false := by
  have habove : ∀ world : World,
      (makeAbove p block : ExceptT Failure (StateM World) Unit).run world = (.ok (), world) := by
    intro world
    unfold makeAbove
    rw [if_neg (by simp [hplain])]
    rfl
  rcases attempt_bind_cases h with ⟨fault, hexists, rfl⟩ | ⟨found, between, hexists, hrest⟩
  · refine Or.inr ⟨fault, rfl, ?_⟩
    cases hentry : world.files.entry world.surroundings.directory p with
    | ok entry =>
        rw [World.pathExists_of_ok hentry] at hexists
        cases hexists
    | error cause =>
        rw [World.pathExists_of_error hentry] at hexists
        cases habsent : cause.meansAbsent with
        | true =>
            rw [habsent] at hexists
            cases hexists
        | false =>
            rw [habsent] at hexists
            cases hexists
            exact habsent
  · obtain rfl := World.pathExists_state hexists
    cases found with
    | false =>
        have hdone : (makeAbove p block : ExceptT Failure (StateM World) Unit).run between =
            (result, world') := hrest
        rw [habove] at hdone
        cases hdone
        exact Or.inl ⟨rfl, hexists⟩
    | true =>
        rcases attempt_bind_cases hrest with ⟨fault, hremove, rfl⟩ | ⟨⟨⟩, removed, hremove, hrest⟩
        · refine Or.inr ⟨fault, rfl, ?_⟩
          cases hentry : between.files.entry between.surroundings.directory p with
          | error cause =>
              rw [World.pathExists_of_error hentry] at hexists
              split at hexists <;> cases hexists
          | ok entry =>
              rw [World.removeFile_of_entry hentry hremove]
              rfl
        · rw [World.run_bind_of_ok (World.run_lift _ _)] at hrest
          change (makeAbove p block : ExceptT Failure (StateM World) Unit).run
            (removed.addRecord (removalRecord p)) = (result, world') at hrest
          rw [habove] at hrest
          cases hrest
          exact Or.inl ⟨rfl, World.pathExists_of_removeFile _ hremove⟩

/-- What a block that cannot be written leaves in the records: nothing, when its destination could not be
cleared; the destination, when it could not be looked at afterwards; and what was to be written, when the file
could not be made. -/
theorem emit_eq_emit
    {target : Target}
    (h : (emitter.emit target : StateM World _) world = ((emitter', .error (.emit p cause)), world')) :
    p = target.path ∧
      (emitter.files.get? target.path = none ∧ emitter' = emitter ∧
          (target.block.params.makesDirectories = false → cause.meansAbsent = false) ∨
        cause.meansAbsent = false ∧ emitter' = (emitter.opened target).1 ∧
          (emitter.files.get? target.path = none → target.block.params.makesDirectories = true) ∨
        cause.meansAbsent = true ∧
          emitter' = (emitter.opened target).1.note target.path
            ((emitter.opened target).2.begun target.block)) := by
  rcases emit_cases h with ⟨failure, hopen, hfailure⟩ | ⟨opened, file, between, hopen, hrest⟩
  · cases hfailure
    rcases openFile_cases hopen with ⟨known, -, hok, -⟩ |
      ⟨hnew, ⟨failure, hclear, hfailure, hsame⟩ | ⟨-, hok, -⟩⟩
    · cases hok
    · cases hfailure
      obtain ⟨fault, hfault, -⟩ := clear_blamed hclear
      obtain ⟨rfl, rfl⟩ := eq_of_failureAt hfault.symm
      refine ⟨rfl, Or.inl ⟨hnew, hsame, fun hplain => ?_⟩⟩
      rcases clear_of_plain hplain hclear with ⟨hok, -⟩ | ⟨fault, hfailed, habsent⟩
      · cases hok
      · obtain ⟨-, rfl⟩ := eq_of_failureAt (Except.error.inj hfailed).symm
        exact habsent
    · cases hok
  · rcases hrest with ⟨fault, -, hfailure, -⟩ | ⟨text, -, ⟨failure, hwrite, hfailure⟩ | ⟨written, -, hok, -⟩⟩
    · cases hfailure
    · cases hfailure
      obtain ⟨rfl, hcases⟩ := write_eq_emit hwrite
      have hopened : emitter.opened target = (opened, file) ∧
          (emitter.files.get? target.path = none → target.block.params.makesDirectories = false →
            (Host.pathExists target.path : StateM World _) between = (.ok false, between)) := by
        unfold Emitter.opened
        rcases openFile_cases hopen with ⟨known, hknown, hok, rfl, rfl⟩ |
          ⟨hnew, ⟨failure, -, hok, -⟩ | ⟨hclear, hok, rfl⟩⟩
        · cases hok
          rw [hknown]
          exact ⟨rfl, fun hnone => by cases hnone⟩
        · cases hok
        · cases hok
          rw [hnew]
          refine ⟨rfl, fun _ hplain => ?_⟩
          rcases clear_of_plain hplain hclear with ⟨-, hmissing⟩ | ⟨fault, hfailed, -⟩
          · exact hmissing
          · cases hfailed
      obtain ⟨hpair, hmissing⟩ := hopened
      rw [hpair]
      rcases hcases with ⟨hcause, hsame, hfound⟩ | ⟨hcause, hnoted⟩
      · refine ⟨rfl, Or.inr (Or.inl ⟨hcause, hsame, fun hnew => ?_⟩)⟩
        by_contra hplain
        exact hfound (hmissing hnew (Bool.not_eq_true _ ▸ hplain))
      · exact ⟨rfl, Or.inr (Or.inr ⟨hcause, hnoted⟩)⟩
    · cases hok

end Faults

section Counting

variable {emitter emitter' : Emitter} {target : Target} {world world' : World}

/-- The number of blocks that an emitter counts at a path. -/
def blockCountAt (emitter : Emitter) (p : Path) : Nat :=
  ((emitter.files.get? p).map OutputFile.blockCount).getD 0

theorem blockCountAt_note
    (emitter : Emitter) (p q : Path) (file : OutputFile) :
    (emitter.note p file).blockCountAt q = if p = q then file.blockCount else emitter.blockCountAt q := by
  unfold blockCountAt
  rw [get?_note]
  split <;> rfl

/-- New knowledge that does not concern the number of blocks leaves the count. -/
theorem blockCountAt_note_of_eq
    {p : Path} {file : OutputFile}
    (h : file.blockCount = emitter.blockCountAt p) :
    (emitter.note p file).blockCountAt = emitter.blockCountAt := by
  funext q
  rw [blockCountAt_note]
  split
  · rename_i hq
    rw [h, hq]
  · rfl

/-- Opening a destination counts nothing. -/
theorem blockCountAt_openFile
    {opened : Emitter} {file : OutputFile} {between : World}
    (h : (emitter.openFile target : StateM World _) world = ((opened, .ok file), between)) :
    opened.blockCountAt = emitter.blockCountAt ∧ file.blockCount = emitter.blockCountAt target.path := by
  rcases openFile_cases h with ⟨known, hknown, hok, rfl, -⟩ | ⟨hnew, ⟨failure, -, hok, -⟩ | ⟨-, hok, rfl⟩⟩
  · cases hok
    refine ⟨rfl, ?_⟩
    rw [blockCountAt, hknown]
    rfl
  · cases hok
  · cases hok
    have hzero : emitter.blockCountAt target.path = 0 := by
      rw [blockCountAt, hnew]
      rfl
    exact ⟨blockCountAt_note_of_eq hzero.symm, hzero.symm⟩

/-- A block that is written is counted at its path. -/
theorem blockCountAt_of_ok
    {p : Path}
    (h : (emitter.emit target : StateM World _) world = ((emitter', .ok p), world'))
    (q : Path) :
    emitter'.blockCountAt q = emitter.blockCountAt q + if p = q then 1 else 0 := by
  obtain ⟨opened, file, between, text, written, hopen, -, hwrite, rfl, -⟩ := emit_eq_ok h
  obtain ⟨hopened, hfile⟩ := blockCountAt_openFile hopen
  rw [note_of_write hwrite, blockCountAt_note, hopened]
  split
  · rename_i hq
    rw [← hq, ← hfile]
    rfl
  · rfl

/-- A block that fails is not counted, whatever the failure. -/
theorem blockCountAt_of_error
    {failure : Failure}
    (h : (emitter.emit target : StateM World _) world = ((emitter', .error failure), world')) :
    emitter'.blockCountAt = emitter.blockCountAt := by
  rcases emit_cases h with ⟨failure', hopen, -⟩ | ⟨opened, file, between, hopen, hrest⟩
  · rcases openFile_cases hopen with ⟨known, -, hok, -⟩ | ⟨-, ⟨failure, -, -, rfl⟩ | ⟨-, hok, -⟩⟩
    · cases hok
    · rfl
    · cases hok
  · obtain ⟨hopened, hfile⟩ := blockCountAt_openFile hopen
    rcases hrest with ⟨cause, -, -, -, rfl⟩ | ⟨text, -, ⟨failure', hwrite, -⟩ | ⟨written, -, hok, -⟩⟩
    · exact hopened
    · have hbegun : (opened.note target.path (file.begun target.block)).blockCountAt =
          emitter.blockCountAt := by
        rw [← hopened]
        apply blockCountAt_note_of_eq
        rw [hopened, ← hfile]
        rfl
      rcases write_cases hwrite with ⟨failure, -, -, rfl⟩ |
        ⟨old, read, -, ⟨cause, -, -, rfl⟩ | ⟨written, -, hrest⟩⟩
      · exact hopened
      · exact hbegun
      · split at hrest
        · rcases hrest with ⟨cause, -, -, rfl⟩ | ⟨-, hok, -⟩
          · exact hbegun
          · cases hok
        · cases hrest.2.1
    · cases hok

/-- An emitter that has been used from the start on, each time in a world of its own, and the paths at which
it has succeeded. -/
inductive History (decoration : Decoration) : List Path → Emitter → Prop
  /-- A new emitter. -/
  | new : History decoration [] { decoration := decoration }
  /-- One more block is written. -/
  | written {done : List Path} {emitter emitter' : Emitter} {target : Target} {world world' : World} {p : Path}
      (before : History decoration done emitter)
      (hemit : (emitter.emit target : StateM World _) world = ((emitter', .ok p), world')) :
      History decoration (done ++ [p]) emitter'
  /-- One more block fails. -/
  | failed {done : List Path} {emitter emitter' : Emitter} {target : Target} {world world' : World}
      {failure : Failure}
      (before : History decoration done emitter)
      (hemit : (emitter.emit target : StateM World _) world = ((emitter', .error failure), world')) :
      History decoration done emitter'

/-- Every path has as many blocks as there were successes. -/
theorem History.blockCountAt_eq
    {decoration : Decoration} {done : List Path}
    (h : History decoration done emitter)
    (p : Path) :
    emitter.blockCountAt p = done.count p := by
  induction h with
  | new =>
      rfl
  | written before hemit ih =>
      rw [blockCountAt_of_ok hemit, ih, List.count_append, List.count_singleton]
      simp
  | failed before hemit ih =>
      rw [blockCountAt_of_error hemit, ih]

end Counting

section Traces

variable {decoration : Decoration} {done : List Path} {emitter emitter' : Emitter} {target : Target}
  {world world' : World} {p : Path} {cause : Fault} {file : OutputFile}

theorem begun_eq
    (file : OutputFile) (block : RenderedBlock) :
    file.begun block = { file with hasShebang := file.hasShebang || !block.params.shebang.isEmpty } := by
  unfold OutputFile.begun shebangFor
  cases file.hasShebang <;> cases block.params.shebang.isEmpty <;> rfl

/-- Knowledge that is not new changes nothing. -/
theorem note_of_get?
    (h : emitter.files.get? p = some file) :
    emitter.note p file = emitter :=
  congrArg (fun files => { emitter with files := files }) (Dictionary.insert_of_get? h)

/-- A mark of a first line changes nothing when it was there before, or when it is none. -/
theorem note_mark_eq_self_iff
    (mark : Bool)
    (h : emitter.files.get? p = some file) :
    emitter.note p { file with hasShebang := file.hasShebang || mark } = emitter ↔
      file.hasShebang = true ∨ mark = false := by
  constructor
  · intro hsame
    have hrecord : some { file with hasShebang := file.hasShebang || mark } = some file := by
      rw [← h, ← hsame, get?_note, if_pos rfl]
    have hmark : (file.hasShebang || mark) = file.hasShebang :=
      congrArg OutputFile.hasShebang (Option.some.inj hrecord)
    cases hfirst : file.hasShebang with
    | true =>
        exact Or.inl rfl
    | false =>
        rw [hfirst] at hmark
        exact Or.inr hmark
  · intro hcases
    have hmark : (file.hasShebang || mark) = file.hasShebang := by
      rcases hcases with hfirst | hnone
      · rw [hfirst, Bool.true_or]
      · rw [hnone, Bool.or_false]
    rw [hmark]
    exact note_of_get? h

/-- What a fault leaves in the record of a path that is known. -/
theorem emit_fault_known
    (h : (emitter.emit target : StateM World _) world = ((emitter', .error (.emit p cause)), world'))
    (hfile : emitter.files.get? p = some file) :
    emitter' = emitter.note p
      { file with
        hasShebang := file.hasShebang || (cause.meansAbsent && !target.block.params.shebang.isEmpty) } := by
  obtain ⟨rfl, hcases⟩ := emit_eq_emit h
  have hopened : emitter.opened target = (emitter, file) := by
    rw [opened, hfile]
  rw [hopened, hfile] at hcases
  rcases hcases with ⟨hnew, -, -⟩ | ⟨hcause, hsame, -⟩ | ⟨hcause, hnoted⟩
  · cases hnew
  · rw [hcause, Bool.false_and, Bool.or_false, hsame]
    exact (note_of_get? hfile).symm
  · rw [hcause, Bool.true_and, hnoted, begun_eq]

/-- What a fault leaves in the record of a path that is new. -/
theorem emit_fault_new
    (h : (emitter.emit target : StateM World _) world = ((emitter', .error (.emit p cause)), world'))
    (hnew : emitter.files.get? p = none) :
    (emitter' = emitter ∧ (target.block.params.makesDirectories = false → cause.meansAbsent = false)) ∨
      (target.block.params.makesDirectories = false → cause.meansAbsent = true) ∧
        emitter' = emitter.enter p
          { language := target.block.language
            hasShebang := cause.meansAbsent && !target.block.params.shebang.isEmpty } := by
  obtain ⟨rfl, hcases⟩ := emit_eq_emit h
  have hopened : emitter.opened target =
      (emitter.enter target.path { language := target.block.language },
        { language := target.block.language }) := by
    rw [opened, hnew]
  rw [hopened] at hcases
  rcases hcases with ⟨-, hsame, hplain⟩ | ⟨hcause, hsame, hmakes⟩ | ⟨hcause, hnoted⟩
  · exact Or.inl ⟨hsame, hplain⟩
  · refine Or.inr ⟨fun hplain => ?_, by rw [hcause, Bool.false_and, hsame]⟩
    rw [hmakes hnew] at hplain
    cases hplain
  · refine Or.inr ⟨fun _ => hcause, ?_⟩
    rw [hcause, Bool.true_and, hnoted, begun_eq]
    simp only [note, enter, Dictionary.insert_insert, Bool.false_or]

/-- A block that is tried again after its first line has been noted leaves its text without a first line, in
an executable file. -/
theorem emit_again
    {text : Text}
    (hfile : emitter.files.get? target.path =
      some { language := target.block.language, hasShebang := !target.block.params.shebang.isEmpty })
    (hpath : target.path.IsRooted)
    (hworld : world.Consistent)
    (hvacant : world.Vacant target.path)
    (hrender : emitter.decoration.render target.block = .ok text) :
    ∃ emitter' world', (emitter.emit target : StateM World _) world = ((emitter', .ok target.path), world') ∧
      world'.files.at? target.path.parts =
        some (.file (Text.encode text)
          (if target.block.params.shebang.isEmpty then FileSystem.newFileMode else executableMode)
          .present) := by
  have hfinds : emitter.Finds target world [] FileSystem.newFileMode := by
    unfold Finds
    rw [hfile]
    exact hvacant.reads
  obtain ⟨world', hemit, -, houtput⟩ := emit_of_finds hpath hworld (fun _ => hvacant.log) hvacant.reach
    hvacant.reads.not_isDirectory hrender hfinds
  refine ⟨_, world', hemit, houtput.trans ?_⟩
  rw [output, opened, hfile]
  cases hempty : target.block.params.shebang.isEmpty <;>
    simp [extend, shebangFor, extendedMode, pad, hempty]

/-- **A fault leaves traces.**  Let an emitter with any history fail to write a block.  It goes on counting
exactly the blocks that have been written, and only the record of the block's destination changes.  Of a
destination that was known only the mark of a first line may change: it is set when the block asks for a first
line and the file could not be made.  A destination that was new becomes known, with the same mark, unless it
could not be cleared; if the block asks for no directories this happens exactly when the file could not be
made.  Tried again where the file can be made, the block leaves its text without the first line. -/
theorem emit_fault_leaves_traces
    (hhistory : History decoration done emitter)
    (h : (emitter.emit target : StateM World _) world = ((emitter', .error (.emit p cause)), world')) :
    p = target.path ∧
      (∀ q, emitter'.blockCountAt q = done.count q) ∧
      (∀ q, q ≠ p → emitter'.files.get? q = emitter.files.get? q) ∧
      (∀ file, emitter.files.get? p = some file →
        emitter'.produced = emitter.produced ∧
        emitter'.files.get? p =
          some { file with
            hasShebang := file.hasShebang || (cause.meansAbsent && !target.block.params.shebang.isEmpty) } ∧
        (emitter' = emitter ↔
          file.hasShebang = true ∨ target.block.params.shebang = [] ∨ cause.meansAbsent = false)) ∧
      (emitter.files.get? p = none →
        (emitter' = emitter ∨
          emitter'.produced = emitter.produced ++ [p] ∧
          emitter'.files.get? p =
            some { language := target.block.language
                   hasShebang := cause.meansAbsent && !target.block.params.shebang.isEmpty }) ∧
        (target.block.params.makesDirectories = false → (emitter' = emitter ↔ cause.meansAbsent = false)) ∧
        (emitter' ≠ emitter → cause.meansAbsent = true → p.IsRooted →
          ∀ text later, emitter'.decoration.render target.block = .ok text → later.Consistent → later.Vacant p →
            ∃ last later', (emitter'.emit target : StateM World _) later = ((last, .ok p), later') ∧
              later'.files.at? p.parts =
                some (.file (Text.encode text)
                  (if target.block.params.shebang.isEmpty then FileSystem.newFileMode else executableMode)
                  .present))) := by
  obtain ⟨hp, -⟩ := emit_eq_emit h
  refine ⟨hp, (hhistory.failed h).blockCountAt_eq, ?_, ?_, ?_⟩
  · intro q hq
    cases hknown : emitter.files.get? p with
    | some file =>
        rw [emit_fault_known h hknown, get?_note, if_neg hq.symm]
    | none =>
        rcases emit_fault_new h hknown with ⟨hsame, -⟩ | ⟨-, hnoted⟩
        · rw [hsame]
        · rw [hnoted, get?_enter, if_neg hq.symm]
  · intro file hfile
    have hnoted := emit_fault_known h hfile
    have hrecord : emitter'.files.get? p =
        some { file with
          hasShebang := file.hasShebang || (cause.meansAbsent && !target.block.params.shebang.isEmpty) } := by
      rw [hnoted, get?_note, if_pos rfl]
    refine ⟨?_, hrecord, ?_⟩
    · rw [hnoted]
      rfl
    · have hmark : (cause.meansAbsent && !target.block.params.shebang.isEmpty) = false ↔
          target.block.params.shebang = [] ∨ cause.meansAbsent = false := by
        rw [Bool.and_eq_false_iff, or_comm]
        simp
      rw [hnoted, note_mark_eq_self_iff _ hfile, hmark]
  · intro hnew
    rcases emit_fault_new h hnew with ⟨hsame, hplain⟩ | ⟨hplain, hnoted⟩
    · exact ⟨Or.inl hsame, fun hno => ⟨fun _ => hplain hno, fun _ => hsame⟩,
        fun hchanged => absurd hsame hchanged⟩
    · have hrecord := congrArg (fun e : Emitter => e.files.get? p) hnoted
      simp only [get?_enter, if_true] at hrecord
      have hchanged : emitter' ≠ emitter := by
        intro hsame
        rw [hsame, hnew] at hrecord
        cases hrecord
      refine ⟨Or.inr ⟨?_, hrecord⟩, fun hno => ?_, fun _ hcause hrooted text later hrender hlater hvacant => ?_⟩
      · rw [hnoted]
        rfl
      · rw [hplain hno]
        exact iff_of_false hchanged Bool.noConfusion
      · rw [hcause, Bool.true_and] at hrecord
        subst hp
        exact emit_again hrecord hrooted hlater hvacant hrender

/-- A file that has been written gets the mark of a first line from a block that comes when its directory is
gone. -/
theorem emit_fault_leaves_traces_in_known_file :
    let decoration : Decoration := { opening := fun _ => .ok [], closing := fun _ => .ok [] }
    let p : Path := ⟨.root, ["d", "a"]⟩
    let surroundings : Surroundings := { directory := ⟨.root, []⟩, home := ⟨.root, []⟩ }
    let first : World := { files := ⟨⟨[(["d"], .directory (.settled 0))]⟩⟩, surroundings := surroundings }
    let second : World := { files := ⟨⟨[]⟩⟩, surroundings := surroundings }
    let target : Target := ⟨p, plainBlock "y" [("shebang", "#!/bin/sh")]⟩
    ∃ emitter emitter' : Emitter, ∃ world world',
      (({ decoration := decoration } : Emitter).emit ⟨p, plainBlock "x" []⟩ : StateM World _) first =
        ((emitter, .ok p), world) ∧
      (emitter.emit target : StateM World _) second = ((emitter', .error (.emit p .notFound)), world') ∧
      emitter' ≠ emitter ∧ emitter'.produced = emitter.produced ∧ emitter'.blockCountAt p = 1 := by
  intro decoration p surroundings first second target
  let used : Emitter :=
    { decoration := decoration, files := ⟨[(p, { language := [], blockCount := 1 })]⟩, produced := [p] }
  obtain ⟨world, hwritten⟩ : ∃ world,
      (({ decoration := decoration } : Emitter).emit ⟨p, plainBlock "x" []⟩ : StateM World _) first =
        ((used, .ok p), world) :=
    ⟨_, rfl⟩
  obtain ⟨emitter', world', hfailed⟩ : ∃ emitter' world',
      (used.emit target : StateM World _) second = ((emitter', .error (.emit p .notFound)), world') :=
    ⟨_, _, rfl⟩
  obtain ⟨-, hcounts, -, hknown, -⟩ := emit_fault_leaves_traces (History.new.written hwritten) hfailed
  obtain ⟨hproduced, -, hsame⟩ := hknown { language := [], blockCount := 1 } rfl
  refine ⟨_, emitter', world, world', hwritten, hfailed, ?_, hproduced, (hcounts p).trans (by decide)⟩
  rw [ne_eq, hsame]
  decide

/-- A block that asks for a first line comes when its directory is missing, and again when the directory is
there.  Nothing has been written the first time, but the path counts as produced; the second time the first
line is left out, which a new emitter puts in. -/
theorem emit_fault_forgets_shebang :
    let start : Emitter := { decoration := { opening := fun _ => .ok [], closing := fun _ => .ok [] } }
    let p : Path := ⟨.root, ["d", "a"]⟩
    let surroundings : Surroundings := { directory := ⟨.root, []⟩, home := ⟨.root, []⟩ }
    let world : World := { files := ⟨⟨[]⟩⟩, surroundings := surroundings }
    let later : World := { files := ⟨⟨[(["d"], .directory (.settled 0))]⟩⟩, surroundings := surroundings }
    let target : Target := ⟨p, plainBlock "x" [("shebang", "#!/bin/sh")]⟩
    (∃ emitter world' last later',
      (start.emit target : StateM World _) world = ((emitter, .error (.emit p .notFound)), world') ∧
      emitter.produced = [p] ∧ world'.files.at? p.parts = none ∧
      (emitter.emit target : StateM World _) later = ((last, .ok p), later') ∧
      later'.files.at? p.parts = some (.file (Text.encode "x\n") 0o755 .present)) ∧
      ∃ last later', (start.emit target : StateM World _) later = ((last, .ok p), later') ∧
        later'.files.at? p.parts = some (.file (Text.encode "#!/bin/sh\nx\n") 0o755 .present) := by
  intro start p surroundings world later target
  have hrender : start.decoration.render target.block = .ok ("x\n" : Text) := rfl
  have hrooted : p.IsRooted := ⟨rfl, by decide⟩
  have hlater : later.Consistent := World.consistent_of_all rfl (by decide +kernel)
  have hvacant : later.Vacant p := ⟨rfl, rfl, by simp [later]⟩
  obtain ⟨emitter, world', hfailed, hproduced, habsent, hnoted⟩ : ∃ emitter world',
      (start.emit target : StateM World _) world = ((emitter, .error (.emit p .notFound)), world') ∧
      emitter.produced = [p] ∧ world'.files.at? p.parts = none ∧
      emitter = start.enter p { language := [], hasShebang := true } :=
    ⟨_, _, rfl, rfl, rfl, rfl⟩
  have hrecord : emitter.files.get? target.path =
      some { language := target.block.language, hasShebang := !target.block.params.shebang.isEmpty } := by
    rw [hnoted]
    rfl
  have hrenderAgain : emitter.decoration.render target.block = .ok ("x\n" : Text) := by
    rw [hnoted]
    exact hrender
  have hfinds : start.Finds target later [] FileSystem.newFileMode := ⟨rfl, rfl⟩
  obtain ⟨last, later', hagain, hagainFile⟩ := emit_again hrecord hrooted hlater hvacant hrenderAgain
  obtain ⟨changed, hfirst, -, hfirstFile⟩ := emit_of_finds hrooted hlater (fun hknown => by cases hknown)
    hvacant.reach hvacant.reads.not_isDirectory hrender hfinds
  exact ⟨⟨emitter, world', last, later', hfailed, hproduced, habsent, hagain, hagainFile⟩,
    _, changed, hfirst, hfirstFile⟩

end Traces

end Emitter
end Literate
