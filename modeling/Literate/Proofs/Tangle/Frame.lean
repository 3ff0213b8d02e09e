import Literate.Proofs.Emission.Replay
import Literate.Proofs.Tangle.Run
import Literate.Proofs.Text.Lines

/-!
# What a run leaves alone

Whatever comes of a run, it changes no file but its destinations and the file of
an edited document, and removes no directory.  A run that fails at a destination
leaves the files as they were when the block before was finished.  Templates may
be read by any engine; the files have no links, and what fails is what
`Literate.FileSystem` lets fail.

**The document.**  The file of the document is not lost, and it holds the text of
the document unless it is a destination itself.  Nothing keeps a block from
naming the file that it stands in.

**Main statements.**
* `tangle_frame`: the files that a run may change, and where it stops.
* `tangle_keeps_document`: what becomes of the file of the document.
-/

namespace Literate
namespace Tangler

section Frame

/-- **Frame.**  Whatever the outcome, files other than the destinations and the file of an edited document
stay as they were, and directories stay.  When a destination cannot be written, the files are those after
saving the document and writing the blocks before. -/
theorem tangle_frame
    (tangler : Tangler) (document : Document) (target language : Option Text) (world : World)
    (hworld : world.Consistent)
    (hdirectory : world.surroundings.directory.isAbsolute = true)
    (hplaced : document.IsPlaced)
    (saved : Document) (outcome : Except Failure Summary) (world' : World)
    (hrun : (tangler.tangle document target language : StateM World _).run world =
      ((saved, outcome), world')) :
    (∀ place, world.logFile ≠ some place →
      (∀ p, document.path = some p → document.isModified = true → p.parts ≠ place) →
      (∀ t ∈ tangler.targets world.surroundings document target language, t.path.parts ≠ place) →
      ∀ content mode time, world'.files.at? place = some (.file content mode time) ↔
        world.files.at? place = some (.file content mode time)) ∧
    (∀ place, world.files.IsDirectory place → world'.files.IsDirectory place) ∧
    ∀ p cause, outcome = .error (.emit p cause) →
      ∃ start decoration finished failed rest emitter emitter' between,
        (document.save : ExceptT Failure (StateM World) Document).run world = (.ok saved, start) ∧
        tangler.decoration = .ok decoration ∧
        tangler.targets world.surroundings document target language = finished ++ failed :: rest ∧
        (({ decoration := decoration } : Emitter).emitAll finished : StateM World _).run
          (start.addRecords (tangler.reports world.surroundings document target language)) =
            ((emitter, .ok ()), between) ∧
        (emitter.emit failed : StateM World _).run between =
          ((emitter', .error (.emit p cause)), world') ∧
        ∀ place, between.logFile ≠ some place →
          ∀ content mode time, world'.files.at? place = some (.file content mode time) ↔
            between.files.at? place = some (.file content mode time) := by
  have hedits := tangle_edits hplaced hworld hdirectory hrun
  refine ⟨?_, fun place hplace => hedits.isDirectory hplace, ?_⟩
  · intro place hlog hdocument htargets
    refine hedits.at?_eq_iff ?_ hlog
    rintro (⟨hmodified, p, hpath, hparts⟩ | ⟨t, ht, hparts⟩)
    · exact hdocument p hpath hmodified hparts
    · exact htargets t ht hparts
  · rintro p cause rfl
    obtain ⟨start, decoration, finished, failed, rest, emitter, emitter', between, hsave, hdecoration,
      hsplit, -, hfinished, hfailed, hlast⟩ := tangle_eq_emit hplaced hworld hdirectory hrun
    exact ⟨start, decoration, finished, failed, rest, emitter, emitter', between, hsave, hdecoration,
      hsplit, hfinished, hfailed, fun place hlog => hlast.at?_eq_iff not_false hlog⟩

/-- The second of two blocks goes to a directory that is missing.  The first has been written by then, and a
file that no block names is kept. -/
theorem tangle_frame_missing_directory :
    let tangler : Tangler := ofSettings { root := ⟨.root, []⟩ } none Registry.standard
    let document : Document :=
      { text := "#+begin_src sh :tangle a\nx\n#+end_src\n#+begin_src sh :tangle c/b\ny\n#+end_src\n"
        path := some ⟨.root, ["d", "n.org"]⟩ }
    let kept : Entry := .file (Text.encode "kept") 0o600 (.settled 0)
    let files : FileSystem :=
      ⟨⟨[(["d"], .directory (.settled 0)), (["d", "a"], .file (Text.encode "old") 0o644 (.settled 0)),
        (["d", "k"], kept)]⟩⟩
    let world : World := { files := files, surroundings := { directory := ⟨.root, []⟩, home := ⟨.root, []⟩ } }
    world.Consistent ∧ document.IsPlaced ∧
      ∃ saved world',
        (tangler.tangle document none none : StateM World _).run world =
          ((saved, .error (.emit ⟨.root, ["d", "c", "b"]⟩ .notFound)), world') ∧
        world'.files.at? ["d", "k"] = some kept ∧
        world'.files.IsDirectory ["d"] ∧
        ∃ start decoration finished failed rest emitter between,
          tangler.targets world.surroundings document none none = finished ++ failed :: rest ∧
          (({ decoration := decoration } : Emitter).emitAll finished : StateM World _).run
            (World.addRecords start (tangler.reports world.surroundings document none none)) =
              ((emitter, .ok ()), between) ∧
          ∀ place, between.logFile ≠ some place →
            ∀ content mode time, world'.files.at? place = some (.file content mode time) ↔
              between.files.at? place = some (.file content mode time) := by
  intro tangler document kept files world
  have hworld : world.Consistent := World.consistent_of_all rfl (by decide +kernel)
  have hplaced : document.IsPlaced := by
    rintro p ⟨⟩
    exact ⟨rfl, by decide⟩
  have hfailed :
      (match ((tangler.tangle document none none : StateM World _).run world).1.2 with
        | .error failure => some failure
        | .ok _ => none) = some (.emit ⟨.root, ["d", "c", "b"]⟩ .notFound) := by
    decide +kernel
  have hkept : ∀ t ∈ tangler.targets world.surroundings document none none, t.path.parts ≠ ["d", "k"] := by
    decide +kernel
  obtain ⟨saved, world', hrun⟩ : ∃ saved world',
      (tangler.tangle document none none : StateM World _).run world =
        ((saved, .error (.emit ⟨.root, ["d", "c", "b"]⟩ .notFound)), world') := by
    generalize (tangler.tangle document none none : StateM World _).run world = ended at hfailed
    obtain ⟨⟨saved, outcome⟩, world'⟩ := ended
    cases outcome with
    | ok summary =>
        cases hfailed
    | error failure =>
        cases hfailed
        exact ⟨saved, world', rfl⟩
  obtain ⟨hfiles, hdirectories, hstopped⟩ :=
    tangle_frame tangler document none none world hworld rfl hplaced saved _ world' hrun
  obtain ⟨start, decoration, finished, failed, rest, emitter, emitter', between, -, -, hsplit, hfinished, -,
    hsame⟩ := hstopped _ _ rfl
  refine ⟨hworld, hplaced, saved, world', hrun, ?_, hdirectories ["d"] ⟨.settled 0, rfl⟩,
    start, decoration, finished, failed, rest, emitter, between, hsplit, hfinished, hsame⟩
  exact (hfiles ["d", "k"] (by simp [world]) (fun p _ hmodified => by cases hmodified) hkept _ _ _).mpr rfl

end Frame

section Document

variable {tangler : Tangler} {document saved : Document} {target language : Option Text}
  {world world' : World} {p : Path}

/-- A document that has been saved is read back from its file. -/
theorem readText_of_save
    (hpath : document.path = some p)
    (hp : p.IsNormal)
    (hworld : world.Consistent)
    (hlog : world.logFile ≠ some p.parts)
    (hreturn : '\r' ∉ document.text)
    (hbacked : document.isModified = false →
      (Host.readText p : StateM World _) world = (.ok document.text, world))
    (h : (document.save : ExceptT Failure (StateM World) Document).run world = (.ok saved, world')) :
    (Host.readText p : StateM World _) world' = (.ok document.text, world') := by
  rcases Document.save_cases h with ⟨p, cause, -, -, herror, -⟩ | ⟨hclean, -, rfl⟩ | ⟨hnone, -⟩ |
    ⟨q, written, record, -, hq, -, hwrite, rfl⟩
  · cases herror
  · exact hbacked hclean
  · rw [hpath] at hnone
    cases hnone
  · rw [hpath] at hq
    cases hq
    obtain ⟨hrewrites, hlogFile, hreach, hresult⟩ := World.writeText_eq_ok hp.isRooted hworld hwrite
    have hread : (Host.readText p : StateM World _) written = (.ok document.text, written) := by
      have hreach' := hreach.edits hp.isRooted hrewrites.toEdits
      rw [← Text.unifyLineEnds_eq_self hreturn]
      rcases hresult with ⟨old, mode, time, -, hfile⟩ | ⟨-, hfile⟩
      · exact World.readText_of_file hreach' hfile (Text.decode?_encode _)
      · exact World.readText_of_file hreach' hfile (Text.decode?_encode _)
    have hrecord := World.addRecord_rewrites record hrewrites.consistent
    rw [← hlogFile] at hlog
    exact World.readText_edits hp.isRooted hrecord.toEdits not_false hlog hread

/-- A run that succeeds or fails at a destination has saved the document and written some of the blocks,
and has changed no file since. -/
theorem exists_emitAll_of_tangle
    {outcome : Except Failure Summary}
    (hplaced : document.IsPlaced)
    (hworld : world.Consistent)
    (hdirectory : world.surroundings.directory.isAbsolute = true)
    (h : (tangler.tangle document target language : StateM World _) world = ((saved, outcome), world'))
    (houtcome : (∃ summary, outcome = .ok summary) ∨ ∃ q cause, outcome = .error (.emit q cause)) :
    ∃ start records decoration finished emitter between,
      (document.save : ExceptT Failure (StateM World) Document).run world = (.ok saved, start) ∧
      (∀ t ∈ finished, t.path.IsRooted ∧
        t ∈ tangler.targets world.surroundings document target language) ∧
      (({ decoration := decoration } : Emitter).emitAll finished : StateM World _)
        (start.addRecords records) = ((emitter, .ok ()), between) ∧
      World.Edits (fun _ => False) between world' := by
  rcases houtcome with ⟨summary, rfl⟩ | ⟨q, cause, rfl⟩
  · obtain ⟨start, decoration, emitter, between, hsave, -, hgrouped, -, hrun, -, rfl⟩ := tangle_eq_ok h
    have hsaving := Document.save_edits hplaced hworld hsave
    rw [hsaving.surroundings] at hgrouped hrun
    have hpaths := targets_isRooted hdirectory hgrouped
    have hstart := World.addRecords_rewrites
      (tangler.reports world.surroundings saved target language) hsaving.consistent
    have hwriting := Emitter.emitAll_edits hpaths hstart.consistent hrun
    refine ⟨start, _, decoration, _, emitter, between, hsave, fun t ht => ⟨hpaths t ht, ?_⟩, hrun,
      (World.addRecord_rewrites _ hwriting.consistent).toEdits⟩
    rwa [← (targets_of_save tangler world.surroundings target language hsave).1]
  · obtain ⟨start, decoration, finished, failed, rest, emitter, emitter', between, hsave, -, hsplit,
      hpaths, hfinished, -, hlast⟩ := tangle_eq_emit hplaced hworld hdirectory h
    refine ⟨start, _, decoration, finished, emitter, between, hsave, fun t ht => ⟨hpaths t ht, ?_⟩,
      hfinished, hlast⟩
    rw [hsplit]
    exact List.mem_append_left _ ht

/-- **The file of the document.**  After a run that succeeds or fails at a destination the file of the
document is still there, and unless it is a destination it is read back as the text of the document. -/
theorem tangle_keeps_document
    (tangler : Tangler) (document : Document) (target language : Option Text) (world : World) (p : Path)
    (hworld : world.Consistent)
    (hdirectory : world.surroundings.directory.isAbsolute = true)
    (hpath : document.path = some p)
    (hp : p.IsNormal)
    (hlog : world.logFile ≠ some p.parts)
    (hreturn : '\r' ∉ document.text)
    (hbacked : document.isModified = false →
      (Host.readText p : StateM World _).run world = (.ok document.text, world))
    (saved : Document) (outcome : Except Failure Summary) (world' : World)
    (hrun : (tangler.tangle document target language : StateM World _).run world =
      ((saved, outcome), world'))
    (houtcome : (∃ summary, outcome = .ok summary) ∨ ∃ q cause, outcome = .error (.emit q cause)) :
    world'.files.IsFile p.parts ∧
      ((∀ t ∈ tangler.targets world.surroundings document target language, t.path.parts ≠ p.parts) →
        (Host.readText p : StateM World _).run world' = (.ok document.text, world')) := by
  have hplaced : document.IsPlaced := by
    intro q hq
    rw [hpath] at hq
    cases hq
    exact hp
  obtain ⟨start, records, decoration, finished, emitter, between, hsave, hfinished, hwriting, hlast⟩ :=
    exists_emitAll_of_tangle hplaced hworld hdirectory hrun houtcome
  have hsaving := Document.save_edits hplaced hworld hsave
  have hreports := World.addRecords_rewrites records hsaving.consistent
  have hpaths : ∀ t ∈ finished, t.path.IsRooted := fun t ht => (hfinished t ht).1
  have hedits := Emitter.emitAll_edits hpaths hreports.consistent hwriting
  -- no record goes into the file of the document at any time
  have hlogStart : start.logFile ≠ some p.parts := hsaving.log_ne hlog
  have hlogReports : (start.addRecords records).logFile ≠ some p.parts :=
    hreports.log_ne hlogStart
  have hlogBetween : between.logFile ≠ some p.parts := hedits.log_ne hlogReports
  have hread := World.readText_edits hp.isRooted hreports.toEdits not_false hlogStart
    (readText_of_save hpath hp hworld hlog hreturn hbacked hsave)
  constructor
  · obtain ⟨-, content, mode, time, u, hfile, -⟩ := World.readText_eq_ok hp.isRooted hread
    exact (hlast.isFile_iff not_false hlogBetween).mpr
      (Emitter.emitAll_isFile hpaths hreports.consistent hwriting hlogReports ⟨content, mode, time, hfile⟩)
  · intro htargets
    refine World.readText_edits hp.isRooted hlast not_false hlogBetween
      (World.readText_edits hp.isRooted hedits ?_ hlogReports hread)
    rintro ⟨t, ht, hparts⟩
    exact htargets t (hfinished t ht).2 hparts

/-- A document that has been edited is in its file after the run. -/
theorem tangle_keeps_document_edited :
    let tangler : Tangler := ofSettings { root := ⟨.root, []⟩ } none Registry.standard
    let p : Path := ⟨.root, ["d", "n.org"]⟩
    let document : Document :=
      { text := "#+begin_src sh :tangle a\nx\n#+end_src\n", path := some p, isModified := true }
    let files : FileSystem :=
      ⟨⟨[(["d"], .directory (.settled 0)), (["d", "n.org"], .file (Text.encode "old") 0o644 (.settled 0))]⟩⟩
    let world : World := { files := files, surroundings := { directory := ⟨.root, []⟩, home := ⟨.root, []⟩ } }
    world.Consistent ∧ p.IsNormal ∧ '\r' ∉ document.text ∧
      (∀ t ∈ tangler.targets world.surroundings document none none, t.path.parts ≠ p.parts) ∧
      ∃ saved summary world',
        (tangler.tangle document none none : StateM World _).run world = ((saved, .ok summary), world') ∧
        world'.files.IsFile p.parts ∧
        (Host.readText p : StateM World _).run world' = (.ok document.text, world') := by
  intro tangler p document files world
  have hworld : world.Consistent := World.consistent_of_all rfl (by decide +kernel)
  have hp : p.IsNormal := ⟨rfl, by decide⟩
  have hreturn : '\r' ∉ document.text := by
    decide
  have hother : ∀ t ∈ tangler.targets world.surroundings document none none, t.path.parts ≠ p.parts := by
    decide +kernel
  have hok : ((tangler.tangle document none none : StateM World _).run world).1.2.toBool = true := by
    decide +kernel
  obtain ⟨saved, summary, world', hrun⟩ := exists_eq_of_toBool hok
  obtain ⟨hfile, hread⟩ := tangle_keeps_document tangler document none none world p hworld rfl rfl hp
    (by simp [world]) hreturn (fun hclean => by cases hclean) saved _ world' hrun (Or.inl ⟨summary, rfl⟩)
  exact ⟨hworld, hp, hreturn, hother, saved, summary, world', hrun, hfile, hread hother⟩

/-- A block that names the file it stands in: the file holds the block afterwards, and the document is lost. -/
theorem tangle_overwrites_document :
    let tangler : Tangler := ofSettings { root := ⟨.root, []⟩ } none Registry.standard
    let p : Path := ⟨.root, ["d", "notes.org"]⟩
    let document : Document :=
      { text := "#+begin_src sh :tangle notes.org\nx\n#+end_src\n", path := some p }
    let files : FileSystem :=
      ⟨⟨[(["d"], .directory (.settled 0)),
        (["d", "notes.org"], .file (Text.encode document.text) 0o644 (.settled 0))]⟩⟩
    let world : World := { files := files, surroundings := { directory := ⟨.root, []⟩, home := ⟨.root, []⟩ } }
    world.Consistent ∧ p.IsNormal ∧ '\r' ∉ document.text ∧
      (Host.readText p : StateM World _).run world = (.ok document.text, world) ∧
      ∃ saved summary world',
        (tangler.tangle document none none : StateM World _).run world = ((saved, .ok summary), world') ∧
        (Host.readText p : StateM World _).run world' = (.ok "x\n", world') ∧
        document.text ≠ "x\n" := by
  intro tangler p document files world
  have hworld : world.Consistent := World.consistent_of_all rfl (by decide +kernel)
  have hp : p.IsNormal := ⟨rfl, by decide⟩
  have hok : ((tangler.tangle document none none : StateM World _).run world).1.2.toBool = true := by
    decide +kernel
  have hentry : ((tangler.tangle document none none : StateM World _).run world).2.files.at? p.parts =
      some (.file (Text.encode "x\n") 0o644 .present) := by
    decide +kernel
  have hreturn : '\r' ∉ document.text := by
    decide
  have hreach : world.Reaches p := (rfl : world.files.locate world.surroundings.directory p = .ok p.parts)
  have hread : (Host.readText p : StateM World _).run world = (.ok document.text, world) := by
    rw [← Text.unifyLineEnds_eq_self hreturn]
    exact World.readText_of_file hreach rfl (Text.decode?_encode _)
  obtain ⟨saved, summary, world', hrun⟩ := exists_eq_of_toBool hok
  rw [hrun] at hentry
  have hedits := tangle_edits (by rintro q ⟨⟩; exact hp) hworld rfl hrun
  exact ⟨hworld, hp, hreturn, hread, saved, summary, world', hrun,
    World.readText_of_file (hreach.edits hp.isRooted hedits) hentry (Text.decode?_encode _), by decide⟩

end Document

end Tangler
end Literate
