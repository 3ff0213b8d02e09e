import Literate.Cleaning.File
import Literate.Proofs.Cleaning.Markers
import Literate.Proofs.Host

/-!
# Cleaning a file

A file is read with unified line ends, so that a line that is kept may get another
end: where it ended with a carriage return, alone or before a line feed, it ends with
a line feed afterwards.  Which lines are markers does not depend on their ends
(`isMarker_unifyLineEnds`), and a file without marker lines is not written at all.

**Main statements.**
* `clean_unifyLineEnds`, `markerCount_unifyLineEnds`: cleaning what was read.
* `cleanFile_keeps_lines`: what cleaning makes of a file, and when every line that is
  kept is kept with its end.
* `cleanFile_changes_ends`: cleaning changes the end of a line that is kept.
-/

namespace Literate
namespace Cleaning

section Ends

variable {t : Text}

theorem isMarker_unifyLineEnds
    {line : Text}
    (h : line ∈ Text.linesWithEnds t) :
    isMarker (Text.unifyLineEnds line) = isMarker line := by
  have hunified : Text.unifyLineEnds line ∈ Text.linesWithEnds (Text.unifyLineEnds t) := by
    rw [Text.linesWithEnds_unifyLineEnds]
    exact List.mem_map_of_mem h
  rw [isMarker_withoutEnd hunified, Text.withoutEnd_unifyLineEnds, ← isMarker_withoutEnd h]

/-- The lines that are kept of a text as it was read. -/
theorem clean_unifyLineEnds
    (t : Text) :
    clean (Text.unifyLineEnds t) =
      ((Text.linesWithEnds t).filter fun line => !isMarker line).flatMap Text.unifyLineEnds := by
  have hkept : ∀ line ∈ Text.linesWithEnds t,
      ((fun line => !isMarker line) ∘ Text.unifyLineEnds) line = !isMarker line := by
    intro line hline
    rw [Function.comp_apply, isMarker_unifyLineEnds hline]
  rw [clean, Text.linesWithEnds_unifyLineEnds, List.filter_map, List.filter_congr hkept,
    List.flatMap_def]

theorem markerCount_unifyLineEnds
    (t : Text) :
    markerCount (Text.unifyLineEnds t) = markerCount t := by
  have hdropped : ∀ line ∈ Text.linesWithEnds t,
      (isMarker ∘ Text.unifyLineEnds) line = isMarker line :=
    fun _ hline => isMarker_unifyLineEnds hline
  rw [markerCount, Text.linesWithEnds_unifyLineEnds, List.filter_map, List.filter_congr hdropped,
    List.length_map]
  rfl

/-- The lines that are kept are read as they stand just when none of them has a carriage return. -/
theorem clean_unifyLineEnds_eq_iff
    (t : Text) :
    clean (Text.unifyLineEnds t) = clean t ↔ '\r' ∉ clean t := by
  constructor
  · intro h hreturn
    rw [← h, clean_unifyLineEnds, List.mem_flatMap] at hreturn
    obtain ⟨line, -, hline⟩ := hreturn
    exact Text.return_notMem_unifyLineEnds line hline
  · intro h
    have hsame : ∀ line ∈ (Text.linesWithEnds t).filter fun line => !isMarker line,
        Text.unifyLineEnds line = line := by
      intro line hline
      apply Text.unifyLineEnds_eq_self
      intro hreturn
      exact h (List.mem_flatten_of_mem hline hreturn)
    rw [clean_unifyLineEnds, List.flatMap_def, List.map_congr_left hsame, List.map_id']
    rfl

end Ends

section Files

variable {world : World} {p : Path} {place : Place} {content : ByteArray} {mode : Nat} {time : Stamp}
  {t : Text}

/-- The record that a cleaning makes. -/
def report (removed : Nat) (p : Path) : Record :=
  ⟨.info, .cleaning, "Removed " ++ Text.ofNat removed ++ " marker line(s) from " ++ p.toText⟩

/-- A file without marker lines is not written. -/
theorem cleanFile_of_unmarked
    (hlocate : world.files.locate world.surroundings.directory p = .ok place)
    (hfile : world.files.at? place = some (.file content mode time))
    (hdecode : Text.decode? content = some t)
    (hnone : markerCount t = 0) :
    (cleanFile p : ExceptT Failure (StateM World) Nat).run world =
      (.ok (markerCount t), world.addRecord (report (markerCount t) p)) := by
  have hread := World.readText_of_file hlocate hfile hdecode
  have hcount : markerCount (Text.unifyLineEnds t) = 0 := by
    rw [markerCount_unifyLineEnds, hnone]
  unfold cleanFile
  rw [World.run_bind_of_ok (World.run_lift _ _), hread]
  dsimp only
  rw [if_neg (not_not.mpr hcount), hnone, hcount]
  rfl

/-- Any other file is written. -/
theorem cleanFile_of_marked
    (hlocate : world.files.locate world.surroundings.directory p = .ok place)
    (hfile : world.files.at? place = some (.file content mode time))
    (hdecode : Text.decode? content = some t)
    (hsome : markerCount t ≠ 0) :
    (cleanFile p : ExceptT Failure (StateM World) Nat).run world =
      (.ok (markerCount t),
        World.addRecord
          { world with
            files := world.files.put place
              (.file (Text.encode (clean (Text.unifyLineEnds t))) mode .present) }
          (report (markerCount t) p)) := by
  have hread := World.readText_of_file hlocate hfile hdecode
  have hwrite := World.writeText_of_file (clean (Text.unifyLineEnds t)) hlocate hfile
  unfold cleanFile
  rw [World.run_bind_of_ok (World.run_lift _ _), hread]
  dsimp only
  rw [markerCount_unifyLineEnds, if_pos hsome,
    World.run_bind_of_ok (World.run_lift _ _), hwrite]
  rfl

/-- Cleaning a file drops its marker lines and tells their number.  A file without marker lines stays
as it is, with its time; of any other file the lines are kept that are no markers, with unified ends, and they
are kept byte for byte just when none of them has a carriage return.  No other file changes but the log
file. -/
theorem cleanFile_keeps_lines
    (hlocate : world.files.locate world.surroundings.directory p = .ok place)
    (hfile : world.files.at? place = some (.file content mode time))
    (hdecode : Text.decode? content = some t)
    (hlog : world.logFile ≠ some place) :
    ∃ world' content' time',
      (cleanFile p : ExceptT Failure (StateM World) Nat).run world = (.ok (markerCount t), world') ∧
      content = Text.encode t ∧
      world'.files.at? place = some (.file content' mode time') ∧
      (markerCount t = 0 → content' = content ∧ time' = time) ∧
      (markerCount t ≠ 0 →
        content' = Text.encode
          (((Text.linesWithEnds t).filter fun line => !isMarker line).flatMap Text.unifyLineEnds) ∧
          time' = .present) ∧
      (content' = Text.encode (clean t) ↔ markerCount t = 0 ∨ '\r' ∉ clean t) ∧
      ∀ other, other ≠ place → world.logFile ≠ some other →
        world'.files.at? other = world.files.at? other := by
  have hcontent := (Text.encode_of_decode? hdecode).symm
  by_cases hcount : markerCount t = 0
  · have hrun := cleanFile_of_unmarked hlocate hfile hdecode hcount
    refine ⟨_, content, time, hrun, hcontent, ?_, fun _ => ⟨rfl, rfl⟩, fun h => absurd hcount h, ?_,
      fun other _ hother => World.at?_addRecord _ hother⟩
    · rw [World.at?_addRecord _ hlog, hfile]
    · simp [hcount, hcontent, clean_of_markerCount hcount]
  · have hrun := cleanFile_of_marked hlocate hfile hdecode hcount
    have hne : place ≠ [] := FileSystem.IsFile.ne_nil ⟨content, mode, time, hfile⟩
    refine ⟨_, Text.encode (clean (Text.unifyLineEnds t)), .present, hrun, hcontent, ?_,
      fun h => absurd h hcount, fun _ => ⟨by rw [clean_unifyLineEnds], rfl⟩, ?_, fun other hother hlog' => ?_⟩
    · rw [World.at?_addRecord, FileSystem.at?_put _ _ _ hne, if_pos rfl]
      exact hlog
    · rw [or_iff_right hcount, ← clean_unifyLineEnds_eq_iff]
      exact ⟨Text.encode_injective, congrArg Text.encode⟩
    · rw [World.at?_addRecord, FileSystem.at?_put _ _ _ hne, if_neg (Ne.symm hother)]
      exact hlog'

/-- The lines are kept with line feeds, whatever way leads to the file; a form feed ends a line too. -/
theorem cleanFile_keeps_lines_mixed_ends :
    let t : Text := "a\r<<x>>\n\x0c[[file:b]]\r\nc"
    let files : FileSystem :=
      ⟨⟨[(["d"], .directory (.settled 0)), (["a"], .file (Text.encode t) 0o600 (.settled 0))]⟩⟩
    let world : World := { files := files, surroundings := { directory := ⟨.root, ["d"]⟩, home := ⟨.root, []⟩ } }
    let p : Path := Path.ofText "../a"
    markerCount t = 2 ∧
      ∃ world', (cleanFile p : ExceptT Failure (StateM World) Nat).run world = (.ok 2, world') ∧
        world'.files.at? ["a"] = some (.file (Text.encode "a\n\x0cc") 0o600 .present) ∧
        world'.files.at? ["d"] = some (.directory (.settled 0)) := by
  intro t files world p
  have hcount : markerCount t = 2 := by
    decide +kernel
  have hkept : ((Text.linesWithEnds t).filter fun line => !isMarker line).flatMap Text.unifyLineEnds =
      ("a\n\x0cc" : Text) := by
    decide +kernel
  have hlocate : world.files.locate world.surroundings.directory p = .ok ["a"] := by
    decide +kernel
  have hold : world.files.at? ["a"] = some (.file (Text.encode t) 0o600 (.settled 0)) := by
    rfl
  obtain ⟨world', content', time', hrun, -, hfile, -, hwritten, -, hothers⟩ :=
    cleanFile_keeps_lines hlocate hold (Text.decode?_encode t) nofun
  rw [hcount] at hrun
  obtain ⟨hcontent, rfl⟩ := hwritten (by rw [hcount]; decide)
  rw [hkept] at hcontent
  refine ⟨hcount, world', hrun, ?_, hothers ["d"] (by decide) nofun⟩
  rw [hfile, hcontent]

/-- Lines that end with a carriage return and a line feed are kept, and lose the carriage return. -/
theorem cleanFile_changes_ends :
    let t : Text := "a\r\n<<x>>\r\nb\r\n"
    let files : FileSystem := ⟨⟨[(["a"], .file (Text.encode t) 0o644 (.settled 0))]⟩⟩
    let world : World := { files := files, surroundings := { directory := ⟨.root, []⟩, home := ⟨.root, []⟩ } }
    clean t = "a\r\nb\r\n" ∧
      ∃ world',
        (cleanFile ⟨.root, ["a"]⟩ : ExceptT Failure (StateM World) Nat).run world = (.ok 1, world') ∧
        world'.files.at? ["a"] = some (.file (Text.encode "a\nb\n") 0o644 .present) := by
  intro t files world
  have hcount : markerCount t = 1 := by
    decide +kernel
  have hread : clean (Text.unifyLineEnds t) = ("a\nb\n" : Text) := by
    decide +kernel
  have hlocate : world.files.locate world.surroundings.directory ⟨.root, ["a"]⟩ = .ok ["a"] := by
    decide +kernel
  have hold : world.files.at? ["a"] = some (.file (Text.encode t) 0o644 (.settled 0)) := by
    rfl
  have hrun := cleanFile_of_marked hlocate hold (Text.decode?_encode t) (by rw [hcount]; decide)
  rw [hcount, hread] at hrun
  refine ⟨by decide +kernel, _, hrun, ?_⟩
  rw [World.at?_addRecord]
  · rfl
  · nofun

end Files

end Cleaning
end Literate
