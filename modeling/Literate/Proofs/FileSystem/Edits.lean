import Literate.FileSystem.Basic
import Literate.Proofs.Dictionary
import Literate.Proofs.Path
import Mathlib.Data.List.Induction

/-!
# What operations on files leave alone

A file system is a tree: whatever is there stands in a directory.  Every
operation on a rooted path changes at most the file at that path; besides, it
makes new directories and marks old ones as changed.

**Relations.**  `Edits touched fs fs'` says what a run of operations may have
done to `fs` when the only files concerned are at the places `touched`.  It is
reflexive and transitive, so that it passes from single operations to runs.

**Main statements.**
* `Edits.isTree`: a tree stays a tree.
* `locate_eq_ok`: a rooted path leads to the place of its components, in an
  existing directory.
* `read_eq_ok`, `write_eq_ok`, `remove_eq_ok`, `setMode_eq_ok`,
  `makeDirectory_eq_ok`: what each operation does when it succeeds.
-/

namespace Literate

namespace FileSystem

section Entries

theorem lookup_filter_ne
    {κ ν : Type} [DecidableEq κ] [BEq κ] [LawfulBEq κ]
    (k k' : κ) (entries : List (κ × ν)) :
    Dictionary.lookup k' (entries.filter fun entry => entry.1 != k) =
      if k = k' then none else Dictionary.lookup k' entries := by
  induction entries with
  | nil =>
      simp [Dictionary.lookup]
  | cons entry rest ih =>
      obtain ⟨key, value⟩ := entry
      by_cases hsame : key = k
      · by_cases hkey : k = k'
        · simpa [hsame, hkey] using ih
        · simpa [hsame, hkey, Dictionary.lookup] using ih
      · rw [List.filter_cons_of_pos (by simpa using hsame), Dictionary.lookup, ih]
        by_cases hkey : key = k'
        · have hother : ¬ k = k' := fun heq => hsame (hkey.trans heq.symm)
          simp [hkey, hother, Dictionary.lookup]
        · simp [hkey, Dictionary.lookup]

theorem at?_put
    (fs : FileSystem) {place : Place} (entry : Entry) (other : Place)
    (h : place ≠ []) :
    (fs.put place entry).at? other = if place = other then some entry else fs.at? other := by
  cases other with
  | nil =>
      simp [at?, h]
  | cons name rest =>
      simp [at?, put, Dictionary.get?_insert]

theorem at?_erase
    (fs : FileSystem) {place : Place} (other : Place)
    (h : place ≠ []) :
    (fs.erase place).at? other = if place = other then none else fs.at? other := by
  cases other with
  | nil =>
      simp [at?, h]
  | cons name rest =>
      simp [at?, erase, Dictionary.get?, lookup_filter_ne]

theorem at?_touchDirectory
    (fs : FileSystem) (place other : Place) :
    (fs.touchDirectory place).at? other =
      if place = other then some (.directory .present) else fs.at? other := by
  unfold touchDirectory
  by_cases hroot : place = []
  · subst hroot
    cases other <;> simp [at?]
  · rw [if_neg (by simpa using hroot), at?_put _ _ _ hroot]

/-- Whether a directory is at a place. -/
def IsDirectory (fs : FileSystem) (place : Place) : Prop :=
  ∃ time, fs.at? place = some (.directory time)

/-- Whether a file is at a place. -/
def IsFile (fs : FileSystem) (place : Place) : Prop :=
  ∃ content mode time, fs.at? place = some (.file content mode time)

theorem isDirectory_nil
    (fs : FileSystem) :
    fs.IsDirectory [] :=
  ⟨.present, rfl⟩

theorem IsFile.ne_nil
    {fs : FileSystem} {place : Place}
    (h : fs.IsFile place) :
    place ≠ [] := by
  rintro rfl
  obtain ⟨content, mode, time, hfile⟩ := h
  cases hfile

theorem IsFile.not_isDirectory
    {fs : FileSystem} {place : Place}
    (h : fs.IsFile place) :
    ¬ fs.IsDirectory place := by
  rintro ⟨time, hdirectory⟩
  obtain ⟨content, mode, time', hfile⟩ := h
  rw [hdirectory] at hfile
  cases hfile

/-- Whatever is there stands in a directory. -/
def IsTree (fs : FileSystem) : Prop :=
  ∀ place, place ≠ [] → (fs.at? place).isSome → fs.IsDirectory place.dropLast

/-- A file system is a tree when every entry stands in a directory. -/
theorem isTree_of_all
    {fs : FileSystem}
    (h : (fs.entries.entries.all fun entry => (fs.at? entry.1.dropLast).any Entry.isDirectory) = true) :
    fs.IsTree := by
  intro place hne hsome
  have hkey : place ∈ fs.entries.keys := by
    by_contra hmissing
    rw [at?, if_neg (by simpa using hne), Dictionary.get?_eq_none_iff.mpr hmissing] at hsome
    cases hsome
  obtain ⟨entry, hmem, rfl⟩ := List.mem_map.mp hkey
  obtain ⟨above, habove, hdirectory⟩ := Option.any_eq_true _ _ |>.mp (List.all_eq_true.mp h entry hmem)
  cases above with
  | file content mode time =>
      cases hdirectory
  | directory time =>
      exact ⟨time, habove⟩

end Entries

/-- What operations may have done when the only files concerned are at the places `touched`. -/
structure Edits (touched : Place → Prop) (fs fs' : FileSystem) : Prop where
  /-- A directory stays a directory. -/
  directories : ∀ place, fs.IsDirectory place → fs'.IsDirectory place
  /-- What is new stands in a directory. -/
  rooted : ∀ place, place ≠ [] → (fs'.at? place).isSome →
    (fs.at? place).isSome ∨ fs'.IsDirectory place.dropLast
  /-- Files elsewhere are as they were. -/
  files : ∀ place, ¬ touched place → ∀ content mode time,
    fs'.at? place = some (.file content mode time) ↔ fs.at? place = some (.file content mode time)

namespace Edits

variable {touched : Place → Prop} {fs fs' fs'' : FileSystem} {place : Place}

theorem refl
    (fs : FileSystem) :
    Edits touched fs fs :=
  ⟨fun _ h => h, fun _ _ h => Or.inl h, fun _ _ _ _ _ => Iff.rfl⟩

theorem trans
    (h : Edits touched fs fs')
    (h' : Edits touched fs' fs'') :
    Edits touched fs fs'' := by
  refine ⟨fun place hplace => h'.directories _ (h.directories _ hplace), ?_, ?_⟩
  · intro place hne hsome
    rcases h'.rooted place hne hsome with hold | hnew
    · rcases h.rooted place hne hold with holder | hparent
      · exact Or.inl holder
      · exact Or.inr (h'.directories _ hparent)
    · exact Or.inr hnew
  · intro place hplace content mode time
    rw [h'.files place hplace, h.files place hplace]

theorem mono
    {touched' : Place → Prop}
    (h : Edits touched fs fs')
    (hmono : ∀ place, touched place → touched' place) :
    Edits touched' fs fs' :=
  ⟨h.directories, h.rooted, fun place hplace => h.files place fun hold => hplace (hmono place hold)⟩

/-- A tree stays a tree. -/
theorem isTree
    (h : Edits touched fs fs')
    (htree : fs.IsTree) :
    fs'.IsTree := by
  intro place hne hsome
  rcases h.rooted place hne hsome with hold | hparent
  · exact h.directories _ (htree place hne hold)
  · exact hparent

theorem isFile_iff
    (h : Edits touched fs fs')
    (hplace : ¬ touched place) :
    fs'.IsFile place ↔ fs.IsFile place := by
  simp only [IsFile, h.files place hplace]

/-- Marking a directory as changed. -/
theorem touchDirectory
    (h : fs.IsDirectory place) :
    Edits touched fs (fs.touchDirectory place) := by
  obtain ⟨time, htime⟩ := h
  refine ⟨?_, ?_, ?_⟩
  · rintro other ⟨time', hother⟩
    by_cases hsame : place = other
    · exact ⟨.present, by rw [at?_touchDirectory, if_pos hsame]⟩
    · exact ⟨time', by rw [at?_touchDirectory, if_neg hsame, hother]⟩
  · intro other hne hsome
    by_cases hsame : place = other
    · exact Or.inl (by simp [← hsame, htime])
    · rw [at?_touchDirectory, if_neg hsame] at hsome
      exact Or.inl hsome
  · intro other hother content mode time'
    by_cases hsame : place = other
    · subst hsame
      simp [at?_touchDirectory, htime]
    · rw [at?_touchDirectory, if_neg hsame]

/-- Putting something into a directory where no directory is. -/
theorem put
    {entry : Entry}
    (hne : place ≠ [])
    (hparent : fs.IsDirectory place.dropLast)
    (hplace : ¬ fs.IsDirectory place)
    (htouched : touched place ∨ ¬ fs.IsFile place ∧ entry.isDirectory = true) :
    Edits touched fs (fs.put place entry) := by
  have hkeep : ∀ other, fs.IsDirectory other → (fs.put place entry).IsDirectory other := by
    rintro other hother
    have hsame : place ≠ other := by
      rintro rfl
      exact hplace hother
    obtain ⟨time, htime⟩ := hother
    exact ⟨time, by rw [at?_put _ _ _ hne, if_neg hsame, htime]⟩
  refine ⟨hkeep, ?_, ?_⟩
  · intro other hother hsome
    by_cases hsame : place = other
    · exact Or.inr (hsame ▸ hkeep _ hparent)
    · rw [at?_put _ _ _ hne, if_neg hsame] at hsome
      exact Or.inl hsome
  · intro other hother content mode time
    by_cases hsame : place = other
    · subst hsame
      obtain ⟨hfile, hentry⟩ := htouched.resolve_left hother
      rw [at?_put _ _ _ hne, if_pos rfl]
      constructor
      · rintro ⟨⟩
        cases hentry
      · intro hold
        exact absurd ⟨content, mode, time, hold⟩ hfile
    · rw [at?_put _ _ _ hne, if_neg hsame]

/-- Removing a file. -/
theorem erase
    (h : fs.IsFile place)
    (htouched : touched place) :
    Edits touched fs (fs.erase place) := by
  have hne := h.ne_nil
  refine ⟨?_, ?_, ?_⟩
  · rintro other hother
    have hsame : place ≠ other := by
      rintro rfl
      exact h.not_isDirectory hother
    obtain ⟨time, htime⟩ := hother
    exact ⟨time, by rw [at?_erase _ _ hne, if_neg hsame, htime]⟩
  · intro other hother hsome
    by_cases hsame : place = other
    · rw [at?_erase _ _ hne, if_pos hsame] at hsome
      cases hsome
    · rw [at?_erase _ _ hne, if_neg hsame] at hsome
      exact Or.inl hsome
  · intro other hother content mode time
    have hsame : place ≠ other := by
      rintro rfl
      exact hother htouched
    rw [at?_erase _ _ hne, if_neg hsame]

end Edits

section Walking

/-- A walk down ends at the place of the names, and the last step leaves a directory. -/
theorem walk_eq_ok
    {fs : FileSystem} {base place : Place} {parts : List Text}
    (hdown : Path.up ∉ parts)
    (h : fs.walk base parts = .ok place) :
    place = base ++ parts ∧ (parts ≠ [] → fs.IsDirectory (base ++ parts).dropLast) := by
  induction parts generalizing base with
  | nil =>
      cases h
      simp
  | cons part rest ih =>
      simp only [List.mem_cons, not_or] at hdown
      rw [walk] at h
      split at h
      · cases h
      · cases h
      · rename_i time hbase
        rw [if_neg (Ne.symm hdown.1)] at h
        split at h
        · cases h
        · obtain ⟨hplace, hparent⟩ := ih hdown.2 h
          refine ⟨by simpa using hplace, fun _ => ?_⟩
          by_cases hrest : rest = []
          · subst hrest
            exact ⟨time, by simpa using hbase⟩
          · simpa using hparent hrest

theorem append_eq_self
    (directory : Path) {p : Path}
    (hp : p.IsRooted) :
    directory.append p = p := by
  simp [Path.append, hp.absolute]

/-- A rooted path leads to the place of its components, in an existing directory. -/
theorem locate_eq_ok
    {fs : FileSystem} {directory p : Path} {place : Place}
    (hp : p.IsRooted)
    (h : fs.locate directory p = .ok place) :
    place = p.parts ∧ p.hasNull = false ∧ fs.IsDirectory p.parts.dropLast := by
  rw [locate, append_eq_self directory hp] at h
  split at h
  · cases h
  · rename_i hnull
    obtain ⟨hplace, hparent⟩ := walk_eq_ok hp.down h
    refine ⟨by simpa using hplace, by simpa using hnull, ?_⟩
    by_cases hparts : p.parts = []
    · rw [hparts]
      exact fs.isDirectory_nil
    · simpa using hparent hparts

/-- An operation at a rooted path that succeeds works at the place of its components. -/
theorem locate_bind_eq_ok
    {α : Type} {fs : FileSystem} {directory p : Path} {operation : Place → Except Fault α} {a : α}
    (hp : p.IsRooted)
    (h : (fs.locate directory p >>= operation) = .ok a) :
    operation p.parts = .ok a ∧ fs.locate directory p = .ok p.parts ∧
      fs.IsDirectory p.parts.dropLast := by
  cases hlocate : fs.locate directory p with
  | error cause =>
      rw [hlocate] at h
      cases h
  | ok place =>
      rw [hlocate] at h
      obtain ⟨rfl, -, hparent⟩ := locate_eq_ok hp hlocate
      exact ⟨h, rfl, hparent⟩

/-- In a tree, directories lead to everything that is there. -/
theorem isDirectory_of_isTree
    {fs : FileSystem} {base : Place} {part : Text} {rest : List Text}
    (htree : fs.IsTree)
    (h : (fs.at? (base ++ part :: rest)).isSome) :
    fs.IsDirectory base := by
  induction rest using List.reverseRecOn with
  | nil =>
      simpa using htree _ (by simp) h
  | append_singleton rest last ih =>
      have hparent : fs.IsDirectory (base ++ part :: rest) := by
        have hdropLast := htree _ (by simp) h
        rwa [← List.cons_append, ← List.append_assoc, List.dropLast_concat] at hdropLast
      obtain ⟨time, htime⟩ := hparent
      exact ih (by rw [htime]; rfl)

/-- In a tree, the walk to something that is there fails only for the length of a name. -/
theorem walk_of_isTree
    {fs : FileSystem} (base : Place) {parts : List Text}
    (htree : fs.IsTree)
    (hdown : Path.up ∉ parts)
    (h : (fs.at? (base ++ parts)).isSome) :
    fs.walk base parts = .ok (base ++ parts) ∨ fs.walk base parts = .error .nameTooLong := by
  induction parts generalizing base with
  | nil =>
      simp [walk]
  | cons part rest ih =>
      simp only [List.mem_cons, not_or] at hdown
      obtain ⟨time, hbase⟩ := isDirectory_of_isTree htree h
      simp only [walk, hbase, if_neg (Ne.symm hdown.1)]
      split
      · exact Or.inr rfl
      · have hrest := ih (base ++ [part]) hdown.2 (by simpa using h)
        simpa using hrest

end Walking

section Operations

variable {fs fs' : FileSystem} {directory p : Path} {place : Place}

theorem ne_nil_of_at?_eq_none
    (h : fs.at? place = none) :
    place ≠ [] := by
  rintro rfl
  cases h

theorem at?_touchDirectory_dropLast
    (hne : place ≠ []) :
    (fs.touchDirectory place.dropLast).at? place = fs.at? place := by
  have hother : place.dropLast ≠ place := by
    intro hsame
    have hlength := congrArg List.length hsame
    have hpos := List.length_pos_iff.mpr hne
    rw [List.length_dropLast] at hlength
    omega
  rw [at?_touchDirectory, if_neg hother]

/-- Making something new in a directory. -/
theorem Edits.create
    {touched : Place → Prop} {entry : Entry}
    (hparent : fs.IsDirectory place.dropLast)
    (hnone : fs.at? place = none)
    (htouched : touched place ∨ entry.isDirectory = true) :
    Edits touched fs ((fs.touchDirectory place.dropLast).put place entry) := by
  have hne := ne_nil_of_at?_eq_none hnone
  have htouch : Edits touched fs (fs.touchDirectory place.dropLast) :=
    Edits.touchDirectory hparent
  have habsent : (fs.touchDirectory place.dropLast).at? place = none := by
    rw [at?_touchDirectory_dropLast hne, hnone]
  refine htouch.trans (Edits.put hne (htouch.directories _ hparent) ?_ ?_)
  · rintro ⟨time, htime⟩
    rw [habsent] at htime
    cases htime
  · refine htouched.imp_right fun hentry => ⟨?_, hentry⟩
    rintro ⟨content, mode, time, hfile⟩
    rw [habsent] at hfile
    cases hfile

/-- What is read is the content of a file. -/
theorem read_eq_ok
    {content : ByteArray}
    (hp : p.IsRooted)
    (h : fs.read directory p = .ok content) :
    fs.locate directory p = .ok p.parts ∧
      ∃ mode time, fs.at? p.parts = some (.file content mode time) := by
  rw [read, entry, bind_assoc] at h
  obtain ⟨h, hlocate, -⟩ := locate_bind_eq_ok hp h
  cases hentry : fs.at? p.parts with
  | none =>
      rw [hentry] at h
      cases h
  | some found =>
      rw [hentry] at h
      cases found with
      | file content' mode time =>
          cases h
          exact ⟨hlocate, mode, time, rfl⟩
      | directory time =>
          cases h

/-- What writing does: an old file keeps its mode, a new one gets the mode of new files. -/
theorem write_eq_ok
    {content : ByteArray}
    (hp : p.IsRooted)
    (h : fs.write directory p content = .ok fs') :
    Edits (· = p.parts) fs fs' ∧ fs.locate directory p = .ok p.parts ∧
      ((∃ old mode time, fs.at? p.parts = some (.file old mode time) ∧
          fs'.at? p.parts = some (.file content mode .present)) ∨
        (fs.at? p.parts = none ∧
          fs'.at? p.parts = some (.file content newFileMode .present))) := by
  obtain ⟨h, hlocate, hparent⟩ := locate_bind_eq_ok hp h
  split at h
  · rename_i old mode time hfile
    cases h
    have hisFile : fs.IsFile p.parts := ⟨old, mode, time, hfile⟩
    refine ⟨Edits.put hisFile.ne_nil hparent hisFile.not_isDirectory (Or.inl rfl), hlocate,
      Or.inl ⟨old, mode, time, hfile, ?_⟩⟩
    rw [at?_put _ _ _ hisFile.ne_nil, if_pos rfl]
  · cases h
  · rename_i hnone
    cases h
    refine ⟨Edits.create hparent hnone (Or.inl rfl), hlocate, Or.inr ⟨hnone, ?_⟩⟩
    rw [at?_put _ _ _ (ne_nil_of_at?_eq_none hnone), if_pos rfl]

/-- What removal does. -/
theorem remove_eq_ok
    (hp : p.IsRooted)
    (h : fs.remove directory p = .ok fs') :
    Edits (· = p.parts) fs fs' ∧ fs'.at? p.parts = none := by
  obtain ⟨h, -, hparent⟩ := locate_bind_eq_ok hp h
  split at h
  · rename_i content mode time hfile
    cases h
    have hne := IsFile.ne_nil ⟨content, mode, time, hfile⟩
    have htouch : Edits (· = p.parts) fs (fs.touchDirectory p.parts.dropLast) :=
      Edits.touchDirectory hparent
    have hstill : (fs.touchDirectory p.parts.dropLast).IsFile p.parts :=
      ⟨content, mode, time, by rw [at?_touchDirectory_dropLast hne, hfile]⟩
    refine ⟨htouch.trans (Edits.erase hstill rfl), ?_⟩
    rw [at?_erase _ _ hne, if_pos rfl]
  · cases h
  · cases h

/-- Making a directory concerns no file. -/
theorem makeDirectory_eq_ok
    (hp : p.IsRooted)
    (h : fs.makeDirectory directory p = .ok fs') :
    Edits (fun _ => False) fs fs' := by
  obtain ⟨h, -, hparent⟩ := locate_bind_eq_ok hp h
  split at h
  · cases h
  · rename_i hnone
    cases h
    exact Edits.create hparent hnone (Or.inr rfl)

/-- What a change of mode does to a file. -/
theorem setMode_eq_ok
    {content : ByteArray} {mode old : Nat} {time : Stamp}
    (hp : p.IsRooted)
    (hfile : fs.at? p.parts = some (.file content old time))
    (h : fs.setMode directory p mode = .ok fs') :
    Edits (· = p.parts) fs fs' ∧ fs'.at? p.parts = some (.file content mode time) := by
  obtain ⟨h, -, hparent⟩ := locate_bind_eq_ok hp h
  have hisFile : fs.IsFile p.parts := ⟨content, old, time, hfile⟩
  rw [hfile] at h
  cases h
  refine ⟨Edits.put hisFile.ne_nil hparent hisFile.not_isDirectory (Or.inl rfl), ?_⟩
  rw [at?_put _ _ _ hisFile.ne_nil, if_pos rfl]

/-- Adding to a file leaves a file there. -/
theorem appendAt_edits
    (htree : fs.IsTree) (place : Place) (content : ByteArray) :
    Edits (· = place) fs (fs.appendAt place content) ∧
      (fs.IsFile place → (fs.appendAt place content).IsFile place) := by
  unfold appendAt
  split
  · rename_i old mode time hfile
    have hisFile : fs.IsFile place := ⟨old, mode, time, hfile⟩
    have hparent := htree place hisFile.ne_nil (by rw [hfile]; rfl)
    refine ⟨Edits.put hisFile.ne_nil hparent hisFile.not_isDirectory (Or.inl rfl), fun _ => ?_⟩
    exact ⟨old ++ content, mode, .present, by rw [at?_put _ _ _ hisFile.ne_nil, if_pos rfl]⟩
  · exact ⟨Edits.refl fs, fun h => h⟩

end Operations

end FileSystem
end Literate
