import Literate.Proofs.FileSystem.Edits

/-!
# When operations on files succeed

Whether a path can be reached depends on directories only, and directories stay:
a path that has once been reached can be reached ever after.  At a path that can
be reached, an operation on a file fails only when a directory is in its way or
when there is no file.

**Main statements.**
* `locate_of_directories`: a path that is reached stays within reach.
* `exists_write_eq_ok`, `exists_remove_eq_ok`, `exists_setMode_eq_ok`: what an
  operation needs to succeed.
* `isDirectory_of_write`, `isDirectory_of_remove`, `isDirectory_of_setMode`,
  `isDirectory_of_appendAt`: no operation on a file makes a directory.
* `isDirectory_of_makeDirectory`: making a directory makes no other.
* `write_keeps`, `remove_keeps`, `appendAt_keeps`: all directories stay, wherever
  the path leads.
-/

namespace Literate
namespace FileSystem

variable {fs fs' : FileSystem} {directory p : Path} {place other : Place}

section Reach

/-- A walk that succeeds goes on succeeding as long as directories stay. -/
theorem walk_of_directories
    {base : Place} {parts : List Text}
    (hdirectories : ∀ other, fs.IsDirectory other → fs'.IsDirectory other)
    (h : fs.walk base parts = .ok place) :
    fs'.walk base parts = .ok place := by
  induction parts generalizing base with
  | nil =>
      exact h
  | cons part rest ih =>
      rw [walk] at h
      split at h
      · cases h
      · cases h
      · rename_i time hbase
        obtain ⟨time', hbase'⟩ := hdirectories base ⟨time, hbase⟩
        simp only [walk, hbase']
        split at h
        · rename_i hup
          rw [if_pos hup]
          exact ih h
        · rename_i hup
          rw [if_neg hup]
          split at h
          · cases h
          · rename_i hlength
            rw [if_neg hlength]
            exact ih h

/-- A rooted path that is reached stays within reach, from whatever working directory. -/
theorem locate_of_directories
    {directory' : Path}
    (hp : p.IsRooted)
    (hdirectories : ∀ other, fs.IsDirectory other → fs'.IsDirectory other)
    (h : fs.locate directory p = .ok place) :
    fs'.locate directory' p = .ok place := by
  rw [locate, append_eq_self directory hp] at h
  rw [locate, append_eq_self directory' hp]
  split at h
  · cases h
  · rename_i hnull
    rw [if_neg hnull]
    exact walk_of_directories hdirectories h

theorem exists_walk_of_append
    {base : Place} {parts rest : List Text}
    (h : fs.walk base (parts ++ rest) = .ok place) :
    ∃ between, fs.walk base parts = .ok between := by
  induction parts generalizing base with
  | nil =>
      exact ⟨base, rfl⟩
  | cons part parts ih =>
      rw [List.cons_append, walk] at h
      rw [walk]
      split at h
      · cases h
      · cases h
      · split at h
        · rename_i hup
          rw [if_pos hup]
          exact ih h
        · rename_i hup
          rw [if_neg hup]
          split at h
          · cases h
          · rename_i hlength
            rw [if_neg hlength]
            exact ih h

/-- The directory above a rooted path that is reached is reached, too. -/
theorem locate_parent
    (hp : p.IsRooted)
    (h : fs.locate directory p = .ok place) :
    fs.locate directory p.parent = .ok p.parts.dropLast := by
  rw [locate, append_eq_self directory hp] at h
  rw [locate, append_eq_self directory hp.parent]
  split at h
  · cases h
  · rename_i hnull
    have hparent : ¬ p.parent.hasNull = true := by
      simp only [Path.hasNull, List.any_eq_true, decide_eq_true_eq, not_exists, not_and] at hnull ⊢
      exact fun part hpart => hnull part (List.dropLast_subset _ hpart)
    rw [if_neg hparent]
    change fs.walk [] p.parts.dropLast = .ok p.parts.dropLast
    obtain ⟨between, hbetween⟩ : ∃ between, fs.walk [] p.parts.dropLast = .ok between := by
      rcases List.eq_nil_or_concat p.parts with hnil | ⟨front, last, hconcat⟩
      · exact ⟨[], by rw [hnil]; rfl⟩
      · rw [hconcat, List.concat_eq_append] at h
        rw [hconcat, List.concat_eq_append, List.dropLast_concat]
        exact exists_walk_of_append h
    obtain ⟨rfl, -⟩ := walk_eq_ok hp.parent.down hbetween
    exact hbetween

theorem entry_eq_ok
    {entry : Entry}
    (hlocate : fs.locate directory p = .ok place)
    (h : fs.at? place = some entry) :
    fs.entry directory p = .ok entry := by
  simp [FileSystem.entry, hlocate, bind, Except.bind, h]

theorem entry_eq_notFound
    (hlocate : fs.locate directory p = .ok place)
    (h : fs.at? place = none) :
    fs.entry directory p = .error .notFound := by
  simp [FileSystem.entry, hlocate, bind, Except.bind, h]

end Reach

section Success

theorem exists_write_eq_ok
    (content : ByteArray)
    (hlocate : fs.locate directory p = .ok place)
    (hplace : ¬ fs.IsDirectory place) :
    ∃ fs', fs.write directory p content = .ok fs' := by
  simp only [write, hlocate, bind, Except.bind]
  cases hentry : fs.at? place with
  | none =>
      exact ⟨_, rfl⟩
  | some entry =>
      cases entry with
      | file old mode time =>
          exact ⟨_, rfl⟩
      | directory time =>
          exact absurd ⟨time, hentry⟩ hplace

theorem exists_remove_eq_ok
    (hlocate : fs.locate directory p = .ok place)
    (hfile : fs.IsFile place) :
    ∃ fs', fs.remove directory p = .ok fs' := by
  obtain ⟨content, mode, time, hentry⟩ := hfile
  simp only [remove, hlocate, bind, Except.bind, hentry]
  exact ⟨_, rfl⟩

theorem exists_setMode_eq_ok
    (mode : Nat)
    (hlocate : fs.locate directory p = .ok place)
    (hfile : fs.IsFile place) :
    ∃ fs', fs.setMode directory p mode = .ok fs' := by
  obtain ⟨content, old, time, hentry⟩ := hfile
  simp only [setMode, hlocate, bind, Except.bind, hentry]
  exact ⟨_, rfl⟩

end Success

section Directories

theorem isDirectory_of_touchDirectory
    (hplace : fs.IsDirectory place)
    (h : (fs.touchDirectory place).IsDirectory other) :
    fs.IsDirectory other := by
  obtain ⟨time, htime⟩ := h
  rw [at?_touchDirectory] at htime
  split at htime
  · rename_i hsame
    exact hsame ▸ hplace
  · exact ⟨time, htime⟩

theorem isDirectory_of_put
    {content : ByteArray} {mode : Nat} {time : Stamp}
    (hne : place ≠ [])
    (h : (fs.put place (.file content mode time)).IsDirectory other) :
    fs.IsDirectory other := by
  obtain ⟨time', htime⟩ := h
  rw [at?_put _ _ _ hne] at htime
  split at htime
  · cases htime
  · exact ⟨time', htime⟩

theorem isDirectory_of_erase
    (hne : place ≠ [])
    (h : (fs.erase place).IsDirectory other) :
    fs.IsDirectory other := by
  obtain ⟨time, htime⟩ := h
  rw [at?_erase _ _ hne] at htime
  split at htime
  · cases htime
  · exact ⟨time, htime⟩

theorem isDirectory_of_write
    {content : ByteArray}
    (hp : p.IsRooted)
    (hwrite : fs.write directory p content = .ok fs')
    (h : fs'.IsDirectory other) :
    fs.IsDirectory other := by
  obtain ⟨hwrite, -, hparent⟩ := locate_bind_eq_ok hp hwrite
  split at hwrite
  · rename_i old mode time hfile
    cases hwrite
    exact isDirectory_of_put (IsFile.ne_nil ⟨old, mode, time, hfile⟩) h
  · cases hwrite
  · rename_i hnone
    cases hwrite
    exact isDirectory_of_touchDirectory hparent (isDirectory_of_put (ne_nil_of_at?_eq_none hnone) h)

theorem isDirectory_of_remove
    (hp : p.IsRooted)
    (hremove : fs.remove directory p = .ok fs')
    (h : fs'.IsDirectory other) :
    fs.IsDirectory other := by
  obtain ⟨hremove, -, hparent⟩ := locate_bind_eq_ok hp hremove
  split at hremove
  · rename_i content mode time hfile
    cases hremove
    have hne := IsFile.ne_nil ⟨content, mode, time, hfile⟩
    exact isDirectory_of_touchDirectory hparent (isDirectory_of_erase hne h)
  · cases hremove
  · cases hremove

theorem isDirectory_of_setMode
    {mode : Nat}
    (hp : p.IsRooted)
    (hsetMode : fs.setMode directory p mode = .ok fs')
    (h : fs'.IsDirectory other) :
    fs.IsDirectory other := by
  obtain ⟨hsetMode, -, -⟩ := locate_bind_eq_ok hp hsetMode
  split at hsetMode
  · rename_i content old time hfile
    cases hsetMode
    exact isDirectory_of_put (IsFile.ne_nil ⟨content, old, time, hfile⟩) h
  · cases hsetMode
    exact h
  · cases hsetMode

theorem isDirectory_of_appendAt
    {content : ByteArray}
    (h : (fs.appendAt place content).IsDirectory other) :
    fs.IsDirectory other := by
  unfold appendAt at h
  split at h
  · rename_i old mode time hfile
    exact isDirectory_of_put (IsFile.ne_nil ⟨old, mode, time, hfile⟩) h
  · exact h

/-- A new directory is the only one. -/
theorem isDirectory_of_makeDirectory
    (hp : p.IsRooted)
    (hmake : fs.makeDirectory directory p = .ok fs')
    (h : fs'.IsDirectory other) :
    fs.IsDirectory other ∨ other = p.parts := by
  obtain ⟨hmake, -, hparent⟩ := locate_bind_eq_ok hp hmake
  split at hmake
  · cases hmake
  · rename_i hnone
    cases hmake
    obtain ⟨time, htime⟩ := h
    rw [at?_put _ _ _ (ne_nil_of_at?_eq_none hnone)] at htime
    split at htime
    · rename_i hsame
      exact Or.inr hsame.symm
    · exact Or.inl (isDirectory_of_touchDirectory hparent ⟨time, htime⟩)

end Directories

section Keeping

theorem locate_of_keeps
    (hkeeps : ∀ other, fs.IsDirectory other → fs'.IsDirectory other)
    (h : fs.locate directory p = .ok place) :
    fs'.locate directory p = .ok place := by
  unfold locate at h ⊢
  split at h
  · cases h
  · rename_i hnull
    rw [if_neg hnull]
    exact walk_of_directories hkeeps h

/-- An operation on a path that succeeds has found the place of the path. -/
theorem exists_locate_of_bind
    {α : Type} {f : Place → Except Fault α} {a : α}
    (h : (fs.locate directory p >>= f) = .ok a) :
    ∃ place, fs.locate directory p = .ok place ∧ f place = .ok a := by
  cases hlocate : fs.locate directory p with
  | error cause =>
      rw [hlocate] at h
      cases h
  | ok place =>
      rw [hlocate] at h
      exact ⟨place, rfl, h⟩

theorem isDirectory_touchDirectory
    (place : Place)
    (h : fs.IsDirectory other) :
    (fs.touchDirectory place).IsDirectory other := by
  obtain ⟨time, htime⟩ := h
  unfold IsDirectory
  rw [at?_touchDirectory]
  split
  · exact ⟨_, rfl⟩
  · exact ⟨time, htime⟩

theorem isDirectory_put
    {entry : Entry}
    (hne : place ≠ [])
    (hother : place ≠ other)
    (h : fs.IsDirectory other) :
    (fs.put place entry).IsDirectory other := by
  obtain ⟨time, htime⟩ := h
  refine ⟨time, ?_⟩
  rw [at?_put _ _ _ hne, if_neg hother, htime]

theorem IsFile.ne_of_isDirectory
    (hfile : fs.IsFile place)
    (h : fs.IsDirectory other) :
    place ≠ other := by
  rintro rfl
  exact hfile.not_isDirectory h

/-- Writing leaves all directories, and a file at the place of the path. -/
theorem write_keeps
    {content : ByteArray}
    (h : fs.write directory p content = .ok fs') :
    (∀ other, fs.IsDirectory other → fs'.IsDirectory other) ∧
      ∃ place, fs.locate directory p = .ok place ∧ fs'.IsFile place := by
  obtain ⟨place, hlocate, hput⟩ := exists_locate_of_bind h
  split at hput
  · rename_i old mode time hentry
    cases hput
    have hfile : fs.IsFile place := ⟨old, mode, time, hentry⟩
    refine ⟨fun other hother => isDirectory_put hfile.ne_nil (hfile.ne_of_isDirectory hother) hother, place,
      hlocate, content, mode, .present, ?_⟩
    rw [at?_put _ _ _ hfile.ne_nil, if_pos rfl]
  · cases hput
  · rename_i hnone
    cases hput
    have hne := ne_nil_of_at?_eq_none hnone
    refine ⟨fun other hother => ?_, place, hlocate, content, newFileMode, .present, ?_⟩
    · refine isDirectory_put hne ?_ (isDirectory_touchDirectory place.dropLast hother)
      rintro rfl
      obtain ⟨time, htime⟩ := hother
      rw [hnone] at htime
      cases htime
    · rw [at?_put _ _ _ hne, if_pos rfl]

/-- Removing leaves all directories, and nothing at the place of the path. -/
theorem remove_keeps
    (h : fs.remove directory p = .ok fs') :
    (∀ other, fs.IsDirectory other → fs'.IsDirectory other) ∧
      ∃ place, fs.locate directory p = .ok place ∧ fs'.at? place = none := by
  obtain ⟨place, hlocate, herase⟩ := exists_locate_of_bind h
  split at herase
  · rename_i content mode time hentry
    cases herase
    have hfile : fs.IsFile place := ⟨content, mode, time, hentry⟩
    refine ⟨fun other hother => ?_, place, hlocate, ?_⟩
    · obtain ⟨time', htime⟩ := isDirectory_touchDirectory place.dropLast hother
      refine ⟨time', ?_⟩
      rw [at?_erase _ _ hfile.ne_nil, if_neg (hfile.ne_of_isDirectory hother), htime]
    · rw [at?_erase _ _ hfile.ne_nil, if_pos rfl]
  · cases herase
  · cases herase

theorem appendAt_keeps
    {content : ByteArray}
    (h : fs.IsDirectory other) :
    (fs.appendAt place content).IsDirectory other := by
  unfold appendAt
  split
  · rename_i old mode time hentry
    have hfile : fs.IsFile place := ⟨old, mode, time, hentry⟩
    exact isDirectory_put hfile.ne_nil (hfile.ne_of_isDirectory h) h
  · exact h

end Keeping

end FileSystem
end Literate
