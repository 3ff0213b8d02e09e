import Literate.Path
import Literate.Proofs.Text.Splitting

/-!
# Paths from the root

A path is rooted when it leads from the root to its end by names alone, and
normal when, besides, the root is written with one slash.  Two rooted paths that
differ in the spelling of the root lead to one place.

**Null characters.**  A path that is made from others, or from a text, holds a null
character only if one of these does.

**Main statements.**
* `isRooted_absolute`: carrying out every `..` makes an absolute path rooted.
* `isNormal_resolved`, `resolved_of_isRooted`: a resolved path is normal, and a path
  from the root by names alone is resolved but for the spelling of the root.
* `hasNull_absolute`, `Surroundings.hasNull_expandHome`, `null_of_ofText`: where a null
  character in a path comes from.
* `Surroundings.expandHome_cases`: what a path can become when its home is filled in.
-/

namespace Literate
namespace Path

/-- A path from the root by names alone, however the root is written. -/
structure IsRooted (p : Path) : Prop where
  /-- It begins at the root. -/
  absolute : p.isAbsolute = true
  /-- It never goes up. -/
  down : up ∉ p.parts

/-- A path from the root by names alone. -/
structure IsNormal (p : Path) : Prop where
  /-- It begins at the root, written with one slash. -/
  anchor : p.anchor = .root
  /-- It never goes up. -/
  down : up ∉ p.parts

theorem IsNormal.isRooted
    {p : Path}
    (h : p.IsNormal) :
    p.IsRooted :=
  ⟨by simp [isAbsolute, h.anchor], h.down⟩

theorem IsRooted.parent
    {p : Path}
    (h : p.IsRooted) :
    p.parent.IsRooted :=
  ⟨h.absolute, fun hmem => h.down (List.dropLast_subset _ hmem)⟩

/-- Normal paths to one place are one path. -/
theorem IsNormal.eq_of_parts_eq
    {p q : Path}
    (hp : p.IsNormal)
    (hq : q.IsNormal)
    (h : p.parts = q.parts) :
    p = q := by
  obtain ⟨anchor, parts⟩ := p
  obtain ⟨anchor', parts'⟩ := q
  obtain rfl : anchor = .root := hp.anchor
  obtain rfl : anchor' = .root := hq.anchor
  obtain rfl : parts = parts' := h
  rfl

section Normalisation

theorem up_not_mem_climb
    {above : List Text} {part : Text}
    (h : up ∉ above) :
    up ∉ climb above part := by
  unfold climb
  split
  · exact fun hmem => h (List.dropLast_subset _ hmem)
  · rename_i hpart
    simp [h, Ne.symm hpart]

/-- No component goes up when every `..` has been carried out. -/
theorem up_not_mem_normalParts
    (parts : List Text) :
    up ∉ normalParts parts := by
  have hfrom : ∀ above : List Text, up ∉ above → up ∉ parts.foldl climb above := by
    induction parts with
    | nil =>
        exact fun _ h => h
    | cons part rest ih =>
        exact fun above h => ih (climb above part) (up_not_mem_climb h)
  exact hfrom [] (by simp)

/-- Where nothing goes up there is nothing to carry out. -/
theorem normalParts_eq_self
    {parts : List Text}
    (h : up ∉ parts) :
    normalParts parts = parts := by
  have hfrom : ∀ above : List Text, parts.foldl climb above = above ++ parts := by
    induction parts with
    | nil =>
        exact fun above => (List.append_nil above).symm
    | cons part rest ih =>
        intro above
        simp only [List.mem_cons, not_or] at h
        have hclimb : climb above part = above ++ [part] := if_neg (Ne.symm h.1)
        rw [List.foldl_cons, hclimb, ih h.2, List.append_assoc]
        rfl
  exact hfrom []

theorem isAbsolute_append
    {p : Path} (q : Path)
    (h : p.isAbsolute = true) :
    (p.append q).isAbsolute = true := by
  unfold append
  split
  · assumption
  · exact h

/-- Carrying out every `..` makes an absolute path rooted. -/
theorem isRooted_absolute
    {directory : Path} (p : Path)
    (h : directory.isAbsolute = true) :
    (absolute directory p).IsRooted :=
  ⟨isAbsolute_append p h, up_not_mem_normalParts _⟩

/-- A resolved path is normal. -/
theorem isNormal_resolved
    (directory p : Path) :
    (resolved directory p).IsNormal :=
  ⟨rfl, up_not_mem_normalParts _⟩

/-- In a rooted path there is nothing to carry out. -/
theorem absolute_of_isRooted
    (directory : Path) {p : Path}
    (h : p.IsRooted) :
    absolute directory p = p := by
  have hfull : directory.append p = p := if_pos h.absolute
  rw [absolute, hfull, normalParts_eq_self h.down]

theorem resolved_of_isRooted
    (directory : Path) {p : Path}
    (h : p.IsRooted) :
    resolved directory p = ⟨.root, p.parts⟩ := by
  rw [resolved, absolute_of_isRooted directory h]

/-- A suffix that does not end with a dot leaves a path normal. -/
theorem IsNormal.of_withSuffix?
    {p q : Path} {suffix : Text} {c : Char}
    (h : p.IsNormal)
    (hlast : suffix.getLast? = some c)
    (hc : c ≠ '.')
    (hq : p.withSuffix? suffix = some q) :
    q.IsNormal := by
  unfold withSuffix? at hq
  split at hq
  · cases hq
  · cases hq
    refine ⟨h.anchor, fun hup => ?_⟩
    rcases List.mem_append.mp hup with hold | hnew
    · exact h.down (List.dropLast_subset _ hold)
    · have hend : up.getLast? = some c := by
        rw [List.mem_singleton.mp hnew, List.getLast?_append, hlast]
        rfl
      exact hc (Option.some.inj hend).symm

end Normalisation

section Null

variable {p q : Path}

theorem hasNull_iff :
    p.hasNull = true ↔ ∃ part ∈ p.parts, '\x00' ∈ part := by
  simp [hasNull]

theorem mem_of_mem_normalParts
    {part : Text} {parts : List Text}
    (h : part ∈ normalParts parts) :
    part ∈ parts := by
  have hclimb : ∀ above, part ∈ parts.foldl climb above → part ∈ above ∨ part ∈ parts := by
    clear h
    induction parts with
    | nil =>
        exact fun above hpart => Or.inl hpart
    | cons first rest ih =>
        intro above hpart
        rcases ih _ hpart with hfirst | hrest
        · unfold climb at hfirst
          split at hfirst
          · exact Or.inl (List.dropLast_subset _ hfirst)
          · rcases List.mem_append.mp hfirst with hold | hnew
            · exact Or.inl hold
            · exact Or.inr (by simp [List.mem_singleton.mp hnew])
        · exact Or.inr (List.mem_cons_of_mem _ hrest)
  exact (hclimb [] h).resolve_left List.not_mem_nil

theorem hasNull_append
    (h : (p.append q).hasNull = true) :
    p.hasNull = true ∨ q.hasNull = true := by
  unfold append at h
  split at h
  · exact Or.inr h
  · simp only [hasNull_iff] at h ⊢
    obtain ⟨part, hpart, hnull⟩ := h
    exact (List.mem_append.mp hpart).imp (fun hmem => ⟨part, hmem, hnull⟩) fun hmem => ⟨part, hmem, hnull⟩

theorem hasNull_absolute
    (h : (absolute p q).hasNull = true) :
    p.hasNull = true ∨ q.hasNull = true := by
  obtain ⟨part, hpart, hnull⟩ := hasNull_iff.mp h
  exact hasNull_append (hasNull_iff.mpr ⟨part, mem_of_mem_normalParts hpart, hnull⟩)

theorem hasNull_of_parent
    (h : p.parent.hasNull = true) :
    p.hasNull = true := by
  obtain ⟨part, hpart, hnull⟩ := hasNull_iff.mp h
  exact hasNull_iff.mpr ⟨part, List.dropLast_subset _ hpart, hnull⟩

theorem null_of_ofText
    {value : Text}
    (h : (ofText value).hasNull = true) :
    '\x00' ∈ value := by
  obtain ⟨part, hpart, hnull⟩ := hasNull_iff.mp h
  exact Text.mem_of_mem_splitOn (List.mem_filter.mp hpart).1 hnull

/-- The name of a path without its suffix is part of a component. -/
theorem hasNull_of_stem
    (h : '\x00' ∈ p.stem) :
    p.hasNull = true := by
  have hname : '\x00' ∈ p.name := by
    unfold stem splitName at h
    dsimp only at h
    split at h
    · exact h
    · exact List.mem_of_mem_take h
  rw [hasNull_iff]
  unfold name at hname
  cases hparts : p.parts.getLast? with
  | none =>
      simp [List.getLast?_eq_none_iff.mp hparts] at hname
  | some last =>
      rw [List.getLastD_eq_getLast?, hparts] at hname
      exact ⟨last, List.mem_of_getLast? hparts, hname⟩

end Null

end Path

namespace Surroundings

variable {s : Surroundings} {p q : Path}

/-- The directories that `~` and `~name` stand for. -/
def homes (s : Surroundings) : List Path :=
  s.home :: s.users.map Prod.snd

theorem mem_users_of_lookup
    {name : Text} {home : Path}
    (h : s.users.lookup name = some home) :
    (name, home) ∈ s.users := by
  obtain ⟨before, after, husers, -⟩ := List.lookup_eq_some_iff.mp h
  rw [husers]
  exact List.mem_append_right _ List.mem_cons_self

theorem mem_homes_of_homeOf
    {name : Text} {home : Path}
    (h : s.homeOf name = .ok home) :
    home ∈ s.homes := by
  unfold homeOf at h
  split at h
  · cases h
    exact List.mem_cons_self
  · split at h
    · cases h
    · split at h
      · rename_i found hfound
        cases h
        exact List.mem_cons_of_mem _ (List.mem_map_of_mem (mem_users_of_lookup hfound))
      · cases h

/-- A path stays as it is, or its first component is replaced by a home directory. -/
theorem expandHome_cases
    (h : s.expandHome p = .ok q) :
    q = p ∨ ∃ home ∈ s.homes, ∃ name rest, s.homeOf name = .ok home ∧ p.anchor = .relative ∧
      p.parts = ('~' :: name) :: rest ∧ q = home.append ⟨.relative, rest⟩ := by
  unfold expandHome at h
  split at h
  · rename_i name rest hanchor hparts
    cases hhome : s.homeOf name with
    | error cause =>
        rw [hhome] at h
        cases h
    | ok home =>
        rw [hhome] at h
        cases h
        exact Or.inr ⟨home, mem_homes_of_homeOf hhome, name, rest, hhome, hanchor, hparts, rfl⟩
  · cases h
    exact Or.inl rfl

/-- A home is unknown if no user has the name, or if the name holds a null character. -/
theorem homeOf_eq_error_iff
    {name : Text} {cause : Path.HomeError} :
    s.homeOf name = .error cause ↔
      name ≠ [] ∧
        if '\x00' ∈ name then cause = .nullCharacter
        else cause = .unknownUser ∧ ∀ home, (name, home) ∉ s.users := by
  unfold homeOf
  by_cases hempty : name = []
  · rw [if_pos (List.isEmpty_iff.mpr hempty)]
    exact iff_of_false (fun h => by cases h) fun h => h.1 hempty
  rw [if_neg (by simpa using hempty), and_iff_right hempty]
  by_cases hnull : '\x00' ∈ name
  · rw [if_pos (List.contains_iff_mem.mpr hnull), if_pos hnull, Except.error.injEq, eq_comm]
  rw [if_neg (by simpa using hnull), if_neg hnull]
  cases hfound : s.users.lookup name with
  | none =>
      have habsent : ∀ home, (name, home) ∉ s.users := by
        intro home hmem
        simpa using List.lookup_eq_none_iff.mp hfound (name, home) hmem
      rw [and_iff_left habsent]
      dsimp only
      rw [Except.error.injEq, eq_comm]
  | some home =>
      exact iff_of_false (fun h => by cases h) fun h => h.2 home (mem_users_of_lookup hfound)

/-- A text begins with `~` and a name, and the home that it stands for is unknown. -/
def LacksHome (s : Surroundings) (text : Text) (cause : Path.HomeError) : Prop :=
  ∃ name rest, Path.ofText text = ⟨.relative, ('~' :: name) :: rest⟩ ∧ name ≠ [] ∧
    if '\x00' ∈ name then cause = .nullCharacter
    else cause = .unknownUser ∧ ∀ home, (name, home) ∉ s.users

theorem expandHome_eq_error_iff
    {text : Text} {cause : Path.HomeError} :
    s.expandHome (Path.ofText text) = .error cause ↔ s.LacksHome text cause := by
  unfold LacksHome
  cases hread : Path.ofText text with
  | mk anchor parts =>
      constructor
      · intro h
        unfold expandHome at h
        split at h
        · rename_i name rest hanchor hparts
          cases hhome : s.homeOf name with
          | ok home =>
              rw [hhome] at h
              cases h
          | error fault =>
              rw [hhome] at h
              cases h
              obtain rfl : anchor = .relative := hanchor
              obtain rfl : parts = ('~' :: name) :: rest := hparts
              exact ⟨name, rest, rfl, homeOf_eq_error_iff.mp hhome⟩
        · cases h
      · rintro ⟨name, rest, hpath, hunknown⟩
        rw [hpath]
        exact congrArg (Except.map _) (homeOf_eq_error_iff.mpr hunknown)

theorem hasNull_expandHome
    (h : s.expandHome p = .ok q)
    (hnull : q.hasNull = true) :
    (∃ home ∈ s.homes, home.hasNull = true) ∨ p.hasNull = true := by
  rcases expandHome_cases h with rfl | ⟨home, hmem, name, rest, -, -, hparts, rfl⟩
  · exact Or.inr hnull
  · refine (Path.hasNull_append hnull).imp (fun hhome => ⟨home, hmem, hhome⟩) fun hrest => ?_
    obtain ⟨part, hpart, hc⟩ := Path.hasNull_iff.mp hrest
    exact Path.hasNull_iff.mpr ⟨part, by rw [hparts]; exact List.mem_cons_of_mem _ hpart, hc⟩

/-- A path that does not begin with `~` stays as it is. -/
theorem expandHome_eq_self
    (s : Surroundings)
    (h : ∀ part ∈ p.parts.head?, part.head? ≠ some '~') :
    s.expandHome p = .ok p := by
  unfold expandHome
  split
  · rename_i name rest hanchor hparts
    exact absurd rfl (h ('~' :: name) (by simp [hparts]))
  · rfl

theorem expandHome_of_isAbsolute
    (s : Surroundings)
    (h : p.isAbsolute = true) :
    s.expandHome p = .ok p := by
  obtain ⟨anchor, parts⟩ := p
  cases anchor with
  | relative =>
      cases h
  | root =>
      rfl
  | doubleRoot =>
      rfl

end Surroundings
end Literate
