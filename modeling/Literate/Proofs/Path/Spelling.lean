import Literate.Destination
import Literate.Proofs.Path
import Mathlib.Logic.Relation

/-!
# Spellings of a destination

A destination can be spelled in many ways: with repeated slashes, with `.` for
the directory at hand, or with a detour through a directory and back.  Anchoring
carries every spelling to one normal form, which starts at the root, goes down
by names alone, and is its own spelling.

**Names.**  A component is proper when a path that is read from a text can have
it: it is neither empty nor `.`, and no slash stands in it.

**Main statements.**
* `Path.ofText_toText`: reading the text of an absolute path with proper
  components gives the path back.
* `Path.components_append`: the components of a text that is cut where a component
  begins.
* `Placement.Respelling.anchor_eq`, `Placement.anchor_respelled`: one insertion and any number
  of insertions into a relative path leave the destination alone.
* `Placement.anchor_is_normal_form`: the normal form of destinations.
-/

namespace Literate

namespace Path

/-- A component of a path that is read from a text. -/
structure IsProper (part : Text) : Prop where
  /-- It is not empty. -/
  ne_nil : part ≠ []
  /-- It does not stand for the directory at hand. -/
  ne_dot : part ≠ ("." : Text)
  /-- It holds no slash. -/
  noSlash : '/' ∉ part

section Reading

variable {part : Text} {parts : List Text}

theorem isProper_of_mem_components
    {t : Text}
    (h : part ∈ components t) :
    IsProper part := by
  obtain ⟨hpiece, hkept⟩ := List.mem_filter.mp h
  simp only [Bool.not_eq_true', Bool.or_eq_false_iff, List.isEmpty_eq_false_iff, beq_eq_false_iff_ne] at hkept
  exact ⟨hkept.1, hkept.2, Text.not_mem_of_mem_splitOn hpiece⟩

/-- The components before and after a slash. -/
theorem components_append_slash
    (before after : Text) :
    components (before ++ '/' :: after) = components before ++ components after := by
  have hsplit := Text.splitOn_append_append before (Text.splitOn_cons_sep '/' after)
  have hlast : (Text.splitOn '/' before).dropLast ++ [(Text.splitOn '/' before).getLastD []] =
      Text.splitOn '/' before := by
    rw [List.getLastD_eq_getLast?, List.getLast?_eq_some_getLast (Text.splitOn_ne_nil '/' before)]
    exact List.dropLast_concat_getLast (Text.splitOn_ne_nil '/' before)
  have hpieces : Text.splitOn '/' (before ++ '/' :: after) =
      Text.splitOn '/' before ++ Text.splitOn '/' after := by
    rw [hsplit, List.append_nil, List.append_cons, hlast]
  rw [components, hpieces, List.filter_append]
  rfl

/-- A component begins after a text when the text is empty or ends with a slash. -/
def EndsComponent (before : Text) : Prop :=
  before = [] ∨ before.getLast? = some '/'

/-- The components of a text that is cut where a component begins. -/
theorem components_append
    {before : Text} (after : Text)
    (h : EndsComponent before) :
    components (before ++ after) = components before ++ components after := by
  rcases h with rfl | hslash
  · rfl
  · obtain ⟨front, rfl⟩ := List.getLast?_eq_some_iff.mp hslash
    have hfront := components_append_slash front []
    rw [List.append_assoc, List.singleton_append, components_append_slash, hfront]
    simp [components, Text.splitOn]

theorem IsProper.isKept
    (h : IsProper part) :
    (!(part.isEmpty || part == ".".toList)) = true := by
  rw [beq_eq_false_iff_ne.mpr h.ne_dot, List.isEmpty_eq_false_iff.mpr h.ne_nil]
  rfl

/-- A proper component is read as itself. -/
theorem components_of_isProper
    (h : IsProper part) :
    components part = [part] := by
  rw [components, Text.splitOn_of_not_mem h.noSlash]
  exact List.filter_eq_self.mpr (List.forall_mem_singleton.mpr h.isKept)

/-- Proper components are read back when they are joined with slashes. -/
theorem components_join
    (h : ∀ part ∈ parts, IsProper part) :
    components (Text.join "/" parts) = parts := by
  by_cases hne : parts = []
  · rw [hne]
    rfl
  · have hsplit : Text.splitOn '/' (Text.join "/" parts) = parts :=
      Text.splitOn_join hne fun part hpart => (h part hpart).noSlash
    rw [components, hsplit]
    exact List.filter_eq_self.mpr fun part hpart => (h part hpart).isKept

/-- No slash stands in front of joined components. -/
theorem head?_join_ne_slash
    (h : ∀ part ∈ parts, IsProper part) :
    (Text.join "/" parts).head? ≠ some '/' := by
  cases parts with
  | nil =>
      simp [Text.join]
  | cons part parts =>
      have hpart : IsProper part := h part List.mem_cons_self
      obtain ⟨c, rest, rfl⟩ := List.exists_cons_of_ne_nil hpart.ne_nil
      have hc : c ≠ '/' := fun heq => hpart.noSlash (heq ▸ List.mem_cons_self)
      cases parts <;> simp [Text.join, hc]

theorem takeWhile_slash
    {t : Text}
    (h : t.head? ≠ some '/') :
    t.takeWhile (· == '/') = [] := by
  cases t with
  | nil =>
      rfl
  | cons c t =>
      have hc : c ≠ '/' := fun heq => h (congrArg some heq)
      simp [hc]

theorem anchorOf_of_head?
    {t : Text}
    (h : t.head? ≠ some '/') :
    anchorOf t = .relative := by
  simp [anchorOf, takeWhile_slash h]

/-- Reading the text of an absolute path with proper components gives the path back. -/
theorem ofText_toText
    {p : Path}
    (habsolute : p.isAbsolute = true)
    (hparts : ∀ part ∈ p.parts, IsProper part) :
    ofText p.toText = p := by
  obtain ⟨anchor, parts⟩ := p
  have htake := takeWhile_slash (head?_join_ne_slash hparts)
  have hread := components_join hparts
  have hslash : ∀ t : Text, components ('/' :: t) = components t := components_append_slash []
  cases anchor with
  | relative =>
      cases habsolute
  | root =>
      change ofText ('/' :: Text.join "/" parts) = _
      generalize Text.join "/" parts = t at htake hread ⊢
      simp [ofText, anchorOf, hslash, htake, hread]
  | doubleRoot =>
      change ofText ('/' :: '/' :: Text.join "/" parts) = _
      generalize Text.join "/" parts = t at htake hread ⊢
      simp [ofText, anchorOf, hslash, htake, hread]

end Reading

section Normalisation

/-- A detour through a directory and back changes nothing. -/
theorem normalParts_detour
    {x : Text} (above after : List Text)
    (hx : x ≠ up) :
    normalParts (above ++ x :: up :: after) = normalParts (above ++ after) := by
  have hback : ∀ reached : List Text, climb (climb reached x) up = reached := by
    intro reached
    simp [climb, hx]
  simp only [normalParts, List.foldl_append, List.foldl_cons, hback]

/-- Relative paths that normalise alike below every place lead to one absolute path. -/
theorem absolute_append_congr
    {parts others : List Text} (current directory : Path)
    (h : ∀ above, normalParts (above ++ parts) = normalParts (above ++ others)) :
    absolute current (directory.append ⟨.relative, parts⟩) =
      absolute current (directory.append ⟨.relative, others⟩) := by
  have happend : ∀ rest : List Text,
      directory.append ⟨.relative, rest⟩ = ⟨directory.anchor, directory.parts ++ rest⟩ := fun _ => rfl
  rw [happend, happend]
  unfold absolute append
  split <;> split <;> simp_all [isAbsolute, ← List.append_assoc]

theorem mem_append_parts
    {p q : Path} {part : Text}
    (h : part ∈ (p.append q).parts) :
    part ∈ p.parts ∨ part ∈ q.parts := by
  unfold append at h
  split at h
  · exact Or.inr h
  · exact List.mem_append.mp h

end Normalisation

end Path

namespace Placement

variable {placement : Placement}

/-- Below an absolute directory a destination does not depend on the working directory. -/
theorem exists_of_anchor
    {value : Text} {p : Path}
    (habsolute : placement.directory.isAbsolute = true)
    (h : placement.anchor value = .file p) :
    ∃ q, placement.surroundings.expandHome (Path.ofText value) = .ok q ∧
      p = ⟨(placement.directory.append q).anchor, Path.normalParts (placement.directory.append q).parts⟩ := by
  unfold anchor at h
  split at h
  · rename_i q hexpand
    cases h
    have hfull : placement.surroundings.directory.append (placement.directory.append q) =
        placement.directory.append q := if_pos (Path.isAbsolute_append q habsolute)
    refine ⟨q, hexpand, ?_⟩
    rw [Surroundings.absolute, Path.absolute, hfull]
  · cases h

/-- A component of a destination comes from the directory, from a home directory, or from the value. -/
theorem mem_parts_of_anchor
    {value part : Text} {p : Path}
    (habsolute : placement.directory.isAbsolute = true)
    (h : placement.anchor value = .file p)
    (hpart : part ∈ p.parts) :
    part ∈ placement.directory.parts ∨ (∃ home ∈ placement.surroundings.homes, part ∈ home.parts) ∨
      part ∈ Path.components value := by
  obtain ⟨q, hexpand, rfl⟩ := exists_of_anchor habsolute h
  refine (Path.mem_append_parts (Path.mem_of_mem_normalParts hpart)).imp_right fun hq => ?_
  rcases Surroundings.expandHome_cases hexpand with rfl | ⟨home, hmem, name, rest, -, -, hparts, rfl⟩
  · exact Or.inr hq
  · refine (Path.mem_append_parts hq).imp (fun hhome => ⟨home, hmem, hhome⟩) fun hrest => ?_
    change part ∈ (Path.ofText value).parts
    rw [hparts]
    exact List.mem_cons_of_mem _ hrest

/-- A rooted path with proper components is the destination that its text leads to. -/
theorem anchor_toText
    {p : Path}
    (hrooted : p.IsRooted)
    (hproper : ∀ part ∈ p.parts, Path.IsProper part) :
    placement.anchor p.toText = .file p := by
  have hexpand : placement.surroundings.expandHome p = .ok p :=
    Surroundings.expandHome_of_isAbsolute _ hrooted.absolute
  have hfull : placement.directory.append p = p := if_pos hrooted.absolute
  rw [anchor, Path.ofText_toText hrooted.absolute hproper, hexpand]
  dsimp only
  rw [hfull, Surroundings.absolute, Path.absolute_of_isRooted _ hrooted]

/-- A name that a detour can go through. -/
structure IsOrdinary (x : Text) : Prop extends Path.IsProper x where
  /-- It does not go up. -/
  ne_up : x ≠ Path.up
  /-- It does not stand for a home directory. -/
  notHome : x.head? ≠ some '~'

/-- A relative path none of whose components stands for a home directory. -/
structure IsPlain (value : Text) : Prop where
  /-- It does not start at the root. -/
  relative : value.head? ≠ some '/'
  /-- No component begins with `~`. -/
  notHome : ∀ part ∈ Path.components value, part.head? ≠ some '~'

/-- The second text is the first one with something inserted that leads nowhere. -/
inductive Respelling : Text → Text → Prop
  /-- A component is looked for in the directory at hand. -/
  | here (before after : Text) :
      Path.EndsComponent before →
      Respelling (before ++ after) (before ++ "./" ++ after)
  /-- There is a detour before a component. -/
  | detour (before x after : Text) :
      Path.EndsComponent before →
      IsOrdinary x →
      Respelling (before ++ after) (before ++ x ++ "/../" ++ after)
  /-- A slash is repeated. -/
  | slash (before after : Text) :
      Respelling (before ++ '/' :: after) (before ++ '/' :: '/' :: after)

section Respelling

variable {value value' : Text}

/-- What is inserted into a relative path without a slash in front leaves it relative. -/
theorem head?_insertion
    {before after inserted : Text}
    (h : (before ++ after).head? ≠ some '/')
    (hinserted : inserted.head? ≠ some '/')
    (hne : inserted ≠ []) :
    (before ++ inserted ++ after).head? ≠ some '/' := by
  cases before with
  | nil =>
      cases inserted with
      | nil =>
          exact absurd rfl hne
      | cons c inserted =>
          simpa using hinserted
  | cons c before =>
      simpa using h

/-- An insertion brings in the components of a detour, or none. -/
theorem Respelling.components_eq
    (h : Respelling value value') :
    ∃ front back, Path.components value = front ++ back ∧
      (Path.components value' = front ++ back ∨
        ∃ x, IsOrdinary x ∧ Path.components value' = front ++ x :: Path.up :: back) := by
  cases h with
  | here before after hbefore =>
      refine ⟨Path.components before, Path.components after, Path.components_append after hbefore, Or.inl ?_⟩
      rw [List.append_assoc, Path.components_append _ hbefore]
      exact congrArg _ (Path.components_append_slash "." after)
  | detour before x after hbefore hx =>
      refine ⟨Path.components before, Path.components after, Path.components_append after hbefore,
        Or.inr ⟨x, hx, ?_⟩⟩
      have hdetour : before ++ x ++ "/../" ++ after = before ++ (x ++ '/' :: (".." ++ '/' :: after)) := by
        simp
      have hup : Path.components ".." = [Path.up] := rfl
      rw [hdetour, Path.components_append _ hbefore, Path.components_append_slash,
        Path.components_append_slash, Path.components_of_isProper hx.toIsProper, hup]
      rfl
  | slash before after =>
      refine ⟨Path.components before, Path.components after, Path.components_append_slash before after,
        Or.inl ?_⟩
      rw [Path.components_append_slash]
      exact congrArg _ (Path.components_append_slash [] after)

/-- An insertion leaves a plain path plain. -/
theorem Respelling.isPlain
    (h : Respelling value value')
    (hplain : IsPlain value) :
    IsPlain value' := by
  constructor
  · have hrelative := hplain.relative
    cases h with
    | here before after hbefore =>
        exact head?_insertion hrelative (by decide) (by decide)
    | detour before x after hbefore hx =>
        obtain ⟨c, x, rfl⟩ := List.exists_cons_of_ne_nil hx.ne_nil
        have hc : c ≠ '/' := fun heq => hx.noSlash (heq ▸ List.mem_cons_self)
        rw [List.append_assoc before]
        exact head?_insertion hrelative (by simpa using hc) (by simp)
    | slash before after =>
        cases before with
        | nil =>
            exact absurd rfl hrelative
        | cons c before =>
            simpa using hrelative
  · obtain ⟨front, back, hvalue, hsame | ⟨x, hx, hdetour⟩⟩ := h.components_eq
    · rw [hsame, ← hvalue]
      exact hplain.notHome
    · have hold := hplain.notHome
      rw [hvalue] at hold
      rw [hdetour]
      intro part hpart
      simp only [List.mem_append, List.mem_cons] at hpart hold
      rcases hpart with hfront | rfl | rfl | hback
      · exact hold part (Or.inl hfront)
      · exact hx.notHome
      · decide
      · exact hold part (Or.inr hback)

/-- A plain path is read from the directory. -/
theorem anchor_of_isPlain
    (placement : Placement)
    (h : IsPlain value) :
    placement.anchor value =
      .file (placement.surroundings.absolute
        (placement.directory.append ⟨.relative, Path.components value⟩)) := by
  have hread : Path.ofText value = ⟨.relative, Path.components value⟩ := by
    rw [Path.ofText, Path.anchorOf_of_head? h.relative]
  have hexpand := placement.surroundings.expandHome_eq_self (p := ⟨.relative, Path.components value⟩)
    fun part hpart => h.notHome part (List.mem_of_mem_head? hpart)
  rw [anchor, hread, hexpand]

/-- One insertion leaves the destination alone. -/
theorem Respelling.anchor_eq
    (placement : Placement)
    (h : Respelling value value')
    (hplain : IsPlain value) :
    placement.anchor value' = placement.anchor value := by
  rw [anchor_of_isPlain placement hplain, anchor_of_isPlain placement (h.isPlain hplain)]
  refine congrArg Destination.file (Path.absolute_append_congr _ _ fun above => ?_)
  obtain ⟨front, back, hvalue, hsame | ⟨x, hx, hdetour⟩⟩ := h.components_eq
  · rw [hsame, hvalue]
  · rw [hdetour, hvalue, ← List.append_assoc, ← List.append_assoc]
    exact Path.normalParts_detour (above ++ front) back hx.ne_up

/-- Any number of insertions leave the destination alone. -/
theorem anchor_respelled
    (placement : Placement)
    (h : Relation.ReflTransGen Respelling value value')
    (hplain : IsPlain value) :
    IsPlain value' ∧ placement.anchor value' = placement.anchor value := by
  induction h with
  | refl =>
      exact ⟨hplain, rfl⟩
  | tail _ hstep ih =>
      exact ⟨hstep.isPlain ih.1, (hstep.anchor_eq placement ih.1).trans ih.2⟩

end Respelling

/-- **Destinations have a normal form.**  Where the directory is absolute, every destination starts at the root
and goes down by names alone, and its text leads to the same destination.  A relative path none of whose
components begins with `~` has a destination, and it keeps it under any number of insertions that lead
nowhere. -/
theorem anchor_is_normal_form
    (placement : Placement)
    (habsolute : placement.directory.isAbsolute = true)
    (hdirectory : ∀ part ∈ placement.directory.parts, Path.IsProper part)
    (hhomes : ∀ home ∈ placement.surroundings.homes, ∀ part ∈ home.parts, Path.IsProper part) :
    (∀ value p, placement.anchor value = .file p →
        p.isAbsolute = true ∧
        (∀ part ∈ p.parts, part ≠ [] ∧ part ≠ ("." : Text) ∧ part ≠ (".." : Text)) ∧
        placement.anchor p.toText = .file p) ∧
      ∀ value, IsPlain value →
        ∃ p, placement.anchor value = .file p ∧
          ∀ value', Relation.ReflTransGen Respelling value value' → placement.anchor value' = .file p := by
  constructor
  · intro value p h
    have hproper : ∀ part ∈ p.parts, Path.IsProper part := by
      intro part hpart
      rcases mem_parts_of_anchor habsolute h hpart with hmem | ⟨home, hhome, hmem⟩ | hmem
      · exact hdirectory part hmem
      · exact hhomes home hhome part hmem
      · exact Path.isProper_of_mem_components hmem
    have hrooted : p.IsRooted := by
      obtain ⟨q, -, rfl⟩ := exists_of_anchor habsolute h
      exact ⟨Path.isAbsolute_append q habsolute, Path.up_not_mem_normalParts _⟩
    refine ⟨hrooted.absolute, fun part hpart => ?_, anchor_toText hrooted hproper⟩
    refine ⟨(hproper part hpart).ne_nil, (hproper part hpart).ne_dot, ?_⟩
    rintro rfl
    exact hrooted.down hpart
  · intro value hplain
    refine ⟨_, anchor_of_isPlain placement hplain, fun value' h => ?_⟩
    rw [(anchor_respelled placement h hplain).2]
    exact anchor_of_isPlain placement hplain

/-- A detour, a dot and a repeated slash in one spelling, below a directory that lies one level deep, and a
destination below the home directory of a user. -/
theorem anchor_is_normal_form_detour :
    let directory : Path := ⟨.root, ["d"]⟩
    let surroundings : Surroundings :=
      { directory := directory, home := ⟨.root, ["home"]⟩, users := [("u", ⟨.root, ["home", "u"]⟩)] }
    let placement : Placement := { surroundings := surroundings, baseName := "n", directory := directory }
    let p : Path := ⟨.root, ["b"]⟩
    let q : Path := ⟨.root, ["home", "b"]⟩
    placement.anchor "../b" = .file p ∧
      placement.anchor p.toText = .file p ∧
      placement.anchor "x/../.././/b" = .file p ∧
      placement.anchor "~u/../b" = .file q ∧
      placement.anchor q.toText = .file q := by
  intro directory surroundings placement p q
  have hd : Path.IsProper "d" := ⟨by decide, by decide, by decide⟩
  have hu : Path.IsProper "u" := ⟨by decide, by decide, by decide⟩
  have hhome : Path.IsProper "home" := ⟨by decide, by decide, by decide⟩
  have hnames : ∀ home ∈ surroundings.homes, ∀ part ∈ home.parts, part = "home" ∨ part = "u" := by
    decide
  have hhomes : ∀ home ∈ surroundings.homes, ∀ part ∈ home.parts, Path.IsProper part := by
    intro home hmem part hpart
    rcases hnames home hmem part hpart with rfl | rfl
    · exact hhome
    · exact hu
  obtain ⟨hnormal, hspellings⟩ := anchor_is_normal_form placement rfl
    (fun part hpart => List.mem_singleton.mp hpart ▸ hd) hhomes
  have hvalue : placement.anchor "../b" = .file p := by
    decide
  have huser : placement.anchor "~u/../b" = .file q := by
    decide
  have hplain : IsPlain "../b" := ⟨by decide, by decide⟩
  have hordinary : IsOrdinary "x" := ⟨⟨by decide, by decide, by decide⟩, by decide, by decide⟩
  have hrespelled : Relation.ReflTransGen Respelling "../b" "x/../.././/b" := by
    refine ((Relation.ReflTransGen.single (Respelling.here "../" "b" (Or.inr rfl))).tail
      (Respelling.slash "../." "b")).tail ?_
    exact Respelling.detour [] "x" ".././/b" (Or.inl rfl) hordinary
  obtain ⟨p', hp', hall⟩ := hspellings "../b" hplain
  obtain rfl : p = p' := Destination.file.inj (hvalue.symm.trans hp')
  exact ⟨hvalue, (hnormal "../b" p hvalue).2.2, hall _ hrespelled, huser, (hnormal "~u/../b" q huser).2.2⟩

end Placement
end Literate
