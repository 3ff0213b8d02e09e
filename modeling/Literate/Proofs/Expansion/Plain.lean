import Literate.Proofs.Expansion.Bodies
import Mathlib.Logic.Relation

/-!
# Expansion without memory

This module defines the expansion of references in its plainest form, which
looks every name up again each time and expands every body line by line, and
connects it to the graph of references.

**Graph.**  A name refers to another one when the other one is referenced by the
body of a block that the name stands for and that asks for expansion.

**Main statements.**
* `exists_resolve_of_reaches`: when a name is resolved, so is every name that it
  reaches, by a chain that holds at least the same names.
* `not_mem_of_reaches`, `targets_ne_nil_of_reaches`, `not_transGen_self`: what a
  resolved name reaches is not on the chain, stands for some block, and does
  not lie on a cycle through the name.
* `resolve_of_disjoint`: the chain matters only as far as it meets the names
  that are reached.
-/

namespace Literate

namespace Library

/-- A name refers to the references in the expanding blocks that it stands for. -/
def Refers (library : Library) (name other : Text) : Prop :=
  ∃ target ∈ library.targets name,
    target.params.expandsReferences = true ∧ other ∈ Reference.names target.body

/-- A name reaches itself and what the names that it reaches refer to. -/
abbrev Reaches (library : Library) : Text → Text → Prop :=
  Relation.ReflTransGen library.Refers

/-- Induction over the chains of names: each step takes one more name that stands for some block. -/
theorem chain_induction
    (library : Library)
    {motive : List Text → Text → Prop}
    (step : ∀ chain name,
      (name ∉ chain → library.targets name ≠ [] → ∀ other, motive (chain ++ [name]) other) →
      motive chain name)
    (chain : List Text) (name : Text) :
    motive chain name := by
  induction hn : library.unused chain using Nat.strongRecOn generalizing chain name with
  | ind n ih =>
      apply step
      intro hnew hfound other
      obtain ⟨first, others, htargets⟩ := List.exists_cons_of_ne_nil hfound
      have hless : library.unused (chain ++ [name]) < library.unused chain :=
        unused_lt (by simpa using hnew) htargets
      exact ih _ (hn ▸ hless) (chain ++ [name]) other rfl

end Library

namespace Expansion

namespace Plain

/-- What a name stands for, reached by a chain of names. -/
def resolve (library : Library) (chain : List Text) (name : Text) : Except ReferenceError Text :=
  if _used : chain.contains name then
    .error (.cycle (chain.headD []) (chain ++ [name]))
  else
    match _found : library.targets name with
    | [] => .error (.unknown (chain.getLastD []) name)
    | first :: others => do
        let expand := expandEveryLine fun other => resolve library (chain ++ [name]) other
        let texts ← expandBlocks expand (first :: others)
        .ok (Text.join "\n" texts)
termination_by library.unused chain
decreasing_by exact Library.unused_lt _used _found

/-- The body of a block with its references expanded when it asks for it. -/
def ofBlock (library : Library) (block : Block) : Except ReferenceError Text :=
  expandBlock (expandEveryLine (resolve library [block.name])) block

section Equations

variable {library : Library} {chain : List Text} {name : Text}

theorem resolve_of_mem
    (h : name ∈ chain) :
    resolve library chain name =
      .error (.cycle (chain.headD []) (chain ++ [name])) := by
  rw [resolve, dif_pos (by simpa using h)]

theorem resolve_of_targets_eq_nil
    (hnew : name ∉ chain)
    (h : library.targets name = []) :
    resolve library chain name =
      .error (.unknown (chain.getLastD []) name) := by
  rw [resolve, dif_neg (by simpa using hnew)]
  split
  · rfl
  · rename_i htargets
    rw [h] at htargets
    cases htargets

theorem resolve_of_targets_ne_nil
    (hnew : name ∉ chain)
    (h : library.targets name ≠ []) :
    resolve library chain name = (do
      let texts ← expandBlocks (expandEveryLine (resolve library (chain ++ [name])))
        (library.targets name)
      .ok (Text.join "\n" texts)) := by
  rw [resolve, dif_neg (by simpa using hnew)]
  split
  · rename_i htargets
    exact absurd htargets h
  · rename_i htargets
    rw [htargets]

/-- All that a resolved name tells. -/
theorem resolve_eq_ok_iff
    {text : Text} :
    resolve library chain name = .ok text
      ↔
    name ∉ chain ∧
      library.targets name ≠ [] ∧
      ∃ texts,
        expandBlocks (expandEveryLine (resolve library (chain ++ [name])))
          (library.targets name) = .ok texts ∧
        text = Text.join "\n" texts := by
  by_cases hused : name ∈ chain
  · simp [resolve_of_mem hused, hused]
  · by_cases hfound : library.targets name = []
    · simp [resolve_of_targets_eq_nil hused hfound, hfound]
    · rw [resolve_of_targets_ne_nil hused hfound]
      constructor
      · intro h
        obtain ⟨texts, htexts, h⟩ := exists_ok_of_bind h
        cases h
        exact ⟨hused, hfound, texts, htexts, rfl⟩
      · rintro ⟨-, -, texts, htexts, rfl⟩
        rw [htexts]
        rfl

end Equations

section Graph

variable {library : Library} {chain : List Text} {name other text : Text}

/-- When a name is resolved, so are the names that it refers to. -/
theorem exists_resolve_of_refers
    (h : resolve library chain name = .ok text)
    (hrefers : library.Refers name other) :
    ∃ text', resolve library (chain ++ [name]) other = .ok text' := by
  obtain ⟨-, -, texts, htexts, -⟩ := resolve_eq_ok_iff.mp h
  obtain ⟨target, htarget, hexpands, hother⟩ := hrefers
  exact exists_ok_of_expandBlocks htexts target htarget hexpands other hother

/-- When a name is resolved, so is every name that it reaches. -/
theorem exists_resolve_of_reaches
    (h : resolve library chain name = .ok text)
    (hreaches : library.Reaches name other) :
    ∃ chain' text',
      chain ⊆ chain' ∧ resolve library chain' other = .ok text' := by
  induction hreaches with
  | refl =>
      exact ⟨chain, text, List.Subset.refl chain, h⟩
  | @tail middle last _ hrefers ih =>
      obtain ⟨chain', text', hsubset, hresolve⟩ := ih
      obtain ⟨text'', hlast⟩ := exists_resolve_of_refers hresolve hrefers
      exact ⟨chain' ++ [middle], text'',
        List.subset_append_of_subset_left _ hsubset, hlast⟩

/-- A resolved name reaches no name of the chain. -/
theorem not_mem_of_reaches
    (h : resolve library chain name = .ok text)
    (hreaches : library.Reaches name other) :
    other ∉ chain := by
  obtain ⟨chain', text', hsubset, hresolve⟩ := exists_resolve_of_reaches h hreaches
  intro hmem
  exact (resolve_eq_ok_iff.mp hresolve).1 (hsubset hmem)

/-- Every name that a resolved name reaches stands for some block. -/
theorem targets_ne_nil_of_reaches
    (h : resolve library chain name = .ok text)
    (hreaches : library.Reaches name other) :
    library.targets other ≠ [] := by
  obtain ⟨chain', text', -, hresolve⟩ := exists_resolve_of_reaches h hreaches
  exact (resolve_eq_ok_iff.mp hresolve).2.1

/-- A resolved name does not lie on a cycle. -/
theorem not_transGen_self
    (h : resolve library chain name = .ok text) :
    ¬ Relation.TransGen library.Refers name name := by
  intro hcycle
  obtain ⟨next, hrefers, hback⟩ := Relation.TransGen.head'_iff.mp hcycle
  obtain ⟨text', hnext⟩ := exists_resolve_of_refers h hrefers
  exact not_mem_of_reaches hnext hback (by simp)

end Graph

section Transfer

variable {ε : Type}

/-- The second computation succeeds whenever the first one does, with the same value. -/
def extension : Simulation (Except ε) (Except ε) where
  rel x y := ∀ a, x = .ok a → y = .ok a
  rel_pure := fun _ _ h => h
  rel_bind := by
    intro α β x y f g hxy hfg b h
    obtain ⟨a, hx, hf⟩ := exists_ok_of_bind h
    rw [hxy a hx]
    exact hfg a b hf

/-- A name that is resolved by one chain is resolved alike by every chain that it does not reach. -/
theorem resolve_of_disjoint
    (library : Library) (chain : List Text) (name : Text) :
    ∀ {chain' : List Text} {text : Text},
      resolve library chain name = .ok text →
      (∀ used ∈ chain', ¬ library.Reaches name used) →
      resolve library chain' name = .ok text := by
  induction chain, name using library.chain_induction with
  | step chain name ih =>
      intro chain' text h hdisjoint
      obtain ⟨hnew, hfound, texts, htexts, htext⟩ := resolve_eq_ok_iff.mp h
      have hnew' : name ∉ chain' := fun hmem => hdisjoint name hmem .refl
      refine resolve_eq_ok_iff.mpr ⟨hnew', hfound, texts, ?_, htext⟩
      refine extension.expandBlocks _ _ _ ?_ texts htexts
      intro target htarget hexpands other hother text' htext'
      have hrefers : library.Refers name other := ⟨target, htarget, hexpands, hother⟩
      apply ih hnew hfound other htext'
      intro used hused hreaches
      rcases List.mem_append.mp hused with hused | hused
      · exact hdisjoint used hused (.head hrefers hreaches)
      · rw [List.mem_singleton] at hused
        exact not_mem_of_reaches htext' hreaches (by simp [hused])

end Transfer

end Plain

end Expansion
end Literate
