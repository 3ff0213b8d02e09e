import Literate.Proofs.Expansion.Memory
import Mathlib.Data.List.Nodup

/-!
# When a block can be expanded

A block can be expanded exactly when following references from its body never
comes upon a name without blocks, never comes back to the block, and never runs
in a circle.  Otherwise the error shows why.

**Evidence.**  The chain of a cycle is a trail from the block whose last name is
the only one that comes twice; an unknown reference is what a trail from the
block, ending with the blamed name, goes on to.

**Main statements.**
* `resolvable_of_ofBlock`: an expansion that succeeds has met no obstacle.
* `evidence_of_ofBlock`: an expansion that fails shows true evidence.
* `not_resolvable_of_evidence`: evidence is an obstacle.
* `ofBlock_fresh_iff`: the outcome of a call without memory.
-/

namespace Literate

/-- Nothing that is reached from a block stands in the way of its expansion. -/
structure Library.Resolvable (library : Library) (block : Block) : Prop where
  /-- Every name that is reached stands for some block. -/
  found : ∀ name, library.ReachedFrom block name → library.targets name ≠ []
  /-- The name of the block is not reached. -/
  apart : ¬ library.ReachedFrom block block.name
  /-- No name that is reached reaches itself. -/
  acyclic : ∀ name, library.ReachedFrom block name →
    ¬ Relation.TransGen library.Refers name name

/-- What an error has to show. -/
def ReferenceError.Evidence (library : Library) (block : Block) : ReferenceError → Prop
  | .unknown blamed reference =>
      library.targets reference = [] ∧
        ∃ path, (block.name :: path).getLast? = some blamed ∧
          library.Trail block (path ++ [reference])
  | .cycle blamed chain =>
      blamed = block.name ∧
        ∃ path last, chain = block.name :: path ++ [last] ∧
          library.Trail block (path ++ [last]) ∧
          last ∈ block.name :: path ∧
          (block.name :: path).Nodup

namespace Expansion

section Evidence

variable {library : Library} {block : Block}

/-- Evidence is an obstacle. -/
theorem not_resolvable_of_evidence
    {e : ReferenceError}
    (h : e.Evidence library block) :
    ¬ library.Resolvable block := by
  intro hresolvable
  cases e with
  | unknown blamed reference =>
      obtain ⟨hnone, path, -, htrail⟩ := h
      exact hresolvable.found reference (htrail.reachedFrom (by simp)) hnone
  | cycle blamed chain =>
      obtain ⟨-, path, last, -, htrail, hagain, -⟩ := h
      have hreached : library.ReachedFrom block last := htrail.reachedFrom (by simp)
      rcases List.mem_cons.mp hagain with rfl | hmem
      · exact hresolvable.apart hreached
      · exact hresolvable.acyclic last hreached (htrail.transGen_last hmem)

/-- The errors of the first computation have a property. -/
def failsWith (property : ReferenceError → Prop) :
    Simulation (Except ReferenceError) (Except ReferenceError) where
  rel x _ := ∀ e, x = .error e → property e
  rel_pure := by
    intro α a e h
    cases h
  rel_bind := by
    intro α β x y f g hx hf e h
    cases x with
    | error e' =>
        cases h
        exact hx e rfl
    | ok a =>
        exact hf a e h

/-- A look-up at the end of a trail fails only with evidence. -/
theorem evidence_of_resolve
    (library : Library) (block : Block) (chain : List Text) (name : Text) :
    ∀ path, chain = block.name :: path →
      chain.Nodup →
      library.Trail block (path ++ [name]) →
      ∀ e, Plain.resolve library chain name = .error e → e.Evidence library block := by
  induction chain, name using library.chain_induction with
  | step chain name ih =>
      rintro path rfl hnodup htrail e h
      by_cases hused : name ∈ block.name :: path
      · rw [Plain.resolve_of_mem hused] at h
        cases h
        exact ⟨rfl, path, name, rfl, htrail, hused, hnodup⟩
      · by_cases hfound : library.targets name = []
        · rw [Plain.resolve_of_targets_eq_nil hused hfound] at h
          cases h
          refine ⟨hfound, path, ?_, htrail⟩
          rw [List.getLastD_eq_getLast?, List.getLast?_eq_some_getLast (List.cons_ne_nil _ _)]
          rfl
        · rw [Plain.resolve_of_targets_ne_nil hused hfound] at h
          cases hblocks : expandBlocks
              (expandEveryLine (Plain.resolve library (block.name :: path ++ [name])))
              (library.targets name) with
          | ok texts =>
              rw [hblocks] at h
              cases h
          | error e' =>
              rw [hblocks] at h
              cases h
              refine (failsWith _).expandBlocks _
                (Plain.resolve library (block.name :: path ++ [name]))
                (library.targets name) ?_ e hblocks
              intro target htarget hexpands other hother
              apply ih hused hfound other (path ++ [name]) rfl
              · have hnew : ([name] ++ block.name :: path).Nodup :=
                  List.nodup_cons.mpr ⟨hused, hnodup⟩
                exact List.nodup_append_comm.mp hnew
              · exact htrail.snoc ⟨target, htarget, hexpands, hother⟩

theorem evidence_of_ofBlock
    {e : ReferenceError}
    (h : Plain.ofBlock library block = .error e) :
    e.Evidence library block := by
  refine (failsWith _).expandBlock _ (Plain.resolve library [block.name]) block ?_ e h
  intro _ name hname
  exact evidence_of_resolve library block [block.name] name [] rfl (by simp)
    (.singleton hname)

end Evidence

/-- An expansion that succeeds has met no obstacle. -/
theorem resolvable_of_ofBlock
    {library : Library} {block : Block} {text : Text}
    (hexpands : block.params.expandsReferences = true)
    (h : Plain.ofBlock library block = .ok text) :
    library.Resolvable block := by
  rw [Plain.ofBlock, expandBlock, if_pos hexpands] at h
  have hdirect := exists_ok_of_expandEveryLine h
  refine ⟨?_, ?_, ?_⟩
  · rintro name ⟨first, hfirst, hreaches⟩
    obtain ⟨text', hresolve⟩ := hdirect first hfirst
    exact Plain.targets_ne_nil_of_reaches hresolve hreaches
  · rintro ⟨first, hfirst, hreaches⟩
    obtain ⟨text', hresolve⟩ := hdirect first hfirst
    exact Plain.not_mem_of_reaches hresolve hreaches (by simp)
  · rintro name ⟨first, hfirst, hreaches⟩
    obtain ⟨text', hresolve⟩ := hdirect first hfirst
    obtain ⟨chain, text'', -, hname⟩ := Plain.exists_resolve_of_reaches hresolve hreaches
    exact Plain.not_transGen_self hname

/-- **When a block can be expanded.**  A call without earlier ones returns a body exactly when nothing
that is reached from the block stands in the way; otherwise it fails and shows what does. -/
theorem ofBlock_fresh_iff
    (library : Library) (block : Block)
    (hexpands : block.params.expandsReferences = true) :
    ((∃ text, ((ofBlock library block).run {}).1 = .ok text) ↔ library.Resolvable block) ∧
      (¬ library.Resolvable block →
        ∃ e, ((ofBlock library block).run {}).1 = .error e ∧ e.Evidence library block) := by
  rw [run_ofBlock_eq_plain fits_empty]
  cases hresult : Plain.ofBlock library block with
  | ok text =>
      have hresolvable := resolvable_of_ofBlock hexpands hresult
      exact ⟨⟨fun _ => hresolvable, fun _ => ⟨text, rfl⟩⟩, fun hnot => absurd hresolvable hnot⟩
  | error e =>
      have hevidence := evidence_of_ofBlock hresult
      refine ⟨⟨?_, ?_⟩, fun _ => ⟨e, rfl, hevidence⟩⟩
      · rintro ⟨text, h⟩
        cases h
      · intro hresolvable
        exact absurd hresolvable (not_resolvable_of_evidence hevidence)

/-- Two blocks that refer to each other: the call on the first one fails and shows the cycle. -/
theorem ofBlock_fresh_mutual :
    let first := Block.expanding "a" "<<b>>"
    let library : Library := ⟨[first, Block.expanding "b" "x\n  <<a>>"]⟩
    first.params.expandsReferences = true ∧
      ∃ e, ((ofBlock library first).run {}).1 = .error e ∧ e.Evidence library first := by
  intro first library
  refine ⟨by decide, (ofBlock_fresh_iff library first (by decide)).2 ?_⟩
  intro hresolvable
  have hforth : "b".toList ∈ Reference.names first.body := by
    have hname : Reference.names first.body = ["b".toList] := by
      decide +kernel
    simp [hname]
  have hback : library.Refers "b" "a" :=
    ⟨Block.expanding "b" "x\n  <<a>>", by decide, by decide, by decide +kernel⟩
  exact hresolvable.apart ⟨"b", hforth, .single hback⟩

end Expansion
end Literate
