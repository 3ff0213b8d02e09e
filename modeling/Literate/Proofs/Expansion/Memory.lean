import Literate.Proofs.Expansion.Trail

/-!
# The memory of an expansion cannot be seen

An expansion remembers what names stand for, also beyond a call that fails.
What is remembered was found by some other chain of names, so it has to be shown
that the present chain would have led to the same text, and not to a cycle.

**Invariants.**  `Memo.Faithful` says that every remembered text is what its name
stands for when it is looked up on its own.  It is kept by every call.
`Memo.Fits` says in addition that no remembered name leads from a block back to
that block; under it a call on the block gives what the expansion without memory
gives.

**Main statements.**
* `run_resolve_cases`, packed into `tracks_resolve`: all that one look-up can do.
* `tracks_ofBlock`: a call on a block under a memory that fits.
* `answers_eq_plain`: in any sequence of calls, a call on the first block with
  its name is answered as if there were no memory.
-/

namespace Literate

/-- Every remembered text is what its name stands for. -/
def Memo.Faithful (library : Library) (memo : Memo) : Prop :=
  ∀ name text, memo.known.get? name = some text →
    Expansion.Plain.resolve library [] name = .ok text

/-- A faithful memory in which no name leads from a block back to the block. -/
structure Memo.Fits (library : Library) (block : Block) (memo : Memo) : Prop where
  /-- Every remembered text is what its name stands for. -/
  faithful : memo.Faithful library
  /-- A remembered name that the block reaches does not reach the block. -/
  apart : ∀ name text, memo.known.get? name = some text →
    library.ReachedFrom block name → ¬ library.Reaches name block.name

namespace Expansion

section Running

variable {α β : Type}

theorem run_bind
    (x : Expansion α) (f : α → Expansion β) (memo : Memo) :
    (x >>= f).run memo =
      match x.run memo with
      | (.ok a, memo') => (f a).run memo'
      | (.error e, memo') => (.error e, memo') := by
  show (match x.run memo with | (r, memo') => (ExceptT.bindCont f r) memo') = _
  rcases x.run memo with ⟨r, memo'⟩
  cases r with
  | error e =>
      rfl
  | ok a =>
      rfl

theorem run_get
    (memo : Memo) :
    (get : Expansion Memo).run memo = (.ok memo, memo) := by
  rfl

/-- The memory after a name has been remembered. -/
def remembered (name text : Text) (count : Nat) (memo : Memo) : Memo :=
  ((remember name text count).run memo).2

theorem known_remembered
    (name text : Text) (count : Nat) (memo : Memo) :
    (remembered name text count memo).known = memo.known.insert name text := by
  rfl

/-- All that one look-up can do. -/
theorem run_resolve_cases
    (library : Library) (chain : List Text) (name : Text) (memo : Memo) :
    (name ∈ chain ∧
      (resolve library chain name).run memo =
        (.error (.cycle (chain.headD []) (chain ++ [name])), memo)) ∨
    (name ∉ chain ∧ ∃ text, memo.known.get? name = some text ∧
      (resolve library chain name).run memo = (.ok text, memo)) ∨
    (name ∉ chain ∧ library.targets name = [] ∧
      (resolve library chain name).run memo =
        (.error (.unknown (chain.getLastD []) name), memo)) ∨
    (name ∉ chain ∧ library.targets name ≠ [] ∧
      (resolve library chain name).run memo =
        match (expandBlocks (expandEveryLine (resolve library (chain ++ [name])))
            (library.targets name)).run memo with
        | (.ok texts, memo') =>
            (.ok (Text.join "\n" texts),
              remembered name (Text.join "\n" texts) (library.targets name).length memo')
        | (.error e, memo') => (.error e, memo')) := by
  by_cases hused : name ∈ chain
  · left
    rw [resolve, dif_pos (by simpa using hused)]
    exact ⟨hused, rfl⟩
  · right
    rw [resolve, dif_neg (by simpa using hused), run_bind, run_get]
    dsimp only
    cases hknown : memo.known.get? name with
    | some text =>
        exact Or.inl ⟨hused, text, rfl, rfl⟩
    | none =>
        right
        dsimp only
        split
        · rename_i htargets
          exact Or.inl ⟨hused, htargets, rfl⟩
        · rename_i first others htargets
          right
          refine ⟨hused, by simp [htargets], ?_⟩
          rw [run_bind, funext (expandBody_eq_expandEveryLine _), htargets]
          rcases (expandBlocks (expandEveryLine (resolve library (chain ++ [name])))
            (first :: others)).run memo with ⟨r, memo'⟩
          cases r with
          | error e =>
              rfl
          | ok texts =>
              rfl

end Running

/-- The second computation succeeds whenever the first one does, with the same value, and the first one
keeps an invariant.  A strict simulation also asks for the same errors. -/
def tracks (invariant : Memo → Prop) (strict : Prop) :
    Simulation Expansion (Except ReferenceError) where
  rel x y := ∀ memo, invariant memo →
    invariant (x.run memo).2 ∧
      (∀ a, (x.run memo).1 = .ok a → y = .ok a) ∧
      (strict → ∀ e, (x.run memo).1 = .error e → y = .error e)
  rel_pure := by
    intro α a memo hmemo
    refine ⟨hmemo, ?_, ?_⟩
    · intro a' h
      cases h
      rfl
    · intro _ e h
      cases h
  rel_bind := by
    intro α β x y f g hxy hfg memo hmemo
    obtain ⟨hkept, hok, herror⟩ := hxy memo hmemo
    rw [run_bind]
    rcases hrun : x.run memo with ⟨r, memo'⟩
    rw [hrun] at hkept hok herror
    cases r with
    | error e =>
        refine ⟨hkept, ?_, ?_⟩
        · intro b h
          cases h
        · intro hstrict e' h
          cases h
          rw [herror hstrict e rfl]
          rfl
    | ok a =>
        rw [hok a rfl]
        exact hfg a memo' hkept

section LookUp

variable {library : Library} {chain : List Text} {name : Text}

/-- A look-up follows a computation that does so in every case of it. -/
theorem tracks_resolve
    {invariant : Memo → Prop} {strict : Prop}
    {y : Except ReferenceError Text} {z : Except ReferenceError (List Text)}
    (hcycle : strict → name ∈ chain →
      y = .error (.cycle (chain.headD []) (chain ++ [name])))
    (hknown : name ∉ chain → ∀ memo text, invariant memo →
      memo.known.get? name = some text → y = .ok text)
    (hunknown : strict → name ∉ chain → library.targets name = [] →
      y = .error (.unknown (chain.getLastD []) name))
    (hblocks : name ∉ chain → library.targets name ≠ [] →
      (tracks invariant strict).rel
        (expandBlocks (expandEveryLine (resolve library (chain ++ [name]))) (library.targets name)) z)
    (hfails : strict → name ∉ chain → library.targets name ≠ [] →
      ∀ e, z = .error e → y = .error e)
    (hsucceeds : name ∉ chain → library.targets name ≠ [] →
      ∀ texts, z = .ok texts → y = .ok (Text.join "\n" texts))
    (hkeeps : name ∉ chain → ∀ text count memo, y = .ok text → invariant memo →
      invariant (remembered name text count memo)) :
    (tracks invariant strict).rel (resolve library chain name) y := by
  intro memo hmemo
  rcases run_resolve_cases library chain name memo with
    ⟨hused, hrun⟩ | ⟨hnew, text, htext, hrun⟩ | ⟨hnew, htargets, hrun⟩ | ⟨hnew, htargets, hrun⟩
  · rw [hrun]
    refine ⟨hmemo, ?_, ?_⟩
    · intro a h
      cases h
    · intro hstrict e h
      cases h
      exact hcycle hstrict hused
  · rw [hrun]
    refine ⟨hmemo, ?_, ?_⟩
    · intro a h
      cases h
      exact hknown hnew memo text hmemo htext
    · intro _ e h
      cases h
  · rw [hrun]
    refine ⟨hmemo, ?_, ?_⟩
    · intro a h
      cases h
    · intro hstrict e h
      cases h
      exact hunknown hstrict hnew htargets
  · obtain ⟨hkept, hok, herror⟩ := hblocks hnew htargets memo hmemo
    rw [hrun]
    rcases hinner : (expandBlocks (expandEveryLine (resolve library (chain ++ [name])))
      (library.targets name)).run memo with ⟨r, memo'⟩
    rw [hinner] at hkept hok herror
    cases r with
    | error e =>
        refine ⟨hkept, ?_, ?_⟩
        · intro a h
          cases h
        · intro hstrict e' h
          cases h
          exact hfails hstrict hnew htargets e (herror hstrict e rfl)
    | ok texts =>
        have hy := hsucceeds hnew htargets texts (hok texts rfl)
        refine ⟨hkeeps hnew _ _ memo' hy hkept, ?_, ?_⟩
        · intro a h
          cases h
          exact hy
        · intro _ e h
          cases h

end LookUp

section Faithful

variable {library : Library}

theorem faithful_empty : ({} : Memo).Faithful library := by
  intro name text h
  cases h

theorem faithful_remembered
    {memo : Memo} {name text : Text} (count : Nat)
    (h : memo.Faithful library)
    (hname : Plain.resolve library [] name = .ok text) :
    (remembered name text count memo).Faithful library := by
  intro name' text' h'
  rw [known_remembered, Dictionary.get?_insert] at h'
  split at h'
  · rename_i hsame
    subst hsame
    cases h'
    exact hname
  · exact h name' text' h'

/-- When all references of a name are resolved on their own, so is the name. -/
theorem resolve_nil_of_expandBlocks
    {name : Text} {texts : List Text}
    (hfound : library.targets name ≠ [])
    (h : expandBlocks (expandEveryLine (Plain.resolve library [])) (library.targets name) =
      .ok texts) :
    Plain.resolve library [] name = .ok (Text.join "\n" texts) := by
  refine Plain.resolve_eq_ok_iff.mpr ⟨by simp, hfound, texts, ?_, rfl⟩
  refine Plain.extension.expandBlocks _ _ _ ?_ texts h
  intro target htarget hexpands other hother text hresolve
  apply Plain.resolve_of_disjoint library [] other hresolve
  -- a way back from the reference to the name would close a cycle through the reference
  intro used hused hreaches
  have hrefers : library.Refers name other := ⟨target, htarget, hexpands, hother⟩
  have hname : used = name := by simpa using hused
  subst hname
  exact Plain.not_transGen_self hresolve (.tail' hreaches hrefers)

/-- Every look-up keeps the memory faithful, whatever the chain. -/
theorem tracks_resolve_faithful
    (library : Library) (chain : List Text) (name : Text) :
    (tracks (Memo.Faithful library) False).rel
      (resolve library chain name) (Plain.resolve library [] name) := by
  induction chain, name using library.chain_induction with
  | step chain name ih =>
      apply tracks_resolve
        (z := expandBlocks (expandEveryLine (Plain.resolve library [])) (library.targets name))
      · exact False.elim
      · intro _ memo text hmemo htext
        exact hmemo name text htext
      · exact False.elim
      · intro hnew hfound
        apply (tracks (Memo.Faithful library) False).expandBlocks
        intro _ _ _ other _
        exact ih hnew hfound other
      · exact False.elim
      · intro _ hfound texts h
        exact resolve_nil_of_expandBlocks hfound h
      · intro _ text count memo hname hmemo
        exact faithful_remembered count hmemo hname

/-- Every call keeps the memory faithful, also one that fails. -/
theorem faithful_run_ofBlock
    (block : Block) {memo : Memo}
    (h : memo.Faithful library) :
    ((ofBlock library block).run memo).2.Faithful library := by
  rw [ofBlock, funext (expandBody_eq_expandEveryLine _)]
  have htracks :=
    (tracks (Memo.Faithful library) False).expandBlock _ _ block fun _ name _ =>
      tracks_resolve_faithful library [block.name] name
  exact (htracks memo h).1

end Faithful

section Fits

variable {library : Library} {block : Block}

theorem fits_empty : ({} : Memo).Fits library block where
  faithful := faithful_empty
  apart := by
    intro name text h
    cases h

/-- A name on which a cycle lies is not remembered, so that a faithful memory fits the first block
with its name. -/
theorem fits_of_faithful
    {memo : Memo}
    (hfirst : library.named block.name = some block)
    (hexpands : block.params.expandsReferences = true)
    (h : memo.Faithful library) :
    memo.Fits library block where
  faithful := h
  apart := by
    rintro name text htext ⟨first, hmem, hforth⟩ hback
    have htargets : library.targets block.name = [block] := by
      simp [Library.targets, hfirst]
    have hrefers : library.Refers block.name first :=
      ⟨block, by simp [htargets], hexpands, hmem⟩
    have hcycle : Relation.TransGen library.Refers name name :=
      .trans_left (.tail' hback hrefers) hforth
    exact Plain.not_transGen_self (h name text htext) hcycle

/-- Under a memory that fits the block, a look-up at the end of a trail from the block gives what the
expansion without memory gives. -/
theorem tracks_resolve_fits
    (library : Library) (block : Block) (chain : List Text) (name : Text) :
    ∀ path, chain = block.name :: path →
      library.Trail block (path ++ [name]) →
      (tracks (Memo.Fits library block) True).rel
        (resolve library chain name) (Plain.resolve library chain name) := by
  induction chain, name using library.chain_induction with
  | step chain name ih =>
      rintro path rfl htrail
      apply tracks_resolve
        (z := expandBlocks
          (expandEveryLine (Plain.resolve library (block.name :: path ++ [name])))
          (library.targets name))
      · intro _ hused
        exact Plain.resolve_of_mem hused
      · intro _ memo text hmemo htext
        have hresolve := hmemo.faithful name text htext
        apply Plain.resolve_of_disjoint library [] name hresolve
        intro used hused hreaches
        rcases List.mem_cons.mp hused with rfl | hused
        · exact hmemo.apart name text htext (htrail.reachedFrom (by simp)) hreaches
        · exact Plain.not_transGen_self hresolve
            (.trans_right hreaches (htrail.transGen_last hused))
      · intro _ hnew hfound
        exact Plain.resolve_of_targets_eq_nil hnew hfound
      · intro hnew hfound
        apply (tracks (Memo.Fits library block) True).expandBlocks
        intro target htarget hexpands other hother
        apply ih hnew hfound other (path ++ [name]) rfl
        exact htrail.snoc ⟨target, htarget, hexpands, hother⟩
      · intro _ hnew hfound e h
        rw [Plain.resolve_of_targets_ne_nil hnew hfound, h]
        rfl
      · intro hnew hfound texts h
        exact Plain.resolve_eq_ok_iff.mpr ⟨hnew, hfound, texts, h, rfl⟩
      · intro _ text count memo hname hmemo
        have halone : Plain.resolve library [] name = .ok text :=
          Plain.resolve_of_disjoint library _ name hname (by simp)
        refine ⟨faithful_remembered count hmemo.faithful halone, ?_⟩
        intro name' text' h' hreached hback
        rw [known_remembered, Dictionary.get?_insert] at h'
        split at h'
        · rename_i hsame
          subst hsame
          exact Plain.not_mem_of_reaches hname hback (by simp)
        · exact hmemo.apart name' text' h' hreached hback

/-- Under a memory that fits the block, a call on it gives what the expansion without memory gives. -/
theorem tracks_ofBlock
    (library : Library) (block : Block) :
    (tracks (Memo.Fits library block) True).rel
      (ofBlock library block) (Plain.ofBlock library block) := by
  rw [ofBlock, funext (expandBody_eq_expandEveryLine _)]
  apply (tracks (Memo.Fits library block) True).expandBlock
  intro _ name hname
  exact tracks_resolve_fits library block [block.name] name [] rfl (.singleton hname)

theorem run_ofBlock_eq_plain
    {memo : Memo}
    (h : memo.Fits library block) :
    ((ofBlock library block).run memo).1 = Plain.ofBlock library block := by
  obtain ⟨-, hok, herror⟩ := tracks_ofBlock library block memo h
  cases hresult : ((ofBlock library block).run memo).1 with
  | ok text =>
      exact (hok text hresult).symm
  | error e =>
      exact (herror trivial e hresult).symm

end Fits

/-- The answers to calls made one after another, each with the memory that the earlier ones left. -/
def answers (library : Library) (memo : Memo) : List Block → List (Except ReferenceError Text)
  | [] => []
  | block :: rest =>
      ((ofBlock library block).run memo).1 ::
        answers library ((ofBlock library block).run memo).2 rest

/-- A call on the first block with its name is answered as if there were no memory. -/
theorem run_ofBlock_of_faithful
    {library : Library} {block : Block} {memo : Memo}
    (hfirst : library.named block.name = some block)
    (h : memo.Faithful library) :
    ((ofBlock library block).run memo).1 = Plain.ofBlock library block := by
  by_cases hexpands : block.params.expandsReferences = true
  · exact run_ofBlock_eq_plain (fits_of_faithful hfirst hexpands h)
  · rw [ofBlock, Plain.ofBlock, expandBlock, expandBlock, if_neg hexpands, if_neg hexpands]
    rfl

theorem answers_of_faithful
    {library : Library} {calls : List Block} {memo : Memo} {i : Nat} {block : Block}
    (h : memo.Faithful library)
    (hcall : calls[i]? = some block)
    (hfirst : library.named block.name = some block) :
    (answers library memo calls)[i]? = some (Plain.ofBlock library block) := by
  induction calls generalizing memo i with
  | nil =>
      simp at hcall
  | cons call calls ih =>
      cases i with
      | zero =>
          simp only [List.getElem?_cons_zero, Option.some.injEq] at hcall
          subst hcall
          simp [answers, run_ofBlock_of_faithful hfirst h]
      | succ i =>
          simp only [List.getElem?_cons_succ] at hcall
          simp only [answers, List.getElem?_cons_succ]
          exact ih (faithful_run_ofBlock call h) hcall

/-- **The memory cannot be seen.**  Whatever calls came before, and whether or not they failed, a call on
the first block with its name gives the body or the error of the expansion without memory. -/
theorem answers_eq_plain
    (library : Library) (calls : List Block) (i : Nat) (block : Block)
    (hcall : calls[i]? = some block)
    (hfirst : library.named block.name = some block) :
    (answers library {} calls)[i]? = some (Plain.ofBlock library block) :=
  answers_of_faithful faithful_empty hcall hfirst

/-- The first call below fails after two names have been remembered, the second one is about one of them. -/
theorem answers_eq_plain_after_failure :
    let top := Block.expanding "top" "<<left>> <<gone>>"
    let left := Block.expanding "left" "<<leaf>>"
    let library : Library := ⟨[top, left, Block.expanding "leaf" "x"]⟩
    library.named left.name = some left ∧
      (answers library {} [top, left])[1]? = some (Plain.ofBlock library left) :=
  ⟨by decide, answers_eq_plain _ _ 1 _ rfl (by decide)⟩

end Expansion
end Literate
