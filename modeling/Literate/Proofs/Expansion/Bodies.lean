import Literate.Expansion
import Literate.Proofs.Reference

/-!
# Expanding bodies

Bodies are expanded by the same recursion whatever resolves their references.
What holds of two resolvers on the references of a body therefore holds of the
two expansions of that body.

**Simulation.**  A relation between the computations of two monads that holds
between pure values and is kept by sequencing.

**Main statements.**
* `expandBody_eq_expandEveryLine`: passing over a body without opening mark
  changes nothing.
* `Simulation.expandBlocks`: related resolvers give related expansions.
* `exists_ok_of_expandBlocks`: an expansion succeeds only when every reference
  in it is resolved.
-/

namespace Literate
namespace Expansion

section Shortcut

variable {m : Type → Type} [Monad m]

/-- A line without references is not changed. -/
theorem expandPieces_of_names_eq_nil
    (resolve : Text → m Text) (out : Text) (ps : List Piece)
    (h : ps.filterMap Piece.name? = []) :
    expandPieces resolve out ps = pure (out ++ ps.flatMap Piece.text) := by
  induction ps generalizing out with
  | nil =>
      simp [expandPieces]
  | cons p ps ih =>
      cases p with
      | literal t =>
          rw [expandPieces, ih (out ++ t) h]
          simp [Piece.text]
      | reference name =>
          simp at h

variable [LawfulMonad m]

/-- Lines without references are not changed. -/
theorem expandLines_of_names_eq_nil
    (resolve : Text → m Text) (lines : List Text)
    (h : lines.flatMap Reference.names = []) :
    expandLines resolve lines = pure lines := by
  induction lines with
  | nil =>
      rfl
  | cons line lines ih =>
      simp only [List.flatMap_cons, List.append_eq_nil_iff] at h
      have hline := expandPieces_of_names_eq_nil resolve [] (Reference.pieces line) h.1
      rw [Reference.text_pieces, List.nil_append] at hline
      rw [expandLines, hline, ih h.2]
      simp

/-- A body without opening mark may be passed over. -/
theorem expandBody_eq_expandEveryLine
    (resolve : Text → m Text) (body : Text) :
    expandBody resolve body = expandEveryLine resolve body := by
  cases hmark : Text.includes "<<" body with
  | true =>
      rw [expandBody, if_pos hmark]
  | false =>
      have hnames := Reference.names_eq_nil_of_includes body hmark
      rw [Reference.names_eq_flatMap_lines] at hnames
      have hjoin : Text.join "\n" (Text.splitOn '\n' body) = body :=
        Text.join_splitOn '\n' body
      rw [expandEveryLine, expandLines_of_names_eq_nil resolve _ hnames, pure_bind, hjoin,
        expandBody, if_neg (Bool.eq_false_iff.mp hmark)]

end Shortcut

/-- A relation between computations that sequencing keeps. -/
structure Simulation (m n : Type → Type) [Monad m] [Monad n] where
  /-- The relation. -/
  rel : {α : Type} → m α → n α → Prop
  /-- It holds between equal values. -/
  rel_pure : ∀ {α : Type} (a : α), rel (pure a : m α) (pure a : n α)
  /-- It is kept by sequencing. -/
  rel_bind : ∀ {α β : Type} {x : m α} {y : n α} {f : α → m β} {g : α → n β},
    rel x y → (∀ a, rel (f a) (g a)) → rel (x >>= f) (y >>= g)

namespace Simulation

variable {m n : Type → Type} [Monad m] [Monad n] (S : Simulation m n)
variable (resolve : Text → m Text) (resolve' : Text → n Text)

theorem expandPieces
    (out : Text) (ps : List Piece)
    (h : ∀ name ∈ ps.filterMap Piece.name?, S.rel (resolve name) (resolve' name)) :
    S.rel (Expansion.expandPieces resolve out ps) (Expansion.expandPieces resolve' out ps) := by
  induction ps generalizing out with
  | nil =>
      exact S.rel_pure out
  | cons p ps ih =>
      cases p with
      | literal t =>
          exact ih (out ++ t) h
      | reference name =>
          simp only [Reference.filterMap_reference, List.mem_cons, forall_eq_or_imp] at h
          exact S.rel_bind h.1 fun inserted => ih (splice out inserted) h.2

theorem expandLines
    (lines : List Text)
    (h : ∀ name ∈ lines.flatMap Reference.names, S.rel (resolve name) (resolve' name)) :
    S.rel (Expansion.expandLines resolve lines) (Expansion.expandLines resolve' lines) := by
  induction lines with
  | nil =>
      exact S.rel_pure []
  | cons line lines ih =>
      simp only [List.flatMap_cons, List.mem_append] at h
      refine S.rel_bind (S.expandPieces resolve resolve' [] _ fun name hname => h name (Or.inl hname)) ?_
      intro first
      refine S.rel_bind (ih fun name hname => h name (Or.inr hname)) ?_
      intro others
      exact S.rel_pure (first :: others)

theorem expandEveryLine
    (body : Text)
    (h : ∀ name ∈ Reference.names body, S.rel (resolve name) (resolve' name)) :
    S.rel (Expansion.expandEveryLine resolve body)
      (Expansion.expandEveryLine resolve' body) := by
  rw [Reference.names_eq_flatMap_lines] at h
  refine S.rel_bind (S.expandLines resolve resolve' _ h) ?_
  intro lines
  exact S.rel_pure (Text.join "\n" lines)

theorem expandBlock
    (block : Block)
    (h : block.params.expandsReferences = true →
      ∀ name ∈ Reference.names block.body, S.rel (resolve name) (resolve' name)) :
    S.rel (Expansion.expandBlock (Expansion.expandEveryLine resolve) block)
      (Expansion.expandBlock (Expansion.expandEveryLine resolve') block) := by
  unfold Expansion.expandBlock
  split
  · rename_i hexpands
    exact S.expandEveryLine resolve resolve' block.body (h hexpands)
  · exact S.rel_pure block.body

/-- Related resolvers give related expansions of blocks. -/
theorem expandBlocks
    (blocks : List Block)
    (h : ∀ block ∈ blocks, block.params.expandsReferences = true →
      ∀ name ∈ Reference.names block.body, S.rel (resolve name) (resolve' name)) :
    S.rel (Expansion.expandBlocks (Expansion.expandEveryLine resolve) blocks)
      (Expansion.expandBlocks (Expansion.expandEveryLine resolve') blocks) := by
  induction blocks with
  | nil =>
      exact S.rel_pure []
  | cons block blocks ih =>
      simp only [List.mem_cons, forall_eq_or_imp] at h
      refine S.rel_bind (S.expandBlock resolve resolve' block h.1) ?_
      intro first
      refine S.rel_bind (ih h.2) ?_
      intro others
      exact S.rel_pure (first :: others)

end Simulation

section Success

variable {ε : Type} {resolve : Text → Except ε Text}

/-- A sequence succeeds only when its first part does. -/
theorem exists_ok_of_bind
    {α β : Type} {x : Except ε α} {f : α → Except ε β} {b : β}
    (h : (x >>= f) = .ok b) :
    ∃ a, x = .ok a ∧ f a = .ok b := by
  cases x with
  | error e =>
      cases h
  | ok a =>
      exact ⟨a, rfl, h⟩

theorem exists_ok_of_expandPieces
    {out result : Text} {ps : List Piece}
    (h : expandPieces resolve out ps = .ok result) :
    ∀ name ∈ ps.filterMap Piece.name?, ∃ text, resolve name = .ok text := by
  induction ps generalizing out with
  | nil =>
      simp
  | cons p ps ih =>
      cases p with
      | literal t =>
          exact ih h
      | reference name =>
          obtain ⟨inserted, hresolve, hrest⟩ := exists_ok_of_bind h
          simp only [Reference.filterMap_reference, List.mem_cons, forall_eq_or_imp]
          exact ⟨⟨inserted, hresolve⟩, ih hrest⟩

theorem exists_ok_of_expandLines
    {lines result : List Text}
    (h : expandLines resolve lines = .ok result) :
    ∀ name ∈ lines.flatMap Reference.names, ∃ text, resolve name = .ok text := by
  induction lines generalizing result with
  | nil =>
      simp
  | cons line lines ih =>
      obtain ⟨first, hfirst, h⟩ := exists_ok_of_bind h
      obtain ⟨others, hothers, -⟩ := exists_ok_of_bind h
      simp only [List.flatMap_cons, List.mem_append]
      rintro name (hname | hname)
      · exact exists_ok_of_expandPieces hfirst name hname
      · exact ih hothers name hname

theorem exists_ok_of_expandEveryLine
    {body result : Text}
    (h : expandEveryLine resolve body = .ok result) :
    ∀ name ∈ Reference.names body, ∃ text, resolve name = .ok text := by
  obtain ⟨lines, hlines, -⟩ := exists_ok_of_bind h
  rw [Reference.names_eq_flatMap_lines]
  exact exists_ok_of_expandLines hlines

/-- The expansion of blocks succeeds only when every reference in them is resolved. -/
theorem exists_ok_of_expandBlocks
    {blocks : List Block} {result : List Text}
    (h : expandBlocks (expandEveryLine resolve) blocks = .ok result) :
    ∀ block ∈ blocks, block.params.expandsReferences = true →
      ∀ name ∈ Reference.names block.body, ∃ text, resolve name = .ok text := by
  induction blocks generalizing result with
  | nil =>
      simp
  | cons block blocks ih =>
      obtain ⟨first, hfirst, h⟩ := exists_ok_of_bind h
      obtain ⟨others, hothers, -⟩ := exists_ok_of_bind h
      simp only [List.mem_cons, forall_eq_or_imp]
      refine ⟨?_, ih hothers⟩
      intro hexpands
      rw [expandBlock, if_pos hexpands] at hfirst
      exact exists_ok_of_expandEveryLine hfirst

end Success

end Expansion
end Literate
