import Literate.Proofs.Expansion.Plain
import Mathlib.Data.List.Chain

/-!
# Trails of references

A trail is a list of names that starts with a reference in the body of a block
and in which every name refers to the next one.  It is what a chain of the
expansion holds after the name of the block, and what an error shows as its
evidence.

**Main statements.**
* `Trail.snoc`: a trail goes on with what its last name refers to.
* `Trail.transGen_last`, `Trail.reachedFrom`: the names on a trail reach its end
  and are reached from the block.
-/

namespace Literate
namespace Library

/-- The names that are reached by following references from the body of a block on. -/
def ReachedFrom (library : Library) (block : Block) (name : Text) : Prop :=
  ∃ first ∈ Reference.names block.body, library.Reaches first name

/-- Names that follow one another by references from the body of a block on. -/
structure Trail (library : Library) (block : Block) (path : List Text) : Prop where
  /-- The first name is referenced by the block. -/
  head : ∀ first ∈ path.head?, first ∈ Reference.names block.body
  /-- Every name refers to the next one. -/
  links : path.IsChain library.Refers

namespace Trail

variable {library : Library} {block : Block} {path : List Text} {name other : Text}

theorem singleton
    (h : name ∈ Reference.names block.body) :
    library.Trail block [name] where
  head := by
    simpa using h
  links := List.isChain_singleton name

/-- A trail goes on with what its last name refers to. -/
theorem snoc
    (h : library.Trail block (path ++ [name]))
    (hrefers : library.Refers name other) :
    library.Trail block (path ++ [name] ++ [other]) where
  head := by
    intro first hfirst
    apply h.head first
    cases path with
    | nil =>
        simpa using hfirst
    | cons p path =>
        simpa using hfirst
  links := by
    apply h.links.append (List.isChain_singleton other)
    simpa using hrefers

/-- The names before the last one reach it. -/
theorem transGen_last
    (h : library.Trail block (path ++ [name]))
    (hother : other ∈ path) :
    Relation.TransGen library.Refers other name := by
  have hchain : (path ++ [name]).IsChain (Relation.TransGen library.Refers) :=
    h.links.imp fun _ _ hrefers => .single hrefers
  exact (List.pairwise_append.mp hchain.pairwise).2.2 other hother name (by simp)

/-- The names on a trail are reached from its block. -/
theorem reachedFrom
    (h : library.Trail block path)
    (hname : name ∈ path) :
    library.ReachedFrom block name := by
  cases path with
  | nil =>
      simp at hname
  | cons first rest =>
      refine ⟨first, h.head first (by simp), ?_⟩
      rcases List.mem_cons.mp hname with rfl | hmem
      · exact .refl
      · have hchain : (first :: rest).IsChain (Relation.TransGen library.Refers) :=
          h.links.imp fun _ _ hrefers => .single hrefers
        exact (List.rel_of_pairwise_cons hchain.pairwise hmem).to_reflTransGen

end Trail

end Library

/-- A block that asks for expansion, by its name and its body. -/
def Block.expanding (name body : Text) : Block where
  language := []
  name := name
  params := ⟨[("noweb", "yes")]⟩
  body := body
  link := {}

end Literate
