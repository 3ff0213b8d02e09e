import Literate.Cleaning.Basic
import Literate.Failure
import Literate.Host

/-!
# Cleaning files

A file is cleaned in place.  It is written only when a line is dropped.
-/

namespace Literate
namespace Cleaning

variable {m : Type → Type} [Monad m] [Host m]

/-- Cleans a file and tells the number of lines dropped. -/
def cleanFile (p : Path) : ExceptT Failure m Nat := do
  match ← (Host.readText p : m _) with
  | .error .undecodable => throw .undecodable
  | .error (.fault cause) => throw (.file ⟨cause, p⟩)
  | .ok t =>
      let removed := markerCount t
      if removed ≠ 0 then
        match ← (Host.writeText p (clean t) : m _) with
        | .error cause => throw (.file ⟨cause, p⟩)
        | .ok () => pure ()
      (Host.record ⟨.info, .cleaning,
        "Removed " ++ Text.ofNat removed ++ " marker line(s) from " ++ p.toText⟩ : m Unit)
      pure removed

end Cleaning
end Literate
