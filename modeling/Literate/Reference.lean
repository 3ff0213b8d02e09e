import Literate.Text.Blank

/-!
# References

A reference is a name between double angle brackets, `<<name>>`.  The name
holds no angle bracket and no line feed, and neither begins nor ends with a
blank.

**Contents.**  A text is cut into literal pieces and references; the
references of a text are those of its pieces.
-/

namespace Literate

/-- A piece of a text. -/
inductive Piece
  /-- Text that stands for itself. -/
  | literal (t : Text)
  /-- A reference to a name. -/
  | reference (name : Text)
deriving DecidableEq

/-- The name that a piece refers to. -/
def Piece.name? : Piece → Option Text
  | .literal _ => none
  | .reference name => some name

namespace Reference

/-- Whether a character may stand in the name of a reference, line feeds and blanks aside. -/
def isNameChar (c : Char) : Bool :=
  !(c == '<' || c == '>')

/-- Whether a text without angle brackets is the name of a reference. -/
def isName (name : Text) : Bool :=
  match name with
  | [] => false
  | c :: cs => !Text.isBlank c && !Text.isBlank (cs.getLastD c) && !cs.contains '\n'

/-- The name of the reference that a text begins with, and what follows it. -/
def parse? (t : Text) : Option (Text × Text) :=
  match t with
  | '<' :: '<' :: rest =>
      match rest.dropWhile isNameChar with
      | '>' :: '>' :: after =>
          let name := rest.takeWhile isNameChar
          if isName name then some (name, after) else none
      | _ => none
  | _ => none

/-- What follows a reference is shorter than the text that begins with it. -/
theorem length_lt_of_parse? {t name after : Text} (h : parse? t = some (name, after)) :
    after.length < t.length := by
  unfold parse? at h
  split at h
  · rename_i rest
    split at h
    · rename_i after' tail
      simp only [Option.ite_none_right_eq_some, Option.some.injEq, Prod.mk.injEq] at h
      have le := (List.dropWhile_sublist isNameChar (l := rest)).length_le
      rw [tail] at le
      obtain ⟨-, -, rfl⟩ := h
      simp only [List.length_cons] at le ⊢
      omega
    · simp at h
  · simp at h

/-- The pieces with a character put in front. -/
def pushLiteral (c : Char) : List Piece → List Piece
  | .literal t :: rest => .literal (c :: t) :: rest
  | pieces => .literal [c] :: pieces

/-- The pieces of a text: its references, read from the left, and the text between them. -/
def pieces (t : Text) : List Piece :=
  match t with
  | [] => []
  | c :: cs =>
      match _found : parse? (c :: cs) with
      | some (name, after) => .reference name :: pieces after
      | none => pushLiteral c (pieces cs)
termination_by t.length
decreasing_by
  · exact length_lt_of_parse? _found
  · exact Nat.lt_succ_self cs.length

/-- The names that a text refers to, in order. -/
def names (t : Text) : List Text :=
  (pieces t).filterMap Piece.name?

/-- Whether a text holds a reference. -/
def occursIn : Text → Bool
  | [] => false
  | c :: cs => (parse? (c :: cs)).isSome || occursIn cs

end Reference
end Literate
