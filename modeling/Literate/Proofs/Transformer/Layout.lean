import Literate.Proofs.Text.Splitting
import Literate.Proofs.Text.Trimming
import Literate.Transformer

/-!
# The layout of a transformed body

Every transformer puts the prologue before the body and the epilogue behind it,
each on lines of its own, and takes the blanks at the end away.

**Main statements.**
* `wrap_append`: a beginning of the body that ends with a character that is not
  blank comes out as it went in.
* `wrap_eq_self`: so does a whole body without prologue and epilogue.
* `exists_wrap_line`: such a part at the end of a line stays at the end of a line.
* `exists_assignment_line`: an assignment in front of the body stands on a line of its own.
-/

namespace Literate
namespace Transformer

section Wrap

variable {body : Text} {params : Params}

/-- What goes before the body. -/
def front (params : Params) : Text :=
  if params.value "prologue" = [] then [] else params.value "prologue" ++ ['\n']

/-- What goes behind the body. -/
def back (params : Params) : Text :=
  if params.value "epilogue" = [] then [] else '\n' :: params.value "epilogue"

theorem wrap_of_ne_nil
    (h : Text.trimRight body ≠ []) :
    wrap body params = Text.trimRight (front params ++ (Text.trimRight body ++ back params)) := by
  unfold wrap front back
  generalize Text.trimRight body = middle at h
  generalize params.value "prologue" = prologue
  generalize params.value "epilogue" = epilogue
  cases prologue <;> cases middle <;> cases epilogue <;> simp_all [Text.join]

/-- A part of the body that ends with a character that is not blank is not trimmed. -/
theorem wrap_append
    {u : Text} (t : Text)
    (hne : u ≠ [])
    (hlast : ∀ c ∈ u.getLast?, Text.isBlank c = false) :
    wrap (u ++ t) params =
      front params ++ (u ++ Text.trimRight (Text.trimRight t ++ back params)) := by
  have hbody : Text.trimRight (u ++ t) = u ++ Text.trimRight t := Text.trimRight_append t hlast
  have hfront : ∀ c ∈ (front params ++ u).getLast?, Text.isBlank c = false := by
    rwa [List.getLast?_append_of_ne_nil _ hne]
  rw [wrap_of_ne_nil (by simp [hbody, hne]), hbody, List.append_assoc, ← List.append_assoc,
    Text.trimRight_append _ hfront, List.append_assoc]

theorem wrap_eq_self
    (hprologue : params.value "prologue" = [])
    (hepilogue : params.value "epilogue" = [])
    (hne : body ≠ [])
    (hlast : ∀ c ∈ body.getLast?, Text.isBlank c = false) :
    wrap body params = body := by
  have hwrap := @wrap_append params body [] hne hlast
  rw [List.append_nil] at hwrap
  rw [hwrap, front, back, if_pos hprologue, if_pos hepilogue]
  simp [Text.trimRight]

/-- A part at the end of a line of the body stays at the end of a line, when the text is ended by a line
feed. -/
theorem exists_wrap_line
    (params : Params) {u : Text} (t : Text)
    (hne : u ≠ [])
    (hlast : ∀ c ∈ u.getLast?, Text.isBlank c = false) :
    ∃ after, wrap (u ++ '\n' :: t) params ++ ['\n'] = front params ++ (u ++ '\n' :: after) := by
  have hback : ∀ c ∈ (back params).head?, c = '\n' := by
    unfold back
    split <;> simp
  have hhead : ∀ c ∈ (Text.trimRight ('\n' :: t) ++ back params).head?, c = '\n' := by
    intro c hc
    rcases hrest : Text.trimRight ('\n' :: t) with _ | ⟨d, rest⟩
    · rw [hrest] at hc
      exact hback c hc
    · have hstart := Text.trimRight_isPrefix ('\n' :: t)
      rw [hrest, List.cons_prefix_cons] at hstart
      rw [hrest] at hc
      simp only [List.cons_append, List.head?_cons, Option.mem_some_iff] at hc
      rw [← hc, hstart.1]
  rw [wrap_append _ hne hlast]
  rcases hend : Text.trimRight (Text.trimRight ('\n' :: t) ++ back params) with _ | ⟨d, rest⟩
  · exact ⟨[], by simp⟩
  · obtain ⟨more, hmore⟩ := Text.trimRight_isPrefix (Text.trimRight ('\n' :: t) ++ back params)
    rw [hend] at hmore
    rw [← hmore] at hhead
    obtain rfl : d = '\n' := hhead d rfl
    exact ⟨rest ++ ['\n'], by simp⟩

end Wrap

/-- Assignments in front of the body stand on lines of their own. -/
theorem exists_assignment_line
    (params : Params) (body : Text) (line : Assignment → Text)
    {assignments : List Assignment} {a : Assignment}
    (ha : a ∈ assignments)
    (hlast : ∃ c, (line a).getLast? = some c ∧ Text.isBlank c = false) :
    ∃ before after,
      wrap (Text.join "\n" (assignments.map line ++ [body])) params ++ ['\n'] =
        before ++ line a ++ '\n' :: after ∧
      (before = [] ∨ before.getLast? = some '\n') := by
  obtain ⟨earlier, later, hsplit⟩ := List.append_of_mem ha
  let lines := (earlier.map line).flatMap (· ++ ['\n'])
  have hbody : Text.join "\n" (assignments.map line ++ [body]) =
      (lines ++ line a) ++ '\n' :: Text.join "\n" (later.map line ++ [body]) := by
    rw [hsplit, List.map_append, List.append_assoc, Text.join_append _ _ (by simp), List.map_cons,
      List.cons_append, Text.join_cons_of_ne_nil _ _ (by simp)]
    simp [lines]
  -- trimming stops behind the assignment, whatever the rest of the body is
  obtain ⟨c, hlast, hvisible⟩ := hlast
  have hend : (lines ++ line a).getLast? = some c := by
    simp [List.getLast?_append, hlast]
  have hne : lines ++ line a ≠ [] := by
    intro hnil
    rw [hnil] at hend
    cases hend
  obtain ⟨after, hafter⟩ := exists_wrap_line params
    (Text.join "\n" (later.map line ++ [body])) hne (by simpa [hend] using hvisible)
  refine ⟨front params ++ lines, after, ?_, ?_⟩
  · rw [hbody, hafter]
    simp
  · rcases List.eq_nil_or_concat earlier with rfl | ⟨earlier, last, rfl⟩
    · unfold front
      split <;> simp [lines]
    · right
      simp [lines, List.getLast?_append]

end Transformer
end Literate
