import Literate.Emission

/-!
# The content of a destination

What a destination holds in the end depends only on the blocks that went there,
in their order.  Their texts stand one after another, with an empty line before
every block but the first that asks for one, and the first line that one of the
blocks asks for stands at the top, wherever that block came.

**Main statements.**
* `content_concat`: one more block adds to the content what the emitter writes.
* `mode_concat`: the first block that asks for a first line makes the file
  executable.
-/

namespace Literate
namespace Emitter

/-- The empty line before a block that is not the first. -/
def padding (block : RenderedBlock) : Text :=
  if block.params.padsLine then "\n" else []

/-- Texts of blocks one after another. -/
def joined : List (RenderedBlock × Text) → Text
  | [] => []
  | first :: rest => first.2 ++ rest.flatMap fun next => padding next.1 ++ next.2

/-- The first of the first lines that blocks ask for. -/
def firstShebang (blocks : List RenderedBlock) : Option Text :=
  (blocks.map fun block => block.params.shebang).find? fun line => !line.isEmpty

/-- The first line of a file made of blocks. -/
def shebangLine (blocks : List RenderedBlock) : Text :=
  match firstShebang blocks with
  | some line => line ++ "\n"
  | none => []

/-- The content of a file made of blocks. -/
def content (decoration : Decoration) (blocks : List RenderedBlock) :
    Except Template.TemplateError Text := do
  let texts ← blocks.mapM decoration.render
  .ok (shebangLine blocks ++ joined (blocks.zip texts))

/-- The mode of a file made of blocks. -/
def mode (blocks : List RenderedBlock) : Nat :=
  if (firstShebang blocks).isSome then executableMode else FileSystem.newFileMode

theorem length_of_mapM_eq_ok
    {ε α β : Type} {f : α → Except ε β} {as : List α} {bs : List β}
    (h : as.mapM f = .ok bs) :
    bs.length = as.length := by
  induction as generalizing bs with
  | nil =>
      cases h
      rfl
  | cons a as ih =>
      rw [List.mapM_cons] at h
      cases hfirst : f a with
      | error e =>
          rw [hfirst] at h
          cases h
      | ok b =>
          rw [hfirst] at h
          cases hrest : as.mapM f with
          | error e =>
              rw [hrest] at h
              cases h
          | ok rest =>
              rw [hrest] at h
              cases h
              rw [List.length_cons, List.length_cons, ih hrest]

section Concat

variable {decoration : Decoration} {blocks : List RenderedBlock} {block : RenderedBlock}
  {file : OutputFile}

theorem joined_concat
    (earlier : List (RenderedBlock × Text)) (last : RenderedBlock × Text) :
    joined (earlier ++ [last]) =
      joined earlier ++ ((if earlier = [] then [] else padding last.1) ++ last.2) := by
  cases earlier with
  | nil =>
      simp [joined]
  | cons first rest =>
      simp [joined]

theorem firstShebang_concat
    (blocks : List RenderedBlock) (block : RenderedBlock) :
    firstShebang (blocks ++ [block]) =
      (firstShebang blocks).or
        (if block.params.shebang.isEmpty then none else some block.params.shebang) := by
  rw [firstShebang, List.map_append, List.find?_append]
  cases hshebang : block.params.shebang.isEmpty <;> simp [firstShebang, hshebang]

theorem isSome_firstShebang_concat
    (block : RenderedBlock)
    (hfile : file.hasShebang = (firstShebang blocks).isSome) :
    (firstShebang (blocks ++ [block])).isSome =
      (file.hasShebang || (shebangFor file block).isSome) := by
  rw [firstShebang_concat, hfile, shebangFor, hfile]
  cases firstShebang blocks with
  | none =>
      cases block.params.shebang.isEmpty <;> simp
  | some line =>
      simp

theorem shebangLine_concat
    (hfile : file.hasShebang = (firstShebang blocks).isSome) :
    shebangLine (blocks ++ [block]) =
      (match shebangFor file block with
        | some line => line ++ "\n"
        | none => []) ++ shebangLine blocks := by
  rw [shebangLine, firstShebang_concat, shebangFor, hfile, shebangLine]
  cases firstShebang blocks with
  | none =>
      cases block.params.shebang.isEmpty <;> simp
  | some line =>
      simp

theorem pad_eq
    (hfile : file.blockCount = blocks.length)
    (text : Text) :
    pad file block text = (if blocks = [] then [] else padding block) ++ text := by
  rw [pad, hfile, padding]
  cases blocks with
  | nil =>
      simp
  | cons first rest =>
      cases block.params.padsLine <;> simp

/-- One more block adds to the content what the emitter writes. -/
theorem content_concat
    {old text : Text}
    (hshebang : file.hasShebang = (firstShebang blocks).isSome)
    (hcount : file.blockCount = blocks.length)
    (hold : content decoration blocks = .ok old)
    (hrender : decoration.render block = .ok text) :
    content decoration (blocks ++ [block]) =
      .ok (extend old (pad file block text) (shebangFor file block)) := by
  cases htexts : blocks.mapM decoration.render with
  | error e =>
      rw [content, htexts] at hold
      cases hold
  | ok texts =>
      rw [content, htexts] at hold
      obtain rfl : shebangLine blocks ++ joined (blocks.zip texts) = old := Except.ok.inj hold
      have hmapM : (blocks ++ [block]).mapM decoration.render = .ok (texts ++ [text]) := by
        rw [List.mapM_append, htexts, List.mapM_cons, hrender]
        rfl
      have hlength := length_of_mapM_eq_ok htexts
      have hzip : (blocks ++ [block]).zip (texts ++ [text]) = blocks.zip texts ++ [(block, text)] := by
        rw [List.zip_append hlength.symm]
        rfl
      have hempty : blocks.zip texts = [] ↔ blocks = [] := by
        rw [List.zip_eq_nil_iff, ← List.length_eq_zero_iff, ← List.length_eq_zero_iff, hlength, or_self]
      rw [content, hmapM]
      change Except.ok (shebangLine (blocks ++ [block]) ++
        joined ((blocks ++ [block]).zip (texts ++ [text]))) = _
      rw [hzip, joined_concat, shebangLine_concat hshebang, pad_eq hcount]
      simp only [hempty]
      unfold extend
      cases shebangFor file block <;> simp

theorem not_mem_extend
    {c : Char} {old text : Text}
    (hc : c ≠ '\n')
    (hold : c ∉ old)
    (htext : c ∉ text)
    (hshebang : c ∉ block.params.shebang) :
    c ∉ extend old (pad file block text) (shebangFor file block) := by
  have hpad : c ∉ pad file block text := by
    unfold pad
    split <;> simp [hc, htext]
  unfold extend shebangFor
  split
  · rename_i line hline
    split at hline
    · cases hline
    · cases hline
      simp [hc, hold, hpad, hshebang]
  · simp [hold, hpad]

/-- The first block that asks for a first line makes the file executable. -/
theorem mode_concat
    (block : RenderedBlock)
    (hshebang : file.hasShebang = (firstShebang blocks).isSome)
    (hexecutable : file.isExecutable = (firstShebang blocks).isSome) :
    mode (blocks ++ [block]) =
      if (file.hasShebang || (shebangFor file block).isSome) && !file.isExecutable then
        executableMode
      else mode blocks := by
  rw [mode, isSome_firstShebang_concat block hshebang, mode, hexecutable, hshebang]
  cases (firstShebang blocks).isSome <;> cases (shebangFor file block).isSome <;> rfl

end Concat

end Emitter
end Literate
