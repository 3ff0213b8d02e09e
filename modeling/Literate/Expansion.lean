import Literate.Block
import Literate.Journal
import Literate.Reference

/-!
# Expansion of references

A reference stands for the body of the first block with its name, or, when no
block has that name, for the bodies of the blocks that joined the group of that
name, one below the other.  Bodies are expanded in turn when their block asks
for it.

**Insertion.**  The text in front of a reference on its line is repeated in
front of every further line of what is inserted.

**Termination.**  The names on the way to a reference form a chain; a name that
comes again is an error.  Every name that is followed takes one of the names
that blocks can be found under away from those that the chain has not used yet.

**Memory.**  What a name stands for is kept once it is known, also when the
expansion around it fails later.
-/

namespace Literate

/-- Why a block cannot be expanded. -/
inductive ReferenceError
  /-- A name on the way, and the name it refers to, under which there is no block. -/
  | unknown (block reference : Text)
  /-- The chain of names from the block on, the last one repeated. -/
  | cycle (block : Text) (chain : List Text)
deriving DecidableEq

namespace ReferenceError

/-- The block that is blamed. -/
def block : ReferenceError → Text
  | unknown block _ => block
  | cycle block _ => block

/-- The wording of the error. -/
def message : ReferenceError → Text
  | unknown block reference =>
      "Block '" ++ block ++ "' references unknown block '" ++ reference ++ "'"
  | cycle block chain =>
      "Reference cycle while expanding '" ++ block ++ "': " ++ Text.join " -> " chain

end ReferenceError

/-- The blocks that references are looked up in, in document order. -/
structure Library where
  /-- The blocks. -/
  blocks : List Block

namespace Library

/-- The first block with a name. -/
def named (library : Library) (name : Text) : Option Block :=
  library.blocks.find? fun block => block.name == name

/-- The blocks that joined a group. -/
def grouped (library : Library) (name : Text) : List Block :=
  library.blocks.filter fun block => !block.params.group.isEmpty && block.params.group == name

/-- The blocks that a name stands for. -/
def targets (library : Library) (name : Text) : List Block :=
  match library.named name with
  | some block => [block]
  | none => library.grouped name

/-- Whether a name stands for some block. -/
def contains (library : Library) (name : Text) : Bool :=
  !(library.targets name).isEmpty

/-- The names that blocks can be found under: their own and those of their groups. -/
def names (library : Library) : List Text :=
  library.blocks.map Block.name ++ library.blocks.map fun block => block.params.group

/-- The number of entries among the names that are not on a chain. -/
def unused (library : Library) (chain : List Text) : Nat :=
  library.names.countP fun name => !chain.contains name

/-- A name that stands for some block is one of the names. -/
theorem mem_names_of_targets {library : Library} {name : Text} {first : Block} {others : List Block}
    (h : library.targets name = first :: others) : name ∈ library.names := by
  unfold targets at h
  split at h
  · rename_i block hnamed
    have hmem := List.mem_of_find?_eq_some hnamed
    have hname := List.find?_some hnamed
    simp only [beq_iff_eq] at hname
    exact List.mem_append_left _ (List.mem_map.mpr ⟨block, hmem, hname⟩)
  · have hmem : first ∈ library.grouped name := by simp [h]
    simp only [grouped, List.mem_filter, Bool.and_eq_true, beq_iff_eq] at hmem
    exact List.mem_append_right _ (List.mem_map.mpr ⟨first, hmem.1, hmem.2.2⟩)

/-- Following a new name that stands for some block uses up one of the names. -/
theorem unused_lt {library : Library} {chain : List Text} {name : Text} {first : Block}
    {others : List Block} (hnew : ¬ chain.contains name = true)
    (h : library.targets name = first :: others) :
    library.unused (chain ++ [name]) < library.unused chain := by
  obtain ⟨before, after, hsplit⟩ := List.append_of_mem (mem_names_of_targets h)
  have hle : ∀ l : List Text,
      l.countP (fun n => !(chain ++ [name]).contains n) ≤ l.countP fun n => !chain.contains n := by
    intro l
    apply List.countP_mono_left
    simp only [List.contains_eq_mem, List.mem_append, Bool.not_eq_true', decide_eq_false_iff_not]
    exact fun n _ hn hmem => hn (Or.inl hmem)
  have hlast : (chain ++ [name]).contains name = true := by
    simp
  have hbefore := hle before
  have hafter := hle after
  rw [unused, unused, hsplit, List.countP_append, List.countP_append, List.countP_cons,
    List.countP_cons, hlast, Bool.eq_false_iff.mpr hnew]
  simp only [Bool.not_true, Bool.false_eq_true, if_false, Bool.not_false, if_true]
  omega

end Library

/-- What is known after some expansions. -/
structure Memo where
  /-- What names stand for. -/
  known : Dictionary Text Text := Dictionary.empty
  /-- The reports written, in order. -/
  records : List Record := []

/-- A computation that remembers what names stand for and may fail. -/
abbrev Expansion (α : Type) := ExceptT ReferenceError (StateM Memo) α

namespace Expansion

/-- The text `out` of a line so far with an insertion at its end. -/
def splice (out inserted : Text) : Text :=
  out ++ Text.substitute '\n' ('\n' :: Text.lastLine out) inserted

section Bodies

variable {m : Type → Type} [Monad m]

/-- The expansion of the pieces of a line after the text `out`. -/
def expandPieces (resolve : Text → m Text) (out : Text) : List Piece → m Text
  | [] => pure out
  | .literal t :: rest => expandPieces resolve (out ++ t) rest
  | .reference name :: rest => do
      let inserted ← resolve name
      expandPieces resolve (splice out inserted) rest

/-- The expansion of the lines of a body. -/
def expandLines (resolve : Text → m Text) : List Text → m (List Text)
  | [] => pure []
  | line :: rest => do
      let first ← expandPieces resolve [] (Reference.pieces line)
      let others ← expandLines resolve rest
      pure (first :: others)

/-- The expansion of a body line by line. -/
def expandEveryLine (resolve : Text → m Text) (body : Text) : m Text := do
  let lines ← expandLines resolve (Text.splitOn '\n' body)
  pure (Text.join "\n" lines)

/-- The expansion of a body.  One without an opening mark is left alone. -/
def expandBody (resolve : Text → m Text) (body : Text) : m Text :=
  if Text.includes "<<" body then expandEveryLine resolve body else pure body

/-- The text of a block: its body, expanded when the block asks for it. -/
def expandBlock (expand : Text → m Text) (block : Block) : m Text :=
  if block.params.expandsReferences then expand block.body else pure block.body

/-- The texts of several blocks. -/
def expandBlocks (expand : Text → m Text) : List Block → m (List Text)
  | [] => pure []
  | block :: rest => do
      let first ← expandBlock expand block
      let others ← expandBlocks expand rest
      pure (first :: others)

end Bodies

/-- Remembers what a name stands for and reports it. -/
def remember (name expansion : Text) (count : Nat) : Expansion Unit :=
  modify fun memo =>
    { known := memo.known.insert name expansion
      records := memo.records ++
        [⟨.debug, .expansion,
          "Expanded <<" ++ name ++ ">> from " ++ Text.ofNat count ++ " block(s)"⟩] }

/-- What a name stands for, reached by a chain of names. -/
def resolve (library : Library) (chain : List Text) (name : Text) : Expansion Text :=
  if _used : chain.contains name then
    throw (.cycle (chain.headD []) (chain ++ [name]))
  else do
    match (← get).known.get? name with
    | some text => pure text
    | none =>
        match found : library.targets name with
        | [] => throw (.unknown (chain.getLastD []) name)
        | first :: others => do
            let expand := expandBody fun other => resolve library (chain ++ [name]) other
            let texts ← expandBlocks expand (first :: others)
            let expansion := Text.join "\n" texts
            remember name expansion (others.length + 1)
            pure expansion
termination_by library.unused chain
decreasing_by exact Library.unused_lt _used found

/-- The body of a block with its references expanded when it asks for it. -/
def ofBlock (library : Library) (block : Block) : Expansion Text :=
  expandBlock (expandBody (resolve library [block.name])) block

end Expansion

end Literate
