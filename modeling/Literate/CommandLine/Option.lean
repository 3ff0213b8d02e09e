import Literate.Text.Digit
import Literate.Text.Quoted

/-!
# Options and arguments

A command line is a list of words.  A word that begins with a dash is an option
when it, or the part before its equals sign, is the name of an option or the
beginning of exactly one; everything after `--` is an argument.

**Algorithm.**  Every word is classified first.  Then arguments are handed to
the positions that wait for them as soon as they come, and options take the word
after them when they need a value.  A position that may stay empty is settled
as soon as a position before it is, so that later arguments are left over.

**Result.**  What was given in order, and the words that nothing could take.
-/

namespace Literate
namespace CommandLine

/-- An option. -/
structure OptionSpec where
  /-- Its names, short and long. -/
  names : List Text
  /-- Whether it needs a value. -/
  takesValue : Bool := false
  /-- Whether it asks for help. -/
  isHelp : Bool := false
deriving DecidableEq

/-- What a position takes. -/
inductive Arity
  /-- One argument. -/
  | one
  /-- One argument or none. -/
  | optional
  /-- An argument and every word after it. -/
  | rest
deriving DecidableEq

/-- A position for arguments. -/
structure Position where
  /-- Its name. -/
  name : Text
  /-- What it takes. -/
  arity : Arity := .one
deriving DecidableEq

/-- What a program takes on its command line. -/
structure Grammar where
  /-- The name of the program. -/
  program : Text
  /-- Its options. -/
  options : List OptionSpec
  /-- Its positions. -/
  positions : List Position

/-- Why a command line is not carried out. -/
inductive Refusal
  /-- It asks for help. -/
  | help
  /-- A program cannot take it. -/
  | usage (program message : Text)
deriving DecidableEq

/-- The line that explains a refusal. -/
def Refusal.message : Refusal → Text
  | help => []
  | usage program message => program ++ ": error: " ++ message

/-- An option as it is used by a word. -/
structure OptionUse where
  /-- The option; none when the word looks like an option that is not known. -/
  option : Option OptionSpec
  /-- The full name of the option. -/
  name : Text
  /-- The value in the same word. -/
  value : Option Text := none
deriving DecidableEq

/-- The class of a word. -/
inductive Word
  /-- An argument. -/
  | argument
  /-- The mark after which there are no options. -/
  | dashes
  /-- An option. -/
  | option (use : OptionUse)
deriving DecidableEq

/-- Something given on the command line. -/
inductive Given
  /-- An option under one of its names, with its value if it has one. -/
  | option (names : List Text) (name : Text) (arguments : List Text)
  /-- The arguments of a position. -/
  | position (name : Text) (arguments : List Text)
deriving DecidableEq

namespace Grammar

/-- The names of all options with their options. -/
def namedOptions (grammar : Grammar) : List (Text × OptionSpec) :=
  grammar.options.flatMap fun option => option.names.map fun name => (name, option)

/-- The option with a name. -/
def option? (grammar : Grammar) (name : Text) : Option OptionSpec :=
  grammar.namedOptions.lookup name

/-- An error about an option. -/
def optionError (grammar : Grammar) (option : OptionSpec) (message : Text) : Refusal :=
  .usage grammar.program ("argument " ++ Text.join "/" option.names ++ ": " ++ message)

/-- Whether a word is a negative number, which is an argument. -/
def isNegativeNumber (word : Text) : Bool :=
  let bare := if word.getLast? = some '\n' then word.dropLast else word
  match bare with
  | '-' :: digits =>
      (!digits.isEmpty && digits.all Text.isDigit) ||
        match digits.dropWhile Text.isDigit with
        | '.' :: fraction => !fraction.isEmpty && fraction.all Text.isDigit
        | _ => false
  | _ => false

/-- The options that a word may mean although it is not the name of one. -/
def guesses (grammar : Grammar) (word : Text) : List OptionUse :=
  if (Text.dropPrefix? "--" word).isSome then
    let (start, value) := Text.cut '=' word
    grammar.namedOptions.filterMap fun (name, option) =>
      if (Text.dropPrefix? start name).isSome then
        some { option := some option, name := name, value := value }
      else none
  else
    grammar.namedOptions.filterMap fun (name, option) =>
      if name = word.take 2 then
        some { option := some option, name := name, value := some (word.drop 2) }
      else if (Text.dropPrefix? word name).isSome then
        some { option := some option, name := name }
      else none

/-- The class of a word before the mark that ends options. -/
def classifyWord (grammar : Grammar) (word : Text) : Except Refusal Word :=
  match word with
  | [] => .ok .argument
  | c :: rest =>
      if c ≠ '-' then .ok .argument
      else
        match grammar.option? word with
        | some option => .ok (.option { option := some option, name := word })
        | none =>
        if rest.isEmpty then .ok .argument
        else
          let (name, value) := Text.cut '=' word
          match value, grammar.option? name with
          | some value, some option =>
              .ok (.option { option := some option, name := name, value := some value })
          | _, _ =>
              match grammar.guesses word with
              | [use] => .ok (.option use)
              | first :: others =>
                  .error (.usage grammar.program
                    ("ambiguous option: " ++ word ++ " could match " ++
                      Text.join ", " ((first :: others).map OptionUse.name)))
              | [] =>
                  if isNegativeNumber word || word.contains ' ' then .ok .argument
                  else .ok (.option { option := none, name := word })

/-- The words with their classes. -/
def classify (grammar : Grammar) : List Text → Except Refusal (List (Text × Word))
  | [] => .ok []
  | word :: rest =>
      if word = "--" then .ok ((word, .dashes) :: rest.map fun other => (other, .argument))
      else do
        let first ← grammar.classifyWord word
        .ok ((word, first) :: (← grammar.classify rest))

end Grammar

/-- Whether a classified word is an option. -/
def isOption : Text × Word → Bool
  | (_, .option _) => true
  | _ => false

/-- The number of marks at the beginning. -/
def leadingDashes (words : List (Text × Word)) : Nat :=
  (words.takeWhile fun word => word.2 = .dashes).length

/-- The number of words that a position takes from the beginning; `none` when it needs more. -/
def Position.count? (position : Position) (words : List (Text × Word)) : Option Nat :=
  let before := leadingDashes words
  let after := words.drop before
  let hasArgument := match after with
    | (_, .argument) :: _ => true
    | _ => false
  match position.arity with
  | .one => if hasArgument then some (before + 1 + leadingDashes (after.drop 1)) else none
  | .optional =>
      if hasArgument then some (before + 1 + leadingDashes (after.drop 1)) else some before
  | .rest => if hasArgument then some words.length else none

/-- The arguments among words; the first mark is none. -/
def withoutMark (words : List Text) : List Text :=
  words.erase "--"

/-- The words that positions take one after another; `none` when one of them needs more. -/
def takePositions : List Position → List (Text × Word) → Option (List Given × List (Text × Word))
  | [], words => some ([], words)
  | position :: others, words => do
      let n ← position.count? words
      let taken := (words.take n).map Prod.fst
      let arguments := if position.arity = .rest then taken else withoutMark taken
      let (given, left) ← takePositions others (words.drop n)
      some (.position position.name arguments :: given, left)

/-- The state of reading a command line. -/
structure Reading where
  /-- The words ahead. -/
  words : List (Text × Word)
  /-- The positions that wait. -/
  positions : List Position
  /-- What was given, in order. -/
  given : List Given := []
  /-- The words that nothing could take. -/
  extras : List Text := []

namespace Reading

/-- Hands arguments to as many waiting positions as possible; the number bounds how many are tried. -/
def fillPositions (reading : Reading) : Nat → Reading
  | 0 => reading
  | n + 1 =>
      match takePositions (reading.positions.take (n + 1)) reading.words with
      | some (given, left) =>
          { reading with
            words := left
            positions := reading.positions.drop (n + 1)
            given := reading.given ++ given }
      | none => reading.fillPositions n

/-- Hands arguments to as many waiting positions as possible. -/
def fill (reading : Reading) : Reading :=
  reading.fillPositions reading.positions.length

/-- Adds an option with the words given to it; a call for help ends the reading. -/
def give (reading : Reading) (option : OptionSpec) (name : Text) (words : List Text) :
    Except Refusal Reading :=
  if option.isHelp then .error .help
  else .ok { reading with given := reading.given ++ [.option option.names name (withoutMark words)] }

/-- Adds options that share a word and take no value. -/
def giveAll (reading : Reading) (shared : List (OptionSpec × Text)) : Except Refusal Reading :=
  shared.foldlM (fun reading entry => reading.give entry.1 entry.2 []) reading

/-- Carries out a known option that has the name `name`, with the text behind the name in its word.  Short
options without value may share a word; `shared` holds those before this one.  The depth bounds their
number. -/
def takeKnown (grammar : Grammar) (reading : Reading) :
    Nat → List (OptionSpec × Text) → OptionSpec → Text → Option Text → Except Refusal Reading
  | 0, _, _, _, _ => .ok reading
  | _ + 1, shared, option, name, none =>
      if option.takesValue then
        match reading.words with
        | (value, .argument) :: rest => do
            let reading ← { reading with words := rest }.giveAll shared
            reading.give option name [value]
        | _ => .error (grammar.optionError option "expected one argument")
      else do
        let reading ← reading.giveAll shared
        reading.give option name []
  | depth + 1, shared, option, name, some value =>
      let ignored := grammar.optionError option ("ignored explicit argument " ++ Text.quoted value)
      if option.takesValue then do
        let reading ← reading.giveAll shared
        reading.give option name [value]
      else if name.take 2 = "--" then .error ignored
      else
        match value with
        | [] => .error ignored
        | c :: more =>
            match grammar.option? ['-', c] with
            | some next =>
                takeKnown grammar reading depth (shared ++ [(option, name)]) next ['-', c]
                  (if more.isEmpty then none else some more)
            | none => .error ignored

/-- Carries out the option that a word means; an unknown one is left over. -/
def takeOption (grammar : Grammar) (reading : Reading) (word : Text) (use : OptionUse) :
    Except Refusal Reading :=
  match use.option with
  | none => .ok { reading with extras := reading.extras ++ [word] }
  | some option => reading.takeKnown grammar (word.length + 1) [] option use.name use.value

/-- Reads the words up to the last option.  The depth bounds the number of steps. -/
def readOptions (grammar : Grammar) : Nat → Reading → Except Refusal Reading
  | 0, reading => .ok reading
  | depth + 1, reading =>
      if !reading.words.any isOption then .ok reading
      else
        let filled := if (reading.words.head?.map isOption) = some true then reading else reading.fill
        if filled.words.length < reading.words.length then readOptions grammar depth filled
        else
          let skipped := (filled.words.takeWhile fun word => !isOption word).map Prod.fst
          match filled.words.drop skipped.length with
          | (word, .option use) :: rest => do
              let next := { filled with words := rest, extras := filled.extras ++ skipped }
              let reading ← next.takeOption grammar word use
              readOptions grammar depth reading
          | _ => .ok filled

end Reading

/-- What is given on a command line and the words left over; positions that need an argument must have
one. -/
def Grammar.read (grammar : Grammar) (words : List Text) : Except Refusal (List Given × List Text) := do
  let classified ← grammar.classify words
  let start : Reading := { words := classified, positions := grammar.positions }
  let reading ← Reading.readOptions grammar (2 * words.length + 2) start
  let reading := reading.fill
  let missing := (reading.positions.filter fun position => position.arity != .optional).map Position.name
  if missing.isEmpty then
    .ok (reading.given, reading.extras ++ reading.words.map Prod.fst)
  else
    .error (.usage grammar.program
      ("the following arguments are required: " ++ Text.join ", " missing))

end CommandLine
end Literate
