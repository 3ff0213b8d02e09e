import Literate.Params

/-!
# Reading header arguments

Header arguments are written `:key value :other "quoted value"`.  An argument
begins at a colon that stands first or after a blank and is followed by a
letter, so that a value may hold other colons.

**Rules.**  Keys are read in lower case.  One pair of equal quotation marks
around a value is removed.  A repeated `var` is collected into one list of
assignments; any other repeated key takes the last value.
-/

namespace Literate
namespace Header

/-- Whether the text begins with an ASCII letter. -/
def startsWithLetter : Text → Bool
  | c :: _ => c.isAlpha
  | [] => false

/-- The pieces of a text between the colons that begin an argument.  `atStart` says that the
character before the text is a blank or that there is none. -/
def fragments (atStart : Bool) : Text → List Text
  | [] => [[]]
  | c :: cs =>
      if c = ':' ∧ atStart = true ∧ startsWithLetter cs = true then
        [] :: fragments false cs
      else
        match fragments (Text.isBlank c) cs with
        | [] => [[c]]
        | piece :: pieces => (c :: piece) :: pieces

/-- The key and the value of one fragment. -/
def argument (fragment : Text) : Text × Text :=
  let (key, value) := Text.cut ' ' fragment
  (Text.lower (Text.trim key), Text.unquote (Text.trim (value.getD [])))

/-- The key that collects assignments of variables. -/
def variableKey : Text := "var"

/-- The arguments after one more has been read. -/
def addArgument (params : Params) (key value : Text) : Params :=
  match params.get? variableKey with
  | some (c :: earlier) =>
      if key = variableKey then params.insert key (c :: earlier ++ ", " ++ value)
      else params.insert key value
  | _ => params.insert key value

/-- The arguments after one more fragment, blank ones being passed over. -/
def addFragment (params : Params) (fragment : Text) : Params :=
  match Text.trim fragment with
  | [] => params
  | c :: cs =>
      let (key, value) := argument (c :: cs)
      addArgument params key value

/-- The header arguments written in a text. -/
def parse (t : Text) : Params :=
  (fragments true (Text.trim t)).foldl addFragment Dictionary.empty

/-- What stands before the first argument of a line, and the line from there on. -/
def splitSwitches (atStart : Bool) : Text → Text × Text
  | [] => ([], [])
  | c :: cs =>
      if c = ':' ∧ atStart = true ∧ startsWithLetter cs = true then
        ([], c :: cs)
      else
        let (switches, arguments) := splitSwitches (Text.isBlank c) cs
        (c :: switches, arguments)

end Header
end Literate
