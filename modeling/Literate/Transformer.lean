import Literate.Assignment
import Literate.Params

/-!
# From a body to the text of its language

A transformer turns the expanded body of a block into the text that is written.
Every transformer puts the prologue and the epilogue around the body and trims
the end; the transformers of some languages also define the block's variables.

**Registry.**  A registry maps languages to transformers.  A language without
one, and a block that switches its language's rendering off, take the default.
-/

namespace Literate

/-- A named way of turning a body with its arguments into text. -/
structure Transformer where
  /-- The name it is known by. -/
  name : Text
  /-- The text made of a body. -/
  run : Text → Params → Text

namespace Transformer

/-- The body between prologue and epilogue, empty ones left out, without blanks at the end. -/
def wrap (body : Text) (params : Params) : Text :=
  let pieces := [params.value "prologue", Text.trimRight body, params.value "epilogue"]
  Text.trimRight (Text.join "\n" (pieces.filter fun piece => !piece.isEmpty))

/-- The assignments of a block. -/
def assignments (params : Params) : List Assignment :=
  Assignment.parse (params.value "var")

/-- A value written for the shell: a number as it is, a text between single quotation marks. -/
def shellValue (a : Assignment) : Text :=
  if a.isNumber then a.value
  else '\x27' :: Text.substitute '\x27' "'\"'\"'" a.value ++ ['\x27']

/-- A value written for Python: a number as it is, a text quoted. -/
def pythonValue (a : Assignment) : Text :=
  if a.isNumber then a.value else Text.quoted a.value

/-- A value written for Emacs Lisp: a number as it is, a text as a string whose backslashes and quotation marks
are escaped. -/
def elispValue (a : Assignment) : Text :=
  if a.isNumber then a.value
  else '"' :: Text.substitute '"' "\\\"" (Text.substitute '\\' "\\\\" a.value) ++ ['"']

/-- The binding of a variable in Emacs Lisp. -/
def elispBinding (a : Assignment) : Text :=
  "(" ++ a.name ++ " " ++ elispValue a ++ ")"

/-- The body inside the form that binds the variables, when there are any. -/
def elispBody (assignments : List Assignment) (body : Text) : Text :=
  if assignments.isEmpty then body
  else "(let (" ++ Text.join " " (assignments.map elispBinding) ++ ")\n" ++ body ++ ")"

/-- The plain rendering of any language. -/
def generic : Transformer where
  name := "generic"
  run := wrap

/-- Variables become assignments in front of the body. -/
def python : Transformer where
  name := "python"
  run body params :=
    let lines := (assignments params).map fun a => a.name ++ " = " ++ pythonValue a
    wrap (Text.join "\n" (lines ++ [body])) params

/-- Variables become shell assignments in front of the body. -/
def shell : Transformer where
  name := "shell"
  run body params :=
    let lines := (assignments params).map fun a => a.name ++ "=" ++ shellValue a
    wrap (Text.join "\n" (lines ++ [body])) params

/-- Variables are bound around the body. -/
def elisp : Transformer where
  name := "elisp"
  run body params := wrap (elispBody (assignments params) body) params

end Transformer

/-- The transformers by language. -/
structure Registry where
  /-- The languages that have a transformer of their own. -/
  table : Dictionary Text Transformer
  /-- The transformer of every other language. -/
  fallback : Transformer := Transformer.generic

namespace Registry

/-- The languages known from the start. -/
def standardTable : Dictionary Text Transformer :=
  ⟨[("python", .python), ("sh", .shell), ("bash", .shell), ("shell", .shell), ("zsh", .shell),
    ("emacs-lisp", .elisp), ("elisp", .elisp)]⟩

/-- The registry known from the start. -/
def standard : Registry where
  table := standardTable

/-- The registry with a transformer for a language. -/
def register (registry : Registry) (language : Text) (transformer : Transformer) : Registry :=
  { registry with table := registry.table.insert language transformer }

/-- The transformer of a language. -/
def get? (registry : Registry) (language : Text) : Option Transformer :=
  registry.table.get? language

/-- The text made of a body. -/
def transform (registry : Registry) (language body : Text) (params : Params) : Text :=
  match registry.get? language with
  | some transformer =>
      if params.suppressesExpansion then registry.fallback.run body params
      else transformer.run body params
  | none => registry.fallback.run body params

end Registry

end Literate
