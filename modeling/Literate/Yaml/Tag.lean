import Literate.Yaml.Timestamp

/-!
# Tags

A tag says what kind of value a node has.  A scalar without a tag has the tag
that its content suggests.
-/

namespace Literate
namespace Yaml

/-- The kinds of value that a tag can ask for. -/
inductive Tag
  | null
  | bool
  | int
  | float
  | binary
  | timestamp
  | omap
  | pairs
  | set
  | str
  | seq
  | map
  | merge
  | default
  | unknown
deriving DecidableEq

/-- The beginning of the tags of the language itself. -/
def tagNamespace : Text := "tag:yaml.org,2002:"

/-- The tags of the language itself. -/
def knownTags : List (Text × Tag) :=
  [("null", .null), ("bool", .bool), ("int", .int), ("float", .float), ("binary", .binary),
   ("timestamp", .timestamp), ("omap", .omap), ("pairs", .pairs), ("set", .set), ("str", .str),
   ("seq", .seq), ("map", .map), ("merge", .merge), ("value", .default)]

/-- The tag with a full name. -/
def Tag.ofName (name : Text) : Tag :=
  match Text.dropPrefix? tagNamespace name with
  | some short => (knownTags.lookup short).getD .unknown
  | none => .unknown

/-- The words for true and false. -/
def booleanWords : List (Text × Bool) :=
  [("yes", true), ("no", false), ("true", true), ("false", false), ("on", true), ("off", false)]

/-- Whether a word is written in lower case, in upper case or with a capital. -/
def inUsualCase (word t : Text) : Bool :=
  t == word || t == word.map Char.toUpper ||
    match word with
    | c :: rest => t == c.toUpper :: rest
    | [] => false

/-- Whether a scalar is a word for true or false. -/
def looksBoolean (t : Text) : Bool :=
  booleanWords.any fun entry => inUsualCase entry.1 t

/-- Whether a scalar is a word for nothing. -/
def looksNull (t : Text) : Bool :=
  t == [] || t == "~" || inUsualCase "null" t

/-- A decimal digit or an underscore. -/
def isDigitOrBar (c : Char) : Bool :=
  c.isDigit || c == '_'

/-- Whether a text is a sequence of parts of one or two digits below sixty, each after a colon. -/
def isSexagesimalTail (t : Text) : Bool :=
  match Text.splitOn ':' t with
  | [] :: part :: parts =>
      (part :: parts).all fun part =>
        match part with
        | [d] => d.isDigit
        | [t, d] => decide ('0' ≤ t ∧ t ≤ '5') && d.isDigit
        | _ => false
  | _ => false

/-- Whether a scalar is written like a whole number. -/
def looksInteger (t : Text) : Bool :=
  match (Text.cutSign t).2 with
  | [] => false
  | '0' :: 'b' :: rest => !rest.isEmpty && rest.all fun c => c == '0' || c == '1' || c == '_'
  | '0' :: 'x' :: rest =>
      !rest.isEmpty && rest.all fun c => (Text.hexDigit? c).isSome || c == '_'
  | '0' :: rest => rest.all fun c => decide ('0' ≤ c ∧ c ≤ '7') || c == '_'
  | d :: rest =>
      d.isDigit &&
        (rest.all isDigitOrBar || isSexagesimalTail (rest.dropWhile isDigitOrBar))

/-- Whether a text is empty or the exponent of a fraction, which needs a sign. -/
def isExponent : Text → Bool
  | [] => true
  | e :: sign :: digits =>
      (e == 'e' || e == 'E') && (sign == '+' || sign == '-') && !digits.isEmpty &&
        digits.all Char.isDigit
  | _ => false

/-- Whether a text is the fraction of a number: a point, digits and an exponent. -/
def isFraction : Text → Bool
  | '.' :: rest => isExponent (rest.dropWhile isDigitOrBar)
  | _ => false

/-- Whether further parts in base sixty and a fraction follow. -/
def isSexagesimalFraction (t : Text) : Bool :=
  match Text.cut '.' t with
  | (parts, some digits) => isSexagesimalTail parts && digits.all isDigitOrBar
  | (_, none) => false

/-- Whether a scalar is written like a number with a fraction. -/
def looksFloat (t : Text) : Bool :=
  let unsigned := (Text.cutSign t).2
  if inUsualCase ".inf" unsigned || unsigned == ".Inf" then true
  else if t == ".nan" || t == ".NaN" || t == ".NAN" then true
  else
    match unsigned with
    | '.' :: d :: rest =>
        t.head? == some '.' && d.isDigit && isExponent (rest.dropWhile isDigitOrBar)
    | d :: rest =>
        let after := rest.dropWhile isDigitOrBar
        d.isDigit && (isFraction after || isSexagesimalFraction after)
    | [] => false

/-- Whether a scalar is written like a date or a point in time; a date alone needs two digits for the month
and the day. -/
def looksTimestamp (t : Text) : Bool :=
  match timestampText? t with
  | some parts => parts.clock.isSome || (parts.month.length == 2 && parts.day.length == 2)
  | none => false

/-- The tag that the content of a scalar suggests; a line end at its end does not count. -/
def Tag.infer (t : Text) : Tag :=
  let bare := if t.getLast? = some '\n' then t.dropLast else t
  if looksBoolean bare then .bool
  else if looksFloat bare then .float
  else if looksInteger bare then .int
  else if bare = "<<" then .merge
  else if t.isEmpty || (!bare.isEmpty && looksNull bare) then .null
  else if looksTimestamp bare then .timestamp
  else if bare = "=" then .default
  else if bare = "!" ∨ bare = "&" ∨ bare = "*" then .unknown
  else .str

end Yaml
end Literate
