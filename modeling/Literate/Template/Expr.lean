import Literate.Template.Token

/-!
# Expressions of a template

An expression is a literal, a variable, a negation, a sum or difference, a
concatenation or a filtered value.  A filter binds tightest, then a sign, a
concatenation and a sum; a negation reaches to the end of its expression.
-/

namespace Literate
namespace Template

/-- The value of an expression. -/
inductive Value
  /-- A text. -/
  | text (points : CodePoints)
  /-- A whole number. -/
  | number (n : Int)
  /-- A truth value. -/
  | flag (b : Bool)
  /-- The value that stands for nothing. -/
  | nothing
  /-- The value of a variable that has none. -/
  | undefined
deriving DecidableEq

/-- An expression. -/
inductive Expr
  /-- A literal. -/
  | literal (v : Value)
  /-- A variable. -/
  | var (name : Text)
  /-- Whether a value counts as false. -/
  | negation (a : Expr)
  /-- The sum of two values. -/
  | add (a b : Expr)
  /-- The difference of two values. -/
  | sub (a b : Expr)
  /-- The negative of a value. -/
  | neg (a : Expr)
  /-- The value with a plus sign in front. -/
  | pos (a : Expr)
  /-- The texts of several values, one after the other. -/
  | concat (parts : List Expr)
  /-- A value passed through a filter with further arguments. -/
  | filter (a : Expr) (name : Text) (arguments : List Expr)

/-- Why a template cannot be used. -/
inductive TemplateError
  /-- It is not written correctly. -/
  | malformed
  /-- It names a filter that does not exist. -/
  | unknownFilter
  /-- A filter that does not exist was reached while a text was made. -/
  | missingFilter
  /-- An operator or a filter was given a value it cannot take. -/
  | wrongType
  /-- An operator was given a variable without value. -/
  | undefinedValue
  /-- A number has too many digits to be read or written. -/
  | tooManyDigits
  /-- An engine gives another reason. -/
  | other (reason : Text)
deriving DecidableEq

/-- The values of the variables of a template. -/
abbrev Bindings := List (Text × Value)

namespace Value

/-- The text of a value. -/
def toText : Value → Except TemplateError CodePoints
  | text points => .ok points
  | number n =>
      match Text.ofInt? n with
      | some t => .ok (CodePoints.ofText t)
      | none => .error .tooManyDigits
  | flag b => .ok (CodePoints.ofText (if b then "True" else "False"))
  | nothing => .ok (CodePoints.ofText "None")
  | undefined => .ok []

/-- Whether a value counts as true in a condition. -/
def isTrue : Value → Bool
  | text points => !points.isEmpty
  | number n => n != 0
  | flag b => b
  | nothing => false
  | undefined => false

/-- A value as a number; truth values count as one and zero. -/
def number? : Value → Option Int
  | number n => some n
  | flag b => some (if b then 1 else 0)
  | _ => none

/-- What an operator does to numbers, applied to two values. -/
def combine (f : Int → Int → Int) (a b : Value) : Except TemplateError Value :=
  match a.number?, b.number? with
  | some x, some y => .ok (number (f x y))
  | _, _ => .error (if a = undefined ∨ b = undefined then .undefinedValue else .wrongType)

/-- The sum of two values: texts are joined, numbers are added. -/
def add : Value → Value → Except TemplateError Value
  | text a, text b => .ok (text (a ++ b))
  | a, b => combine (· + ·) a b

/-- What a sign does to a number, applied to a value. -/
def signed (f : Int → Int) (a : Value) : Except TemplateError Value :=
  match a.number? with
  | some n => .ok (number (f n))
  | none => .error (if a = undefined then .undefinedValue else .wrongType)

/-- The number of code points of a text. -/
def length : Value → Except TemplateError Value
  | text points => .ok (number points.length)
  | undefined => .ok (number 0)
  | _ => .error .wrongType

/-- The texts of several values, one after the other. -/
def concat : List Value → Except TemplateError Value
  | [] => .ok (text [])
  | v :: rest => do
      let first ← v.toText
      match ← concat rest with
      | text more => .ok (text (first ++ more))
      | other => .ok other

end Value

/-- The filters by name. -/
def filters : List (Text × (Value → Except TemplateError Value)) :=
  [("upper", fun v => do .ok (.text (← v.toText).upper)),
   ("lower", fun v => do .ok (.text (← v.toText).lower)),
   ("length", Value.length),
   ("count", Value.length)]

/-- Applies a filter; none of them takes further arguments. -/
def applyFilter (run : Value → Except TemplateError Value) (v : Value) (arguments : List Value) :
    Except TemplateError Value :=
  if arguments.isEmpty then run v else .error .wrongType

mutual

/-- The value of an expression. -/
def Expr.eval (bindings : Bindings) : Expr → Except TemplateError Value
  | .literal v => .ok v
  | .var name => .ok ((bindings.lookup name).getD .undefined)
  | .negation a => do .ok (.flag !(← a.eval bindings).isTrue)
  | .add a b => do (← a.eval bindings).add (← b.eval bindings)
  | .sub a b => do (← a.eval bindings).combine (· - ·) (← b.eval bindings)
  | .neg a => do (← a.eval bindings).signed (- ·)
  | .pos a => do (← a.eval bindings).signed id
  | .concat parts => do Value.concat (← evalAll bindings parts)
  | .filter a name arguments => do
      let v ← a.eval bindings
      let more ← evalAll bindings arguments
      match filters.lookup name with
      | none => .error .missingFilter
      | some run => applyFilter run v more

/-- The values of several expressions. -/
def evalAll (bindings : Bindings) : List Expr → Except TemplateError (List Value)
  | [] => .ok []
  | e :: rest => do
      let v ← e.eval bindings
      .ok (v :: (← evalAll bindings rest))

end

section Parsing

/-- What is wrong with tokens that do not go on as they should. -/
def unexpected : List Token → TemplateError
  | .tooLong :: _ => .tooManyDigits
  | _ => .malformed

/-- Something read from the beginning of tokens, and the tokens after it. -/
abbrev Parsed (α : Type) := α × List Token

/-- Moves over a token that must come next. -/
def expect (t : Token) (tokens : List Token) : Except TemplateError (List Token) :=
  match tokens with
  | first :: rest => if first = t then .ok rest else .error (unexpected tokens)
  | [] => .error .malformed

/-- The text literals that follow one another are one text. -/
def adjacentTexts : List Token → CodePoints × List Token
  | .text points :: rest =>
      let (more, after) := adjacentTexts rest
      (points ++ more, after)
  | tokens => ([], tokens)

/-- The literals that are written as names. -/
def constants : List (Text × Value) :=
  [("true", .flag true), ("True", .flag true), ("false", .flag false), ("False", .flag false),
   ("none", .nothing), ("None", .nothing)]

/-- The expression that a name stands for. -/
def ofName (name : Text) : Expr :=
  match constants.lookup name with
  | some v => .literal v
  | none => .var name

/-- The name of a filter, which may have parts after dots. -/
def parseFilterName : Nat → List Token → Except TemplateError (Parsed Text)
  | 0, _ => .error .malformed
  | fuel + 1, .name name :: .symbol dot :: rest =>
      if dot = "." then do
        let (more, after) ← parseFilterName fuel rest
        .ok (name ++ "." ++ more, after)
      else .ok (name, .symbol dot :: rest)
  | _ + 1, .name name :: rest => .ok (name, rest)
  | _ + 1, tokens => .error (unexpected tokens)

mutual

/-- An expression. -/
def parseExpr : Nat → List Token → Except TemplateError (Parsed Expr)
  | 0, _ => .error .malformed
  | fuel + 1, tokens =>
      match tokens with
      | .name word :: rest =>
          if word = "not" then do
            let (e, after) ← parseExpr fuel rest
            .ok (.negation e, after)
          else parseSum fuel tokens
      | _ => parseSum fuel tokens

/-- A sum. -/
def parseSum : Nat → List Token → Except TemplateError (Parsed Expr)
  | 0, _ => .error .malformed
  | fuel + 1, tokens => do
      let (first, rest) ← parseConcat fuel tokens
      sumTail fuel first rest

/-- The further operands of a sum. -/
def sumTail : Nat → Expr → List Token → Except TemplateError (Parsed Expr)
  | 0, _, _ => .error .malformed
  | fuel + 1, left, tokens =>
      match tokens with
      | .symbol op :: rest =>
          if op = "+" then do
            let (right, after) ← parseConcat fuel rest
            sumTail fuel (.add left right) after
          else if op = "-" then do
            let (right, after) ← parseConcat fuel rest
            sumTail fuel (.sub left right) after
          else .ok (left, tokens)
      | _ => .ok (left, tokens)

/-- A concatenation. -/
def parseConcat : Nat → List Token → Except TemplateError (Parsed Expr)
  | 0, _ => .error .malformed
  | fuel + 1, tokens => do
      let (first, rest) ← parseUnary fuel true tokens
      match ← concatTail fuel rest with
      | ([], after) => .ok (first, after)
      | (others, after) => .ok (.concat (first :: others), after)

/-- The further operands of a concatenation. -/
def concatTail : Nat → List Token → Except TemplateError (Parsed (List Expr))
  | 0, _ => .error .malformed
  | fuel + 1, tokens =>
      match tokens with
      | .symbol op :: rest =>
          if op = "~" then do
            let (next, after) ← parseUnary fuel true rest
            let (others, last) ← concatTail fuel after
            .ok (next :: others, last)
          else .ok ([], tokens)
      | _ => .ok ([], tokens)

/-- A value with signs in front, and with filters behind where they are allowed. -/
def parseUnary : Nat → Bool → List Token → Except TemplateError (Parsed Expr)
  | 0, _, _ => .error .malformed
  | fuel + 1, filtered, tokens => do
      let (e, rest) ←
        match tokens with
        | .symbol op :: rest =>
            if op = "-" then do
              let (e, after) ← parseUnary fuel false rest
              .ok (Expr.neg e, after)
            else if op = "+" then do
              let (e, after) ← parseUnary fuel false rest
              .ok (Expr.pos e, after)
            else if op = "(" then do
              let (e, after) ← parseExpr fuel rest
              .ok (e, ← expect (.symbol ")") after)
            else .error .malformed
        | .number n :: rest => .ok (.literal (.number n), rest)
        | .text points :: rest =>
            let (more, after) := adjacentTexts rest
            .ok (.literal (.text (points ++ more)), after)
        | .name name :: rest => .ok (ofName name, rest)
        | _ => .error (unexpected tokens)
      if filtered then parseFilters fuel e rest else .ok (e, rest)

/-- The filters that follow an expression. -/
def parseFilters : Nat → Expr → List Token → Except TemplateError (Parsed Expr)
  | 0, _, _ => .error .malformed
  | fuel + 1, e, tokens =>
      match tokens with
      | .symbol bar :: rest =>
          if bar = "|" then do
            let (name, after) ← parseFilterName fuel rest
            match after with
            | .symbol opening :: inside =>
                if opening = "(" then do
                  let (arguments, last) ← parseArguments fuel true inside
                  parseFilters fuel (.filter e name arguments) last
                else parseFilters fuel (.filter e name []) after
            | _ => parseFilters fuel (.filter e name []) after
          else .ok (e, tokens)
      | _ => .ok (e, tokens)

/-- The arguments of a filter up to and including the closing bracket; a comma may stand before it. -/
def parseArguments : Nat → Bool → List Token → Except TemplateError (Parsed (List Expr))
  | 0, _, _ => .error .malformed
  | fuel + 1, first, tokens => do
      if tokens.head? = some (.symbol ")") then .ok ([], tokens.drop 1)
      else do
        let rest ← if first then .ok tokens else expect (.symbol ",") tokens
        if rest.head? = some (.symbol ")") then .ok ([], rest.drop 1)
        else do
          let (e, after) ← parseExpr fuel rest
          let (others, last) ← parseArguments fuel false after
          .ok (e :: others, last)

end

end Parsing

end Template
end Literate
