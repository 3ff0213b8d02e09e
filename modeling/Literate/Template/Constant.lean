import Literate.Template.Expr

/-!
# Constants of a template

When a template is read, the parts of its expressions that hold no variables
are worked out at once.  An operation that fails is left for later, when the
text is made, but a concatenation must succeed.

**Checks.**  A constant that remains must have a text, and outside conditions
every filter must exist.
-/

namespace Literate
namespace Template

/-- The result of an operation on constants; one that fails has none yet. -/
def tried (result : Except TemplateError (Option Value)) : Option Value :=
  match result with
  | .ok v => v
  | .error _ => none

mutual

/-- The value of an expression without variables. -/
def Expr.constant? : Expr → Except TemplateError (Option Value)
  | .literal v => .ok (some v)
  | .var _ => .ok none
  | .negation a => .ok ((tried a.constant?).map fun v => .flag !v.isTrue)
  | .neg a => .ok ((tried a.constant?).bind fun v => (v.signed (- ·)).toOption)
  | .pos a => .ok ((tried a.constant?).bind fun v => (v.signed id).toOption)
  | .add a b =>
      .ok do
        let x ← tried a.constant?
        let y ← tried b.constant?
        (x.add y).toOption
  | .sub a b =>
      .ok do
        let x ← tried a.constant?
        let y ← tried b.constant?
        (x.combine (· - ·) y).toOption
  | .concat parts => do .ok ((← constantText? parts).map .text)
  | .filter a name arguments =>
      match filters.lookup name with
      | none => .ok none
      | some run => do
          match ← constants? arguments with
          | none => .ok none
          | some values => do
              match ← a.constant? with
              | none => .ok none
              | some v => .ok (applyFilter run v values).toOption

/-- The values of several expressions without variables. -/
def constants? : List Expr → Except TemplateError (Option (List Value))
  | [] => .ok (some [])
  | e :: rest => do
      match ← e.constant? with
      | none => .ok none
      | some v => do .ok ((← constants? rest).map (v :: ·))

/-- The texts of several expressions without variables, up to the first that has some. -/
def constantText? : List Expr → Except TemplateError (Option CodePoints)
  | [] => .ok (some [])
  | e :: rest => do
      match ← e.constant? with
      | none => .ok none
      | some v => do
          let first ← v.toText
          .ok ((← constantText? rest).map (first ++ ·))

end

/-- The expression as a literal when it is constant. -/
def Expr.settled (e : Expr) : Except TemplateError Expr := do
  match ← e.constant? with
  | some v => .ok (.literal v)
  | none => .ok e

mutual

/-- The expression with its constant parts worked out. -/
def Expr.fold : Expr → Except TemplateError Expr
  | .literal v => .ok (.literal v)
  | .var name => .ok (.var name)
  | .negation a => do (Expr.negation (← a.fold)).settled
  | .neg a => do (Expr.neg (← a.fold)).settled
  | .pos a => do (Expr.pos (← a.fold)).settled
  | .add a b => do (Expr.add (← a.fold) (← b.fold)).settled
  | .sub a b => do (Expr.sub (← a.fold) (← b.fold)).settled
  | .concat parts => do (Expr.concat (← foldAll parts)).settled
  | .filter a name arguments => do (Expr.filter (← a.fold) name (← foldAll arguments)).settled

/-- Several expressions with their constant parts worked out. -/
def foldAll : List Expr → Except TemplateError (List Expr)
  | [] => .ok []
  | e :: rest => do
      let first ← e.fold
      .ok (first :: (← foldAll rest))

end

mutual

/-- Checks an expression whose constant parts are worked out.  Inside conditions a filter may be missing. -/
def Expr.check (inCondition : Bool) : Expr → Except TemplateError Unit
  | .literal v => do let _ ← v.toText
  | .var _ => .ok ()
  | .negation a => a.check inCondition
  | .neg a => a.check inCondition
  | .pos a => a.check inCondition
  | .add a b => do
      a.check inCondition
      b.check inCondition
  | .sub a b => do
      a.check inCondition
      b.check inCondition
  | .concat parts => checkAll inCondition parts
  | .filter a name arguments => do
      if (filters.lookup name).isNone && !inCondition then .error .unknownFilter
      else
        a.check inCondition
        checkAll inCondition arguments

/-- Checks several expressions. -/
def checkAll (inCondition : Bool) : List Expr → Except TemplateError Unit
  | [] => .ok ()
  | e :: rest => do
      e.check inCondition
      checkAll inCondition rest

end

end Template
end Literate
