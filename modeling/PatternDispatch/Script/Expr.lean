import PatternDispatch.Case
import PatternDispatch.Host

/-! The expressions of a scripted host. -/
namespace PatternDispatch.Script

inductive Expr where
  | value (v : Value)
  | var (n : Name)
  /-- The value of a variable in an array, or `false` if it is not defined. -/
  | maybe (n : Name)
  /-- Number of scopes. -/
  | depth
  | list (es : List Expr)
  /-- The value of the last one. -/
  | seq (es : List Expr)
  | add (a b : Expr)
  | greater (a b : Expr)
  | equal (a b : Expr)
  | not (a : Expr)
  | commit (n : Name) (a : Expr)
  | define (n : Name) (a : Expr)
  | raise (error : EvalError)

/-- Expressions under handles: plain ones, and dispatches that run inside another. -/
inductive Form where
  | expr (e : Expr)
  | case (c : CaseExpr)
  | oneLine (m : OneLineMatch)

/-- The sum of two integers wraps; there is no other sum. -/
def addValues : Value → Value → Value
  | .int a, .int b => .int (a + b)
  | _, _ => .nil

namespace Expr

variable {σ : Type} (fresh : HostM σ Identity)

mutual

/-- Evaluates an expression. Operands are evaluated from left to right. -/
def eval : Expr → EvalM σ Value
  | .value v => return v
  | .var n => return ((← .getEnv).lookup? n).getD .nil
  | .maybe n => do
    match (← .getEnv).lookup? n with
    | some v => return .array (← .ofHost fresh) [v]
    | none => return .bool false
  | .depth => return .int (.ofNat (← .getEnv).depth)
  | .list es => do
    let items ← evalAll es
    return .array (← .ofHost fresh) items
  | .seq es => return (← evalAll es).getLastD .nil
  | .add a b => return addValues (← eval a) (← eval b)
  | .greater a b => return .bool ((← eval a).cmp (← eval b) == some .gt)
  | .equal a b => return .bool ((← eval a) == (← eval b))
  | .not a => return .bool !(← eval a).isTruthy
  | .commit n a => do
    let v ← eval a
    .modifyEnv (·.commit n v)
    return v
  | .define n a => do
    let v ← eval a
    .modifyEnv (·.define n v)
    return v
  | .raise error => throw error

def evalAll : List Expr → EvalM σ (List Value)
  | [] => return []
  | e :: es => return (← eval e) :: (← evalAll es)

end

end Expr

end PatternDispatch.Script
