import PatternDispatch.Pattern

/-! The expressions that dispatch on a value: several arms with an alternative, or one pattern on a
line of its own. -/
namespace PatternDispatch

/-- A condition on an arm whose pattern has matched. -/
structure Guard where
  /-- The arm is taken when the condition fails. -/
  negated : Bool
  expr : ExprId

def Guard.passes (g : Guard) (truthy : Bool) : Bool := truthy != g.negated

structure CaseArm where
  pattern : Pattern
  guard : Option Guard
  body : ExprId

structure CaseExpr where
  scrutinee : ExprId
  arms : List CaseArm
  elseBody : Option ExprId

/-- What a pattern on a line of its own does when it does not match. -/
inductive OneLineMode where
  /-- Answers whether it matched. -/
  | test
  /-- Fails unless it matched. -/
  | assert
  deriving DecidableEq

def OneLineMode.debug : OneLineMode → String
  | .test => "Test"
  | .assert => "Assert"

structure OneLineMatch where
  value : ExprId
  pattern : Pattern
  mode : OneLineMode

end PatternDispatch
