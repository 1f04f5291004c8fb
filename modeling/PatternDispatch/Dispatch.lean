import PatternDispatch.Case
import PatternDispatch.Matching

/-! Dispatch on a value. The scrutinee is evaluated once, and every arm's variables are declared.
Arms are tried in order; a match runs the guard in a temporary scope that holds the arm's bindings,
and the first arm that gets through commits them and evaluates its body. Answers to deconstruction
are shared by all arms. -/
namespace PatternDispatch.Engine

variable {σ : Type} (e : Engine σ)

/-- Makes the variables of a pattern exist. -/
def declareNames (p : Pattern) : EvalM σ Unit :=
  .modifyEnv fun env => p.bindingNames.foldl Environment.declare env

/-- Whether a guard lets its arm through. -/
def guardPasses (guard : Option Guard) (b : Bindings) : EvalM σ Bool := do
  match guard with
  | none => return true
  | some g =>
    let condition ← .inScope b.scopeIn (e.host.eval g.expr)
    return g.passes condition.isTruthy

/-- Stores bindings in their order: local ones in the environment, others through the host. -/
def commit : List (BindTarget × Value) → EvalM σ Unit
  | [] => return
  | (.localVar n, v) :: bs => do
    .modifyEnv (·.commit n v)
    commit bs
  | (.external r, v) :: bs => do
    e.observe .externalAssigned
    .ofHost (e.host.assignExternal r v)
    commit bs

/-- Fails because nothing matched. -/
def noMatch (v : Value) : EvalM σ Value := do
  throw (.noMatchingPattern (← .ofHost (ExceptT.lift (e.host.render v))))

/-- Tries arms from number `index` on. -/
def tryArms (v : Value) (elseBody : Option ExprId) :
    Nat → List CaseArm → Cache → EvalM σ Value
  | _, [], cache => do
    e.observe (.noArmMatched cache.hookCalls cache.hits)
    match elseBody with
    | some body => e.host.eval body
    | none => e.noMatch v
  | index, arm :: arms, cache => do
    let (outcome, cache) ← ExceptT.lift (e.attempt arm.pattern v cache)
    match outcome with
    | .failed error =>
      e.observe (.dispatchAborted index error.kind.code)
      throw error
    | .unmatched =>
      e.observe (.armMissed index)
      tryArms v elseBody (index + 1) arms cache
    | .matched b =>
      if ← e.guardPasses arm.guard b then
        e.observe (.armMatched index b.size cache.hookCalls cache.hits)
        e.commit b.toList
        e.host.eval arm.body
      else
        e.observe (.guardRejected index)
        tryArms v elseBody (index + 1) arms cache

/-- Evaluates a case expression. -/
def evalCase (c : CaseExpr) : EvalM σ Value := do
  e.observe (.enteredCase c.arms.length)
  let v ← e.host.eval c.scrutinee
  c.arms.forM fun arm => declareNames arm.pattern
  e.tryArms v c.elseBody 0 c.arms .empty

/-- Matches and commits; answers the value and whether it matched. -/
def matchOneLine (value : ExprId) (p : Pattern) : EvalM σ (Value × Bool) := do
  let v ← e.host.eval value
  declareNames p
  match ← ExceptT.lift (e.matchValue p v) with
  | .matched b =>
    e.commit b.toList
    return (v, true)
  | .unmatched => return (v, false)
  | .failed error => throw error

/-- Evaluates to whether the value matches. -/
def evalTest (value : ExprId) (p : Pattern) : EvalM σ Value := do
  e.observe .enteredTest
  let (_, matched) ← e.matchOneLine value p
  return .bool matched

/-- Evaluates to `nil`, and fails unless the value matches. -/
def evalAssert (value : ExprId) (p : Pattern) : EvalM σ Value := do
  e.observe .enteredAssert
  let (v, matched) ← e.matchOneLine value p
  if matched then return .nil
  e.noMatch v

/-- Evaluates a pattern on a line of its own. -/
def evalOneLine (m : OneLineMatch) : EvalM σ Value :=
  match m.mode with
  | .test => e.evalTest m.value m.pattern
  | .assert => e.evalAssert m.value m.pattern

end PatternDispatch.Engine
