import PatternDispatch.Script.Host

/-! The steps of a script, and what is reported after each. -/
namespace PatternDispatch.Script

inductive Step where
  | case (c : CaseExpr)
  | oneLine (m : OneLineMatch)
  | matchValue (v : Value) (p : Pattern)
  | eval (e : ExprId)
  | assignExternal (r : ExternalRef) (v : Value)
  | push
  | pop
  | define (n : Name) (v : Value)
  | assign (n : Name) (v : Value)
  | commit (n : Name) (v : Value)
  | declare (n : Name)
  | lookup (n : Name)
  /-- Defines a variable in a temporary scope. -/
  | scoped (n : Name) (v : Value)

inductive StepResult where
  | done
  | evaluated (r : Except EvalError Value)
  | outcome (o : MatchOutcome)
  | assignedExternal (r : Except EvalError Unit)
  /-- The value comes back when no scope has the name. -/
  | assigned (back : Option Value)
  | found (v : Option Value)
  /-- What was seen inside the temporary scope. -/
  | seen (depth : Nat) (v : Option Value)

/-- What is reported after a step. -/
structure StepReport where
  result : StepResult
  /-- The visible variables, by text. -/
  visibleVars : List (String × Value)
  depth : Nat
  externals : List (Except EvalError Value)
  log : List LogEntry
  trace : List Event

/-- Changes variables and nothing else. -/
def onEnv (f : Environment → Environment) : StateM (Session World) StepResult := do
  modify fun s => { s with env := f s.env }
  return .done

/-- Runs one step. -/
def runStep (s : Script) : Step → StateM (Session World) StepResult
  | .case c => return .evaluated (← (s.engine.evalCase c).run)
  | .oneLine m => return .evaluated (← (s.engine.evalOneLine m).run)
  | .matchValue v p => return .outcome (← s.engine.matchValue p v)
  | .eval e => return .evaluated (← (s.engine.host.eval e).run)
  | .assignExternal r v =>
    return .assignedExternal (← (EvalM.ofHost (s.engine.host.assignExternal r v)).run)
  | .push => onEnv Environment.push
  | .pop => onEnv Environment.pop
  | .define n v => onEnv (·.define n v)
  | .assign n v => do
    let (back, env) := (← get).env.assign n v
    modify fun s => { s with env }
    return .assigned back
  | .commit n v => onEnv (·.commit n v)
  | .declare n => onEnv (·.declare n)
  | .lookup n => return .found ((← get).env.lookup? n)
  | .scoped n v => do
    let inside := (← get).env.push.define n v
    return .seen inside.depth (inside.lookup? n)

/-- The visible variables, ordered by their texts. -/
def visible (s : Script) (env : Environment) : List (String × Value) :=
  (env.capture.map fun p => (s.names.text p.1, p.2)).mergeSort fun p q => p.1 ≤ q.1

/-- Runs one step with an empty log, and reports. `listed` are the external variables to show. -/
def reportStep (s : Script) (listed : List ExternalRef) (step : Step) :
    StateM (Session World) StepReport := do
  modify fun t => { t with world := { t.world with log := #[], trace := #[] } }
  let result ← s.runStep step
  let t ← get
  return {
    result
    visibleVars := s.visible t.env
    depth := t.env.depth
    externals := listed.map (t.world.externals.resolve s.names)
    log := t.world.log.toList
    trace := t.world.trace.toList }

/-- Runs steps in order on one session. -/
def run (s : Script) (listed : List ExternalRef) : List Step → Session World → List StepReport
  | [], _ => []
  | step :: steps, t =>
    let (report, t) := s.reportStep listed step t
    report :: run s listed steps t

end PatternDispatch.Script
