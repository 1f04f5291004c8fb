import PatternDispatch.Dispatch
import PatternDispatch.ExprTable
import PatternDispatch.Script.Expr
import PatternDispatch.Script.Heap

/-! A host that follows a script. It logs its calls, can be made to fail at a given call, and can
refine how values test and open themselves. An expression of the script may be a dispatch of its own,
which runs on the same host. -/
namespace PatternDispatch

namespace Script

/-- The calls at which a host can be made to fail. -/
inductive HostCall where
  | eval
  | caseEq
  | deconstruct
  | deconstructKeys
  | resolve
  | assign
  deriving DecidableEq

def HostCall.name : HostCall → String
  | .eval => "eval"
  | .caseEq => "case_eq"
  | .deconstruct => "deconstruct"
  | .deconstructKeys => "deconstruct_keys"
  | .resolve => "resolve"
  | .assign => "assign"

def HostCall.all : List HostCall :=
  [.eval, .caseEq, .deconstruct, .deconstructKeys, .resolve, .assign]

def HostCall.ofName? (s : String) : Option HostCall := HostCall.all.find? (·.name == s)

/-- A failure that strikes at one call of its kind; a countdown at 0 has passed. -/
structure Fault where
  call : HostCall
  countdown : Nat
  message : String

/-- What a call leaves of a fault. -/
def Fault.tick (call : HostCall) (f : Fault) : Fault :=
  if f.call = call then { f with countdown := f.countdown - 1 } else f

def Fault.strikesAt (call : HostCall) (f : Fault) : Bool := f.call = call && f.countdown == 1

/-- An entry of the log. -/
inductive LogEntry where
  | eval (e : ExprId)
  | resolve (r : ExternalRef)
  | assign (r : ExternalRef) (v : Value)
  | caseEq (p v : Value) (answer : Bool)
  | deconstruct (v : Value)
  | deconstructKeys (v : Value) (keys : Option (List Name))
  | render
  | sequenceHook (tag : String)
  | mappingHook (tag : String) (keys : Option (List Name))
  | fault (call : HostCall)

/-- The state of a scripted host. -/
structure World where
  nextSerial : Nat
  externals : Externals
  faults : List Fault
  /-- How often each hook has been called. -/
  turns : Std.HashMap (Identity × Capability) Nat
  log : Array LogEntry
  trace : Array Event

/-- Values that a host treats as if they were others: the operand of a test, and, for a value that
passes a test, the value that is opened in its place. -/
structure Refinements where
  caseEq : List (Value × Value)
  deconstruct : List (Value × Value)
  deconstructKeys : List (Value × Value)
  /-- Stands before every rendered value. -/
  renderPrefix : String

end Script

/-- All that stays the same while a script runs. -/
structure Script where
  names : Interner
  config : Config
  forms : ExprTable Script.Form
  heap : Script.Heap
  refinements : Script.Refinements
  /-- Whether values only have their own behaviour, without a log, refinements or faults. -/
  plain : Bool

namespace Script

namespace World

def write (entry : LogEntry) : StateM World Unit :=
  modify fun w => { w with log := w.log.push entry }

def fresh : StateM World Identity := fun w =>
  (⟨w.nextSerial⟩, { w with nextSerial := w.nextSerial + 1 })

/-- Counts a call, and fails if a fault strikes at it. -/
def checkFault (call : HostCall) : HostM World Unit := do
  let faults := (← get).faults
  modify fun w => { w with faults := faults.map (Fault.tick call) }
  match faults.find? (Fault.strikesAt call) with
  | some f =>
    write (.fault call)
    throw (.host f.message)
  | none => return

/-- A call that is logged before it runs. -/
def enter (call : HostCall) (entry : LogEntry) : HostM World Unit := do
  write entry
  checkFault call

/-- The number of earlier calls of a hook. -/
def takeTurn (id : Identity) (c : Capability) : StateM World Nat := fun w =>
  let turn := w.turns.getD (id, c) 0
  (turn, { w with turns := w.turns.insert (id, c) (turn + 1) })

end World

/-- The answer of one turn; the last answer repeats. -/
def answerAt (answers : List Value) (turn : Nat) : Value :=
  (answers[turn]?).getD (answers.getLastD .nil)

/-- The part of a hash that is requested, in the order of the request. -/
def selectKeys (source : Pairs) (keys : List Name) : Pairs :=
  .ofSymbols (keys.filterMap fun n => (source.get? (.symbol n)).map ((n, ·)))

/-- Each name under its index. -/
def indexKeys (keys : List Name) : Pairs :=
  .ofSymbols (keys.zipIdx.map fun p => (p.1, .int (.ofNat p.2)))

/-- One call of a hook. -/
def KeysHook.answer (hook : KeysHook) (turn : Nat) (keys : Option (List Name)) :
    StateM World Value :=
  match hook, keys with
  | .answers vs, _ => return answerAt vs turn
  | .select source, none => return source
  | .select source, some keys =>
    return .hash (← World.fresh) (selectKeys (source.pairs?.getD []) keys)
  | .echo all, none => return .hash (← World.fresh) (Pairs.ofSymbols [(all, .bool true)])
  | .echo _, some keys => return .hash (← World.fresh) (indexKeys keys)

/-- The behaviour of a script's procedures and objects; hooks log their calls. -/
def methods (heap : Heap) : Methods World where
  test := heap.test
  sequence? := fun id => do
    let hooks ← heap.objects[id]?
    let answers ← hooks.sequence
    return do
      World.write (.sequenceHook hooks.tag)
      return answerAt answers (← World.takeTurn id .sequence)
  mapping? := fun id => do
    let hooks ← heap.objects[id]?
    let hook ← hooks.mapping
    return fun keys => do
      World.write (.mappingHook hooks.tag keys)
      hook.answer (← World.takeTurn id .mapping) keys

/-- The value that stands in for an opened one. -/
def standIn (heap : Heap) (refinements : List (Value × Value)) (v : Value) : Value :=
  match refinements.find? fun r => r.1.caseEq heap.test (fun _ => none) v with
  | some (_, substitute) => substitute
  | none => v

/-- The value that stands in for an operand. -/
def refinedOperand (refinements : List (Value × Value)) (p : Value) : Value :=
  match refinements.find? fun r => r.1 == p with
  | some (_, substitute) => substitute
  | none => p

/-- The calls of a script's host that do not evaluate expressions. -/
def collaborators (s : Script) (eval : ExprId → EvalM World Value) : Host World where
  eval := eval
  resolveExternal := fun r => do
    World.enter .resolve (.resolve r)
    (← get).externals.resolve s.names r
  assignExternal := fun r v => do
    World.enter .assign (.assign r v)
    let externals ← (← get).externals.assign s.names r v
    modify fun w => { w with externals }
  caseEq := fun p v => do
    World.checkFault .caseEq
    let answer :=
      (refinedOperand s.refinements.caseEq p).caseEq s.heap.test (fun n => s.names.lookup? n) v
    World.write (.caseEq p v answer)
    return answer
  deconstruct := fun v => do
    World.enter .deconstruct (.deconstruct v)
    (standIn s.heap s.refinements.deconstruct v).deconstruct (methods s.heap)
  deconstructKeys := fun v keys => do
    World.enter .deconstructKeys (.deconstructKeys v keys)
    (standIn s.heap s.refinements.deconstructKeys v).deconstructKeys (methods s.heap) keys
  render := fun v => do
    World.write .render
    return s.refinements.renderPrefix ++ v.inspect s.names
  fresh := World.fresh
  observe := fun event => modify fun w => { w with trace := w.trace.push event }

/-- The host of a script, given how its expressions are evaluated. -/
def hostWith (s : Script) (eval : ExprId → EvalM World Value) : Host World :=
  let h := s.collaborators eval
  if s.plain then h.withOwnBehaviour s.names (methods s.heap) else h

/-- Evaluates an expression of a script. `nesting` bounds how deep dispatches may run inside each
other. -/
def eval (s : Script) (nesting : Nat) (e : ExprId) : EvalM World Value := do
  .ofHost (World.enter .eval (.eval e))
  match ← s.forms.find e with
  | .expr x => x.eval (ExceptT.lift World.fresh)
  | .case c =>
    match nesting with
    | 0 => throw (.custom "dispatches are nested too deeply")
    | n + 1 => (Engine.mk (s.hostWith (s.eval n)) s.names s.config).evalCase c
  | .oneLine m =>
    match nesting with
    | 0 => throw (.custom "dispatches are nested too deeply")
    | n + 1 => (Engine.mk (s.hostWith (s.eval n)) s.names s.config).evalOneLine m

/-- Dispatches may run this deep inside each other. -/
def maxNesting : Nat := 100000

/-- The engine that runs a script. -/
def engine (s : Script) : Engine World := ⟨s.hostWith (s.eval maxNesting), s.names, s.config⟩

end Script

end PatternDispatch
