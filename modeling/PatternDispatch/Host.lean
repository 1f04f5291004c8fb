import PatternDispatch.Environment
import PatternDispatch.Error
import PatternDispatch.Event
import PatternDispatch.Value.Inspect

/-! The host: all that a dispatch needs of the language around it. Each collaborator is a step on a
state of the host's own and may fail; the state outlives a failure. Evaluating an expression may
also change variables. -/
namespace PatternDispatch

/-- A step of a host with state `σ`. -/
abbrev HostM (σ α : Type) := ExceptT EvalError (StateM σ) α

namespace HostM

variable {σ α β : Type}

theorem bind_apply (m : HostM σ α) (f : α → HostM σ β) (s : σ) :
    (m >>= f) s =
      match m s with
      | (.ok a, s) => f a s
      | (.error error, s) => (.error error, s) := by
  change (match (m s : Except EvalError α × σ) with
    | (r, s) => (ExceptT.bindCont f r : StateM σ (Except EvalError β)) s) = _
  rcases m s with ⟨error | a, s'⟩
  · rfl
  · rfl

/-- A step that succeeds goes on with what comes after it. -/
theorem bind_of_ok {m : HostM σ α} {s s' : σ} {a : α} (h : m s = (.ok a, s')) (f : α → HostM σ β) :
    (m >>= f) s = f a s' := by
  rw [bind_apply, h]

/-- A step that fails leaves out what comes after it. -/
theorem bind_of_error {m : HostM σ α} {s s' : σ} {error : EvalError} (h : m s = (.error error, s'))
    (f : α → HostM σ β) : (m >>= f) s = (.error error, s') := by
  rw [bind_apply, h]

/-- A test and what it guards succeed if both do. -/
theorem both_eq_true {test next : HostM σ Bool} {s s' : σ} :
    (do if ← test then next else return false : HostM σ Bool) s = (.ok true, s') ↔
      ∃ t, test s = (.ok true, t) ∧ next t = (.ok true, s') := by
  constructor
  · intro both
    rcases tested : test s with ⟨error | _ | _, t⟩
    · cases (bind_of_error tested _).symm.trans both
    · cases (bind_of_ok tested _).symm.trans both
    · exact ⟨t, rfl, (bind_of_ok tested _).symm.trans both⟩
  · rintro ⟨t, tested, guarded⟩
    exact (bind_of_ok tested _).trans guarded

end HostM

/-- The variables and the state of the host. -/
structure Session (σ : Type) where
  env : Environment
  world : σ

/-- A step that may also read and change variables. -/
abbrev EvalM (σ α : Type) := ExceptT EvalError (StateM (Session σ)) α

namespace EvalM

/-- A step of the host, which leaves the variables alone. -/
def ofHost {σ α : Type} (m : HostM σ α) : EvalM σ α := fun s =>
  let (r, w) := m s.world
  (r, { s with world := w })

def getEnv {σ : Type} : EvalM σ Environment := fun s => (.ok s.env, s)

def modifyEnv {σ : Type} (f : Environment → Environment) : EvalM σ Unit := fun s =>
  (.ok (), { s with env := f s.env })

/-- A step inside a temporary scope, which is left again however the step ends. -/
def inScope {σ α : Type} (enter : Environment → Environment) (m : EvalM σ α) : EvalM σ α := fun s =>
  let (r, s) := m { s with env := enter s.env }
  (r, { s with env := s.env.pop })

end EvalM

structure Host (σ : Type) where
  /-- Evaluates a scrutinee, a guard, a pinned expression or a body. -/
  eval : ExprId → EvalM σ Value
  resolveExternal : ExternalRef → HostM σ Value
  /-- Stores a value bound to an external target. -/
  assignExternal : ExternalRef → Value → HostM σ Unit
  /-- The test behind literals, pins and constants, with the pattern operand first. -/
  caseEq : Value → Value → HostM σ Bool
  deconstruct : Value → HostM σ (Deconstructed (List Value))
  /-- The mapping of a value; `none` asks for all keys. -/
  deconstructKeys : Value → Option (List Name) → HostM σ (Deconstructed Mapping)
  /-- The text of a value in the message that nothing matched. -/
  render : Value → StateM σ String
  /-- An identity for a new array or hash. -/
  fresh : StateM σ Identity
  /-- Takes note of the progress of a dispatch. -/
  observe : Event → StateM σ Unit

namespace Host

/-- Replaces the collaborators that test and open values by the values' own behaviour. Symbols have
no text for regular expressions here. -/
def withOwnBehaviour {σ : Type} (h : Host σ) (names : Interner) (m : Methods σ) : Host σ :=
  { h with
    caseEq := fun p v => pure (p.caseEq m.test (fun _ => none) v)
    deconstruct := fun v => ExceptT.lift (v.deconstruct m)
    deconstructKeys := fun v keys => ExceptT.lift (v.deconstructKeys m keys)
    render := fun v => pure (v.inspect names) }

/-- The same host, deaf to reports. -/
def silent {σ : Type} (h : Host σ) : Host σ := { h with observe := fun _ => pure () }

end Host

/-- When an answer to a request for keys serves a later request. -/
inductive KeysCachePolicy where
  /-- Always: the first request to reach a value decides what it is asked for. -/
  | perValue
  /-- When the same keys are requested, in whatever order. -/
  | perKeySet
  /-- Never. -/
  | uncached
  deriving DecidableEq

structure Config where
  keysCache : KeysCachePolicy
  /-- Whether it is an error to answer a requested key under a text of the same spelling. -/
  strictKeyShape : Bool
  deriving DecidableEq

def Config.standard : Config := ⟨.perValue, true⟩

/-- A host with what a dispatch on it needs to know. -/
structure Engine (σ : Type) where
  host : Host σ
  names : Interner
  config : Config

end PatternDispatch
