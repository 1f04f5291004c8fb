import PatternDispatch.Proofs.Answering

/-! A host that keeps a record of what it was asked. It answers as the host inside it does, so what
is said of every host is said of the calls as well. -/
namespace PatternDispatch

open Dialogue

/-- A call of the host with its answer. -/
inductive Call where
  /-- With the variables that the expression can see. -/
  | eval (x : ExprId) (env : Environment) (answer : Except EvalError Value)
  | resolveExternal (r : ExternalRef) (answer : Except EvalError Value)
  | assignExternal (r : ExternalRef) (v : Value) (answer : Except EvalError Unit)
  | caseEq (p v : Value) (answer : Except EvalError Bool)
  | deconstruct (v : Value) (answer : Except EvalError (Deconstructed (List Value)))
  | deconstructKeys (v : Value) (requested : Option (List Name))
    (answer : Except EvalError (Deconstructed Mapping))
  | render (v : Value) (text : String)

namespace Call

/-- Whether a value was asked to open itself. -/
def isHook : Call → Bool
  | .deconstruct _ _ => true
  | .deconstructKeys _ _ _ => true
  | _ => false

end Call

/-- The state of a recording host. -/
structure Recorded (σ : Type) where
  world : σ
  calls : List Call

namespace Recorded

variable {σ α : Type}

def note (keep : Call → Bool) (call : Call) (s : Recorded σ) (world : σ) : Recorded σ :=
  ⟨world, if keep call then s.calls ++ [call] else s.calls⟩

/-- A step of the host inside, with a note of the call. -/
def step (keep : Call → Bool) (call : Except EvalError α → Call) (m : HostM σ α) :
    HostM (Recorded σ) α := fun s =>
  let (r, world) := m s.world
  (r, s.note keep (call r) world)

/-- A step of the host inside that is no call. -/
def quiet (m : StateM σ α) : StateM (Recorded σ) α := fun s =>
  let (a, world) := m s.world
  (a, { s with world })

end Recorded

/-- Keeps the calls of interest. -/
def Host.recording {σ : Type} (keep : Call → Bool) (h : Host σ) : Host (Recorded σ) where
  eval x := fun s =>
    let (r, s') := h.eval x ⟨s.env, s.world.world⟩
    (r, ⟨s'.env, s.world.note keep (.eval x s.env r) s'.world⟩)
  resolveExternal r := Recorded.step keep (.resolveExternal r) (h.resolveExternal r)
  assignExternal r v := Recorded.step keep (.assignExternal r v) (h.assignExternal r v)
  caseEq p v := Recorded.step keep (.caseEq p v) (h.caseEq p v)
  deconstruct v := Recorded.step keep (.deconstruct v) (h.deconstruct v)
  deconstructKeys v requested :=
    Recorded.step keep (.deconstructKeys v requested) (h.deconstructKeys v requested)
  render v := fun s =>
    let (text, world) := h.render v s.world
    (text, s.note keep (.render v text) world)
  fresh := Recorded.quiet h.fresh
  observe event := Recorded.quiet (h.observe event)

/-- The session of the host inside. -/
def Session.forget {σ : Type} (s : Session (Recorded σ)) : Session σ := ⟨s.env, s.world.world⟩

/-- A session with a record to be continued. -/
def Session.withRecord {σ : Type} (s : Session σ) (calls : List Call) : Session (Recorded σ) :=
  ⟨s.env, ⟨s.world, calls⟩⟩

@[simp]
theorem Session.forget_withRecord {σ : Type} (s : Session σ) (calls : List Call) :
    (s.withRecord calls).forget = s := rfl

def Standing.forget {σ : Type} (t : Standing (Recorded σ)) : Standing σ :=
  ⟨t.session.forget, t.cache⟩

namespace Engine

variable {σ α : Type}

/-- The engine on a host that keeps the calls of interest. -/
def recording (keep : Call → Bool) (e : Engine σ) : Engine (Recorded σ) :=
  { e with host := e.host.recording keep }

/-- The engine on a host that keeps all calls. -/
def recorded (e : Engine σ) : Engine (Recorded σ) := e.recording fun _ => true

variable (keep : Call → Bool) (e : Engine σ)

theorem direct_forget (q : Question) (s : Session (Recorded σ)) :
    e.direct q s.forget =
      (((e.recording keep).direct q s).1, ((e.recording keep).direct q s).2.forget) := by
  cases q with
  | mapping p v =>
    simp only [direct, HostM.bind_apply]
    simp only [EvalM.ofHost, recording, Host.recording, Recorded.step, Session.forget]
    rcases e.host.deconstructKeys v p.requestedKeys s.world.world with ⟨_ | a, world⟩ <;> rfl
  | store t v => cases t <;> rfl
  | _ => rfl

/-- Keeping a record changes nothing else. -/
theorem cached_forget (q : Question) (t : Standing (Recorded σ)) :
    e.cached q t.forget =
      (((e.recording keep).cached q t).1, ((e.recording keep).cached q t).2.forget) := by
  rcases q.opens_cases with ⟨v, rfl⟩ | ⟨p, v, rfl⟩ | plain
  · cases kept : t.cache.sequence? v with
    | some a =>
      rw [e.cached_sequence_kept (t := t.forget) kept, cached_sequence_kept _ kept]
      rfl
    | none =>
      rw [e.cached_sequence_asked (t := t.forget) kept, cached_sequence_asked _ kept]
      rfl
  · cases kept : t.cache.mapping? (e.mappingKey? v p.requestedKeys) with
    | some a =>
      rw [e.cached_mapping_kept (t := t.forget) kept,
        (e.recording keep).cached_mapping_kept (t := t) kept]
      rfl
    | none =>
      rw [e.cached_mapping_asked (t := t.forget) kept,
        (e.recording keep).cached_mapping_asked (t := t) kept]
      rfl
  · rw [e.cached_of_plain plain, (e.recording keep).cached_of_plain plain]
    simp only [Standing.ofEval, Standing.forget, e.direct_forget keep]
    rfl

theorem run_forget (d : Dialogue α) (t : Standing (Recorded σ)) :
    run e.cached d t.forget =
      ((run (e.recording keep).cached d t).1, (run (e.recording keep).cached d t).2.forget) :=
  run_agrees (e.cached_forget keep) d t

end Engine

end PatternDispatch
