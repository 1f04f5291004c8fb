import PatternDispatch.Proofs.ArmsTried
import PatternDispatch.Proofs.Composition
import PatternDispatch.Proofs.PersistentDispatch

/-! What a dispatch reports of its requests. When an arm is taken, or none is left, it says how many
requests reached the host and how many were answered by what was kept. These are the counts with which
its dialogue ends, for nothing is opened afterwards. The reports go to a listener beside the host. -/
namespace PatternDispatch

open Dialogue

/-- How many requests were calls and how many were hits, in a report that says so. -/
def Event.counts? : Event → Option (Nat × Nat)
  | .armMatched _ _ hookCalls cacheHits => some (hookCalls, cacheHits)
  | .noArmMatched hookCalls cacheHits => some (hookCalls, cacheHits)
  | _ => none

theorem Event.counts?_of_window {event : Event} (window : event.isWindow = true) :
    event.counts? = none := by
  cases event with
  | windowMatched start width => rfl
  | noWindowMatched len width => rfl
  | _ => cases window

/-- The state of a host and the reports that a listener has kept. -/
structure Heard (σ : Type) where
  world : σ
  events : List Event

namespace Heard

variable {σ α : Type}

/-- The counts that were reported. -/
def counts (s : Heard σ) : List (Nat × Nat) := s.events.filterMap Event.counts?

/-- A step of the host, of which the listener takes no notice. -/
def unheard (m : StateM σ α) : StateM (Heard σ) α := fun s =>
  let (a, world) := m s.world
  (a, { s with world })

end Heard

/-- The host with a listener beside it, to whom all reports go. -/
def Host.heard {σ : Type} (h : Host σ) : Host (Heard σ) where
  eval x := fun s =>
    let (r, s') := h.eval x ⟨s.env, s.world.world⟩
    (r, ⟨s'.env, { s.world with world := s'.world }⟩)
  resolveExternal r := Heard.unheard (h.resolveExternal r)
  assignExternal r v := Heard.unheard (h.assignExternal r v)
  caseEq p v := Heard.unheard (h.caseEq p v)
  deconstruct v := Heard.unheard (h.deconstruct v)
  deconstructKeys v requested := Heard.unheard (h.deconstructKeys v requested)
  render v := Heard.unheard (h.render v)
  fresh := Heard.unheard h.fresh
  observe event := fun s => ((), { s with events := s.events ++ [event] })

/-- The session of the host alone. -/
def Session.alone {σ : Type} (s : Session (Heard σ)) : Session σ := ⟨s.env, s.world.world⟩

/-- A session with a listener who has heard nothing. -/
def Session.heard {σ : Type} (s : Session σ) : Session (Heard σ) := ⟨s.env, ⟨s.world, []⟩⟩

def Standing.alone {σ : Type} (t : Standing (Heard σ)) : Standing σ := ⟨t.session.alone, t.cache⟩

/-- No counts are reported. -/
def Contract.uncounted : Contract :=
  ⟨fun q => ∀ event, q = .report event → event.counts? = none, fun _ _ => True⟩

/-- While a pattern is matched, only windows are reported. -/
theorem uncounted_composes (names : Interner) :
    Composes names fun _ d => d.Keeps .uncounted fun _ => True where
  done _ := trivial
  bind hd hf := hd.bind fun a _ => hf a
  lookUp n := by
    refine ⟨nofun, fun found _ => ?_⟩
    cases found <;> trivial
  openSequence v := by
    refine ⟨nofun, fun answer _ => ?_⟩
    cases answer <;> trivial
  matchHash p v bs inside := by
    rw [Persistent.matchHash_eq_ask]
    refine ⟨nofun, fun answer _ => ?_⟩
    cases answer with
    | supported m => exact inside m.pairs
    | unsupported => trivial
    | wrongShape error => trivial
  external r := ⟨nofun, fun _ _ => trivial⟩
  evalWith bs x := ⟨nofun, fun _ _ => trivial⟩
  caseEq p v := ⟨nofun, fun _ _ => trivial⟩
  fresh := ⟨nofun, fun _ _ => trivial⟩
  report event window :=
    ⟨fun _ same => by cases same; exact Event.counts?_of_window window, fun _ _ => trivial⟩

namespace EvalM

variable {σ α β : Type}

/-- A step beside a listener does what another step does on the host alone, and reports no counts. -/
def Unheard (m : EvalM σ α) (m' : EvalM (Heard σ) α) : Prop :=
  ∀ s : Session (Heard σ), m s.alone = ((m' s).1, (m' s).2.alone) ∧
    (m' s).2.world.counts = s.world.counts

theorem Unheard.bind {m : EvalM σ α} {m' : EvalM (Heard σ) α} {f : α → EvalM σ β}
    {f' : α → EvalM (Heard σ) β} (hm : Unheard m m') (hf : ∀ a, Unheard (f a) (f' a)) :
    Unheard (m >>= f) (m' >>= f') := by
  intro s
  obtain ⟨same, quiet⟩ := hm s
  rw [HostM.bind_apply, HostM.bind_apply, same]
  rcases done : m' s with ⟨error | a, s'⟩ <;> rw [done] at quiet
  · exact ⟨rfl, quiet⟩
  · exact ⟨(hf a s').1, (hf a s').2.trans quiet⟩

end EvalM

namespace Engine

open EvalM

variable {σ : Type} (e : Engine σ)

/-- The engine on a host with a listener beside it. -/
def heard : Engine (Heard σ) := { e with host := e.host.heard }

theorem counts_reported (event : Event) (s : Session (Heard σ)) :
    (e.heard.reported event s).world.counts = s.world.counts ++ event.counts?.toList := by
  change (s.world.events ++ [event]).filterMap Event.counts? = _
  rw [List.filterMap_append, List.filterMap_cons]
  cases event.counts? <;> rfl

theorem counts_kept {event : Event} (uncounted : event.counts? = none) (s : Session (Heard σ)) :
    (e.heard.reported event s).world.counts = s.world.counts := by
  rw [counts_reported, uncounted]
  exact List.append_nil _

theorem direct_unheard {q : Question} (uncounted : Contract.uncounted.asks q) :
    Unheard (e.silent.direct q) (e.heard.direct q) := by
  intro s
  cases q with
  | mapping p v =>
    simp only [direct, HostM.bind_apply]
    simp only [EvalM.ofHost, heard, silent, Host.silent, Host.heard, Heard.unheard, Session.alone]
    rcases e.host.deconstructKeys v p.requestedKeys s.world.world with ⟨error | a, world⟩ <;>
      exact ⟨rfl, rfl⟩
  | store t v => cases t <;> exact ⟨rfl, rfl⟩
  | report event => exact ⟨rfl, e.counts_kept (uncounted event rfl) s⟩
  | _ => exact ⟨rfl, rfl⟩

theorem cached_unheard {q : Question} (uncounted : Contract.uncounted.asks q)
    (t : Standing (Heard σ)) :
    e.silent.cached q t.alone = ((e.heard.cached q t).1, (e.heard.cached q t).2.alone) ∧
      (e.heard.cached q t).2.session.world.counts = t.session.world.counts := by
  rcases q.opens_cases with ⟨v, rfl⟩ | ⟨p, v, rfl⟩ | plain
  · cases kept : t.cache.sequence? v with
    | some a =>
      rw [e.silent.cached_sequence_kept (t := t.alone) kept, cached_sequence_kept _ kept]
      exact ⟨rfl, e.counts_kept rfl t.session⟩
    | none =>
      rw [e.silent.cached_sequence_asked (t := t.alone) kept, cached_sequence_asked _ kept]
      exact ⟨rfl, rfl⟩
  · cases kept : t.cache.mapping? (e.mappingKey? v p.requestedKeys) with
    | some a =>
      rw [e.silent.cached_mapping_kept (t := t.alone) kept,
        e.heard.cached_mapping_kept (t := t) kept]
      exact ⟨rfl, e.counts_kept rfl t.session⟩
    | none =>
      rw [e.silent.cached_mapping_asked (t := t.alone) kept,
        e.heard.cached_mapping_asked (t := t) kept]
      exact ⟨rfl, rfl⟩
  · obtain ⟨same, quiet⟩ := e.direct_unheard uncounted t.session
    rw [e.silent.cached_of_plain plain, e.heard.cached_of_plain plain]
    refine ⟨?_, quiet⟩
    have alone : t.alone.session = t.session.alone := rfl
    simp only [Standing.ofEval, alone, same]
    rfl

/-- An attempt to match reports no counts. -/
theorem matchNode_unheard (p : Pattern) (v : Value) (t : Standing (Heard σ)) :
    let d := Persistent.matchNode e.names p v []
    run e.silent.cached d t.alone =
        ((run e.heard.cached d t).1, (run e.heard.cached d t).2.alone) ∧
      (run e.heard.cached d t).2.session.world.counts = t.session.world.counts := by
  intro d
  have keeps : d.Keeps .uncounted fun _ => True := (uncounted_composes e.names).matchNode p v []
  have step : ∀ q (s : Standing (Heard σ)) (s' : Standing σ), Contract.uncounted.asks q →
      s' = s.alone ∧ s.session.world.counts = t.session.world.counts →
      (e.heard.cached q s).1 = (e.silent.cached q s').1 ∧
        ((e.silent.cached q s').2 = (e.heard.cached q s).2.alone ∧
          (e.heard.cached q s).2.session.world.counts = t.session.world.counts) ∧
        ∀ a, (e.heard.cached q s).1 = .ok a → Contract.uncounted.answers q a := by
    rintro q s s' asked ⟨rfl, before⟩
    obtain ⟨same, quiet⟩ := e.cached_unheard asked s
    rw [same]
    exact ⟨rfl, ⟨rfl, quiet.trans before⟩, fun _ _ => trivial⟩
  obtain ⟨result, ⟨after, quiet⟩, -⟩ := run_related step keeps ⟨rfl, rfl⟩
  exact ⟨Prod.ext result.symm after, quiet⟩

theorem guardPasses_unheard (guard : Option Guard) (b : Bindings) :
    Unheard (e.silent.guardPasses guard b) (e.heard.guardPasses guard b) := by
  cases guard with
  | none => exact fun s => ⟨rfl, rfl⟩
  | some g =>
    have evaluated : Unheard (inScope b.scopeIn (e.silent.host.eval g.expr))
        (inScope b.scopeIn (e.heard.host.eval g.expr)) :=
      e.direct_unheard (q := .evalWith b.toList g.expr) nofun
    exact evaluated.bind fun _ s => ⟨rfl, rfl⟩

theorem commit_unheard (bs : Bound) : Unheard (e.silent.commit bs) (e.heard.commit bs) := by
  induction bs with
  | nil => exact fun s => ⟨rfl, rfl⟩
  | cons b bs ih =>
    obtain ⟨t, v⟩ := b
    have stored : Unheard (e.silent.direct (.store t v)) (e.heard.direct (.store t v)) :=
      e.direct_unheard nofun
    cases t with
    | localVar n => exact stored.bind fun _ => ih
    | external r =>
      have observed : Unheard (e.silent.observe .externalAssigned)
          (e.heard.observe .externalAssigned) := fun s => ⟨rfl, e.counts_kept rfl s⟩
      exact observed.bind fun _ => stored.bind fun _ => ih

theorem declareArms_unheard (arms : List CaseArm) :
    Unheard (arms.forM fun arm => (declareNames arm.pattern : EvalM σ Unit))
      (arms.forM fun arm => (declareNames arm.pattern : EvalM (Heard σ) Unit)) := by
  intro s
  rw [declareArms_apply, declareArms_apply]
  exact ⟨rfl, rfl⟩

theorem takeArm_unheard (arm : CaseArm) (b : Bindings) :
    Unheard (e.silent.takeArm arm b) (e.heard.takeArm arm b) :=
  (e.commit_unheard b.toList).bind fun _ => e.direct_unheard (q := .eval arm.body) nofun

theorem otherwise_unheard (v : Value) (elseBody : Option ExprId) :
    Unheard (e.silent.otherwise v elseBody) (e.heard.otherwise v elseBody) := by
  cases elseBody with
  | some body => exact e.direct_unheard (q := .eval body) nofun
  | none =>
    have rendered : Unheard (e.silent.direct (.render v)) (e.heard.direct (.render v)) :=
      e.direct_unheard nofun
    exact rendered.bind fun text s => ⟨rfl, rfl⟩

/-- A dispatch beside a listener ends as its dialogue does. It reports the counts of the dialogue,
once, unless it fails before an arm is taken or none is left. -/
structure Told (before : List (Nat × Nat)) (r : Except EvalError Value × Session (Heard σ))
    (d : Except EvalError Value × Standing σ) : Prop where
  result : r.1 = d.1
  session : r.2.alone = d.2.session
  counts : r.2.world.counts = before ++ [(d.2.cache.hookCalls, d.2.cache.hits)] ∨
    r.2.world.counts = before ∧ ∃ error, d.1 = .error error

variable {e}

/-- What opens nothing leaves the counts as they were reported before. -/
theorem Told.of_unheard {m : EvalM σ Value} {m' : EvalM (Heard σ) Value} (unheard : Unheard m m')
    {d : Dialogue Value} (plain : d.Keeps .plain fun _ => True) (direct : run e.silent.direct d = m)
    {before : List (Nat × Nat)} {cache : Cache} {s : Session (Heard σ)}
    (reported : s.world.counts = before ++ [(cache.hookCalls, cache.hits)]) :
    Told before (m' s) (run e.silent.cached d ⟨s.alone, cache⟩) := by
  obtain ⟨same, quiet⟩ := unheard s
  rw [e.silent.run_plain plain, direct, same]
  exact ⟨rfl, rfl, .inl (quiet.trans reported)⟩

theorem Told.failed {before : List (Nat × Nat)} {s : Session (Heard σ)} (error : EvalError)
    (cache : Cache) (quiet : s.world.counts = before) :
    Told before (.error error, s) (.error error, ⟨s.alone, cache⟩) :=
  ⟨rfl, rfl, .inr ⟨quiet, error, rfl⟩⟩

/-- What opens nothing may come first. -/
theorem Told.bind {α : Type} {m : EvalM σ α} {m' : EvalM (Heard σ) α} (unheard : Unheard m m')
    {d : Dialogue α} (plain : d.Keeps .plain fun _ => True) (direct : run e.silent.direct d = m)
    {f : α → Dialogue Value} {k : α → EvalM (Heard σ) Value} {before : List (Nat × Nat)}
    {cache : Cache} {s : Session (Heard σ)} (quiet : s.world.counts = before)
    (later : ∀ a (s' : Session (Heard σ)), s'.world.counts = before →
      Told before (k a s') (run e.silent.cached (f a) ⟨s'.alone, cache⟩)) :
    Told before ((m' >>= k) s) (run e.silent.cached (d >>= f) ⟨s.alone, cache⟩) := by
  obtain ⟨same, quiet'⟩ := unheard s
  rw [HostM.bind_apply, run_bind, HostM.bind_apply, e.silent.run_plain plain, direct, same]
  rcases done : m' s with ⟨error | a, s'⟩ <;> rw [done] at quiet'
  · exact Told.failed error cache (quiet'.trans quiet)
  · exact later a s' (quiet'.trans quiet)

variable (e)

/-- Arms that are passed over leave the counts as they were reported before. -/
theorem tryArms_told (v : Value) (elseBody : Option ExprId) (i : Nat) (arms : List CaseArm)
    (t : Standing (Heard σ)) :
    Told t.session.world.counts (e.heard.tryArms v elseBody i arms t.cache t.session)
      (run e.silent.cached (Persistent.tryArms e.names v elseBody arms) t.alone) := by
  -- the kept answers go from arm to arm, so they are general in the induction
  induction arms generalizing i t with
  | nil =>
    have direct : run e.silent.direct (Persistent.otherwise v elseBody) =
        e.silent.otherwise v elseBody := by
      rw [direct_otherwise]
      cases elseBody <;> rfl
    rw [tryArms_nil]
    exact Told.of_unheard (e.otherwise_unheard v elseBody) (Persistent.otherwise_plain v elseBody)
      direct (e.counts_reported _ t.session)
  | cons arm arms ih =>
    obtain ⟨same, quiet⟩ := e.matchNode_unheard arm.pattern v t
    have attempted := e.heard.attempt_eq_run arm.pattern v t
    rw [show e.heard.names = e.names from rfl] at attempted
    rw [Persistent.tryArms, run_bind]
    rcases found : run e.heard.cached (Persistent.matchNode e.names arm.pattern v []) t with
      ⟨error | _ | bs, t'⟩ <;> rw [found] at attempted same quiet
    · rw [tryArms_failed attempted, HostM.bind_of_error same]
      exact Told.failed error t'.cache ((e.counts_kept rfl t'.session).trans quiet)
    · rw [tryArms_missed attempted, HostM.bind_of_ok same]
      have later := ih (i + 1) ⟨e.heard.reported (.armMissed i) t'.session, t'.cache⟩
      rwa [e.counts_kept rfl, quiet] at later
    · have guarded := e.silent.direct_guardPasses arm.guard (.ofList bs)
      rw [Bindings.toList_ofList] at guarded
      rw [tryArms, HostM.bind_of_ok (lift_apply attempted), HostM.bind_of_ok same]
      refine Told.bind (e.guardPasses_unheard arm.guard (.ofList bs))
        (Persistent.guardPasses_plain arm.guard bs) guarded quiet fun passed s quiet' => ?_
      cases passed with
      | false =>
        have later := ih (i + 1) ⟨e.heard.reported (.guardRejected i) s, t'.cache⟩
        rw [e.counts_kept rfl, quiet'] at later
        exact later
      | true =>
        have plain : (Persistent.commit bs >>= fun _ => put (.eval arm.body)).Keeps .plain
            fun _ => True := (Persistent.commit_plain bs).bind fun _ _ => keeps_put rfl
        have taken : run e.silent.direct (Persistent.commit bs >>= fun _ => put (.eval arm.body)) =
            e.silent.takeArm arm (.ofList bs) := by
          rw [run_bind, run_put, direct_commit, takeArm, Bindings.toList_ofList]
          rfl
        refine Told.of_unheard (e.takeArm_unheard arm (.ofList bs)) plain taken
          ((e.counts_reported _ s).trans ?_)
        rw [quiet']
        rfl

/-- The counts that a dispatch reports are those of its dialogue. -/
theorem evalCase_told (c : CaseExpr) (s : Session σ) :
    Told [] (e.heard.evalCase c s.heard)
      (run e.silent.cached (Persistent.evalCase e.names c) ⟨s, .empty⟩) := by
  have evaluated : Unheard (e.silent.host.eval c.scrutinee) (e.heard.host.eval c.scrutinee) :=
    e.direct_unheard (q := .eval c.scrutinee) nofun
  have entered : (e.heard.reported (.enteredCase c.arms.length) s.heard).world.counts = [] :=
    e.counts_kept rfl s.heard
  rw [evalCase, HostM.bind_of_ok (observe_apply _ s.heard)]
  refine Told.bind evaluated (keeps_put rfl) (run_put _ (.eval c.scrutinee)) entered
    fun v s' quiet => ?_
  refine Told.bind (declareArms_unheard c.arms) (Persistent.declareAll_plain c.arms)
    (e.silent.direct_declareAll c.arms) quiet fun _ s'' quiet' => ?_
  rw [← quiet']
  exact e.tryArms_told v c.elseBody 0 c.arms ⟨s'', .empty⟩

end Engine

end PatternDispatch
