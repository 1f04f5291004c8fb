import PatternDispatch.Proofs.SharedBindings

/-! A dispatch as a dialogue: arms in their order, each matched with persistent bindings. A dispatch
on a host that is deaf to reports is this dialogue, with deconstruction answered from kept answers
where there are any. -/
namespace PatternDispatch

open Dialogue

namespace Persistent

variable (names : Interner)

/-- Whether a guard lets its arm through. -/
def guardPasses (guard : Option Guard) (bs : Bound) : Dialogue Bool := do
  match guard with
  | none => return true
  | some g =>
    let condition ← put (.evalWith bs g.expr)
    return g.passes condition.isTruthy

/-- Stores bindings in their order. -/
def commit : Bound → Dialogue Unit
  | [] => return
  | (t, v) :: bs => do
    put (.store t v)
    commit bs

/-- What is left when no arm was taken. -/
def otherwise (v : Value) : Option ExprId → Dialogue Value
  | some body => put (.eval body)
  | none => do .fail (.noMatchingPattern (← put (.render v)))

def tryArms (v : Value) (elseBody : Option ExprId) : List CaseArm → Dialogue Value
  | [] => otherwise v elseBody
  | arm :: arms => do
    match ← matchNode names arm.pattern v [] with
    | none => tryArms v elseBody arms
    | some bs =>
      if ← guardPasses arm.guard bs then
        commit bs
        put (.eval arm.body)
      else tryArms v elseBody arms

def declareAll : List CaseArm → Dialogue Unit
  | [] => return
  | arm :: arms => do
    put (.declare arm.pattern.bindingNames)
    declareAll arms

def evalCase (c : CaseExpr) : Dialogue Value := do
  let v ← put (.eval c.scrutinee)
  declareAll c.arms
  tryArms names v c.elseBody c.arms

/-- The scrutinee is evaluated first. -/
theorem evalCase_eq_ask (c : CaseExpr) :
    evalCase names c = .ask (.eval c.scrutinee) fun v =>
      declareAll c.arms >>= fun _ => tryArms names v c.elseBody c.arms := rfl

end Persistent

/-- No value is opened. -/
def Contract.plain : Contract := ⟨fun q => q.opens = false, fun _ _ => True⟩

namespace Persistent

theorem commit_plain (bs : Bound) : (commit bs).Keeps .plain fun _ => True := by
  induction bs with
  | nil => trivial
  | cons b bs ih => exact ⟨rfl, fun _ _ => ih⟩

theorem guardPasses_plain (guard : Option Guard) (bs : Bound) :
    (guardPasses guard bs).Keeps .plain fun _ => True := by
  cases guard with
  | none => trivial
  | some g => exact ⟨rfl, fun _ _ => trivial⟩

theorem otherwise_plain (v : Value) (elseBody : Option ExprId) :
    (otherwise v elseBody).Keeps .plain fun _ => True := by
  cases elseBody with
  | none => exact ⟨rfl, fun _ _ => trivial⟩
  | some body => exact ⟨rfl, fun _ _ => trivial⟩

theorem declareAll_plain (arms : List CaseArm) : (declareAll arms).Keeps .plain fun _ => True := by
  induction arms with
  | nil => trivial
  | cons arm arms ih => exact ⟨rfl, fun _ _ => ih⟩

end Persistent

namespace Engine

variable {σ α β : Type} (e : Engine σ)

theorem lift_attempt (p : Pattern) (v : Value) (t : Standing σ) :
    (ExceptT.lift (e.attempt p v t.cache) : EvalM σ (MatchOutcome × Cache)) t.session =
      (.ok (.ofResult (run e.cached (Persistent.matchNode e.names p v []) t).1,
        (run e.cached (Persistent.matchNode e.names p v []) t).2.cache),
        (run e.cached (Persistent.matchNode e.names p v []) t).2.session) := by
  change (Except.ok (e.attempt p v t.cache t.session).1, (e.attempt p v t.cache t.session).2) = _
  rw [attempt_eq_run]

@[simp]
theorem silent_observe (event : Event) : e.silent.observe event = pure () := rfl

theorem direct_commit (bs : Bound) :
    run e.silent.direct (Persistent.commit bs) = e.silent.commit bs := by
  induction bs with
  | nil => rfl
  | cons b bs ih =>
    obtain ⟨t, v⟩ := b
    rw [Persistent.commit, run_bind, run_put, ih]
    cases t with
    | localVar n => rfl
    | external r => rw [commit, silent_observe, pure_bind]; rfl

theorem direct_guardPasses (guard : Option Guard) (b : Bindings) :
    run e.direct (Persistent.guardPasses guard b.toList) = e.guardPasses guard b := by
  cases guard with
  | none => rfl
  | some g =>
    simp only [Persistent.guardPasses, guardPasses]
    rw [run_bind, run_put]
    rfl

theorem direct_declareAll (arms : List CaseArm) :
    run e.direct (Persistent.declareAll arms) = arms.forM fun arm => declareNames arm.pattern := by
  induction arms with
  | nil => rfl
  | cons arm arms ih =>
    rw [Persistent.declareAll, run_bind, run_put, ih]
    rfl

theorem direct_otherwise (v : Value) (elseBody : Option ExprId) :
    run e.direct (Persistent.otherwise v elseBody) =
      match elseBody with
      | some body => e.host.eval body
      | none => e.noMatch v := by
  cases elseBody with
  | some body => exact run_put _ _
  | none => rfl

/-- The end of a run without the answers kept in it. -/
def ending (h : Answerer (Standing σ)) (d : Dialogue α) (t : Standing σ) :
    Except EvalError α × Session σ :=
  ((run h d t).1, (run h d t).2.session)

/-- No kept answer is used where no value is opened. -/
theorem run_plain {d : Dialogue α} (plain : d.Keeps .plain fun _ => True) (t : Standing σ) :
    run e.cached d t = ((run e.direct d t.session).1, ⟨(run e.direct d t.session).2, t.cache⟩) := by
  have step : ∀ (q : Question) (t' : Standing σ) (s : Session σ),
      Contract.plain.asks q → t' = ⟨s, t.cache⟩ →
      (e.cached q t').1 = (e.direct q s).1 ∧ (e.cached q t').2 = ⟨(e.direct q s).2, t.cache⟩ ∧
        ∀ a, (e.cached q t').1 = .ok a → Contract.plain.answers q a := by
    rintro q t' s asked rfl
    rw [e.cached_of_plain asked]
    exact ⟨rfl, rfl, fun _ _ => trivial⟩
  obtain ⟨result, after, -⟩ := run_related step plain (rfl : t = ⟨t.session, t.cache⟩)
  exact Prod.ext result after

/-- Steps that open no value come first. -/
theorem ending_bind {d : Dialogue α} (plain : d.Keeps .plain fun _ => True) {m : EvalM σ α}
    (hm : run e.direct d = m) {k : α → EvalM σ β} {f : α → Dialogue β} {cache : Cache}
    (hk : ∀ a s, k a s = ending e.cached (f a) ⟨s, cache⟩) (s : Session σ) :
    (m >>= k) s = ending e.cached (d >>= f) ⟨s, cache⟩ := by
  rw [ending, run_bind, HostM.bind_apply, HostM.bind_apply, e.run_plain plain, hm]
  rcases m s with ⟨error | a, s'⟩
  · rfl
  · exact hk a s'

theorem eval_eq_ending (x : ExprId) (t : Standing σ) :
    e.host.eval x t.session = ending e.cached (put (.eval x)) t := by
  rw [ending, run_put]
  rfl

theorem tryArms_eq_ending (v : Value) (elseBody : Option ExprId) (index : Nat)
    (arms : List CaseArm) (t : Standing σ) :
    e.silent.tryArms v elseBody index arms t.cache t.session =
      ending e.silent.cached (Persistent.tryArms e.names v elseBody arms) t := by
  -- the kept answers go from arm to arm, so they are general in the induction
  induction arms generalizing index t with
  | nil =>
    simp only [tryArms, silent_observe, pure_bind, Persistent.tryArms]
    rw [ending, e.silent.run_plain (Persistent.otherwise_plain v elseBody), direct_otherwise]
    rfl
  | cons arm arms ih =>
    simp only [tryArms, silent_observe, pure_bind, ending, Persistent.tryArms]
    rw [run_bind]
    have attempted := e.silent.lift_attempt arm.pattern v t
    rw [show e.silent.names = e.names from rfl] at attempted
    rcases found : run e.silent.cached (Persistent.matchNode e.names arm.pattern v []) t with
      ⟨error | _ | bs, t'⟩
    · rw [found] at attempted
      rw [HostM.bind_of_ok attempted, HostM.bind_of_error found]
      rfl
    · rw [found] at attempted
      rw [HostM.bind_of_ok attempted, HostM.bind_of_ok found]
      exact ih (index + 1) t'
    · rw [found] at attempted
      rw [HostM.bind_of_ok attempted, HostM.bind_of_ok found]
      have guarded := e.silent.direct_guardPasses arm.guard (.ofList bs)
      rw [Bindings.toList_ofList] at guarded
      refine e.silent.ending_bind (Persistent.guardPasses_plain arm.guard bs) guarded
        (fun passed s => ?_) t'.session
      cases passed with
      | false => exact ih (index + 1) ⟨s, t'.cache⟩
      | true =>
        simp only [Bindings.toList_ofList]
        exact e.silent.ending_bind (Persistent.commit_plain bs) (e.direct_commit bs)
          (fun _ s => e.silent.eval_eq_ending arm.body ⟨s, t'.cache⟩) s

/-- A dispatch is its dialogue, begun without any kept answer. -/
theorem evalCase_eq_ending (c : CaseExpr) (s : Session σ) :
    e.silent.evalCase c s =
      ending e.silent.cached (Persistent.evalCase e.names c) ⟨s, .empty⟩ := by
  simp only [evalCase, silent_observe, pure_bind]
  have evaluated : (put (.eval c.scrutinee)).Keeps .plain fun _ => True := keeps_put rfl
  refine e.silent.ending_bind evaluated (run_put _ (.eval c.scrutinee)) (fun v s => ?_) s
  refine e.silent.ending_bind (Persistent.declareAll_plain c.arms)
    (e.silent.direct_declareAll c.arms) (fun _ s => ?_) s
  exact e.tryArms_eq_ending v c.elseBody 0 c.arms ⟨s, .empty⟩

/-- A record does not change a dispatch. -/
theorem evalCase_forget (keep : Call → Bool) (c : CaseExpr) (s : Session (Recorded σ)) :
    e.silent.evalCase c s.forget =
      (((e.recording keep).silent.evalCase c s).1,
        ((e.recording keep).silent.evalCase c s).2.forget) := by
  have forgotten := e.silent.run_forget keep (Persistent.evalCase e.names c) ⟨s, .empty⟩
  change run e.silent.cached _ ⟨s.forget, .empty⟩ = _ at forgotten
  rw [e.evalCase_eq_ending, (e.recording keep).evalCase_eq_ending, ending, forgotten]
  rfl

end Engine

end PatternDispatch
