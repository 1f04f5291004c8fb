import PatternDispatch.Proofs.CallAccounts

/-! The order of the calls that a case expression makes. The scrutinee is evaluated first. The arms
come one after the other, each with the calls of its pattern and then, if that has matched, one
evaluation of its guard. Only where a guard has let its arm through are bindings stored, and the body
of that arm is the last call. -/
namespace PatternDispatch

/-- The calls for a guard, with what it decides: a guard is evaluated once, if there is one. -/
inductive GuardCalls : Option Guard → List Call → Except EvalError Bool → Prop where
  | absent : GuardCalls none [] (.ok true)
  | evaluated (g : Guard) (env : Environment) (condition : Value) :
    GuardCalls (some g) [.eval g.expr env (.ok condition)] (.ok (g.passes condition.isTruthy))
  | failed (g : Guard) (env : Environment) (error : EvalError) :
    GuardCalls (some g) [.eval g.expr env (.error error)] (.error error)

/-- The calls for bindings to be stored: one for each external target, in their order. -/
inductive StoreCalls : Bound → List Call → Except EvalError Unit → Prop where
  | none : StoreCalls [] [] (.ok ())
  | localVar {n : Name} {v : Value} {bs : Bound} {calls : List Call} {r : Except EvalError Unit}
    (later : StoreCalls bs calls r) : StoreCalls ((.localVar n, v) :: bs) calls r
  | stored {x : ExternalRef} {v : Value} {bs : Bound} {calls : List Call}
    {r : Except EvalError Unit} (later : StoreCalls bs calls r) :
    StoreCalls ((.external x, v) :: bs) (.assignExternal x v (.ok ()) :: calls) r
  | failed {x : ExternalRef} {v : Value} {bs : Bound} {error : EvalError} :
    StoreCalls ((.external x, v) :: bs) [.assignExternal x v (.error error)] (.error error)

namespace Engine

variable {σ : Type}

/-- The calls for an attempt to match that no call has ended. -/
structure MatchCalls (e : Engine σ) (p : Pattern) (v : Value) (t : Standing (Recorded σ))
    (outcome : MatchOutcome) (calls : List Call) : Prop where
  came : (e.recorded.attempt p v t.cache t.session).1.1 = outcome
  made : (e.recorded.attempt p v t.cache t.session).2.world.calls = t.session.world.calls ++ calls
  probes : Fine (Call.Probes p) calls

/-- The calls for one arm, with the end of the dispatch unless the arm is passed over. -/
inductive ArmCalls (e : Engine σ) (v : Value) (arm : CaseArm) (t : Standing (Recorded σ)) :
    List Call → Option (Except EvalError Value) → Prop where
  | missed {matching : List Call} (tried : e.MatchCalls arm.pattern v t .unmatched matching) :
    ArmCalls e v arm t matching none
  | rejected {matching guard : List Call} {b : Bindings}
    (tried : e.MatchCalls arm.pattern v t (.matched b) matching)
    (guarded : GuardCalls arm.guard guard (.ok false)) : ArmCalls e v arm t (matching ++ guard) none
  /-- A call for the pattern fails. -/
  | matcherFailed {matching : List Call} {call : Call} {error : EvalError}
    (came : (e.recorded.attempt arm.pattern v t.cache t.session).1.1 = .failed error)
    (probes : Fine (Call.Probes arm.pattern) matching) (last : call.Probes arm.pattern)
    (failed : call.error? = some error) :
    ArmCalls e v arm t (matching ++ [call]) (some (.error error))
  /-- The pattern gets an answer with an error in it. -/
  | faultyAnswer {matching : List Call} {error : EvalError}
    (tried : e.MatchCalls arm.pattern v t (.failed error) matching)
    (ended : EndAtFault e.names (e.recorded.moments arm.pattern v t) error) :
    ArmCalls e v arm t matching (some (.error error))
  | guardFailed {matching guard : List Call} {b : Bindings} {error : EvalError}
    (tried : e.MatchCalls arm.pattern v t (.matched b) matching)
    (guarded : GuardCalls arm.guard guard (.error error)) :
    ArmCalls e v arm t (matching ++ guard) (some (.error error))
  | storeFailed {matching guard stores : List Call} {b : Bindings} {error : EvalError}
    (tried : e.MatchCalls arm.pattern v t (.matched b) matching)
    (guarded : GuardCalls arm.guard guard (.ok true))
    (stored : StoreCalls b.toList stores (.error error)) :
    ArmCalls e v arm t (matching ++ guard ++ stores) (some (.error error))
  | taken {matching guard stores : List Call} {b : Bindings} {env : Environment}
    {answer : Except EvalError Value}
    (tried : e.MatchCalls arm.pattern v t (.matched b) matching)
    (guarded : GuardCalls arm.guard guard (.ok true))
    (stored : StoreCalls b.toList stores (.ok ())) :
    ArmCalls e v arm t (matching ++ guard ++ stores ++ [.eval arm.body env answer]) (some answer)

/-- The calls for arms from number `i` on, with the end of the dispatch. -/
inductive ArmsCalls (e : Engine σ) (v : Value) (elseBody : Option ExprId) :
    Nat → List CaseArm → Standing (Recorded σ) → List Call → Except EvalError Value → Prop where
  | alternative {i : Nat} {t : Standing (Recorded σ)} {body : ExprId} {env : Environment}
    {answer : Except EvalError Value} (given : elseBody = some body) :
    ArmsCalls e v elseBody i [] t [.eval body env answer] answer
  | rendered {i : Nat} {t : Standing (Recorded σ)} {text : String} (absent : elseBody = none) :
    ArmsCalls e v elseBody i [] t [.render v text] (.error (.noMatchingPattern text))
  | passed {i : Nat} {arm : CaseArm} {arms : List CaseArm} {t t' : Standing (Recorded σ)}
    {calls later : List Call} {r : Except EvalError Value} (first : e.ArmCalls v arm t calls none)
    (skipped : e.recorded.PassesOver v i (arm :: arms) t (i + 1) arms t')
    (rest : ArmsCalls e v elseBody (i + 1) arms t' later r) :
    ArmsCalls e v elseBody i (arm :: arms) t (calls ++ later) r
  | ended {i : Nat} {arm : CaseArm} {arms : List CaseArm} {t : Standing (Recorded σ)}
    {calls : List Call} {r : Except EvalError Value} (last : e.ArmCalls v arm t calls (some r)) :
    ArmsCalls e v elseBody i (arm :: arms) t calls r

variable (e : Engine σ)

theorem guardPasses_calls (guard : Option Guard) (b : Bindings) (s : Session (Recorded σ)) :
    ∃ calls, (e.recorded.guardPasses guard b s).2.world.calls = s.world.calls ++ calls ∧
      GuardCalls guard calls (e.recorded.guardPasses guard b s).1 := by
  cases guard with
  | none => exact ⟨[], (List.append_nil _).symm, .absent⟩
  | some g =>
    have made : (EvalM.inScope b.scopeIn (e.recorded.host.eval g.expr) s).2.world.calls =
        s.world.calls ++ [.eval g.expr (b.scopeIn s.env)
          (EvalM.inScope b.scopeIn (e.recorded.host.eval g.expr) s).1] := rfl
    rw [guardPasses, HostM.bind_apply]
    rcases evaluated : EvalM.inScope b.scopeIn (e.recorded.host.eval g.expr) s with
      ⟨error | condition, s'⟩
    · rw [evaluated] at made
      exact ⟨_, made, .failed g _ error⟩
    · rw [evaluated] at made
      exact ⟨_, made, .evaluated g _ condition⟩

theorem commit_calls (bs : Bound) (s : Session (Recorded σ)) :
    ∃ calls, (e.recorded.commit bs s).2.world.calls = s.world.calls ++ calls ∧
      StoreCalls bs calls (e.recorded.commit bs s).1 := by
  induction bs generalizing s with
  | nil => exact ⟨[], (List.append_nil _).symm, .none⟩
  | cons b bs ih =>
    obtain ⟨t, v⟩ := b
    cases t with
    | localVar n =>
      obtain ⟨calls, made, stored⟩ := ih { s with env := s.env.commit n v }
      exact ⟨calls, made, .localVar stored⟩
    | external x =>
      have made : ((EvalM.ofHost (e.recorded.host.assignExternal x v) : EvalM (Recorded σ) Unit)
          (e.recorded.reported .externalAssigned s)).2.world.calls =
          s.world.calls ++ [.assignExternal x v
            ((EvalM.ofHost (e.recorded.host.assignExternal x v) : EvalM (Recorded σ) Unit)
              (e.recorded.reported .externalAssigned s)).1] := rfl
      rw [commit, HostM.bind_of_ok (observe_apply _ s), HostM.bind_apply]
      rcases assigned : (EvalM.ofHost (e.recorded.host.assignExternal x v) :
        EvalM (Recorded σ) Unit) (e.recorded.reported .externalAssigned s) with ⟨error | _, s'⟩
      · rw [assigned] at made
        exact ⟨_, made, .failed⟩
      · rw [assigned] at made
        obtain ⟨calls, made', stored⟩ := ih s'
        refine ⟨.assignExternal x v (.ok ()) :: calls, ?_, .stored stored⟩
        rw [List.append_cons, ← made]
        exact made'

/-- Bindings are stored before the body is evaluated, and a failure to store one is the end. -/
theorem takeArm_calls (arm : CaseArm) (b : Bindings) (s : Session (Recorded σ)) :
    (∃ stores error, (e.recorded.takeArm arm b s).2.world.calls = s.world.calls ++ stores ∧
      (e.recorded.takeArm arm b s).1 = .error error ∧ StoreCalls b.toList stores (.error error)) ∨
    ∃ stores env, (e.recorded.takeArm arm b s).2.world.calls =
        s.world.calls ++ (stores ++ [.eval arm.body env (e.recorded.takeArm arm b s).1]) ∧
      StoreCalls b.toList stores (.ok ()) := by
  obtain ⟨stores, made, stored⟩ := e.commit_calls b.toList s
  rw [takeArm, HostM.bind_apply]
  rcases committed : e.recorded.commit b.toList s with ⟨error | _, s'⟩
  · rw [committed] at made stored
    exact .inl ⟨stores, error, made, rfl, stored⟩
  · rw [committed] at made stored
    refine .inr ⟨stores, s'.env, ?_, stored⟩
    rw [← List.append_assoc, ← made]
    rfl

/-- An attempt that does not fail has come to an end with all calls that its pattern led to. -/
theorem matchCalls_of_attempted {p : Pattern} {v : Value} {t : Standing (Recorded σ)}
    {outcome : MatchOutcome} {cache : Cache} {s : Session (Recorded σ)} {found : Option Bindings}
    (attempted : e.recorded.attempt p v t.cache t.session = ((outcome, cache), s))
    (came : outcome.result = .ok found) :
    ∃ calls, s.world.calls = t.session.world.calls ++ calls ∧ e.MatchCalls p v t outcome calls := by
  obtain ⟨calls, made, fine⟩ := e.attempt_fine attempted came
  refine ⟨calls, made, congrArg (·.1.1) attempted, ?_, fine⟩
  rw [attempted]
  exact made

theorem tryArms_calls (v : Value) (elseBody : Option ExprId) (i : Nat) (arms : List CaseArm)
    (t : Standing (Recorded σ)) :
    ∃ calls, (e.recorded.tryArms v elseBody i arms t.cache t.session).2.world.calls =
        t.session.world.calls ++ calls ∧
      e.ArmsCalls v elseBody i arms t calls
        (e.recorded.tryArms v elseBody i arms t.cache t.session).1 := by
  -- each arm begins where the one before has left the host and the kept answers
  induction arms generalizing i t with
  | nil =>
    rw [tryArms_nil]
    cases elseBody with
    | some body => exact ⟨_, rfl, .alternative rfl⟩
    | none => exact ⟨_, rfl, .rendered rfl⟩
  | cons arm arms ih =>
    rcases attempted : e.recorded.attempt arm.pattern v t.cache t.session with
      ⟨⟨b | _ | error, cache⟩, s⟩
    · obtain ⟨matching, made, tried⟩ := e.matchCalls_of_attempted attempted rfl
      obtain ⟨guard, asked, guarded⟩ := e.guardPasses_calls arm.guard b s
      rw [tryArms_matched attempted]
      have sofar : (e.recorded.guardPasses arm.guard b s).2.world.calls =
          t.session.world.calls ++ (matching ++ guard) := by
        rw [asked, made, List.append_assoc]
      rcases decided : e.recorded.guardPasses arm.guard b s with ⟨error | _ | _, s'⟩
      · rw [decided] at sofar guarded
        exact ⟨matching ++ guard, sofar, .ended (.guardFailed tried guarded)⟩
      · rw [decided] at sofar guarded
        have skipped : e.recorded.PassesOver v i (arm :: arms) t (i + 1) arms
          ⟨e.recorded.reported (.guardRejected i) s', cache⟩ := .rejected attempted decided .none
        obtain ⟨later, made', rest⟩ := ih (i + 1) ⟨e.recorded.reported (.guardRejected i) s', cache⟩
        refine ⟨matching ++ guard ++ later, ?_, .passed (.rejected tried guarded) skipped rest⟩
        rw [← List.append_assoc, ← sofar]
        exact made'
      · rw [decided] at sofar guarded
        rcases e.takeArm_calls arm b
          (e.recorded.reported (.armMatched i b.size cache.hookCalls cache.hits) s') with
          ⟨stores, error, made', failed, stored⟩ | ⟨stores, env, made', stored⟩
        · have last := ArmCalls.storeFailed tried guarded stored
          rw [← failed] at last
          refine ⟨matching ++ guard ++ stores, ?_, .ended last⟩
          rw [← List.append_assoc, ← sofar]
          exact made'
        · refine ⟨matching ++ guard ++ stores ++ [.eval arm.body env _], ?_,
            .ended (.taken tried guarded stored)⟩
          rw [List.append_assoc (matching ++ guard), ← List.append_assoc, ← sofar]
          exact made'
    · obtain ⟨matching, made, tried⟩ := e.matchCalls_of_attempted attempted rfl
      have skipped : e.recorded.PassesOver v i (arm :: arms) t (i + 1) arms
        ⟨e.recorded.reported (.armMissed i) s, cache⟩ := .missed attempted .none
      obtain ⟨later, made', rest⟩ := ih (i + 1) ⟨e.recorded.reported (.armMissed i) s, cache⟩
      rw [tryArms_missed attempted]
      refine ⟨matching ++ later, ?_, .passed (.missed tried) skipped rest⟩
      rw [← List.append_assoc, ← made]
      exact made'
    · rw [tryArms_failed attempted]
      cases e.attempt_failed attempted with
      | called matching call made fine last failed =>
        exact ⟨_, made, .ended (.matcherFailed (congrArg (·.1.1) attempted) fine last failed)⟩
      | caused matching made fine ended =>
        have tried : e.MatchCalls arm.pattern v t (.failed error) matching :=
          ⟨congrArg (·.1.1) attempted, (congrArg (·.2.world.calls) attempted).trans made, fine⟩
        exact ⟨matching, made, .ended (.faultyAnswer tried ended)⟩

/-- The calls of a case expression, in their order. If the scrutinee cannot be evaluated, that is
all. Otherwise arms follow in their order, each with the calls for its pattern alone and, where that
has matched, one evaluation of the guard; every arm but the last one that is tried is passed over.
If an arm is taken, its external bindings are stored in their order and its body is evaluated; if
none is, the alternative is, or the scrutinee is rendered. Calls are only missing at the end, where
one has failed or an answer had an error in it. The record of the calls changes nothing else. -/
theorem evalCase_calls (c : CaseExpr) (s : Session σ) :
    let start := s.withRecord []
    let ending := e.recorded.evalCase c start
    e.evalCase c s = (ending.1, ending.2.forget) ∧
    ((∃ error, ending.1 = .error error ∧
        ending.2.world.calls = [.eval c.scrutinee s.env (.error error)]) ∨
      ∃ v t calls, e.recorded.Starts (.case c) start v t ∧
        ending.2.world.calls = .eval c.scrutinee s.env (.ok v) :: calls ∧
        e.ArmsCalls v c.elseBody 0 c.arms t calls ending.1) := by
  intro start ending
  refine ⟨e.dispatch_forgets _ (.case c) start, ?_⟩
  have made : (e.recorded.host.eval c.scrutinee
      (e.recorded.reported (.enteredCase c.arms.length) start)).2.world.calls =
      [.eval c.scrutinee s.env (e.recorded.host.eval c.scrutinee
        (e.recorded.reported (.enteredCase c.arms.length) start)).1] := rfl
  have dispatched : ending = e.recorded.dispatch (.case c) start := rfl
  rcases evaluated : e.recorded.host.eval c.scrutinee
    (e.recorded.reported (.enteredCase c.arms.length) start) with ⟨error | v, s'⟩
  · rw [evaluated] at made
    rw [dispatched, dispatch_of_error evaluated]
    exact .inl ⟨error, rfl, made⟩
  · rw [evaluated] at made
    have started : e.recorded.Starts (.case c) start v ⟨(Dispatch.case c).declared s', .empty⟩ :=
      ⟨s', evaluated, rfl⟩
    obtain ⟨calls, made', course⟩ :=
      e.tryArms_calls v c.elseBody 0 c.arms ⟨(Dispatch.case c).declared s', .empty⟩
    rw [dispatched, dispatch_case started]
    refine .inr ⟨v, _, calls, started, ?_, course⟩
    rw [made']
    exact congrArg (· ++ calls) made

end Engine

end PatternDispatch
