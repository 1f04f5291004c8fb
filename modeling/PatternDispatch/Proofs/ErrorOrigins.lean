import PatternDispatch.Proofs.CacheTransparency
import PatternDispatch.Proofs.CallAccounts

/-! Where the error of a dispatch comes from. A call that fails is the last one, and its error is the
dispatch's own. If no call fails, the error is in an answer that a pattern could not go on with, or it
says that nothing matched. -/
namespace PatternDispatch.Engine

open Dialogue

variable {σ : Type}

/-- What makes a dispatch fail although no call does. -/
inductive ErrorCause (e : Engine σ) (d : Dispatch) (s : Session (Recorded σ)) :
    EvalError → Session (Recorded σ) → Prop where
  /-- The last answer in an attempt to match had an error in it. -/
  | fault {i : Nat} {p : Pattern} {v : Value} {t : Standing (Recorded σ)} {error : EvalError}
    {s' : Session (Recorded σ)} (attempted : e.recorded.Attempts s d i p v t)
    (ended : EndAtFault e.names (e.recorded.moments p v t) error) : ErrorCause e d s error s'
  /-- Nothing matched, and the text of the scrutinee was the last thing asked for. -/
  | nothing {v : Value} {text : String} {past : List Call} {s' : Session (Recorded σ)}
    (found : e.recorded.FindsNothing s d v) (rendered : s'.world.calls = past ++ [.render v text]) :
    ErrorCause e d s (.noMatchingPattern text) s'

/-- Such an error has the text of its kind. -/
theorem ErrorCause.message_eq {e : Engine σ} {d : Dispatch} {s s' : Session (Recorded σ)}
    {error : EvalError} (cause : e.ErrorCause d s error s') : error.message = error.kind.message := by
  cases cause with
  | fault attempted ended =>
    obtain ⟨past, x, a, -, -, fault⟩ := ended
    exact Question.message_of_fault fault
  | nothing => rfl

section

variable {e : Engine σ} {v : Value} {i j k : Nat} {arm : CaseArm} {arms rest other : List CaseArm}
  {t t' t'' : Standing σ} {d : Dispatch} {s s' : Session σ} {p : Pattern} {error : EvalError}

theorem PassesOver.le (passed : e.PassesOver v i arms t j rest t') : i ≤ j := by
  induction passed with
  | none => exact Nat.le_refl _
  | missed _ _ ih => omega
  | rejected _ _ _ ih => omega

/-- No arm is tried after one that is not passed over. -/
theorem PassesOver.le_of_stops (passed : e.PassesOver v i arms t j (arm :: rest) t')
    (stops : e.Stops v arm t') (further : e.PassesOver v i arms t k other t'') : k ≤ j := by
  -- both ways go along the same arms, so the second cannot get past the arm that stops the first
  generalize stop : arm :: rest = stopping at passed
  induction passed with
  | none =>
    subst stop
    cases further with
    | none => exact Nat.le_refl _
    | missed attempted =>
      rcases stops with ⟨error, cache, s, failed⟩ | ⟨b, cache, s, matched, -⟩
      · cases failed.symm.trans attempted
      · cases matched.symm.trans attempted
    | rejected attempted guarded =>
      rcases stops with ⟨error, cache, s, failed⟩ | ⟨b, cache, s, matched, stays⟩
      · cases failed.symm.trans attempted
      · cases matched.symm.trans attempted
        exact absurd (congrArg Prod.fst guarded) stays
  | missed attempted later ih =>
    cases further with
    | none =>
      have := later.le
      omega
    | missed attempted' later' =>
      cases attempted.symm.trans attempted'
      exact ih stops later' stop
    | rejected attempted' =>
      cases attempted.symm.trans attempted'
  | rejected attempted guarded later ih =>
    cases further with
    | none =>
      have := later.le
      omega
    | missed attempted' =>
      cases attempted.symm.trans attempted'
    | rejected attempted' guarded' later' =>
      cases attempted.symm.trans attempted'
      cases guarded.symm.trans guarded'
      exact ih stops later' stop

theorem Starts.unique {v' : Value} (started : e.Starts d s v t) (again : e.Starts d s v' t') :
    v = v' ∧ t = t' := by
  obtain ⟨s', evaluated, rfl⟩ := started
  obtain ⟨s'', evaluated', rfl⟩ := again
  cases evaluated.symm.trans evaluated'
  exact ⟨rfl, rfl⟩

/-- An attempt that fails is the last one, and the dispatch fails with it. -/
theorem Attempts.failed {cache : Cache} (attempted : e.Attempts s d i p v t)
    (failed : e.attempt p v t.cache t.session = ((.failed error, cache), s')) :
    (e.dispatch d s).1 = .error error ∧
    ((e.dispatch d s).2 = s' ∨
      (e.dispatch d s).2 = e.reported (.dispatchAborted i error.kind.code) s') ∧
    ∀ j p' v' t', e.Attempts s d j p' v' t' → j ≤ i := by
  cases attempted with
  | @arm c _ _ _ i _ _ started passed =>
    have aborted : e.dispatch (.case c) s =
        (.error error, e.reported (.dispatchAborted i error.kind.code) s') := by
      rw [dispatch_case started, passed.tryArms_eq, tryArms_failed failed]
    rw [aborted]
    refine ⟨rfl, .inr rfl, fun j p' v' t' again => ?_⟩
    cases again with
    | arm started' passed' =>
      obtain ⟨rfl, rfl⟩ := started.unique started'
      exact passed.le_of_stops (.inl ⟨error, cache, s', failed⟩) passed'
  | @line m _ _ started =>
    have aborted : e.dispatch (.line m) s = (.error error, s') := by
      rw [dispatch_line started, failed]
      rfl
    rw [aborted]
    refine ⟨rfl, .inl rfl, fun j p' v' t' again => ?_⟩
    cases again with
    | line => exact Nat.le_refl 0

end

variable (e : Engine σ) {v : Value} {d : Dispatch} {s : Session (Recorded σ)}
  {t : Standing (Recorded σ)}

/-- Passing over arms, no call fails. -/
theorem PassesOver.fine {i j : Nat} {arms rest : List CaseArm} {t' : Standing (Recorded σ)}
    (passed : e.recorded.PassesOver v i arms t j rest t') :
    ∃ calls, t'.session.world.calls = t.session.world.calls ++ calls ∧
      Fine (fun _ => True) calls := by
  induction passed with
  | none => exact ⟨[], (List.append_nil _).symm, .nil⟩
  | missed attempted later ih =>
    obtain ⟨calls, made, fine⟩ := e.attempt_fine attempted rfl
    obtain ⟨calls', made', fine'⟩ := ih
    refine ⟨calls ++ calls', made'.trans ?_, fine.any.append fine'⟩
    rw [← List.append_assoc, ← made]
    rfl
  | @rejected _ _ arm _ _ _ _ _ b s s' attempted guarded later ih =>
    obtain ⟨calls, made, fine⟩ := e.attempt_fine attempted rfl
    have asked : Accounted (fun _ => True) (fun _ _ => False) s
        (e.recorded.guardPasses arm.guard b s) := e.guardPasses_accounted arm.guard b s
    rw [guarded] at asked
    obtain ⟨calls', made', fine'⟩ := asked.calls_of_ok
    obtain ⟨calls'', made'', fine''⟩ := ih
    refine ⟨calls ++ (calls' ++ calls''), made''.trans ?_,
      fine.any.append (fine'.append fine'')⟩
    rw [← List.append_assoc, ← List.append_assoc, ← made, ← made']
    rfl

theorem tryArms_accounted {c : CaseExpr} (started : e.recorded.Starts (.case c) s v t) :
    Accounted (fun _ => True) (e.ErrorCause (.case c) s) t.session
      (e.recorded.tryArms v c.elseBody 0 c.arms t.cache t.session) := by
  rcases e.recorded.exhausts_or_stops v 0 c.arms t with
    ⟨j, t', passed⟩ | ⟨j, arm, rest, t', passed, stops⟩
  · obtain ⟨calls, made, fine⟩ := passed.fine
    rw [passed.tryArms_eq, tryArms_nil]
    refine Accounted.after made fine
      (e.reported_accounted (.noArmMatched t'.cache.hookCalls t'.cache.hits) ?_)
    cases noElse : c.elseBody with
    | some body => exact e.eval_accounted body _
    | none =>
      refine e.noMatch_accounted v _ fun text past s' rendered => ?_
      exact .nothing (.arms noElse started passed) rendered
  · obtain ⟨calls, made, fine⟩ := passed.fine
    rw [passed.tryArms_eq]
    refine Accounted.after made fine ?_
    rcases stops with ⟨error, cache, s', attempted⟩ | ⟨b, cache, s', attempted, stays⟩
    · rw [tryArms_failed attempted]
      exact (e.attempt_failed attempted).andThen rfl (fun _ _ => trivial)
        fun error ended => .fault (.arm started passed) ended
    · obtain ⟨calls', made', fine'⟩ := e.attempt_fine attempted rfl
      refine Accounted.after made' fine'.any ?_
      have asked : Accounted (fun _ => True) (e.ErrorCause (.case c) s) s'
        (e.recorded.guardPasses arm.guard b s') := e.guardPasses_accounted arm.guard b s'
      rw [tryArms_matched attempted]
      rcases guarded : e.recorded.guardPasses arm.guard b s' with ⟨error | _ | _, s''⟩
      · rw [guarded] at asked
        exact asked.failing
      · rw [guarded] at stays
        exact absurd rfl stays
      · rw [guarded] at asked
        obtain ⟨calls'', made'', fine''⟩ := asked.calls_of_ok
        refine Accounted.after made'' fine''
          (e.reported_accounted (.armMatched j b.size cache.hookCalls cache.hits) ?_)
        exact (e.commit_accounted b.toList _).bind fun _ s'' _ => e.eval_accounted arm.body s''

theorem endLine_accounted {m : OneLineMatch} (started : e.recorded.Starts (.line m) s v t) :
    Accounted (fun _ => True) (e.ErrorCause (.line m) s) t.session
      (e.recorded.endLine m.mode v (e.recorded.attempt m.pattern v t.cache t.session).1.1
        (e.recorded.attempt m.pattern v t.cache t.session).2) := by
  rcases attempted : e.recorded.attempt m.pattern v t.cache t.session with
    ⟨⟨b | _ | error, cache⟩, s'⟩
  · obtain ⟨calls, made, fine⟩ := e.attempt_fine attempted rfl
    refine Accounted.after made fine.any ?_
    exact (e.commit_accounted b.toList s').bind fun _ _ _ => .quiet rfl
  · obtain ⟨calls, made, fine⟩ := e.attempt_fine attempted rfl
    refine Accounted.after made fine.any ?_
    cases asserted : m.mode with
    | test => exact .quiet rfl
    | assert =>
      refine e.noMatch_accounted v s' fun text past s'' rendered => ?_
      exact .nothing (.line asserted started (congrArg (·.1.1) attempted)) rendered
  · exact (e.attempt_failed attempted).andThen rfl (fun _ _ => trivial)
      fun error ended => .fault (.line started) ended

/-- Of the calls of a dispatch only the last one can have failed; any other error has one of the
causes above. -/
theorem dispatch_accounted (d : Dispatch) (s : Session (Recorded σ)) :
    Accounted (fun _ => True) (e.ErrorCause d s) s (e.recorded.dispatch d s) := by
  have evaluates : Accounted (fun _ => True) (e.ErrorCause d s) s
      (e.recorded.host.eval d.scrutinee (e.recorded.reported d.entered s)) :=
    e.reported_accounted _ (e.eval_accounted d.scrutinee _)
  rcases evaluated : e.recorded.host.eval d.scrutinee (e.recorded.reported d.entered s) with
    ⟨error | v, s'⟩
  · rw [evaluated] at evaluates
    rw [dispatch_of_error evaluated]
    exact evaluates
  · rw [evaluated] at evaluates
    obtain ⟨calls, made, fine⟩ := evaluates.calls_of_ok
    have started : e.recorded.Starts d s v ⟨d.declared s', .empty⟩ := ⟨s', evaluated, rfl⟩
    have declared : (d.declared s').world.calls = s.world.calls ++ calls := made
    refine Accounted.after declared fine ?_
    cases d with
    | case c =>
      rw [dispatch_case started]
      exact e.tryArms_accounted started
    | line m =>
      rw [dispatch_line started]
      exact e.endLine_accounted started

/-- Errors end a dispatch at once and are passed on as they are, and a dispatch makes up no others.
A call that fails is the last call of the dispatch, and its error is the error of the dispatch. An
answer with an error in it, to a question of some part of the pattern in hand, says that a value
opened itself in the wrong shape or that a variable is undefined. It is the last answer of the last
attempt to match: the dispatch fails with that error, and all is left as it was, but for a report.
If no call fails, an error is of this kind, or it says that nothing matched, and it has the text of
its kind. The record of the calls changes nothing else. -/
theorem errors_passed_on (d : Dispatch) (s : Session σ) :
    let start := s.withRecord []
    let ending := e.recorded.dispatch d start
    let calls := ending.2.world.calls
    e.dispatch d s = (ending.1, ending.2.forget) ∧
    (∀ past call later error, calls = past ++ call :: later → call.error? = some error →
      later = [] ∧ ending.1 = .error error) ∧
    (∀ i p v t, e.recorded.Attempts start d i p v t →
      ∀ past x future a error, e.recorded.moments p v t = past ++ x :: future → x.answer = .ok a →
        x.question.fault? e.names a = some error →
        p.Asks x.question ∧
        (x.question.opens = true ∧ error.isTypeError = true ∨
          ∃ n, x.question = .visible n ∧ error = .undefinedVariable (e.names.text n)) ∧
        future = [] ∧ ending.1 = .error error ∧
        ending.2.env = x.after.session.env ∧ calls = x.after.session.world.calls ∧
        ∀ j p' v' t', e.recorded.Attempts start d j p' v' t' → j ≤ i) ∧
    (∀ error, ending.1 = .error error → (∀ call ∈ calls, call.error? = none) →
      e.ErrorCause d start error ending.2 ∧ error.message = error.kind.message) := by
  intro start ending calls
  have accounted : Accounted (fun _ => True) (e.ErrorCause d start) start ending :=
    e.dispatch_accounted d start
  refine ⟨e.dispatch_forgets _ d start, ?_, ?_, ?_⟩
  · intro past call later error made failed
    exact accounted.last_of_failed rfl made failed
  · intro i p v t attempted past x future a error moment answered fault
    have ended : x.error? e.recorded.names = some error := by
      rw [Exchange.error?, answered]
      exact fault
    obtain ⟨last, failed⟩ := e.recorded.attempt_of_failed_moment moment ended
    obtain ⟨result, after, latest⟩ := attempted.failed failed
    have asked : p.Asks x.question := e.recorded.asks_of_moment (by rw [moment]; simp)
    refine ⟨asked, Question.fault?_cases fault, last, result, ?_, ?_, latest⟩
    · rcases after with same | same
      · exact congrArg (·.env) same
      · exact congrArg (·.env) same
    · rcases after with same | same
      · exact congrArg (·.world.calls) same
      · exact congrArg (·.world.calls) same
  · intro error failed fine
    have whole : ending = (.error error, ending.2) := Prod.ext failed rfl
    rw [whole] at accounted
    have cause := accounted.cause_of_fine fine
    exact ⟨cause, cause.message_eq⟩

/-- An arm is not passed over because of an answer of the wrong shape, even if the next one matches
everything. -/
example :
    let host : Host Nat := { Host.reading .nil with
      deconstruct := fun _ w => (.ok (.wrongShape (.notArray "Integer")), w) }
    let c : CaseExpr := ⟨⟨0⟩, [⟨.list (.exact []), none, ⟨1⟩⟩, ⟨.wildcard, none, ⟨1⟩⟩], none⟩
    (evalCase ⟨host, .new, .standard⟩ c ⟨.empty, 0⟩).1 =
      .error (ShapeError.notArray "Integer").toError := rfl

/-- A host's own text comes back, although it is not that of the kind. -/
example :
    let error : EvalError := ⟨.host "timeout", "no answer", ["from the scrutinee"]⟩
    let host : Host Nat := { Host.reading .nil with eval := fun _ s => (.error error, s) }
    let c : CaseExpr := ⟨⟨0⟩, [⟨.wildcard, none, ⟨1⟩⟩], none⟩
    (evalCase ⟨host, .new, .standard⟩ c ⟨.empty, 0⟩).1 = .error error := rfl

end PatternDispatch.Engine
