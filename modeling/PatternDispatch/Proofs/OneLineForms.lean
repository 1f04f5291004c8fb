import PatternDispatch.Proofs.CacheTransparency
import PatternDispatch.Proofs.RecordedDispatch

/-! Patterns on a line of their own beside case expressions of one arm without a guard. The case
expression does what the line does, and then evaluates its body or its alternative, whatever these
are. Where they do nothing but yield the value of the line, the two forms come to the same. -/
namespace PatternDispatch

/-- Evaluating the expression yields the value and does nothing else. -/
def Host.Yields {σ : Type} (h : Host σ) (x : ExprId) (v : Value) : Prop :=
  ∀ s, h.eval x s = (.ok v, s)

namespace OneLineMode

/-- A test has something else to say when there is no match, an assertion has not. -/
def alternative (other : ExprId) : OneLineMode → Option ExprId
  | .test => some other
  | .assert => none

/-- The expression that is evaluated last, by the value of the line. -/
def answer (body other : ExprId) : OneLineMode → Value → ExprId
  | .test, v => if v.isTruthy then body else other
  | .assert, _ => body

theorem answer_matchedValue (body other : ExprId) (mode : OneLineMode) :
    mode.answer body other mode.matchedValue = body := by
  cases mode with
  | test => rfl
  | assert => rfl

end OneLineMode

/-- The only arm of the case expression has the pattern of the line. -/
def OneLineMatch.asCase (m : OneLineMatch) (body other : ExprId) : CaseExpr :=
  ⟨m.value, [⟨m.pattern, none, body⟩], m.mode.alternative other⟩

/-- A run comes to what another one does and makes the calls that it makes, before a last one that
only yields the value. -/
def AgreesBeforeAnswer {σ : Type} (answer : Value → ExprId)
    (line arms : Except EvalError Value × Session (Recorded σ)) : Prop :=
  arms.1 = line.1 ∧ arms.2.forget = line.2.forget ∧
  arms.2.world.calls = line.2.world.calls ++
    match line.1 with
    | .ok v => [.eval (answer v) line.2.env (.ok v)]
    | .error _ => []

namespace Engine

variable {σ : Type} (e : Engine σ) (m : OneLineMatch) (body other : ExprId)

/-- Both forms evaluate the same scrutinee and declare the same variables. -/
theorem starts_asCase {s : Session σ} {v : Value} {t : Standing σ}
    (started : e.silent.Starts (.line m) s v t) :
    e.silent.Starts (.case (m.asCase body other)) s v t := by
  obtain ⟨s', evaluated, rfl⟩ := started
  exact ⟨s', evaluated, rfl⟩

/-- An arm without a guard is taken as soon as its pattern matches. -/
theorem tryArms_unguarded (v : Value) (p : Pattern) (elseBody : Option ExprId) (cache : Cache)
    (s : Session σ) :
    e.silent.tryArms v elseBody 0 [⟨p, none, body⟩] cache s =
      match e.silent.attempt p v cache s with
      | ((.matched b, _), s) => e.silent.takeArm ⟨p, none, body⟩ b s
      | ((.unmatched, _), s) => e.silent.otherwise v elseBody s
      | ((.failed error, _), s) => (.error error, s) := by
  rcases attempted : e.silent.attempt p v cache s with ⟨⟨b | _ | error, cache'⟩, s'⟩
  · exact tryArms_matched (t := ⟨s, cache⟩) attempted
  · rw [tryArms_missed (t := ⟨s, cache⟩) attempted, tryArms_nil]
    rfl
  · exact tryArms_failed (t := ⟨s, cache⟩) attempted

/-- The case expression goes on where the line ends. -/
theorem evalCase_asCase :
    e.silent.evalCase (m.asCase body other) =
      e.silent.evalOneLine m >>= fun v => e.host.eval (m.mode.answer body other v) := by
  funext s
  change e.silent.dispatch (.case (m.asCase body other)) s =
    (e.silent.dispatch (.line m) >>= fun v => e.host.eval (m.mode.answer body other v)) s
  rw [HostM.bind_apply]
  rcases evaluated : e.silent.host.eval m.value s with ⟨error | v, s'⟩
  · rw [dispatch_of_error (d := .line m) evaluated,
      dispatch_of_error (d := .case (m.asCase body other)) evaluated]
  · have started : e.silent.Starts (.line m) s v ⟨(Dispatch.line m).declared s', .empty⟩ :=
      ⟨s', evaluated, rfl⟩
    rw [dispatch_line started, dispatch_case (e.starts_asCase m body other started)]
    dsimp only [OneLineMatch.asCase]
    rw [tryArms_unguarded]
    rcases e.silent.attempt m.pattern v .empty ((Dispatch.line m).declared s') with
      ⟨⟨b | _ | error, cache⟩, t⟩
    · -- the bindings are committed in both forms, and only then the body is evaluated
      dsimp only [takeArm, endLine]
      rw [HostM.bind_apply, HostM.bind_apply]
      rcases e.silent.commit b.toList t with ⟨error | _, t'⟩
      · rfl
      · exact congrArg (fun x => e.host.eval x t') (m.mode.answer_matchedValue body other).symm
    · cases m.mode with
      | test => rfl
      | assert => rfl
    · rfl

variable {e m body other}

/-- An expression that only yields a value leaves a call behind and nothing else. -/
theorem recorded_yields {x : ExprId} {v : Value} (yields : e.host.Yields x v)
    (s : Session (Recorded σ)) :
    e.recorded.host.eval x s =
      (.ok v, s.forget.withRecord (s.world.calls ++ [.eval x s.env (.ok v)])) := by
  have inside := yields s.forget
  change ((e.host.eval x s.forget).1, Session.mk (e.host.eval x s.forget).2.env
    (s.world.note _ (.eval x s.env (e.host.eval x s.forget).1)
      (e.host.eval x s.forget).2.world)) = _
  rw [inside]
  rfl

/-- A test says whether there was a match; an assertion only says that there was one. -/
theorem evalOneLine_ok {v : Value} {s s' : Session σ} (h : e.evalOneLine m s = (.ok v, s')) :
    v = m.mode.matchedValue ∨ m.mode = .test ∧ v = .bool false := by
  change e.dispatch (.line m) s = _ at h
  rw [dispatch_line_eq, HostM.bind_of_ok (observe_apply _ s), HostM.bind_apply] at h
  rcases ended : e.matchOneLine m.value m.pattern (e.reported (Dispatch.line m).entered s) with
    ⟨error | ⟨u, matched⟩, t⟩
  · rw [ended] at h
    cases h
  · rw [ended] at h
    cases hm : m.mode with
    | test =>
      rw [hm] at h
      cases matched with
      | true =>
        cases h
        exact .inl rfl
      | false =>
        cases h
        exact .inr ⟨rfl, rfl⟩
    | assert =>
      rw [hm] at h
      cases matched with
      | true =>
        cases h
        exact .inl rfl
      | false => cases h

/-- Whatever value the line comes to, the expression that is evaluated last yields it. -/
theorem answer_yields (hb : e.host.Yields body m.mode.matchedValue)
    (ho : m.mode = .test → e.host.Yields other (.bool false)) {v : Value}
    (hv : v = m.mode.matchedValue ∨ m.mode = .test ∧ v = .bool false) :
    e.host.Yields (m.mode.answer body other v) v := by
  rcases hv with rfl | ⟨hm, rfl⟩
  · rw [m.mode.answer_matchedValue]
    exact hb
  · rw [hm]
    exact ho hm

theorem asCase_agrees (hb : e.host.Yields body m.mode.matchedValue)
    (ho : m.mode = .test → e.host.Yields other (.bool false)) (s : Session σ) :
    e.silent.evalCase (m.asCase body other) s = e.silent.evalOneLine m s := by
  rw [evalCase_asCase, HostM.bind_apply]
  rcases ended : e.silent.evalOneLine m s with ⟨error | v, s'⟩
  · rfl
  · exact answer_yields hb ho (evalOneLine_ok ended) s'

theorem asCase_calls (hb : e.host.Yields body m.mode.matchedValue)
    (ho : m.mode = .test → e.host.Yields other (.bool false)) (s : Session (Recorded σ)) :
    AgreesBeforeAnswer (m.mode.answer body other) (e.recorded.silent.evalOneLine m s)
      (e.recorded.silent.evalCase (m.asCase body other) s) := by
  rw [evalCase_asCase, HostM.bind_apply]
  rcases ended : e.recorded.silent.evalOneLine m s with ⟨error | v, s'⟩
  · exact ⟨rfl, rfl, (List.append_nil _).symm⟩
  · have yields := answer_yields hb ho (evalOneLine_ok ended)
    dsimp only
    rw [recorded_yields yields]
    exact ⟨rfl, rfl, rfl⟩

/-- A test comes to what the case expression does whose only arm has its pattern and yields `true`,
and whose alternative yields `false`. An assertion comes to what the case expression does whose only
arm yields `nil`, without an alternative. In both cases the value or the error is the same, and so
are the variables, the host and the calls, but for the evaluation of the body or the alternative. -/
theorem oneLine_agrees_with_case (e : Engine σ) (x : ExprId) (p : Pattern) (s : Session σ) :
    let start := s.withRecord []
    (∀ body other, e.host.Yields body (.bool true) → e.host.Yields other (.bool false) →
      let c : CaseExpr := ⟨x, [⟨p, none, body⟩], some other⟩
      e.silent.evalCase c s = e.silent.evalTest x p s ∧
      AgreesBeforeAnswer (fun v => if v.isTruthy then body else other)
        (e.recorded.silent.evalTest x p start) (e.recorded.silent.evalCase c start)) ∧
    ∀ body, e.host.Yields body .nil →
      let c : CaseExpr := ⟨x, [⟨p, none, body⟩], none⟩
      e.silent.evalCase c s = e.silent.evalAssert x p s ∧
      AgreesBeforeAnswer (fun _ => body)
        (e.recorded.silent.evalAssert x p start) (e.recorded.silent.evalCase c start) := by
  intro start
  constructor
  · intro body other hb ho
    have same := asCase_agrees (m := ⟨x, p, .test⟩) hb (fun _ => ho) s
    have calls := asCase_calls (m := ⟨x, p, .test⟩) hb (fun _ => ho) start
    exact ⟨same, calls⟩
  · intro body hb
    have assertion : OneLineMode.assert = .test → e.host.Yields body (.bool false) := by
      intro absurd
      cases absurd
    have same := asCase_agrees (m := ⟨x, p, .assert⟩) hb assertion s
    have calls := asCase_calls (m := ⟨x, p, .assert⟩) hb assertion start
    exact ⟨same, calls⟩

end Engine

/-- A host whose expressions are given values. -/
def Host.constants (values : List Value) : Host Nat :=
  { Host.reading .nil with eval := fun x s => (.ok (values.getD x.index .nil), s) }

theorem Host.constants_yields (values : List Value) (x : ExprId) :
    (Host.constants values).Yields x (values.getD x.index .nil) := fun _ => rfl

/-- A pattern that stores what it has matched outside: where it matches, and where it does not. -/
theorem oneLine_agrees_with_case_sample :
    let e : Engine Nat := ⟨.constants [.nil, .bool true, .bool false], .new, .standard⟩
    let p : Pattern := .capture (.literal .nil) (.external ⟨.global, ⟨0⟩⟩)
    e.silent.evalCase ⟨⟨0⟩, [⟨p, none, ⟨1⟩⟩], some ⟨2⟩⟩ ⟨.empty, 0⟩ =
      (.ok (.bool true), ⟨.empty, 1⟩) ∧
    e.silent.evalCase ⟨⟨1⟩, [⟨p, none, ⟨1⟩⟩], some ⟨2⟩⟩ ⟨.empty, 0⟩ =
      (.ok (.bool false), ⟨.empty, 0⟩) ∧
    e.silent.evalCase ⟨⟨1⟩, [⟨p, none, ⟨0⟩⟩], none⟩ ⟨.empty, 0⟩ =
      (.error (.noMatchingPattern ""), ⟨.empty, 0⟩) := by
  intro e p
  have yields (x : ExprId) := Host.constants_yields [.nil, .bool true, .bool false] x
  obtain ⟨test, -⟩ := e.oneLine_agrees_with_case ⟨0⟩ p ⟨.empty, 0⟩
  obtain ⟨test', assert⟩ := e.oneLine_agrees_with_case ⟨1⟩ p ⟨.empty, 0⟩
  refine ⟨?_, ?_, ?_⟩
  · exact (test ⟨1⟩ ⟨2⟩ (yields ⟨1⟩) (yields ⟨2⟩)).1.trans rfl
  · exact (test' ⟨1⟩ ⟨2⟩ (yields ⟨1⟩) (yields ⟨2⟩)).1.trans rfl
  · exact (assert ⟨0⟩ (yields ⟨0⟩)).1.trans rfl

end PatternDispatch
