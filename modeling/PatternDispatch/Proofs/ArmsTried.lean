import PatternDispatch.Proofs.Answering

/-! How a dispatch goes on. The scrutinee comes first, then the variables of all arms, then one
attempt to match after the other for as long as arms are passed over. -/
namespace PatternDispatch

/-- An expression that dispatches on a value. -/
inductive Dispatch where
  /-- Several arms, and perhaps an alternative. -/
  | case (c : CaseExpr)
  /-- One pattern on a line of its own. -/
  | line (m : OneLineMatch)

namespace Dispatch

def scrutinee : Dispatch → ExprId
  | .case c => c.scrutinee
  | .line m => m.value

/-- The patterns of all arms. -/
def patterns : Dispatch → List Pattern
  | .case c => c.arms.map CaseArm.pattern
  | .line m => [m.pattern]

/-- The local variables of all arms. -/
def names (d : Dispatch) : List Name := d.patterns.flatMap Pattern.bindingNames

/-- What is reported at first. -/
def entered : Dispatch → Event
  | .case c => .enteredCase c.arms.length
  | .line ⟨_, _, .test⟩ => .enteredTest
  | .line ⟨_, _, .assert⟩ => .enteredAssert

/-- A session in which the variables of all arms exist. -/
def declared {σ : Type} (d : Dispatch) (s : Session σ) : Session σ :=
  { s with env := d.names.foldl Environment.declare s.env }

end Dispatch

/-- What a pattern on a line of its own comes to when it matches. -/
def OneLineMode.matchedValue : OneLineMode → Value
  | .test => .bool true
  | .assert => .nil

namespace Engine

variable {σ : Type} (e : Engine σ)

def dispatch : Dispatch → EvalM σ Value
  | .case c => e.evalCase c
  | .line m => e.evalOneLine m

/-- The scrutinee has its value, all variables exist, and nothing has been matched. -/
def Starts (d : Dispatch) (s : Session σ) (v : Value) (t : Standing σ) : Prop :=
  ∃ s', e.host.eval d.scrutinee (e.reported d.entered s) = (.ok v, s') ∧ t = ⟨d.declared s', .empty⟩

/-- What is left to do when all arms were passed over. -/
def otherwise (v : Value) : Option ExprId → EvalM σ Value
  | some body => e.host.eval body
  | none => e.noMatch v

/-- What is left to do when an arm is taken. -/
def takeArm (arm : CaseArm) (b : Bindings) : EvalM σ Value :=
  e.commit b.toList >>= fun _ => e.host.eval arm.body

/-- What a pattern on a line of its own makes of its match. -/
def endLine (mode : OneLineMode) (v : Value) : MatchOutcome → EvalM σ Value
  | .matched b => e.commit b.toList >>= fun _ => pure mode.matchedValue
  | .unmatched =>
    match mode with
    | .test => pure (.bool false)
    | .assert => e.noMatch v
  | .failed error => throw error

/-- Arms are passed over one by one: their patterns do not match, or their guards reject them. -/
inductive PassesOver (e : Engine σ) (v : Value) : Nat → List CaseArm → Standing σ →
    Nat → List CaseArm → Standing σ → Prop where
  | none {i : Nat} {arms : List CaseArm} {t : Standing σ} : PassesOver e v i arms t i arms t
  | missed {i j : Nat} {arm : CaseArm} {arms rest : List CaseArm} {t t' : Standing σ}
    {cache : Cache} {s : Session σ}
    (attempted : e.attempt arm.pattern v t.cache t.session = ((.unmatched, cache), s))
    (later : PassesOver e v (i + 1) arms ⟨e.reported (.armMissed i) s, cache⟩ j rest t') :
    PassesOver e v i (arm :: arms) t j rest t'
  | rejected {i j : Nat} {arm : CaseArm} {arms rest : List CaseArm} {t t' : Standing σ}
    {cache : Cache} {b : Bindings} {s s' : Session σ}
    (attempted : e.attempt arm.pattern v t.cache t.session = ((.matched b, cache), s))
    (guarded : e.guardPasses arm.guard b s = (.ok false, s'))
    (later : PassesOver e v (i + 1) arms ⟨e.reported (.guardRejected i) s', cache⟩ j rest t') :
    PassesOver e v i (arm :: arms) t j rest t'

/-- A dispatch comes to match its pattern of number `i`. -/
inductive Attempts (e : Engine σ) (s : Session σ) : Dispatch → Nat → Pattern → Value →
    Standing σ → Prop where
  | arm {c : CaseExpr} {v : Value} {t t' : Standing σ} {i : Nat} {arm : CaseArm}
    {rest : List CaseArm} (started : e.Starts (.case c) s v t)
    (passed : e.PassesOver v 0 c.arms t i (arm :: rest) t') :
    Attempts e s (.case c) i arm.pattern v t'
  | line {m : OneLineMatch} {v : Value} {t : Standing σ} (started : e.Starts (.line m) s v t) :
    Attempts e s (.line m) 0 m.pattern v t

/-- A dispatch finds that nothing matches where something should. -/
inductive FindsNothing (e : Engine σ) (s : Session σ) : Dispatch → Value → Prop where
  | arms {c : CaseExpr} {v : Value} {t t' : Standing σ} {i : Nat} (noElse : c.elseBody = none)
    (started : e.Starts (.case c) s v t) (passed : e.PassesOver v 0 c.arms t i [] t') :
    FindsNothing e s (.case c) v
  | line {m : OneLineMatch} {v : Value} {t : Standing σ} (asserted : m.mode = .assert)
    (started : e.Starts (.line m) s v t)
    (unmatched : (e.attempt m.pattern v t.cache t.session).1.1 = .unmatched) :
    FindsNothing e s (.line m) v

theorem declareArms_apply (arms : List CaseArm) (s : Session σ) :
    (arms.forM fun arm => (declareNames arm.pattern : EvalM σ Unit)) s =
      (.ok (), { s with
        env := (arms.flatMap (·.pattern.bindingNames)).foldl Environment.declare s.env }) := by
  induction arms generalizing s with
  | nil => rfl
  | cons arm arms ih =>
    rw [List.flatMap_cons, List.foldl_append]
    exact ih { s with env := arm.pattern.bindingNames.foldl Environment.declare s.env }

variable {e} {v : Value} {i j : Nat} {arm : CaseArm} {arms rest : List CaseArm} {t t' : Standing σ}
  {s s' : Session σ} {cache : Cache} {b : Bindings} {error : EvalError} {elseBody : Option ExprId}

theorem observe_apply (event : Event) (s : Session σ) :
    e.observe event s = (.ok (), e.reported event s) := rfl

theorem lift_apply {α : Type} {m : StateM (Session σ) α} {a : α} (h : m s = (a, s')) :
    (ExceptT.lift m : EvalM σ α) s = (.ok a, s') := by
  change (Except.ok (m s).1, (m s).2) = _
  rw [h]

/-- The value of a pattern on a line of its own, by the value it was matched against and whether it
matched. -/
theorem dispatch_line_eq (e : Engine σ) (m : OneLineMatch) :
    e.dispatch (.line m) = e.observe (Dispatch.line m).entered >>= fun _ =>
      e.matchOneLine m.value m.pattern >>= fun found =>
        match m.mode with
        | .test => pure (.bool found.2)
        | .assert => if found.2 then pure .nil else e.noMatch found.1 := by
  obtain ⟨value, p, mode⟩ := m
  cases mode <;> rfl

/-- Whatever the form, the scrutinee comes first. -/
theorem dispatch_of_error {d : Dispatch}
    (failed : e.host.eval d.scrutinee (e.reported d.entered s) = (.error error, s')) :
    e.dispatch d s = (.error error, s') := by
  cases d with
  | case c =>
    rw [dispatch, evalCase, HostM.bind_of_ok (observe_apply _ s)]
    exact HostM.bind_of_error failed _
  | line m =>
    rw [dispatch_line_eq, HostM.bind_of_ok (observe_apply _ s)]
    exact HostM.bind_of_error (HostM.bind_of_error failed _) _

/-- Then the arms are tried. -/
theorem dispatch_case {c : CaseExpr} (started : e.Starts (.case c) s v t) :
    e.dispatch (.case c) s = e.tryArms v c.elseBody 0 c.arms t.cache t.session := by
  obtain ⟨s', evaluated, rfl⟩ := started
  have declared : (c.arms.forM fun arm => (declareNames arm.pattern : EvalM σ Unit)) s' =
      (.ok (), (Dispatch.case c).declared s') := by
    rw [declareArms_apply, Dispatch.declared, Dispatch.names, Dispatch.patterns, List.flatMap_map]
  have entered : e.observe (.enteredCase c.arms.length) s =
      (.ok (), e.reported (Dispatch.case c).entered s) := rfl
  have scrutinee : e.host.eval c.scrutinee (e.reported (Dispatch.case c).entered s) = (.ok v, s') :=
    evaluated
  rw [dispatch, evalCase, HostM.bind_of_ok entered, HostM.bind_of_ok scrutinee,
    HostM.bind_of_ok declared]

/-- Or the only pattern is. -/
theorem dispatch_line {m : OneLineMatch} (started : e.Starts (.line m) s v t) :
    e.dispatch (.line m) s =
      e.endLine m.mode v (e.attempt m.pattern v t.cache t.session).1.1
        (e.attempt m.pattern v t.cache t.session).2 := by
  obtain ⟨s', evaluated, rfl⟩ := started
  have declared : (declareNames m.pattern : EvalM σ Unit) s' =
      (.ok (), (Dispatch.line m).declared s') := by
    rw [Dispatch.declared, Dispatch.names, Dispatch.patterns, List.flatMap_singleton]
    rfl
  rw [dispatch_line_eq, HostM.bind_of_ok (observe_apply _ s), matchOneLine, bind_assoc,
    HostM.bind_of_ok (show e.host.eval m.value _ = _ from evaluated), bind_assoc,
    HostM.bind_of_ok declared]
  rcases attempted : e.attempt m.pattern v .empty ((Dispatch.line m).declared s') with
    ⟨⟨outcome, cache⟩, s''⟩
  have matched : e.matchValue m.pattern v ((Dispatch.line m).declared s') = (outcome, s'') := by
    change ((e.attempt m.pattern v .empty _).1.1, (e.attempt m.pattern v .empty _).2) = _
    rw [attempted]
  rw [bind_assoc, HostM.bind_of_ok (lift_apply matched)]
  cases outcome with
  | matched b =>
    simp only [endLine, bind_assoc, pure_bind]
    cases m.mode <;> rfl
  | unmatched =>
    simp only [endLine, pure_bind]
    cases m.mode <;> rfl
  | failed error => rfl

theorem tryArms_nil : e.tryArms v elseBody i [] cache s =
    e.otherwise v elseBody (e.reported (.noArmMatched cache.hookCalls cache.hits) s) := by
  cases elseBody with
  | none =>
    rw [tryArms, HostM.bind_of_ok (observe_apply _ s)]
    rfl
  | some body =>
    rw [tryArms, HostM.bind_of_ok (observe_apply _ s)]
    rfl

theorem tryArms_failed
    (attempted : e.attempt arm.pattern v t.cache t.session = ((.failed error, cache), s)) :
    e.tryArms v elseBody i (arm :: arms) t.cache t.session =
      (.error error, e.reported (.dispatchAborted i error.kind.code) s) := by
  rw [tryArms, HostM.bind_of_ok (lift_apply attempted)]
  exact HostM.bind_of_ok (observe_apply _ s) _

theorem tryArms_missed
    (attempted : e.attempt arm.pattern v t.cache t.session = ((.unmatched, cache), s)) :
    e.tryArms v elseBody i (arm :: arms) t.cache t.session =
      e.tryArms v elseBody (i + 1) arms cache (e.reported (.armMissed i) s) := by
  rw [tryArms, HostM.bind_of_ok (lift_apply attempted)]
  exact HostM.bind_of_ok (observe_apply _ s) _

/-- Once its pattern has matched, the guard of an arm decides. -/
theorem tryArms_matched
    (attempted : e.attempt arm.pattern v t.cache t.session = ((.matched b, cache), s)) :
    e.tryArms v elseBody i (arm :: arms) t.cache t.session =
      match e.guardPasses arm.guard b s with
      | (.error error, s) => (.error error, s)
      | (.ok false, s) => e.tryArms v elseBody (i + 1) arms cache (e.reported (.guardRejected i) s)
      | (.ok true, s) =>
        e.takeArm arm b (e.reported (.armMatched i b.size cache.hookCalls cache.hits) s) := by
  rw [tryArms, HostM.bind_of_ok (lift_apply attempted)]
  dsimp only
  rw [HostM.bind_apply]
  rcases e.guardPasses arm.guard b s with ⟨_ | _ | _, s'⟩
  · rfl
  · exact HostM.bind_of_ok (observe_apply _ s') _
  · exact HostM.bind_of_ok (observe_apply _ s') _

/-- Arms that are passed over only lead to the arms after them. -/
theorem PassesOver.tryArms_eq (passed : e.PassesOver v i arms t j rest t') :
    e.tryArms v elseBody i arms t.cache t.session =
      e.tryArms v elseBody j rest t'.cache t'.session := by
  induction passed with
  | none => rfl
  | missed attempted later ih => rw [tryArms_missed attempted, ih]
  | rejected attempted guarded later ih =>
    rw [tryArms_matched attempted, guarded]
    exact ih

/-- An arm that is not passed over. -/
def Stops (e : Engine σ) (v : Value) (arm : CaseArm) (t : Standing σ) : Prop :=
  (∃ error cache s, e.attempt arm.pattern v t.cache t.session = ((.failed error, cache), s)) ∨
  ∃ b cache s, e.attempt arm.pattern v t.cache t.session = ((.matched b, cache), s) ∧
    (e.guardPasses arm.guard b s).1 ≠ .ok false

/-- All arms are passed over, or one of them is not. -/
theorem exhausts_or_stops (e : Engine σ) (v : Value) (i : Nat) (arms : List CaseArm)
    (t : Standing σ) :
    (∃ j t', e.PassesOver v i arms t j [] t') ∨
      ∃ j arm rest t', e.PassesOver v i arms t j (arm :: rest) t' ∧ e.Stops v arm t' := by
  induction arms generalizing i t with
  | nil => exact .inl ⟨i, t, .none⟩
  | cons arm arms ih =>
    rcases attempted : e.attempt arm.pattern v t.cache t.session with ⟨⟨b | _ | error, cache⟩, s⟩
    · rcases guarded : e.guardPasses arm.guard b s with ⟨_ | _ | _, s'⟩
      · exact .inr ⟨i, arm, arms, t, .none, .inr ⟨b, cache, s, attempted, by simp [guarded]⟩⟩
      · rcases ih (i + 1) ⟨e.reported (.guardRejected i) s', cache⟩ with
          ⟨j, t', passed⟩ | ⟨j, other, rest, t', passed, stops⟩
        · exact .inl ⟨j, t', .rejected attempted guarded passed⟩
        · exact .inr ⟨j, other, rest, t', .rejected attempted guarded passed, stops⟩
      · exact .inr ⟨i, arm, arms, t, .none, .inr ⟨b, cache, s, attempted, by simp [guarded]⟩⟩
    · rcases ih (i + 1) ⟨e.reported (.armMissed i) s, cache⟩ with
        ⟨j, t', passed⟩ | ⟨j, other, rest, t', passed, stops⟩
      · exact .inl ⟨j, t', .missed attempted passed⟩
      · exact .inr ⟨j, other, rest, t', .missed attempted passed, stops⟩
    · exact .inr ⟨i, arm, arms, t, .none, .inl ⟨error, cache, s, attempted⟩⟩

end Engine

end PatternDispatch
