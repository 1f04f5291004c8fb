import PatternDispatch.Proofs.ArmsTried
import PatternDispatch.Proofs.CacheTransparency
import PatternDispatch.Proofs.FaultyAnswers
import PatternDispatch.Proofs.ScopeStack

/-! Scopes are left as they are entered. On every way out of a dispatch the stack of scopes is the one
it began with, scope by scope with all names that were there, as long as evaluating an expression
leaves it like that; and from the first attempt to match on, the variables of all arms exist. -/
namespace PatternDispatch

open Dialogue

/-- A step after which every scope is still there, with all its names, whether it fails or not. -/
def EvalM.KeepsScopes {σ α : Type} (m : EvalM σ α) : Prop :=
  ∀ s : Session σ, s.env.KeptIn (m s).2.env

namespace EvalM

variable {σ α β : Type}

/-- A step that leaves the variables alone. -/
theorem keepsScopes_of_env {m : EvalM σ α} (same : ∀ s : Session σ, (m s).2.env = s.env) :
    m.KeepsScopes := by
  intro s
  rw [same s]
  exact .refl s.env

theorem keepsScopes_pure (a : α) : (pure a : EvalM σ α).KeepsScopes :=
  keepsScopes_of_env fun _ => rfl

theorem keepsScopes_throw (error : EvalError) : (throw error : EvalM σ α).KeepsScopes :=
  keepsScopes_of_env fun _ => rfl

theorem keepsScopes_ofHost (m : HostM σ α) : (ofHost m).KeepsScopes :=
  keepsScopes_of_env fun _ => rfl

theorem KeepsScopes.bind {m : EvalM σ α} {f : α → EvalM σ β} (hm : m.KeepsScopes)
    (hf : ∀ a, (f a).KeepsScopes) : (m >>= f).KeepsScopes := by
  intro s
  have first := hm s
  rw [HostM.bind_apply]
  rcases ended : m s with ⟨error | a, s'⟩
  · rw [ended] at first
    exact first
  · rw [ended] at first
    exact first.trans (hf a s')

/-- What happens in a temporary scope happens to no other, and it is left again. -/
theorem KeepsScopes.inScope {m : EvalM σ α} (hm : m.KeepsScopes) (bs : Bound) :
    (EvalM.inScope bs.scopeIn m).KeepsScopes := by
  intro s
  exact bs.keptIn_leave (hm { s with env := bs.scopeIn s.env })

end EvalM

namespace Engine

open EvalM

variable {σ : Type} {e : Engine σ}

section

variable (eval : ∀ x, (e.host.eval x).KeepsScopes)
include eval

theorem direct_keepsScopes (q : Question) : KeepsScopes (e.direct q) := by
  cases q with
  | eval x => exact eval x
  | evalWith bs x => exact (eval x).inScope bs
  | mapping p v => exact (keepsScopes_ofHost _).bind fun _ => keepsScopes_pure _
  | declare ns => exact fun (s : Session σ) => Environment.keptIn_declareAll ns s.env
  | store t v =>
    cases t with
    | localVar n => exact fun (s : Session σ) => s.env.keptIn_commit n v
    | external r => exact keepsScopes_ofHost _
  | _ => exact keepsScopes_of_env fun _ => rfl

/-- So does a question that a kept answer may serve. -/
theorem cached_keepsScopes (q : Question) (t : Standing σ) :
    t.session.env.KeptIn (e.cached q t).2.session.env := by
  rcases q.opens_cases with ⟨v, rfl⟩ | ⟨p, v, rfl⟩ | plain
  · cases kept : t.cache.sequence? v with
    | some a =>
      rw [e.cached_sequence_kept kept]
      exact .refl _
    | none =>
      rw [e.cached_sequence_asked kept]
      exact .refl _
  · cases kept : t.cache.mapping? (e.mappingKey? v p.requestedKeys) with
    | some a =>
      rw [e.cached_mapping_kept kept]
      exact .refl _
    | none =>
      rw [e.cached_mapping_asked kept]
      exact .refl _
  · rw [e.cached_of_plain plain]
    exact direct_keepsScopes eval q t.session

theorem run_keepsScopes {α : Type} (d : Dialogue α) (t : Standing σ) :
    t.session.env.KeptIn (run e.cached d t).2.session.env := by
  induction d generalizing t with
  | done a => exact .refl _
  | fail error => exact .refl _
  | ask q next ih =>
    have asked := cached_keepsScopes eval q t
    rcases answered : e.cached q t with ⟨error | a, t'⟩
    · rw [answered] at asked
      rw [run_ask_error answered]
      exact asked
    · rw [answered] at asked
      rw [run_ask_ok answered]
      exact asked.trans (ih a t')

theorem attempt_keepsScopes (p : Pattern) (v : Value) (t : Standing σ) :
    t.session.env.KeptIn (e.attempt p v t.cache t.session).2.env := by
  rw [attempt_eq_run]
  exact run_keepsScopes eval _ t

theorem guardPasses_keepsScopes (guard : Option Guard) (b : Bindings) :
    (e.guardPasses guard b).KeepsScopes := by
  cases guard with
  | none => exact keepsScopes_pure true
  | some g => exact ((eval g.expr).inScope b.toList).bind fun _ => keepsScopes_pure _

omit eval in
theorem commit_keepsScopes (bs : Bound) : (e.commit bs).KeepsScopes := by
  induction bs with
  | nil => exact keepsScopes_pure ()
  | cons b bs ih =>
    obtain ⟨t, v⟩ := b
    cases t with
    | localVar n =>
      have stored : (modifyEnv (·.commit n v) : EvalM σ Unit).KeepsScopes :=
        fun (s : Session σ) => s.env.keptIn_commit n v
      exact stored.bind fun _ => ih
    | external r =>
      have reported : (e.observe .externalAssigned).KeepsScopes := keepsScopes_ofHost _
      exact reported.bind fun _ => (keepsScopes_ofHost _).bind fun _ => ih

omit eval in
theorem noMatch_keepsScopes (v : Value) : (e.noMatch v).KeepsScopes :=
  (keepsScopes_ofHost _).bind fun _ => keepsScopes_throw _

theorem otherwise_keepsScopes (v : Value) (elseBody : Option ExprId) :
    (e.otherwise v elseBody).KeepsScopes := by
  cases elseBody with
  | none => exact noMatch_keepsScopes v
  | some body => exact eval body

theorem takeArm_keepsScopes (arm : CaseArm) (b : Bindings) : (e.takeArm arm b).KeepsScopes :=
  (commit_keepsScopes b.toList).bind fun _ => eval arm.body

omit eval in
theorem endLine_keepsScopes (mode : OneLineMode) (v : Value) (outcome : MatchOutcome) :
    (e.endLine mode v outcome).KeepsScopes := by
  cases outcome with
  | matched b => exact (commit_keepsScopes b.toList).bind fun _ => keepsScopes_pure _
  | unmatched =>
    cases mode with
    | test => exact keepsScopes_pure _
    | assert => exact noMatch_keepsScopes v
  | failed error => exact keepsScopes_throw error

/-- However many arms were passed over, all names are still there. -/
theorem PassesOver.keptIn {v : Value} {i j : Nat} {arms rest : List CaseArm} {t t' : Standing σ}
    (passed : e.PassesOver v i arms t j rest t') : t.session.env.KeptIn t'.session.env := by
  induction passed with
  | none => exact .refl _
  | @missed _ _ arm _ _ t _ _ _ attempted _ ih =>
    have matched := attempt_keepsScopes eval arm.pattern v t
    rw [attempted] at matched
    exact matched.trans ih
  | @rejected _ _ arm _ _ t _ _ b s _ attempted guarded _ ih =>
    have matched := attempt_keepsScopes eval arm.pattern v t
    have rejected := guardPasses_keepsScopes eval arm.guard b s
    rw [attempted] at matched
    rw [guarded] at rejected
    exact (matched.trans rejected).trans ih

/-- An arm that is not passed over ends the dispatch, one way or the other. -/
theorem Stops.keptIn {v : Value} {arm : CaseArm} {t : Standing σ} (stops : e.Stops v arm t)
    (elseBody : Option ExprId) (i : Nat) (arms : List CaseArm) :
    t.session.env.KeptIn (e.tryArms v elseBody i (arm :: arms) t.cache t.session).2.env := by
  have matched := attempt_keepsScopes eval arm.pattern v t
  rcases stops with ⟨error, cache, s, attempted⟩ | ⟨b, cache, s, attempted, stays⟩
  · rw [attempted] at matched
    rw [tryArms_failed attempted]
    exact matched
  · rw [attempted] at matched
    have asked := guardPasses_keepsScopes eval arm.guard b s
    rw [tryArms_matched attempted]
    rcases guarded : e.guardPasses arm.guard b s with ⟨error | _ | _, s'⟩
    · rw [guarded] at asked
      exact matched.trans asked
    · rw [guarded] at stays
      exact absurd rfl stays
    · rw [guarded] at asked
      have taken := takeArm_keepsScopes eval arm b
        (e.reported (.armMatched i b.size cache.hookCalls cache.hits) s')
      exact (matched.trans asked).trans taken

theorem tryArms_keepsScopes (v : Value) (elseBody : Option ExprId) (i : Nat) (arms : List CaseArm)
    (t : Standing σ) :
    t.session.env.KeptIn (e.tryArms v elseBody i arms t.cache t.session).2.env := by
  rcases e.exhausts_or_stops v i arms t with ⟨j, t', passed⟩ | ⟨j, arm, rest, t', passed, stops⟩
  · rw [passed.tryArms_eq, tryArms_nil]
    have ended := otherwise_keepsScopes eval v elseBody
      (e.reported (.noArmMatched t'.cache.hookCalls t'.cache.hits) t'.session)
    exact (passed.keptIn eval).trans ended
  · rw [passed.tryArms_eq]
    exact (passed.keptIn eval).trans (stops.keptIn eval elseBody j rest)

/-- Once the variables of all arms exist, they stay. -/
theorem Starts.keptIn {d : Dispatch} {s : Session σ} {v : Value} {t : Standing σ}
    (started : e.Starts d s v t) : t.session.env.KeptIn (e.dispatch d s).2.env := by
  cases d with
  | case c =>
    rw [dispatch_case started]
    exact tryArms_keepsScopes eval v c.elseBody 0 c.arms t
  | line m =>
    rw [dispatch_line started]
    exact (attempt_keepsScopes eval m.pattern v t).trans (endLine_keepsScopes m.mode v _ _)

theorem dispatch_keepsScopes (d : Dispatch) : KeepsScopes (e.dispatch d) := by
  intro s
  have scrutinee := eval d.scrutinee (e.reported d.entered s)
  rcases evaluated : e.host.eval d.scrutinee (e.reported d.entered s) with ⟨error | v, s'⟩
  · rw [evaluated] at scrutinee
    rw [dispatch_of_error evaluated]
    exact scrutinee
  · rw [evaluated] at scrutinee
    have started : e.Starts d s v ⟨d.declared s', .empty⟩ := ⟨s', evaluated, rfl⟩
    have declared : s'.env.KeptIn (d.declared s').env :=
      Environment.keptIn_declareAll d.names s'.env
    exact (scrutinee.trans declared).trans (started.keptIn eval)

omit eval in
theorem Starts.isDefined {d : Dispatch} {s : Session σ} {v : Value} {t : Standing σ}
    (started : e.Starts d s v t) {n : Name} (hn : n ∈ d.names) :
    t.session.env.isDefined n = true := by
  obtain ⟨s', -, rfl⟩ := started
  exact Environment.isDefined_declareAll hn s'.env

/-- The variables of all arms exist whenever an arm is tried. -/
theorem Attempts.isDefined {d : Dispatch} {s : Session σ} {i : Nat} {p : Pattern} {v : Value}
    {t : Standing σ} (attempted : e.Attempts s d i p v t) {n : Name} (hn : n ∈ d.names) :
    t.session.env.isDefined n = true := by
  cases attempted with
  | arm started passed => exact (passed.keptIn eval).isDefined (started.isDefined hn)
  | line started => exact started.isDefined hn

/-- A variable that exists when an attempt begins is found whenever it is looked up. -/
theorem moment_finds {n : Name} {p : Pattern} {v : Value} {t after : Standing σ}
    (defined : t.session.env.isDefined n = true) {found : Except EvalError (Option Value)}
    (hx : ⟨.visible n, found, after⟩ ∈ e.moments p v t) : ∃ u, found = .ok (some u) := by
  -- that the variable exists is what every question keeps
  have step (q : Question) (t : Standing σ) (defined : t.session.env.isDefined n = true) :
      (∀ found after, Exchange.mk q (e.cached q t).1 (e.cached q t).2 = ⟨.visible n, found, after⟩ →
        ∃ u, found = .ok (some u)) ∧
      (e.cached q t).2.session.env.isDefined n = true := by
    refine ⟨?_, (cached_keepsScopes eval q t).isDefined defined⟩
    rintro found after ⟨⟩
    obtain ⟨u, seen⟩ := Option.isSome_iff_exists.1 defined
    exact ⟨u, congrArg Except.ok seen⟩
  exact forall_mem_transcript (I := fun t => t.session.env.isDefined n = true)
    (P := fun x => ∀ found after, x = ⟨.visible n, found, after⟩ → ∃ u, found = .ok (some u))
    step _ defined hx found after rfl

end

/-- Suppose that evaluating an expression leaves the stack of scopes as deep as it was and takes no
name from any scope. Then so does a dispatch, however it ends. Once the scrutinee has its value, the
variables of all arms exist, whether the arms are tried or not; and while an arm is matched, looking
up any of them finds a value. -/
theorem scopes_balanced (e : Engine σ)
    (eval : ∀ x (s : Session σ), s.env.KeptIn (e.host.eval x s).2.env) (d : Dispatch)
    (s : Session σ) :
    s.env.KeptIn (e.dispatch d s).2.env ∧
    (e.dispatch d s).2.env.depth = s.env.depth ∧
    (∀ v t, e.Starts d s v t → ∀ n ∈ d.names, (e.dispatch d s).2.env.isDefined n = true) ∧
    ∀ i p v t, e.Attempts s d i p v t → ∀ n ∈ d.names, ∀ found after,
      ⟨.visible n, found, after⟩ ∈ e.moments p v t → ∃ u, found = .ok (some u) := by
  have kept : s.env.KeptIn (e.dispatch d s).2.env := dispatch_keepsScopes eval d s
  refine ⟨kept, kept.depth_eq, ?_, ?_⟩
  · intro v t started n hn
    exact (started.keptIn eval).isDefined (started.isDefined hn)
  · intro i p v t attempted n hn found after hx
    exact moment_finds eval (attempted.isDefined eval hn) hx

end Engine

/-- A host for which every expression is a given value, which it also assigns to a variable. -/
def Host.defining (root : Value) : Host Nat :=
  { Host.reading root with
    eval := fun x s => (.ok root, { s with env := s.env.define ⟨x.index⟩ root }) }

theorem scopes_balanced_sample :
    let e : Engine Nat := ⟨.defining Hooks.twice, .new, .standard⟩
    (e.dispatch (.case .sample) ⟨.empty, 0⟩).2.env.depth = 1 ∧
      (e.dispatch (.case .sample) ⟨.empty, 0⟩).2.env.isDefined ⟨1⟩ = true := by
  intro e
  obtain ⟨-, depth, defined, -⟩ := e.scopes_balanced (fun x s => s.env.keptIn_define ⟨x.index⟩ _)
    (.case .sample) ⟨.empty, 0⟩
  exact ⟨depth, defined _ _ ⟨_, rfl, rfl⟩ ⟨1⟩ (by decide)⟩

end PatternDispatch
