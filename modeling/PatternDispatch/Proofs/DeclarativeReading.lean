import PatternDispatch.Proofs.ArmsTried
import PatternDispatch.Proofs.CacheTransparency
import PatternDispatch.Proofs.ScopeStack

/-! A dispatch read declaratively. Where tests, operands, guards and hooks leave the host and the
variables alone, every arm can be judged by itself: its pattern is matched by a matcher that knows
of no other arm, and its guard is evaluated with its bindings. The first arm that is not passed over
decides. Identities for arrays and hashes that matching makes are all that is used up. -/
namespace PatternDispatch

open Dialogue

/-- States of a host that has handed out identities since. -/
inductive Host.Allocates {σ : Type} (h : Host σ) (w : σ) : σ → Prop where
  | nothing : Allocates h w w
  | fresh {w' : σ} (before : Allocates h w w') : Allocates h w (h.fresh w').2

theorem Host.Allocates.trans {σ : Type} {h : Host σ} {w w' w'' : σ} (first : h.Allocates w w')
    (second : h.Allocates w' w'') : h.Allocates w w'' := by
  induction second with
  | nothing => exact first
  | fresh _ ih => exact .fresh ih

/-- Tests, operands and guards of a case expression change nothing, whatever they look at. -/
structure CaseExpr.Undisturbed {σ : Type} (c : CaseExpr) (h : Host σ) : Prop where
  caseEq (p v : Value) (w : σ) : (h.caseEq p v w).2 = w
  resolveExternal (r : ExternalRef) (w : σ) : (h.resolveExternal r w).2 = w
  operand {arm : CaseArm} (ha : arm ∈ c.arms) {x : ExprId}
    (hx : arm.pattern.Mentions (.expr x)) (s : Session σ) : (h.eval x s).2 = s
  guard {arm : CaseArm} (ha : arm ∈ c.arms) {g : Guard} (hg : arm.guard = some g)
    (s : Session σ) : (h.eval g.expr s).2 = s

/-- Tests, and the operands among some, change nothing. -/
structure Host.Still {σ : Type} (h : Host σ) (refs : ValueRef → Prop) : Prop where
  caseEq (p v : Value) (w : σ) : (h.caseEq p v w).2 = w
  resolveExternal (r : ExternalRef) (w : σ) : (h.resolveExternal r w).2 = w
  operand {x : ExprId} (hx : refs (.expr x)) (s : Session σ) : (h.eval x s).2 = s

theorem CaseExpr.Undisturbed.still {σ : Type} {c : CaseExpr} {h : Host σ} (still : c.Undisturbed h)
    {arm : CaseArm} (ha : arm ∈ c.arms) : h.Still arm.pattern.Mentions where
  caseEq := still.caseEq
  resolveExternal := still.resolveExternal
  operand hx := still.operand ha hx

/-- The variables once those of all arms exist. -/
def CaseExpr.declared (c : CaseExpr) (env : Environment) : Environment :=
  (c.arms.flatMap (·.pattern.bindingNames)).foldl Environment.declare env

/-- What is to be done about an arm. -/
inductive Verdict where
  | passedOver
  | aborted (error : EvalError)
  | taken (b : Bindings)

namespace Engine

variable {σ : Type} (e : Engine σ)

/-- The session after arms were matched one by one, each by a matcher of its own. -/
def matchedAll (v : Value) (arms : List CaseArm) (s : Session σ) : Session σ :=
  arms.foldl (fun s arm => (e.matchValue arm.pattern v s).2) s

/-- A guard by itself, once the pattern has matched. It sees the local bindings in a scope of their
own. -/
def guardVerdict (guard : Option Guard) (b : Bindings) (s : Session σ) : Verdict :=
  match guard with
  | none => .taken b
  | some g =>
    match (e.host.eval g.expr { s with env := b.scopeIn s.env }).1 with
    | .error error => .aborted error
    | .ok condition => if g.passes condition.isTruthy then .taken b else .passedOver

/-- An arm by itself. -/
def verdict (arm : CaseArm) (v : Value) (s : Session σ) : Verdict :=
  match e.matchValue arm.pattern v s with
  | (.failed error, _) => .aborted error
  | (.unmatched, _) => .passedOver
  | (.matched b, s) => e.guardVerdict arm.guard b s

/-- What comes of an arm with a verdict on it; `next` is what comes of the arms after it. -/
def conclude (arm : CaseArm) (next : EvalM σ Value) : Verdict → EvalM σ Value
  | .passedOver => next
  | .aborted error => throw error
  | .taken b => e.commit b.toList >>= fun _ => e.host.eval arm.body

variable {e} {hooks : Hooks} {v : Value}

theorem matchValue_eq_direct (pure : e.host.PureHooks hooks) (respect : hooks.RespectIdentity v)
    (suits : e.config.keysCache.Suits hooks) (p : Pattern) (s : Session σ) :
    e.silent.matchValue p v s =
      (.ofResult (run e.silent.direct (Persistent.matchNode e.names p v []) s).1,
        (run e.silent.direct (Persistent.matchNode e.names p v []) s).2) := by
  have keeps : (Persistent.matchNode e.names p v []).Keeps (.opening (hooks.Reaches v))
      fun _ => True := Persistent.matchNode_opens p .root []
  obtain ⟨cache, agrees, -⟩ :=
    run_cached_eq_direct (t := ⟨s, .empty⟩) pure respect suits keeps faithful_empty
  have attempted := congrFun (e.silent.attempt_eq p v .empty) s
  change ((e.silent.attempt p v .empty s).1.1, (e.silent.attempt p v .empty s).2) = _
  rw [attempted, persistentAttempt]
  change (MatchOutcome.ofResult (run e.silent.cached (Persistent.matchNode e.names p v []) _).1,
    (run e.silent.cached (Persistent.matchNode e.names p v []) _).2.session) = _
  rw [agrees]

/-- No question of a match changes variables, and only one for an identity changes the host. -/
theorem direct_still (pure : e.host.PureHooks hooks) {refs : ValueRef → Prop}
    (still : e.host.Still refs) {q : Question}
    (asked : (Contract.matching (fun _ => True) refs).asks q) (s : Session σ) :
    (e.silent.direct q s).2.env = s.env ∧
      e.host.Allocates s.world (e.silent.direct q s).2.world := by
  cases q with
  | visible n => exact ⟨rfl, .nothing⟩
  | report event => exact ⟨rfl, .nothing⟩
  | fresh => exact ⟨rfl, .fresh .nothing⟩
  | caseEq p u =>
    change s.env = s.env ∧ e.host.Allocates s.world (e.host.caseEq p u s.world).2
    rw [still.caseEq]
    exact ⟨rfl, .nothing⟩
  | external r =>
    change s.env = s.env ∧ e.host.Allocates s.world (e.host.resolveExternal r s.world).2
    rw [still.resolveExternal]
    exact ⟨rfl, .nothing⟩
  | evalWith bs x =>
    change (e.host.eval x { s with env := bs.scopeIn s.env }).2.env.pop = s.env ∧
      e.host.Allocates s.world (e.host.eval x { s with env := bs.scopeIn s.env }).2.world
    rw [still.operand asked.2]
    exact ⟨bs.pop_scopeIn s.env, .nothing⟩
  | sequence u =>
    rw [direct_sequence (silent_pureHooks pure)]
    exact ⟨rfl, .nothing⟩
  | mapping p u =>
    rw [direct_mapping (silent_pureHooks pure)]
    exact ⟨rfl, .nothing⟩
  | _ => exact asked.2.elim

/-- Matching an arm leaves the variables alone, and of the host it takes identities at most. -/
theorem matchValue_undisturbed (pure : e.host.PureHooks hooks) (respect : hooks.RespectIdentity v)
    (suits : e.config.keysCache.Suits hooks) {c : CaseExpr} (still : c.Undisturbed e.host)
    {arm : CaseArm} (ha : arm ∈ c.arms) (s : Session σ) :
    (e.silent.matchValue arm.pattern v s).2.env = s.env ∧
      e.host.Allocates s.world (e.silent.matchValue arm.pattern v s).2.world := by
  have keeps : (Persistent.matchNode e.names arm.pattern v []).Keeps
      (.matching (fun _ => True) arm.pattern.Mentions) fun _ => True :=
    Persistent.matchNode_keeps arm.pattern (fun _ h => h) v [] trivial
  have step : ∀ (q : Question) (s' : Session σ),
      (Contract.matching (fun _ => True) arm.pattern.Mentions).asks q →
      s'.env = s.env ∧ e.host.Allocates s.world s'.world →
      ((e.silent.direct q s').2.env = s.env ∧
        e.host.Allocates s.world (e.silent.direct q s').2.world) ∧
      ∀ a, (e.silent.direct q s').1 = .ok a →
        (Contract.matching (fun _ => True) arm.pattern.Mentions).answers q a := by
    rintro q s' asked ⟨env, before⟩
    obtain ⟨env', after⟩ := direct_still pure (still.still ha) asked s'
    exact ⟨⟨env'.trans env, before.trans after⟩, fun a _ => Contract.any_answer a⟩
  rw [matchValue_eq_direct pure respect suits]
  exact (run_invariant step keeps ⟨rfl, .nothing⟩).1

/-- A guard that changes nothing lets its arm through exactly when the verdict says so. -/
theorem guardPasses_conclude {arm : CaseArm}
    (still : ∀ g, arm.guard = some g → ∀ s : Session σ, (e.host.eval g.expr s).2 = s)
    (next : EvalM σ Value) (b : Bindings) (s : Session σ) :
    (e.guardPasses arm.guard b >>= fun passed =>
      if passed = true then e.commit b.toList >>= fun _ => e.host.eval arm.body else next) s =
      e.conclude arm next (e.guardVerdict arm.guard b s) s := by
  cases hg : arm.guard with
  | none => rfl
  | some g =>
    have left := still g hg { s with env := b.scopeIn s.env }
    have back : (b.scopeIn s.env).pop = s.env := Bound.pop_scopeIn b.toList s.env
    have evaluated : EvalM.inScope b.scopeIn (e.host.eval g.expr) s =
        ((e.host.eval g.expr { s with env := b.scopeIn s.env }).1, s) := by
      change (_, Session.mk (e.host.eval g.expr _).2.env.pop (e.host.eval g.expr _).2.world) = _
      rw [left, back]
    rw [guardPasses, bind_assoc, HostM.bind_apply, evaluated, guardVerdict]
    rcases (e.host.eval g.expr { s with env := b.scopeIn s.env }).1 with error | condition
    · rfl
    · simp only [pure_bind]
      cases g.passes condition.isTruthy with
      | false => rfl
      | true => rfl

/-- One arm after the other: the verdict on the first says what comes of all of them. -/
theorem tryArms_cons (pure : e.host.PureHooks hooks) (respect : hooks.RespectIdentity v)
    (suits : e.config.keysCache.Suits hooks) {c : CaseExpr} (still : c.Undisturbed e.host)
    {arm : CaseArm} (ha : arm ∈ c.arms) (elseBody : Option ExprId) (arms : List CaseArm)
    (s : Session σ) :
    run e.silent.direct (Persistent.tryArms e.names v elseBody (arm :: arms)) s =
      e.silent.conclude arm (run e.silent.direct (Persistent.tryArms e.names v elseBody arms))
        (e.silent.verdict arm v s) (e.silent.matchValue arm.pattern v s).2 := by
  have matched := matchValue_eq_direct pure respect suits arm.pattern s
  rw [Persistent.tryArms, run_bind, HostM.bind_apply, verdict, matched]
  rcases run e.silent.direct (Persistent.matchNode e.names arm.pattern v []) s with
    ⟨error | _ | bs, s'⟩
  · rfl
  · rfl
  · have guarded := e.silent.direct_guardPasses arm.guard (.ofList bs)
    have committed : run e.silent.direct (Persistent.commit bs >>= fun _ => put (.eval arm.body)) =
        e.silent.commit (Bindings.ofList bs).toList >>= fun _ => e.silent.host.eval arm.body := by
      rw [run_bind, direct_commit, Bindings.toList_ofList]
      exact congrArg (e.silent.commit bs >>= ·) (funext fun _ => run_put _ (.eval arm.body))
    have concluded := guardPasses_conclude (e := e.silent) (fun g hg => still.guard ha hg)
      (run e.silent.direct (Persistent.tryArms e.names v elseBody arms)) (.ofList bs) s'
    rw [Bindings.toList_ofList] at guarded
    dsimp only [MatchOutcome.ofResult]
    rw [← concluded, run_bind, guarded]
    refine congrFun (congrArg (e.silent.guardPasses arm.guard (.ofList bs) >>= ·) ?_) s'
    funext passed
    cases passed with
    | false => rfl
    | true => exact committed

theorem matchedAll_take_succ (v : Value) {arms : List CaseArm} {i : Nat} {arm : CaseArm}
    (h : arms[i]? = some arm) (s : Session σ) :
    e.matchedAll v (arms.take (i + 1)) s =
      (e.matchValue arm.pattern v (e.matchedAll v (arms.take i) s)).2 := by
  rw [List.take_add_one, h, matchedAll, List.foldl_append]
  rfl

/-- Arms that are passed over only move on to the next one. -/
theorem tryArms_drop (pure : e.host.PureHooks hooks) (respect : hooks.RespectIdentity v)
    (suits : e.config.keysCache.Suits hooks) {c : CaseExpr} (still : c.Undisturbed e.host)
    (elseBody : Option ExprId) (s : Session σ) {i : Nat} (hi : i ≤ c.arms.length)
    (before : ∀ j < i, ∀ arm, c.arms[j]? = some arm →
      e.silent.verdict arm v (e.silent.matchedAll v (c.arms.take j) s) = .passedOver) :
    run e.silent.direct (Persistent.tryArms e.names v elseBody c.arms) s =
      run e.silent.direct (Persistent.tryArms e.names v elseBody (c.arms.drop i))
        (e.silent.matchedAll v (c.arms.take i) s) := by
  induction i with
  | zero => rfl
  | succ i ih =>
    have here : c.arms[i]? = some c.arms[i] := List.getElem?_eq_getElem hi
    rw [ih (Nat.le_of_lt hi) fun j hj => before j (Nat.lt_succ_of_lt hj),
      List.drop_eq_getElem_cons hi,
      tryArms_cons pure respect suits still (List.getElem_mem hi),
      before i (Nat.lt_succ_self i) c.arms[i] here, matchedAll_take_succ v here]
    rfl

theorem matchedAll_undisturbed (pure : e.host.PureHooks hooks) (respect : hooks.RespectIdentity v)
    (suits : e.config.keysCache.Suits hooks) {c : CaseExpr} (still : c.Undisturbed e.host)
    {arms : List CaseArm} (harms : ∀ arm ∈ arms, arm ∈ c.arms) (s : Session σ) :
    (e.silent.matchedAll v arms s).env = s.env ∧
      e.host.Allocates s.world (e.silent.matchedAll v arms s).world := by
  induction arms generalizing s with
  | nil => exact ⟨rfl, .nothing⟩
  | cons arm arms ih =>
    obtain ⟨env, first⟩ :=
      matchValue_undisturbed pure respect suits still (harms arm List.mem_cons_self) s
    obtain ⟨env', later⟩ := ih (fun other ho => harms other (List.mem_cons_of_mem arm ho))
      (e.silent.matchValue arm.pattern v s).2
    exact ⟨env'.trans env, first.trans later⟩

/-- Once the scrutinee has its value, the arms are tried where all variables exist. -/
theorem evalCase_eq_tryArms (pure : e.host.PureHooks hooks)
    (suits : e.config.keysCache.Suits hooks) {c : CaseExpr} {s s₁ : Session σ}
    (scrutinee : e.host.eval c.scrutinee s = (.ok v, s₁)) (respect : hooks.RespectIdentity v) :
    e.silent.evalCase c s =
      run e.silent.direct (Persistent.tryArms e.names v c.elseBody c.arms)
        { s₁ with env := c.declared s₁.env } := by
  have scrutinees : ∀ u s', e.host.eval c.scrutinee s = (.ok u, s') → hooks.RespectIdentity u := by
    intro u s' evaluated
    cases scrutinee.symm.trans evaluated
    exact respect
  have declared := congrFun (e.silent.direct_declareAll c.arms) s₁
  rw [declareArms_apply] at declared
  rw [evalCase_eq_direct pure suits c s scrutinees]
  change run e.silent.direct (Persistent.evalCase e.names c) s = _
  rw [Persistent.evalCase_eq_ask, run_ask_ok scrutinee, run_bind, HostM.bind_of_ok declared]
  rfl

/-- The first arm that is not passed over decides; each arm is judged by a matcher of its own, where
all variables exist and no arm has bound anything. An abort leaves the variables like that. An arm
that is taken stores its bindings in their order and evaluates its body. If all arms are passed
over, the alternative is evaluated, or the dispatch fails. -/
theorem evalCase_reads_declaratively (e : Engine σ) (c : CaseExpr) (hooks : Hooks)
    (pure : e.host.PureHooks hooks)
    (anyKeys : ∀ v requested requested', hooks.pairs v requested = hooks.pairs v requested')
    (still : c.Undisturbed e.host) (s s₁ : Session σ) (v : Value)
    (scrutinee : e.host.eval c.scrutinee s = (.ok v, s₁)) (respect : hooks.RespectIdentity v) :
    let start : Session σ := { s₁ with env := c.declared s₁.env }
    let before (i : Nat) : Session σ := e.silent.matchedAll v (c.arms.take i) start
    let verdict (i : Nat) (arm : CaseArm) : Verdict := e.silent.verdict arm v (before i)
    (∀ i, (before i).env = c.declared s₁.env ∧ e.host.Allocates s₁.world (before i).world) ∧
    (∀ i arm, c.arms[i]? = some arm →
      (∀ j < i, ∀ earlier, c.arms[j]? = some earlier → verdict j earlier = .passedOver) →
      (∀ error, verdict i arm = .aborted error →
        e.silent.evalCase c s = (.error error, before (i + 1))) ∧
      ∀ b, verdict i arm = .taken b →
        e.silent.evalCase c s =
          (e.silent.commit b.toList >>= fun _ => e.host.eval arm.body) (before (i + 1))) ∧
    ((∀ i arm, c.arms[i]? = some arm → verdict i arm = .passedOver) →
      e.silent.evalCase c s = e.silent.otherwise v c.elseBody (before c.arms.length)) := by
  intro start before verdict
  have suits : e.config.keysCache.Suits hooks := fun v r r' _ => anyKeys v r r'
  have tried := evalCase_eq_tryArms pure suits scrutinee respect
  refine ⟨fun i => ?_, fun i arm harm earlier => ?_, fun all => ?_⟩
  · exact matchedAll_undisturbed pure respect suits still (fun _ h => List.mem_of_mem_take h) start
  · obtain ⟨hi, rfl⟩ := List.getElem?_eq_some_iff.1 harm
    rw [tried, tryArms_drop pure respect suits still c.elseBody start (Nat.le_of_lt hi) earlier,
      List.drop_eq_getElem_cons hi, tryArms_cons pure respect suits still (List.getElem_mem hi),
      ← matchedAll_take_succ v harm]
    refine ⟨fun error decided => ?_, fun b decided => ?_⟩
    · rw [show e.silent.verdict c.arms[i] v _ = _ from decided]
      rfl
    · rw [show e.silent.verdict c.arms[i] v _ = _ from decided]
      rfl
  · rw [tried, tryArms_drop pure respect suits still c.elseBody start (Nat.le_refl _)
      fun j _ => all j, List.drop_length]
    change run e.silent.direct (Persistent.otherwise v c.elseBody) _ = _
    rw [direct_otherwise]
    cases c.elseBody <;> rfl

end Engine

theorem Host.reading_eval (root : Value) (x : ExprId) (s : Session Nat) :
    ((Host.reading root).eval x s).2 = s := by
  obtain ⟨_ | n⟩ := x
  · rfl
  · rfl

theorem Host.reading_still (root : Value) (refs : ValueRef → Prop) :
    (Host.reading root).Still refs :=
  ⟨fun _ _ _ => rfl, fun _ _ => rfl, fun _ s => reading_eval root _ s⟩

theorem CaseExpr.reading_undisturbed (c : CaseExpr) (root : Value) :
    c.Undisturbed (.reading root) :=
  ⟨fun _ _ _ => rfl, fun _ _ => rfl, fun _ x _ s => Host.reading_eval root x s,
    fun _ _ _ s => Host.reading_eval root _ s⟩

/-- The first arm of the sample is passed over; the second one is taken and reads what it bound. -/
theorem evalCase_reads_declaratively_sample :
    let e : Engine Nat := ⟨.reading Hooks.twice, .new, .standard⟩
    (e.silent.evalCase .sample ⟨.empty, 0⟩).1 = .ok (.array ⟨1⟩ []) := by
  intro e
  have pure : e.host.PureHooks .own := ⟨fun _ _ => rfl, fun _ _ _ => rfl⟩
  have anyKeys : ∀ v r r', Hooks.own.pairs v r = Hooks.own.pairs v r' := by
    intro v r r'
    cases v <;> rfl
  have suits : e.config.keysCache.Suits .own := fun v r r' _ => anyKeys v r r'
  obtain ⟨sessions, decided, -⟩ := e.evalCase_reads_declaratively .sample .own pure anyKeys
    (CaseExpr.sample.reading_undisturbed _) ⟨.empty, 0⟩ ⟨.empty, 0⟩ Hooks.twice rfl
    Hooks.own_respects_twice
  -- judged without kept answers, the arms compute
  have judged (arm : CaseArm) (s : Session Nat) :=
    Engine.matchValue_eq_direct pure Hooks.own_respects_twice suits arm.pattern s
  let first : CaseArm := ⟨.list (.exact [.literal .nil, .wildcard]), none, ⟨1⟩⟩
  let second : CaseArm :=
    ⟨.list (.exact [.list (.exact []), .binding (.localVar ⟨1⟩)]), some ⟨false, ⟨2⟩⟩, ⟨2⟩⟩
  let bound : Bindings := .ofList [(.localVar ⟨1⟩, .array ⟨1⟩ [])]
  have passed (s : Session Nat) : e.silent.verdict first Hooks.twice s = .passedOver := by
    rw [Engine.verdict, judged]
    rfl
  have taken (s : Session Nat) : e.silent.verdict second Hooks.twice s = .taken bound := by
    rw [Engine.verdict, judged]
    rfl
  have earlier (s : Session Nat) (j : Nat) (hj : j < 1) (arm : CaseArm)
      (harm : CaseExpr.sample.arms[j]? = some arm) :
      e.silent.verdict arm Hooks.twice s = .passedOver := by
    obtain rfl := Nat.lt_one_iff.1 hj
    cases harm
    exact passed s
  dsimp only at sessions decided
  obtain ⟨env, -⟩ := sessions 2
  rw [(decided 1 second rfl fun j => earlier _ j).2 bound (taken _)]
  generalize e.silent.matchedAll _ _ _ = s at env ⊢
  obtain ⟨_, w⟩ := s
  cases env
  rfl

end PatternDispatch
