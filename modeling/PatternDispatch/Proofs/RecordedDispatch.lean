import PatternDispatch.Proofs.ArmsTried
import PatternDispatch.Proofs.SharedBindings

/-! Dispatches on a host that keeps a record of its calls. The record changes nothing else: step by
step, the host inside does what it does without it. -/
namespace PatternDispatch

section

variable {σ α β : Type}

/-- A step on a recording host does what another step does on the host inside. -/
def EvalM.Forgets (m : EvalM σ α) (m' : EvalM (Recorded σ) α) : Prop :=
  ∀ s : Session (Recorded σ), m s.forget = ((m' s).1, (m' s).2.forget)

namespace EvalM

theorem forgets_pure (a : α) : Forgets (pure a : EvalM σ α) (pure a) := fun _ => rfl

theorem forgets_throw (error : EvalError) : Forgets (throw error : EvalM σ α) (throw error) :=
  fun _ => rfl

theorem forgets_modifyEnv (f : Environment → Environment) :
    Forgets (modifyEnv f : EvalM σ Unit) (modifyEnv f) := fun _ => rfl

theorem Forgets.bind {m : EvalM σ α} {m' : EvalM (Recorded σ) α} {f : α → EvalM σ β}
    {f' : α → EvalM (Recorded σ) β} (hm : Forgets m m') (hf : ∀ a, Forgets (f a) (f' a)) :
    Forgets (m >>= f) (m' >>= f') := by
  intro s
  rw [HostM.bind_apply, HostM.bind_apply, hm s]
  rcases m' s with ⟨error | a, s'⟩
  · rfl
  · exact hf a s'

end EvalM

end

namespace Engine

open EvalM

variable {σ : Type} (keep : Call → Bool) (e : Engine σ)

theorem eval_forgets (x : ExprId) : Forgets (e.host.eval x) ((e.recording keep).host.eval x) :=
  e.direct_forget keep (.eval x)

theorem observe_forgets (event : Event) :
    Forgets (e.observe event) ((e.recording keep).observe event) :=
  e.direct_forget keep (.report event)

theorem noMatch_forgets (v : Value) : Forgets (e.noMatch v) ((e.recording keep).noMatch v) := by
  have rendered : Forgets (ofHost (ExceptT.lift (e.host.render v)))
      (ofHost (ExceptT.lift ((e.recording keep).host.render v))) := e.direct_forget keep (.render v)
  exact rendered.bind fun text => forgets_throw _

theorem attempt_forgets (p : Pattern) (v : Value) (cache : Cache) :
    Forgets (ExceptT.lift (e.attempt p v cache))
      (ExceptT.lift ((e.recording keep).attempt p v cache)) := by
  intro s
  have attempted := e.attempt_forget keep p v cache s
  change (Except.ok (e.attempt p v cache s.forget).1, (e.attempt p v cache s.forget).2) = _
  rw [attempted]
  rfl

theorem guardPasses_forgets (guard : Option Guard) (b : Bindings) :
    Forgets (e.guardPasses guard b) ((e.recording keep).guardPasses guard b) := by
  cases guard with
  | none => exact forgets_pure true
  | some g =>
    have evaluated : Forgets (inScope b.scopeIn (e.host.eval g.expr))
        (inScope b.scopeIn ((e.recording keep).host.eval g.expr)) :=
      e.direct_forget keep (.evalWith b.toList g.expr)
    exact evaluated.bind fun _ => forgets_pure _

theorem commit_forgets (bs : Bound) : Forgets (e.commit bs) ((e.recording keep).commit bs) := by
  induction bs with
  | nil => exact forgets_pure ()
  | cons b bs ih =>
    obtain ⟨t, v⟩ := b
    cases t with
    | localVar n => exact (forgets_modifyEnv _).bind fun _ => ih
    | external r =>
      have stored : Forgets (ofHost (e.host.assignExternal r v))
          (ofHost ((e.recording keep).host.assignExternal r v)) :=
        e.direct_forget keep (.store (.external r) v)
      exact (e.observe_forgets keep .externalAssigned).bind fun _ => stored.bind fun _ => ih

theorem tryArms_forgets (v : Value) (elseBody : Option ExprId) (i : Nat) (arms : List CaseArm)
    (cache : Cache) :
    Forgets (e.tryArms v elseBody i arms cache)
      ((e.recording keep).tryArms v elseBody i arms cache) := by
  induction arms generalizing i cache with
  | nil =>
    cases elseBody with
    | none => exact (e.observe_forgets keep _).bind fun _ => e.noMatch_forgets keep v
    | some body => exact (e.observe_forgets keep _).bind fun _ => e.eval_forgets keep body
  | cons arm arms ih =>
    simp only [tryArms]
    refine (e.attempt_forgets keep arm.pattern v cache).bind fun found => ?_
    obtain ⟨b | _ | error, cache⟩ := found
    · refine (e.guardPasses_forgets keep arm.guard b).bind fun passed => ?_
      cases passed with
      | true =>
        refine (e.observe_forgets keep _).bind fun _ => ?_
        exact (e.commit_forgets keep b.toList).bind fun _ => e.eval_forgets keep arm.body
      | false => exact (e.observe_forgets keep _).bind fun _ => ih (i + 1) cache
    · exact (e.observe_forgets keep _).bind fun _ => ih (i + 1) cache
    · exact (e.observe_forgets keep _).bind fun _ => forgets_throw error

theorem matchOneLine_forgets (value : ExprId) (p : Pattern) :
    Forgets (e.matchOneLine value p) ((e.recording keep).matchOneLine value p) := by
  have matched (v : Value) : Forgets (ExceptT.lift (e.matchValue p v))
      (ExceptT.lift ((e.recording keep).matchValue p v)) :=
    (e.attempt_forgets keep p v .empty).bind fun found => forgets_pure found.1
  refine (e.eval_forgets keep value).bind fun v => (forgets_modifyEnv _).bind fun _ => ?_
  refine (matched v).bind fun outcome => ?_
  cases outcome with
  | matched b => exact (e.commit_forgets keep b.toList).bind fun _ => forgets_pure _
  | unmatched => exact forgets_pure _
  | failed error => exact forgets_throw error

/-- Keeping a record changes nothing else in a dispatch. -/
theorem dispatch_forgets (d : Dispatch) :
    Forgets (e.dispatch d) ((e.recording keep).dispatch d) := by
  cases d with
  | case c =>
    refine (e.observe_forgets keep _).bind fun _ => ?_
    refine (e.eval_forgets keep c.scrutinee).bind fun v => ?_
    have declared : Forgets (c.arms.forM fun arm => (declareNames arm.pattern : EvalM σ Unit))
        (c.arms.forM fun arm => declareNames arm.pattern) := by
      intro s
      rw [declareArms_apply, declareArms_apply]
      rfl
    exact declared.bind fun _ => e.tryArms_forgets keep v c.elseBody 0 c.arms .empty
  | line m =>
    rw [dispatch_line_eq, dispatch_line_eq]
    refine (e.observe_forgets keep _).bind fun _ => ?_
    refine (e.matchOneLine_forgets keep m.value m.pattern).bind fun found => ?_
    cases m.mode with
    | test => exact forgets_pure _
    | assert =>
      dsimp only
      split
      · exact forgets_pure _
      · exact e.noMatch_forgets keep found.1

end Engine

end PatternDispatch
