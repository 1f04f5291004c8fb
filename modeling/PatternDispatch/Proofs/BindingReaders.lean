import PatternDispatch.Dispatch
import PatternDispatch.Proofs.KeptAnswers
import PatternDispatch.Proofs.NearestScope

/-! Who reads a variable that a pattern binds: a pin, an expression in the pattern, a guard, and
whoever comes after the arm has committed. A pin searches the bindings from the latest one back,
expressions look into a temporary scope in which they were defined in order, and a commit writes
them in order to where their names are at home. All find the same value. -/
namespace PatternDispatch

namespace Environment

variable (env : Environment)

@[simp]
theorem lookup?_push (n : Name) : env.push.lookup? n = env.lookup? n := rfl

theorem lookup?_define (n m : Name) (v : Value) :
    (env.define n v).lookup? m = if m = n then some v else env.lookup? m := by
  simp only [lookup?, scopes, define, List.findSome?_cons, Scope.get?_define]
  by_cases same : m = n
  · simp only [same, if_true]
  · simp only [same, if_false]

/-- After any number of definitions, a name has the value defined last. -/
theorem lookup?_defineAll (vars : List (Name × Value)) (n : Name) :
    (vars.foldl (fun env p => env.define p.1 p.2) env).lookup? n =
      (vars.reverse.lookup n).or (env.lookup? n) := by
  induction vars generalizing env with
  | nil => rfl
  | cons p vars ih =>
    obtain ⟨m, v⟩ := p
    rw [lookup_reverse_cons, Option.or_assoc, List.foldl_cons, ih, lookup?_define]
    by_cases same : n = m
    · simp only [same, if_true, Option.some_or]
    · simp only [same, if_false, Option.none_or]

/-- After any number of commits, a name has the value committed last. -/
theorem lookup?_commitAll (vars : List (Name × Value)) (n : Name) :
    (env.commitAll vars).lookup? n = (vars.reverse.lookup n).or (env.lookup? n) := by
  rw [lookup?_eq_slot?, lookup?_eq_slot?, home_commitAll, slot?_commitAll, if_pos rfl]

end Environment

namespace Bindings

/-- What a variable is worth to whoever sees some bindings and the environment around them. -/
def value? (b : Bindings) (env : Environment) (n : Name) : Option Value :=
  (b.get? (.localVar n)).or (env.lookup? n)

/-- Searching all bindings for a local one comes to the same as searching the local ones. -/
theorem get?_localVar (b : Bindings) (n : Name) :
    b.get? (.localVar n) = b.locals.reverse.lookup n := by
  have search : ∀ bs : Bound, bs.lookup (.localVar n) = (bs.filterMap localBinding?).lookup n := by
    intro bs
    induction bs with
    | nil => rfl
    | cons entry bs ih =>
      obtain ⟨m | r, v⟩ := entry
      · rw [List.filterMap_cons_some (show localBinding? (.localVar m, v) = some (m, v) from rfl),
          List.lookup_cons, List.lookup_cons, ih]
        by_cases same : n = m
        · simp only [same, beq_self_eq_true]
        · have other : (BindTarget.localVar n == BindTarget.localVar m) = false :=
            beq_eq_false_iff_ne.2 fun h => same (BindTarget.localVar.inj h)
          simp only [other, beq_eq_false_iff_ne.2 same]
      · rw [List.filterMap_cons_none (show localBinding? (.external r, v) = none from rfl),
          List.lookup_cons, ih]
        rfl
  rw [get?, search, locals, toList, List.filterMap_reverse, List.reverse_reverse]

/-- An expression in a temporary scope reads what a pin reads. -/
theorem lookup?_scopeIn (b : Bindings) (env : Environment) (n : Name) :
    (b.scopeIn env).lookup? n = b.value? env n := by
  rw [scopeIn, Environment.lookup?_defineAll, Environment.lookup?_push, value?, get?_localVar]

end Bindings

namespace Engine

variable {σ : Type} (e : Engine σ)

/-- A pin on a variable reads it or fails. -/
theorem resolve_localVar (n : Name) (s : MatchState σ) :
    e.resolve (.localVar n) s =
      ((s.bindings.value? s.session.env n).elim (.error (.undefinedVariable (e.names.text n))) .ok,
        s) := by
  rw [resolve, HostM.bind_of_ok (show MatchM.getBindings s = (.ok s.bindings, s) from rfl),
    Bindings.value?]
  cases s.bindings.get? (.localVar n) with
  | some v => rfl
  | none =>
    rw [Option.none_or]
    refine (HostM.bind_of_ok (show MatchM.ofEval EvalM.getEnv s = (.ok s.session.env, s) from rfl)
      _).trans ?_
    cases s.session.env.lookup? n <;> rfl

/-- Stores one value outside. -/
def store (r : ExternalRef) (v : Value) : EvalM σ Unit := do
  e.observe .externalAssigned
  .ofHost (e.host.assignExternal r v)

theorem commit_external (r : ExternalRef) (v : Value) (bs : Bound) :
    e.commit ((.external r, v) :: bs) = (e.store r v >>= fun _ => e.commit bs) := by
  rw [store, bind_assoc, commit]

theorem env_store (r : ExternalRef) (v : Value) (s : Session σ) :
    (e.store r v s).2.env = s.env := by
  rw [store, HostM.bind_of_ok (show e.observe .externalAssigned s = (.ok (), _) from rfl)]
  rfl

/-- One binding of an external target could not be stored, and those before it could. -/
def StoreFails (bs : Bound) (s : Session σ) (error : EvalError) : Prop :=
  ∃ done r v rest reached, bs = done ++ (.external r, v) :: rest ∧
    e.commit done s = (.ok (), reached) ∧ (e.store r v reached).1 = .error error

/-- What a commit does to the variables: all local bindings count, in their order. -/
theorem commit_ends (bs : Bound) (s : Session σ) :
    let (result, after) := e.commit bs s
    (result = .ok () ∧ after.env = s.env.commitAll (bs.filterMap Bindings.localBinding?)) ∨
      ∃ error, result = .error error ∧ e.StoreFails bs s error := by
  induction bs generalizing s with
  | nil => exact .inl ⟨rfl, rfl⟩
  | cons entry bs ih =>
    obtain ⟨n | r, v⟩ := entry
    · rcases ih { s with env := s.env.commit n v } with
        stored | ⟨error, failed, done, r, w, rest, reached, split, before, fails⟩
      · exact .inl stored
      · exact .inr ⟨error, failed, (.localVar n, v) :: done, r, w, rest, reached,
          congrArg (_ :: ·) split, before, fails⟩
    · have env := e.env_store r v s
      rw [commit_external]
      rcases here : e.store r v s with ⟨error | ⟨⟩, s'⟩
      · rw [HostM.bind_of_error here]
        exact .inr ⟨error, rfl, [], r, v, bs, s, rfl, rfl, congrArg Prod.fst here⟩
      · rw [here] at env
        rw [HostM.bind_of_ok here, List.filterMap_cons_none
          (show Bindings.localBinding? (.external r, v) = none from rfl), ← env]
        rcases ih s' with
          stored | ⟨error, failed, done, r', w, rest, reached, split, before, fails⟩
        · exact .inl stored
        · refine .inr ⟨error, failed, (.external r, v) :: done, r', w, rest, reached,
            congrArg (_ :: ·) split, ?_, fails⟩
          rw [commit_external, HostM.bind_of_ok here, before]

/-- A guard sees its environment with the bindings of the arm in a temporary scope. -/
theorem guardPasses_some (g : Guard) (b : Bindings) (s : Session σ) :
    e.guardPasses (some g) b s =
      let (result, after) := e.host.eval g.expr { s with env := b.scopeIn s.env }
      (result.map fun v => g.passes v.isTruthy, { after with env := after.env.pop }) := by
  have entered : EvalM.inScope b.scopeIn (e.host.eval g.expr) s =
      let (result, after) := e.host.eval g.expr { s with env := b.scopeIn s.env }
      (result, { after with env := after.env.pop }) := rfl
  rcases ended : e.host.eval g.expr { s with env := b.scopeIn s.env } with ⟨error | v, after⟩
  · rw [ended] at entered
    exact HostM.bind_of_error entered _
  · rw [ended] at entered
    exact HostM.bind_of_ok entered _

/-- What a variable is worth to a pin, to an expression in the pattern and to a guard is the same,
and what it is worth after the commit: the value bound last to it, or else the visible one. Bindings
of external targets do not count. A commit that is not refused by the host writes each variable
where it is at home, and nothing else. -/
theorem binding_readers_agree (b : Bindings) (s : Session σ) :
    let inside : Session σ := { s with env := b.scopeIn s.env }
    (∀ n, inside.env.lookup? n = b.value? s.env n) ∧
    (∀ n cache, e.resolve (.localVar n) ⟨s, b, cache⟩ =
      ((b.value? s.env n).elim (.error (.undefinedVariable (e.names.text n))) .ok, ⟨s, b, cache⟩)) ∧
    (∀ x cache, e.resolve (.expr x) ⟨s, b, cache⟩ =
      let (result, after) := e.host.eval x inside
      (result, ⟨{ after with env := after.env.pop }, b, cache⟩)) ∧
    (∀ g, e.guardPasses (some g) b s =
      let (result, after) := e.host.eval g.expr inside
      (result.map (g.passes ·.isTruthy), { after with env := after.env.pop })) ∧
    (∀ b' : Bindings, b'.locals = b.locals →
      b'.scopeIn s.env = inside.env ∧ ∀ n, b'.get? (.localVar n) = b.get? (.localVar n)) ∧
    let (result, after) := e.commit b.toList s
    (∃ error, result = .error error ∧ e.StoreFails b.toList s error) ∨
      result = .ok () ∧
      after.env.depth = s.env.depth ∧
      (∀ n, after.env.lookup? n = b.value? s.env n) ∧
      ∀ n i, after.env.slot? i n =
        if i = s.env.home n then (b.get? (.localVar n)).or (s.env.slot? i n)
        else s.env.slot? i n := by
  refine ⟨b.lookup?_scopeIn s.env, fun n cache => e.resolve_localVar n ⟨s, b, cache⟩,
    fun x cache => rfl, fun g => e.guardPasses_some g b s, fun b' same => ⟨?_, fun n => ?_⟩, ?_⟩
  · rw [Bindings.scopeIn, same]
    rfl
  · rw [b'.get?_localVar, b.get?_localVar, same]
  · rcases e.commit_ends b.toList s with ⟨stored, env⟩ | failed
    · refine .inr ⟨stored, ?_, fun n => ?_, fun n i => ?_⟩
      · rw [env]
        exact (s.env.keptIn_commitAll _).depth_eq
      · rw [env, Environment.lookup?_commitAll, Bindings.value?, b.get?_localVar]
        rfl
      · rw [env, Environment.slot?_commitAll, b.get?_localVar]
        rfl
    · exact .inl failed

end Engine

end PatternDispatch
