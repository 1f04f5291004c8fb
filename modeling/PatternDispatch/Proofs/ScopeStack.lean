import Mathlib.Data.List.Forall2
import PatternDispatch.Proofs.Dialogue

/-! What becomes of the names in a stack of scopes. Defining, declaring, assigning and committing
leave every scope where it is, with all its names; entering a scope and leaving it again does so as
well, as long as nobody else enters or leaves one in between. -/
namespace PatternDispatch

namespace Scope

/-- All names of a scope are there in another one, with whatever values. -/
def KeptIn (s s' : Scope) : Prop := ∀ n, s.has n = true → s'.has n = true

theorem KeptIn.refl (s : Scope) : s.KeptIn s := fun _ h => h

theorem KeptIn.trans {s s' s'' : Scope} (h : s.KeptIn s') (h' : s'.KeptIn s'') : s.KeptIn s'' :=
  fun n hn => h' n (h n hn)

theorem has_define (s : Scope) (n m : Name) (v : Value) :
    (s.define n v).has m = true ↔ m = n ∨ s.has m = true := by
  rw [has, get?_define]
  by_cases h : m = n
  · simp [h]
  · simp [h, has]

theorem keptIn_define (s : Scope) (n : Name) (v : Value) : s.KeptIn (s.define n v) :=
  fun m h => (s.has_define n m v).2 (.inr h)

end Scope

namespace Environment

variable {env env' env'' : Environment}

/-- Scope by scope, all names of an environment are there in another one of the same depth. -/
def KeptIn (env env' : Environment) : Prop := List.Forall₂ Scope.KeptIn env.scopes env'.scopes

theorem KeptIn.refl (env : Environment) : env.KeptIn env :=
  List.forall₂_same.2 fun s _ => .refl s

theorem keptScopes_trans {ss ss' ss'' : List Scope} (h : List.Forall₂ Scope.KeptIn ss ss')
    (h' : List.Forall₂ Scope.KeptIn ss' ss'') : List.Forall₂ Scope.KeptIn ss ss'' := by
  induction h generalizing ss'' with
  | nil => exact h'
  | cons first rest ih =>
    cases h' with
    | cons first' rest' => exact .cons (first.trans first') (ih rest')

theorem KeptIn.trans (h : env.KeptIn env') (h' : env'.KeptIn env'') : env.KeptIn env'' :=
  keptScopes_trans h h'

theorem KeptIn.depth_eq (h : env.KeptIn env') : env'.depth = env.depth :=
  h.length_eq.symm

theorem isDefined_iff (env : Environment) (n : Name) :
    env.isDefined n = true ↔ ∃ s ∈ env.scopes, s.has n = true := by
  simp [isDefined, lookup?, Scope.has]

theorem KeptIn.isDefined (h : env.KeptIn env') {n : Name} (hn : env.isDefined n = true) :
    env'.isDefined n = true := by
  have some : ∀ {ss ss' : List Scope}, List.Forall₂ Scope.KeptIn ss ss' →
      (∃ s ∈ ss, s.has n = true) → ∃ s ∈ ss', s.has n = true := by
    intro ss ss' kept
    induction kept with
    | nil => simp
    | cons first rest ih =>
      rintro ⟨s, hs, hn⟩
      rcases List.mem_cons.1 hs with rfl | later
      · exact ⟨_, List.mem_cons_self, first n hn⟩
      · obtain ⟨s', hs', hn'⟩ := ih ⟨s, later, hn⟩
        exact ⟨s', List.mem_cons_of_mem _ hs', hn'⟩
  rw [isDefined_iff] at hn ⊢
  exact some h hn

theorem keptIn_define (env : Environment) (n : Name) (v : Value) : env.KeptIn (env.define n v) :=
  .cons (env.current.keptIn_define n v) (List.forall₂_same.2 fun s _ => .refl s)

theorem isDefined_define (env : Environment) (n : Name) (v : Value) :
    (env.define n v).isDefined n = true :=
  (isDefined_iff _ n).2 ⟨_, List.mem_cons_self, (env.current.has_define n n v).2 (.inl rfl)⟩

theorem keptIn_declare (env : Environment) (n : Name) : env.KeptIn (env.declare n) := by
  unfold declare
  split
  · exact .refl env
  · exact env.keptIn_define n .nil

theorem isDefined_declare (env : Environment) (n : Name) : (env.declare n).isDefined n = true := by
  unfold declare
  split
  · assumption
  · exact env.isDefined_define n .nil

theorem keptIn_declareAll (ns : List Name) (env : Environment) :
    env.KeptIn (ns.foldl declare env) := by
  induction ns generalizing env with
  | nil => exact .refl env
  | cons n ns ih => exact (env.keptIn_declare n).trans (ih (env.declare n))

/-- Once declared, a name is visible. -/
theorem isDefined_declareAll {ns : List Name} {n : Name} (h : n ∈ ns) (env : Environment) :
    (ns.foldl declare env).isDefined n = true := by
  induction ns generalizing env with
  | nil => cases h
  | cons m ns ih =>
    rcases List.mem_cons.1 h with rfl | later
    · exact (keptIn_declareAll ns (env.declare n)).isDefined (env.isDefined_declare n)
    · exact ih later (env.declare m)

theorem assignIn?_keptIn {n : Name} {v : Value} {ss ss' : List Scope}
    (h : assignIn? n v ss = some ss') : List.Forall₂ Scope.KeptIn ss ss' := by
  induction ss generalizing ss' with
  | nil => cases h
  | cons s ss ih =>
    rw [assignIn?] at h
    split at h
    · cases h
      exact .cons (s.keptIn_define n v) (List.forall₂_same.2 fun s _ => .refl s)
    · obtain ⟨outer, assigned, rfl⟩ := Option.map_eq_some_iff.1 h
      exact .cons (.refl s) (ih assigned)

/-- A commit defines a name or assigns to the scope that has it. -/
theorem commit_cases (env : Environment) (n : Name) (v : Value) :
    env.commit n v = env.define n v ∨
      ∃ outer, assignIn? n v env.outer = some outer ∧ env.commit n v = { env with outer } := by
  rw [commit, assign?]
  split
  · exact .inl rfl
  · cases h : assignIn? n v env.outer with
    | none => exact .inl rfl
    | some outer => exact .inr ⟨outer, rfl, rfl⟩

theorem keptIn_commit (env : Environment) (n : Name) (v : Value) : env.KeptIn (env.commit n v) := by
  rcases env.commit_cases n v with same | ⟨outer, assigned, same⟩
  · rw [same]
    exact env.keptIn_define n v
  · rw [same]
    exact .cons (.refl _) (assignIn?_keptIn assigned)

/-- A commit writes to no other name. -/
theorem lookup?_commit_of_ne (env : Environment) {n m : Name} (v : Value) (h : m ≠ n) :
    (env.commit n v).lookup? m = env.lookup? m := by
  have defined (s : Scope) : (s.define n v).get? m = s.get? m := by
    rw [Scope.get?_define, if_neg h]
  have assigned : ∀ {ss ss' : List Scope}, assignIn? n v ss = some ss' →
      ss'.findSome? (·.get? m) = ss.findSome? (·.get? m) := by
    intro ss
    induction ss with
    | nil => exact fun h => by cases h
    | cons s ss ih =>
      intro ss' h
      rw [assignIn?] at h
      split at h
      · cases h
        simp only [List.findSome?_cons, defined]
      · obtain ⟨outer, hout, rfl⟩ := Option.map_eq_some_iff.1 h
        simp only [List.findSome?_cons, ih hout]
  rcases env.commit_cases n v with same | ⟨outer, hout, same⟩
  · rw [same]
    simp only [lookup?, scopes, define, List.findSome?_cons, defined]
  · rw [same]
    simp only [lookup?, scopes, List.findSome?_cons, assigned hout]

/-- What is left after a temporary scope that was kept together with those around it. -/
theorem KeptIn.pop {temporary : Scope} (h : (Environment.mk temporary env.scopes).KeptIn env') :
    env.KeptIn env'.pop := by
  obtain ⟨current, outer⟩ := env'
  cases h with
  | cons first rest =>
    cases outer with
    | nil => cases rest
    | cons s outer => exact rest

end Environment

namespace Bound

theorem outer_defineAll (vars : List (Name × Value)) (env : Environment) :
    (vars.foldl (fun env p => env.define p.1 p.2) env).outer = env.outer := by
  induction vars generalizing env with
  | nil => rfl
  | cons p vars ih => exact ih (env.define p.1 p.2)

/-- The scopes around a temporary one are those before it. -/
theorem outer_scopeIn (bs : Bound) (env : Environment) : (bs.scopeIn env).outer = env.scopes :=
  outer_defineAll _ env.push

/-- Leaving a temporary scope undoes all that was put in it. -/
@[simp]
theorem pop_scopeIn (bs : Bound) (env : Environment) : (bs.scopeIn env).pop = env := by
  have outer : (bs.scopeIn env).outer = env.current :: env.outer := bs.outer_scopeIn env
  simp only [Environment.pop, outer]

/-- A step that keeps all names may be done in a temporary scope. -/
theorem keptIn_leave {bs : Bound} {env env' : Environment} (h : (bs.scopeIn env).KeptIn env') :
    env.KeptIn env'.pop := by
  have whole : bs.scopeIn env = ⟨(bs.scopeIn env).current, env.scopes⟩ := by
    rw [← bs.outer_scopeIn env]
  rw [whole] at h
  exact h.pop

end Bound

end PatternDispatch
