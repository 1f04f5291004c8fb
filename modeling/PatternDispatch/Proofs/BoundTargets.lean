import PatternDispatch.Proofs.CacheTransparency
import PatternDispatch.Proofs.Parts
import PatternDispatch.Proofs.ScopeStack

/-! What a match binds is what its pattern declares. The matcher and the list of targets go through
a pattern separately, and come by its targets in one order. -/
namespace PatternDispatch

open Dialogue

namespace Bindings

theorem targets_of_locals (bs : Bound) :
    (bs.filterMap localBinding?).map Prod.fst =
      (bs.map Prod.fst).filterMap BindTarget.localVar? := by
  induction bs with
  | nil => rfl
  | cons b bs ih =>
    obtain ⟨t, v⟩ := b
    cases t with
    | localVar n => exact congrArg (n :: ·) ih
    | external r => exact ih

end Bindings

namespace Engine

variable {σ : Type} (e : Engine σ)

/-- What comes of a dialogue has the property that its questions lead to, whatever the answers. -/
theorem run_only {α τ : Type} {asks : Question → Prop} {Q : α → Prop} {d : Dialogue α}
    (keeps : d.Keeps (.only asks) Q) (h : Answerer τ) (t : τ) {a : α}
    (ended : (run h d t).1 = .ok a) :
    Q a :=
  (run_invariant (I := fun _ => True) (fun _ _ _ _ => ⟨trivial, fun _ _ => trivial⟩) keeps
    trivial).2 a ended

/-- Whatever the answers are, an attempt binds targets of its pattern in their order. -/
theorem attempt_adds {p : Pattern} {v : Value} {cache : Cache} {session : Session σ} {b : Bindings}
    (matched : (e.attempt p v cache session).1.1 = .matched b) :
    Bound.Adds p.targets p.Straight [] b.toList := by
  have binds : Persistent.Binds (fun _ => True) p.targets p.Straight []
      (Persistent.matchNode e.names p v []) :=
    Persistent.matchNode_binds p (fun _ _ => trivial) v []
  rw [show (e.attempt p v cache session).1.1 = _ from
    congrArg (·.1.1) (e.attempt_eq_run p v ⟨session, cache⟩)] at matched
  rcases ended : (run e.cached (Persistent.matchNode e.names p v []) ⟨session, cache⟩).1 with
    error | _ | bs
  · rw [ended] at matched
    cases matched
  · rw [ended] at matched
    cases matched
  · rw [ended] at matched
    cases matched
    rw [Bindings.toList_ofList]
    exact run_only binds _ _ ended bs rfl

/-- Storing bindings touches no variable but those bound. -/
theorem lookup?_commit {n : Name} (bs : Bound) (other : .localVar n ∉ bs.map Prod.fst)
    (s : Session σ) : (e.commit bs s).2.env.lookup? n = s.env.lookup? n := by
  induction bs generalizing s with
  | nil => rfl
  | cons b bs ih =>
    obtain ⟨t, v⟩ := b
    rw [List.map_cons, List.mem_cons, not_or] at other
    cases t with
    | localVar m =>
      have apart : n ≠ m := fun same => other.1 (same ▸ rfl)
      have stored : (EvalM.modifyEnv (·.commit m v) : EvalM σ Unit) s =
          (.ok (), { s with env := s.env.commit m v }) := rfl
      rw [commit, HostM.bind_of_ok stored, ih other.2]
      exact s.env.lookup?_commit_of_ne v apart
    | external r =>
      have reported :
          e.observe .externalAssigned s = (.ok (), e.reported .externalAssigned s) := rfl
      rw [commit, HostM.bind_of_ok reported, HostM.bind_apply]
      rcases stored : (EvalM.ofHost (e.host.assignExternal r v) : EvalM σ Unit)
        (e.reported .externalAssigned s) with ⟨r, s'⟩
      have same : s'.env = s.env := (congrArg (fun x => x.2.env) stored).symm
      cases r with
      | error error => exact congrArg (·.lookup? n) same
      | ok _ => exact (ih other.2 s').trans (congrArg (·.lookup? n) same)

/-- A match binds targets of its pattern, in the order in which they stand there; so local variables
are bound in the order in which they are declared, and a commit writes to none that is not. A
pattern without alternatives whose lists have the documented shapes binds each of its targets, once
for every time that it stands in the pattern. -/
theorem bound_targets_declared (p : Pattern) (v : Value) (cache : Cache) (session : Session σ)
    (b : Bindings) (matched : (e.attempt p v cache session).1.1 = .matched b) :
    (b.toList.map Prod.fst).Sublist p.targets ∧
    (b.locals.map Prod.fst).Sublist p.bindingNames ∧
    (∀ n ∈ b.locals.map Prod.fst, ∀ env : Environment,
      (p.bindingNames.foldl Environment.declare env).isDefined n = true) ∧
    (∀ n ∉ p.bindingNames, ∀ s : Session σ,
      (e.commit b.toList s).2.env.lookup? n = s.env.lookup? n) ∧
    (p.Straight → b.toList.map Prod.fst = p.targets) := by
  obtain ⟨new, same, some, every⟩ := e.attempt_adds matched
  rw [List.nil_append] at same
  rw [← same] at some every
  have locals : (b.locals.map Prod.fst).Sublist p.bindingNames := by
    rw [Bindings.locals, Bindings.targets_of_locals]
    exact some.filterMap BindTarget.localVar?
  refine ⟨some, locals, fun n hn env => ?_, fun n hn s => ?_, every⟩
  · exact Environment.isDefined_declareAll (locals.subset hn) env
  · refine e.lookup?_commit b.toList (fun bound => hn ?_) s
    exact List.mem_filterMap.2 ⟨.localVar n, some.subset bound, rfl⟩

end Engine

/-- The first item, and the items after it as an array. -/
def Pattern.firstAndRest : Pattern :=
  .list (.withRest [.binding (.localVar ⟨0⟩)] (.named (.localVar ⟨1⟩)) [])

theorem Pattern.within_firstAndRest {q : Pattern} (h : q.Within firstAndRest) :
    q = firstAndRest ∨ q = .binding (.localVar ⟨0⟩) := by
  cases h with
  | here => exact .inl rfl
  | leading h inside =>
    obtain rfl := List.mem_singleton.1 h
    cases inside
    exact .inr rfl
  | element hw => cases hw
  | trailing h => cases h

theorem Pattern.firstAndRest_straight : firstAndRest.Straight := by
  constructor
  · intro branches inside
    rcases within_firstAndRest inside with same | same
    · cases same
    · cases same
  · intro shape inside
    rcases within_firstAndRest inside with same | same
    · cases same
      exact .inr (.inl ⟨_, _, _, rfl⟩)
    · cases same

/-- An array of two items binds the first one, and the second one in a new array. -/
theorem bound_targets_declared_sample :
    let e : Engine Nat := ⟨.reading .nil, .new, .standard⟩
    ∃ b, (e.attempt .firstAndRest Hooks.twice .empty ⟨.empty, 7⟩).1.1 = .matched b ∧
      b.toList.map Prod.fst = [.localVar ⟨0⟩, .localVar ⟨1⟩] := by
  intro e
  have items : e.sequence Hooks.twice ⟨⟨.empty, 7⟩, .empty, .empty⟩ = _ :=
    e.sequence_asked (Cache.sequence?_empty _)
  have matched : (e.attempt .firstAndRest Hooks.twice .empty ⟨.empty, 7⟩).1.1 = .matched
      (.ofList [(.localVar ⟨0⟩, .array ⟨1⟩ []), (.localVar ⟨1⟩, .array ⟨7⟩ [.array ⟨1⟩ []])]) := by
    rw [Engine.attempt, Pattern.firstAndRest, Engine.matchNode, ListPattern.withRest,
      Engine.matchList, HostM.bind_apply, Engine.itemsFor?, HostM.bind_apply, items]
    rfl
  obtain ⟨-, -, -, -, every⟩ := e.bound_targets_declared _ _ _ _ _ matched
  exact ⟨_, matched, every Pattern.firstAndRest_straight⟩

end PatternDispatch
