import Mathlib.Data.List.Nodup
import PatternDispatch.Proofs.BindingReaders

/-! A stack of scopes as a stack of maps, step by step. Each step enters or leaves a scope, or sets
one entry and leaves all others as they were. The steps that set an entry differ in which one it is:
that of the current scope, or that of the nearest scope that has the name. -/
namespace PatternDispatch

/-- What can be done to a stack of scopes. -/
inductive ScopeStep where
  | push
  | pop
  | define (n : Name) (v : Value)
  | declare (n : Name)
  | assign (n : Name) (v : Value)
  | commit (n : Name) (v : Value)

namespace Scope

/-- No name stands twice in a scope. -/
def Tidy (s : Scope) : Prop := (s.vars.map Prod.fst).Nodup

theorem mem_setVar {n : Name} {v : Value} {vars : List (Name × Value)} {m : Name}
    (h : m ∈ (setVar n v vars).map Prod.fst) : m = n ∨ m ∈ vars.map Prod.fst := by
  induction vars with
  | nil => exact .inl (List.mem_singleton.1 h)
  | cons p vars ih =>
    obtain ⟨k, w⟩ := p
    rw [setVar] at h
    split at h
    · rcases List.mem_cons.1 h with rfl | later
      · exact .inl rfl
      · exact .inr (List.mem_cons_of_mem _ later)
    · rcases List.mem_cons.1 h with rfl | later
      · exact .inr List.mem_cons_self
      · exact (ih later).imp_right (List.mem_cons_of_mem _)

theorem Tidy.define {s : Scope} (tidy : s.Tidy) (n : Name) (v : Value) : (s.define n v).Tidy := by
  obtain ⟨vars⟩ := s
  change ((setVar n v vars).map Prod.fst).Nodup
  have distinct : (vars.map Prod.fst).Nodup := tidy
  clear tidy
  induction vars with
  | nil => exact List.nodup_singleton n
  | cons p vars ih =>
    obtain ⟨k, w⟩ := p
    obtain ⟨apart, rest⟩ := List.nodup_cons.1 distinct
    rw [setVar]
    split
    · next same =>
      obtain rfl := eq_of_beq same
      exact List.nodup_cons.2 ⟨apart, rest⟩
    · next other =>
      refine List.nodup_cons.2 ⟨fun again => ?_, ih rest⟩
      rcases mem_setVar again with same | again
      · exact other (beq_iff_eq.2 same.symm)
      · exact apart again

end Scope

namespace Environment

/-- The environment after a step. -/
def step (env : Environment) : ScopeStep → Environment
  | .push => env.push
  | .pop => env.pop
  | .define n v => env.define n v
  | .declare n => env.declare n
  | .assign n v => (env.assign n v).2
  | .commit n v => env.commit n v

/-- The environment after steps in their order. -/
def run (env : Environment) (steps : List ScopeStep) : Environment := steps.foldl step env

/-- The nearest scope that has a name is scope number `i`. -/
def Nearest (env : Environment) (n : Name) (i : Nat) : Prop :=
  (env.slot? i n).isSome ∧ ∀ j < i, env.slot? j n = none

def Absent (env : Environment) (n : Name) : Prop := ∀ i, env.slot? i n = none

/-- One entry is set, and no other one is changed. -/
structure SetsOne (env : Environment) (i : Nat) (n : Name) (v : Value) (env' : Environment) :
    Prop where
  depth : env'.depth = env.depth
  slot : ∀ j m, env'.slot? j m = if j = i ∧ m = n then some v else env.slot? j m

variable (env : Environment) {n : Name} {i : Nat}

/-- A name is at home in the nearest scope that has it, or nowhere. -/
theorem nearest_home (n : Name) : env.Nearest n (env.home n) ∨ env.home n = 0 ∧ env.Absent n := by
  obtain ⟨nearer, here | absent⟩ := env.home_spec n
  · exact .inl ⟨here, nearer⟩
  · exact .inr absent

/-- A name is visible with the value that it has in the nearest scope that has it. -/
theorem lookup?_eq_some_iff (n : Name) (v : Value) :
    env.lookup? n = some v ↔ ∃ i, env.slot? i n = some v ∧ ∀ j < i, env.slot? j n = none := by
  rw [lookup?_eq_slot?]
  constructor
  · intro found
    exact ⟨env.home n, found, (env.home_spec n).1⟩
  · rintro ⟨i, here, nearer⟩
    have home : env.home n = i := home_eq_of_slot (by rw [here]; rfl) nearer
    rw [home, here]

theorem absent_iff (n : Name) : env.Absent n ↔ env.isDefined n = false := by
  rw [isDefined, lookup?_eq_slot?]
  rcases env.nearest_home n with ⟨here, -⟩ | ⟨-, absent⟩
  · rw [here]
    refine ⟨fun absent => ?_, fun undefined => by cases undefined⟩
    rw [absent] at here
    cases here
  · rw [absent]
    exact ⟨fun _ => rfl, fun _ => absent⟩

theorem slot?_push_zero (n : Name) : env.push.slot? 0 n = none := rfl

theorem slot?_push_succ (i : Nat) (n : Name) : env.push.slot? (i + 1) n = env.slot? i n := rfl

theorem slot?_pop (inner : 1 < env.depth) (i : Nat) (n : Name) :
    env.pop.slot? i n = env.slot? (i + 1) n := by
  obtain ⟨current, _ | ⟨s, outer⟩⟩ := env
  · exact absurd inner (Nat.lt_irrefl 1)
  · rfl

/-- The outermost scope is not left. -/
theorem pop_of_depth (outermost : env.depth = 1) : env.pop = env := by
  obtain ⟨current, _ | ⟨s, outer⟩⟩ := env
  · rfl
  · simp [depth] at outermost

theorem define_sets (n : Name) (v : Value) : env.SetsOne 0 n v (env.define n v) := by
  refine ⟨rfl, fun j m => ?_⟩
  cases j with
  | zero =>
    change (env.current.define n v).get? m = _
    rw [Scope.get?_define]
    simp only [true_and]
    rfl
  | succ j =>
    rw [if_neg (fun same => Nat.succ_ne_zero j same.1)]
    rfl

/-- A declaration changes nothing where the name is visible. -/
theorem declare_cases (n : Name) :
    env.isDefined n = true ∧ env.declare n = env ∨
      env.isDefined n = false ∧ env.SetsOne 0 n .nil (env.declare n) := by
  rw [declare]
  cases visible : env.isDefined n with
  | true => exact .inl ⟨rfl, rfl⟩
  | false => exact .inr ⟨rfl, env.define_sets n .nil⟩

theorem commit_sets (n : Name) (v : Value) : env.SetsOne (env.home n) n v (env.commit n v) := by
  refine ⟨(env.keptIn_commit n v).depth_eq, fun j m => ?_⟩
  rw [slot?_commit]
  exact if_congr and_comm rfl rfl

theorem assign?_eq_commit (n : Name) (v : Value) :
    env.assign? n v = if env.isDefined n then some (env.commit n v) else none := by
  cases assigned : env.assign? n v with
  | none =>
    rw [if_neg]
    intro visible
    obtain ⟨s, inside, has⟩ := (env.isDefined_iff n).1 visible
    have found : (env.scopes.findIdx? (·.has n)).isSome := by
      rw [List.findIdx?_isSome, List.any_eq_true]
      exact ⟨s, inside, has⟩
    obtain ⟨current, outer⟩ := env
    rw [assign?] at assigned
    split at assigned
    · cases assigned
    · next absent =>
      rw [assignIn?_eq_modify, Option.map_map, Option.map_eq_none_iff] at assigned
      simp [scopes, List.findIdx?_cons, absent, assigned] at found
  | some env' =>
    have same : env.commit n v = env' := by rw [commit, assigned]; rfl
    rw [same, if_pos]
    rw [assign?] at assigned
    split at assigned
    · next has => exact (env.isDefined_iff n).2 ⟨_, List.mem_cons_self, has⟩
    · rw [assignIn?_eq_modify, Option.map_map, Option.map_eq_some_iff] at assigned
      obtain ⟨i, found, -⟩ := assigned
      obtain ⟨inside, has, -⟩ := List.findIdx?_eq_some_iff_getElem.1 found
      exact (env.isDefined_iff n).2 ⟨_, List.mem_cons_of_mem _ (List.getElem_mem inside), has⟩

/-- An assignment commits if the name is visible, and hands the value back otherwise. -/
theorem assign_eq (n : Name) (v : Value) :
    env.assign n v = if env.isDefined n then (none, env.commit n v) else (some v, env) := by
  rw [assign, assign?_eq_commit]
  cases env.isDefined n <;> rfl

/-- What an assignment does: it sets the entry of the nearest scope that has the name, or nothing. -/
theorem assign_cases (n : Name) (v : Value) :
    (∃ i, env.Nearest n i ∧ (env.assign n v).1 = none ∧ env.SetsOne i n v (env.assign n v).2) ∨
      env.Absent n ∧ env.assign n v = (some v, env) := by
  rw [assign_eq]
  cases visible : env.isDefined n with
  | true =>
    rcases env.nearest_home n with here | ⟨-, absent⟩
    · exact .inl ⟨env.home n, here, rfl, env.commit_sets n v⟩
    · rw [(env.absent_iff n).1 absent] at visible
      cases visible
  | false => exact .inr ⟨(env.absent_iff n).2 visible, rfl⟩

/-- What a commit does: it sets an entry in any case. -/
theorem commit_nearest (n : Name) (v : Value) :
    (∃ i, env.Nearest n i ∧ env.SetsOne i n v (env.commit n v)) ∨
      env.Absent n ∧ env.SetsOne 0 n v (env.commit n v) := by
  have set := env.commit_sets n v
  rcases env.nearest_home n with here | ⟨zero, absent⟩
  · exact .inl ⟨env.home n, here, set⟩
  · rw [zero] at set
    exact .inr ⟨absent, set⟩

theorem lookup?_commit_self (n : Name) (v : Value) : (env.commit n v).lookup? n = some v := by
  rw [lookup?_eq_slot?, home_commit, (env.commit_sets n v).slot, if_pos ⟨rfl, rfl⟩]

/-- No scope has a name twice. -/
def Tidy (env : Environment) : Prop := ∀ s ∈ env.scopes, s.Tidy

variable {env}

theorem Tidy.commit (tidy : env.Tidy) (n : Name) (v : Value) : (env.commit n v).Tidy := by
  intro s inside
  rw [scopes_commit] at inside
  obtain ⟨i, here⟩ := List.mem_iff_getElem?.1 inside
  rw [List.getElem?_modify, Option.map_eq_map, Option.map_eq_some_iff] at here
  obtain ⟨s', there, rfl⟩ := here
  have kept := tidy s' (List.mem_of_getElem? there)
  split
  · exact kept.define n v
  · exact kept

theorem Tidy.define (tidy : env.Tidy) (n : Name) (v : Value) : (env.define n v).Tidy := by
  obtain ⟨current, outer⟩ := List.forall_mem_cons.1 tidy
  exact List.forall_mem_cons.2 ⟨current.define n v, outer⟩

theorem Tidy.step (tidy : env.Tidy) (s : ScopeStep) : (env.step s).Tidy := by
  cases s with
  | push => exact List.forall_mem_cons.2 ⟨List.nodup_nil, tidy⟩
  | pop =>
    obtain ⟨current, _ | ⟨s, outer⟩⟩ := env
    · exact tidy
    · exact fun s inside => tidy s (List.mem_cons_of_mem _ inside)
  | define n v => exact tidy.define n v
  | declare n =>
    rw [Environment.step, declare]
    split
    · exact tidy
    · exact tidy.define n .nil
  | assign n v =>
    rw [Environment.step, assign_eq]
    split
    · exact tidy.commit n v
    · exact tidy
  | commit n v => exact tidy.commit n v

theorem tidy_empty : Environment.empty.Tidy :=
  List.forall_mem_singleton.2 List.nodup_nil

theorem Tidy.run (tidy : env.Tidy) (steps : List ScopeStep) : (env.run steps).Tidy := by
  induction steps generalizing env with
  | nil => exact tidy
  | cons s steps ih => exact ih (tidy.step s)

theorem mem_iff_lookup {vars : List (Name × Value)} (distinct : (vars.map Prod.fst).Nodup) (n : Name)
    (v : Value) : (n, v) ∈ vars ↔ vars.lookup n = some v := by
  induction vars with
  | nil => simp
  | cons p vars ih =>
    obtain ⟨m, w⟩ := p
    obtain ⟨apart, rest⟩ := List.nodup_cons.1 distinct
    rw [List.mem_cons, List.lookup_cons]
    by_cases same : n = m
    · subst same
      have later : (n, v) ∉ vars := fun inside => apart (List.mem_map.2 ⟨_, inside, rfl⟩)
      simp [later, eq_comm]
    · simp [beq_eq_false_iff_ne.2 same, same, ih rest]

theorem lookup_addVisible (captured : List (Name × Value)) (s : Scope) (n : Name) :
    (addVisible captured s).lookup n = (captured.lookup n).or (s.get? n) := by
  have unseen (vars : List (Name × Value)) (absent : captured.lookup n = none) :
      (vars.filter fun p => (captured.lookup p.1).isNone).lookup n = vars.lookup n := by
    induction vars with
    | nil => rfl
    | cons p vars ih =>
      obtain ⟨m, w⟩ := p
      rw [List.filter_cons, List.lookup_cons, ← ih]
      by_cases same : n = m
      · subst same
        simp [absent]
      · split
        · rw [List.lookup_cons]
        · simp [beq_eq_false_iff_ne.2 same]
  rw [addVisible, List.lookup_append]
  cases seen : captured.lookup n with
  | some v => rfl
  | none => rw [unseen s.vars seen]; rfl

theorem addVisible_distinct {captured : List (Name × Value)} {s : Scope}
    (distinct : (captured.map Prod.fst).Nodup) (tidy : s.Tidy) :
    ((addVisible captured s).map Prod.fst).Nodup := by
  rw [addVisible, List.map_append, List.nodup_append]
  refine ⟨distinct, tidy.sublist (List.filter_sublist.map _), ?_⟩
  rintro n seen m new rfl
  obtain ⟨p, hp, rfl⟩ := List.mem_map.1 new
  obtain ⟨q, hq, same⟩ := List.mem_map.1 seen
  have unseen := List.lookup_eq_none_iff.1 (Option.isNone_iff_eq_none.1 (List.mem_filter.1 hp).2)
  simpa [same] using unseen q hq

/-- The variables captured are the visible ones, each once. -/
theorem Tidy.capture (tidy : env.Tidy) :
    (env.capture.map Prod.fst).Nodup ∧ ∀ n, env.capture.lookup n = env.lookup? n := by
  have all : ∀ (ss : List Scope) (captured : List (Name × Value)), (∀ s ∈ ss, s.Tidy) →
      (captured.map Prod.fst).Nodup →
      ((ss.foldl addVisible captured).map Prod.fst).Nodup ∧
        ∀ n, (ss.foldl addVisible captured).lookup n =
          (captured.lookup n).or (ss.findSome? (·.get? n)) := by
    intro ss
    induction ss with
    | nil => exact fun captured _ distinct => ⟨distinct, fun n => (Option.or_none).symm⟩
    | cons s ss ih =>
      intro captured tidy distinct
      obtain ⟨here, later⟩ := List.forall_mem_cons.1 tidy
      obtain ⟨distinct', visible⟩ := ih _ later (addVisible_distinct distinct here)
      refine ⟨distinct', fun n => (visible n).trans ?_⟩
      rw [lookup_addVisible, Option.or_assoc, List.findSome?_cons]
      cases s.get? n <;> rfl
  exact all env.scopes [] tidy List.nodup_nil

end Environment

end PatternDispatch
