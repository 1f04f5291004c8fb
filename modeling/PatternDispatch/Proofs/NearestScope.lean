import PatternDispatch.Proofs.ScopeStack

/-! A stack of scopes, entry by entry. A name is read in the nearest scope that has it; a commit
writes there, or in the current scope if there is none, and leaves every other entry as it was.
Where a name is at home does not change by committing, so any number of commits can be read off at
once. -/
namespace PatternDispatch

namespace Environment

/-- The entry of a name in scope number `i`, counted from the inside out. -/
def slot? (env : Environment) (i : Nat) (n : Name) : Option Value :=
  env.scopes[i]?.bind (·.get? n)

/-- The number of the nearest scope that has a name, or that of the current one. -/
def home (env : Environment) (n : Name) : Nat := (env.scopes.findIdx? (·.has n)).getD 0

variable (env : Environment) {n : Name}

theorem slot?_eq_none {i : Nat} (h : ∀ s, env.scopes[i]? = some s → s.has n = false) :
    env.slot? i n = none := by
  rw [slot?, Option.bind_eq_none_iff]
  intro s here
  simpa [Scope.has] using h s here

/-- Nearer scopes do not have the name, and where it is at home it is there if it is anywhere. -/
theorem home_spec (n : Name) :
    (∀ i < env.home n, env.slot? i n = none) ∧
    ((env.slot? (env.home n) n).isSome ∨ env.home n = 0 ∧ ∀ i, env.slot? i n = none) := by
  rw [home]
  cases found : env.scopes.findIdx? (·.has n) with
  | none =>
    have absent := List.findIdx?_eq_none_iff.1 found
    refine ⟨fun i less => absurd less (Nat.not_lt_zero i), .inr ⟨rfl, fun i => ?_⟩⟩
    exact env.slot?_eq_none fun s here => absent s (List.mem_of_getElem? here)
  | some k =>
    obtain ⟨inside, has, before⟩ := List.findIdx?_eq_some_iff_getElem.1 found
    refine ⟨fun i less => env.slot?_eq_none fun s here => ?_, .inl ?_⟩
    · obtain ⟨_, rfl⟩ := List.getElem?_eq_some_iff.1 here
      simpa using before i less
    · simpa [slot?, List.getElem?_eq_getElem inside, Scope.has] using has

variable {env}

theorem home_eq_of_slot {i : Nat} (here : (env.slot? i n).isSome)
    (before : ∀ j < i, env.slot? j n = none) : env.home n = i := by
  obtain ⟨nearer, there | ⟨-, absent⟩⟩ := env.home_spec n
  · rcases Nat.lt_trichotomy (env.home n) i with less | same | more
    · simp [before _ less] at there
    · exact same
    · simp [nearer _ more] at here
  · simp [absent] at here

theorem home_eq_zero (absent : ∀ i, env.slot? i n = none) : env.home n = 0 := by
  obtain ⟨-, there | ⟨zero, -⟩⟩ := env.home_spec n
  · simp [absent] at there
  · exact zero

variable (env)

theorem home_lt_depth (n : Name) : env.home n < env.depth := by
  rw [home]
  cases found : env.scopes.findIdx? (·.has n) with
  | none => exact env.depth_pos
  | some i =>
    obtain ⟨inside, -⟩ := List.findIdx?_eq_some_iff_getElem.1 found
    exact inside

/-- A name is read where it is at home. -/
theorem lookup?_eq_slot? (n : Name) : env.lookup? n = env.slot? (env.home n) n := by
  have reads : ∀ ss : List Scope, ss.findSome? (·.get? n) =
      (ss.findIdx? (·.has n)).bind fun i => ss[i]?.bind (·.get? n) := by
    intro ss
    induction ss with
    | nil => rfl
    | cons s ss ih =>
      rw [List.findSome?_cons, List.findIdx?_cons]
      cases here : s.get? n with
      | some v => simp [Scope.has, here]
      | none =>
        have absent : s.has n = false := by simp [Scope.has, here]
        simp only [absent, Bool.false_eq_true, if_false, ih, Option.bind_map]
        rfl
  rw [lookup?, reads]
  cases found : env.scopes.findIdx? (·.has n) with
  | some i => simp [home, found, slot?]
  | none =>
    have absent := List.findIdx?_eq_none_iff.1 found
    exact (env.slot?_eq_none fun s here => absent s (List.mem_of_getElem? here)).symm

theorem assignIn?_eq_modify (n : Name) (v : Value) (ss : List Scope) :
    assignIn? n v ss = (ss.findIdx? (·.has n)).map fun i => ss.modify i (·.define n v) := by
  induction ss with
  | nil => rfl
  | cons s ss ih =>
    rw [assignIn?, List.findIdx?_cons, ih]
    cases s.has n with
    | true => rfl
    | false =>
      simp only [Bool.false_eq_true, if_false, Option.map_map]
      rfl

/-- A commit writes where the name is at home. -/
theorem scopes_commit (n : Name) (v : Value) :
    (env.commit n v).scopes = env.scopes.modify (env.home n) (·.define n v) := by
  obtain ⟨current, outer⟩ := env
  simp only [commit, assign?, home, scopes, List.findIdx?_cons, assignIn?_eq_modify]
  cases current.has n with
  | true => rfl
  | false => cases outer.findIdx? (·.has n) <;> rfl

theorem slot?_commit (n m : Name) (v : Value) (i : Nat) :
    (env.commit n v).slot? i m =
      if m = n ∧ i = env.home n then some v else env.slot? i m := by
  rw [slot?, scopes_commit, List.getElem?_modify]
  by_cases there : env.home n = i
  · have inside : i < env.scopes.length := there ▸ env.home_lt_depth n
    simp [there, slot?, List.getElem?_eq_getElem inside, Scope.get?_define]
  · simp [there, Ne.symm there, slot?]

theorem home_commit (n m : Name) (v : Value) : (env.commit n v).home m = env.home m := by
  obtain ⟨nearer, there | ⟨zero, absent⟩⟩ := env.home_spec m
  · apply home_eq_of_slot
    · rw [slot?_commit]
      split
      · rfl
      · exact there
    · intro j less
      rw [slot?_commit, if_neg, nearer j less]
      rintro ⟨rfl, rfl⟩
      exact Nat.lt_irrefl _ less
  · by_cases same : m = n
    · subst same
      rw [zero]
      apply home_eq_of_slot
      · simp [slot?_commit, zero]
      · exact fun j less => absurd less (Nat.not_lt_zero j)
    · rw [zero]
      apply home_eq_zero
      intro i
      rw [slot?_commit, if_neg (fun h => same h.1), absent i]

/-- Any number of commits, in their order. -/
def commitAll (vars : List (Name × Value)) (env : Environment) : Environment :=
  vars.foldl (fun env p => env.commit p.1 p.2) env

theorem keptIn_commitAll (vars : List (Name × Value)) : env.KeptIn (env.commitAll vars) := by
  induction vars generalizing env with
  | nil => exact .refl env
  | cons p vars ih => exact (env.keptIn_commit p.1 p.2).trans (ih (env.commit p.1 p.2))

theorem home_commitAll (vars : List (Name × Value)) (n : Name) :
    (env.commitAll vars).home n = env.home n := by
  induction vars generalizing env with
  | nil => rfl
  | cons p vars ih => exact (ih (env.commit p.1 p.2)).trans (env.home_commit p.1 n p.2)

theorem lookup_reverse_cons (m n : Name) (v : Value) (vars : List (Name × Value)) :
    ((m, v) :: vars).reverse.lookup n =
      (vars.reverse.lookup n).or (if n = m then some v else none) := by
  rw [List.reverse_cons, List.lookup_append, List.lookup_cons]
  by_cases same : n = m
  · simp only [same, beq_self_eq_true, if_true]
  · simp only [beq_eq_false_iff_ne.2 same, same, if_false, List.lookup_nil]

/-- After any number of commits, a name has the value committed last to it, where it is at home. -/
theorem slot?_commitAll (vars : List (Name × Value)) (i : Nat) (n : Name) :
    (env.commitAll vars).slot? i n =
      if i = env.home n then (vars.reverse.lookup n).or (env.slot? i n) else env.slot? i n := by
  induction vars generalizing env with
  | nil => simp [commitAll]
  | cons p vars ih =>
    have later := ih (env.commit p.1 p.2)
    rw [home_commit, slot?_commit] at later
    obtain ⟨m, v⟩ := p
    rw [lookup_reverse_cons]
    refine later.trans ?_
    by_cases here : i = env.home n
    · by_cases same : n = m
      · subst same
        simp [here]
      · simp [here, same]
    · simp only [here, if_false]
      rw [if_neg]
      rintro ⟨rfl, there⟩
      exact here there

end Environment

end PatternDispatch
