import PatternDispatch.Proofs.ScopeSteps

/-! Runs of steps between entering a scope and leaving it again. From such a run the scopes around it
keep all their names and get no new ones, and a variable of theirs changes in one way only: it is
assigned or committed while none of the scopes entered since has its name. -/
namespace PatternDispatch

namespace ScopeStep

/-- How many more scopes are entered than left, after a step. A scope that was there before is not
to be left. -/
def level? : ScopeStep → Nat → Option Nat
  | .push, d => some (d + 1)
  | .pop, 0 => none
  | .pop, d + 1 => some d
  | .define _ _, d => some d
  | .declare _, d => some d
  | .assign _ _, d => some d
  | .commit _ _, d => some d

/-- How many more scopes are entered than left, after steps in their order. -/
def levelAfter? (steps : List ScopeStep) (d : Nat) : Option Nat :=
  steps.foldlM (fun d s => s.level? d) d

/-- Every scope that is entered is left again, and no other. -/
def Balanced (steps : List ScopeStep) : Prop := levelAfter? steps 0 = some 0

instance (steps : List ScopeStep) : Decidable (Balanced steps) := inferInstanceAs (Decidable (_ = _))

/-- Writes to a variable where it is visible. -/
def Writes (s : ScopeStep) (n : Name) (v : Value) : Prop := s = .assign n v ∨ s = .commit n v

theorem levelAfter?_cons (s : ScopeStep) (steps : List ScopeStep) (d : Nat) :
    levelAfter? (s :: steps) d = (s.level? d).bind (levelAfter? steps) := by
  rw [levelAfter?, List.foldlM_cons]
  rfl

end ScopeStep

namespace Environment

open ScopeStep

variable {env : Environment} {d d' : Nat} {n : Name} {v : Value} {i : Nat}

/-- A step writes to a variable from inside of `inner` scopes, none of which has the name. -/
structure WritesThrough (env : Environment) (inner : Nat) (s : ScopeStep) (n : Name) (v : Value) :
    Prop where
  writes : s.Writes n v
  unshadowed : ∀ j < inner, env.slot? j n = none

/-- Between two environments one entry stays as it was, or a step has written it through `inner`
scopes. -/
def KeptOrWritten (env : Environment) (inner : Nat) (s : ScopeStep) (n : Name)
    (before after : Option Value) : Prop :=
  after = before ∨ ∃ v, env.WritesThrough inner s n v ∧ before.isSome ∧ after = some v

/-- Setting an entry of the scopes entered since leaves those around them alone. -/
theorem SetsOne.kept {env' : Environment} {m : Name} {w : Value} {inner k : Nat}
    (set : env.SetsOne k m w env') (inside : k < inner) (i : Nat) (n : Name) :
    env'.slot? (inner + i) n = env.slot? (inner + i) n := by
  rw [set.slot, if_neg]
  rintro ⟨same, -⟩
  omega

/-- Writing to a name where it is nearest leaves the other scopes alone, and writes through those
inside of it. -/
theorem SetsOne.keptOrWritten {env' : Environment} {m : Name} {w : Value} {k : Nat} {s : ScopeStep}
    (set : env.SetsOne k m w env') (nearest : env.Nearest m k) (writes : s.Writes m w)
    (inner i : Nat) (n : Name) :
    env.KeptOrWritten inner s n (env.slot? (inner + i) n) (env'.slot? (inner + i) n) := by
  rw [set.slot]
  split
  · next here =>
    obtain ⟨rfl, rfl⟩ := here
    exact .inr ⟨w, ⟨writes, fun j less => nearest.2 j (by omega)⟩, nearest.1, rfl⟩
  · exact .inl rfl

/-- One step, seen from the scopes that were there before: `d + 1` scopes have been entered since,
and the step leaves none of the others. -/
theorem step_outer (s : ScopeStep) (level : s.level? d = some d') (inside : d + 1 < env.depth) :
    (env.step s).depth + d = env.depth + d' ∧
      ∀ i n, env.KeptOrWritten (d + 1) s n (env.slot? (d + 1 + i) n)
        ((env.step s).slot? (d' + 1 + i) n) := by
  cases s with
  | push =>
    obtain rfl : d + 1 = d' := Option.some.inj level
    refine ⟨by rw [step, depth_push]; omega, fun i n => .inl ?_⟩
    have place : d + 1 + 1 + i = d + 1 + i + 1 := by omega
    rw [place]
    rfl
  | pop =>
    cases d with
    | zero => cases level
    | succ d =>
      obtain rfl : d = d' := Option.some.inj level
      refine ⟨by rw [step, depth_pop]; omega, fun i n => .inl ?_⟩
      have place : d + 1 + 1 + i = d + 1 + i + 1 := by omega
      rw [place]
      exact env.slot?_pop (by omega) (d + 1 + i) n
  | define m w =>
    cases level
    exact ⟨rfl, fun i n => .inl ((env.define_sets m w).kept (Nat.succ_pos d) i n)⟩
  | declare m =>
    cases level
    rcases env.declare_cases m with ⟨-, same⟩ | ⟨-, set⟩
    · rw [step, same]
      exact ⟨rfl, fun i n => .inl rfl⟩
    · exact ⟨by rw [step, set.depth], fun i n => .inl (set.kept (Nat.succ_pos d) i n)⟩
  | assign m w =>
    cases level
    rcases env.assign_cases m w with ⟨k, nearest, -, set⟩ | ⟨-, same⟩
    · exact ⟨by rw [step, set.depth],
        fun i n => set.keptOrWritten nearest (.inl rfl) (d + 1) i n⟩
    · rw [step, same]
      exact ⟨rfl, fun i n => .inl rfl⟩
  | commit m w =>
    cases level
    rcases env.commit_nearest m w with ⟨k, nearest, set⟩ | ⟨-, set⟩
    · exact ⟨by rw [step, set.depth],
        fun i n => set.keptOrWritten nearest (.inr rfl) (d + 1) i n⟩
    · exact ⟨by rw [step, set.depth], fun i n => .inl (set.kept (Nat.succ_pos d) i n)⟩

/-- Somewhere in a run, a step writes to a variable through all scopes that have been entered since
there were `bottom` of them. -/
def WrittenThrough (env : Environment) (bottom : Nat) (steps : List ScopeStep) (n : Name)
    (v : Value) : Prop :=
  ∃ before s later, steps = before ++ s :: later ∧
    (env.run before).WritesThrough ((env.run before).depth - bottom) s n v

theorem WrittenThrough.later {bottom : Nat} {s : ScopeStep} {steps : List ScopeStep}
    (written : (env.step s).WrittenThrough bottom steps n v) :
    env.WrittenThrough bottom (s :: steps) n v := by
  obtain ⟨before, t, later, rfl, through⟩ := written
  exact ⟨s :: before, t, later, rfl, through⟩

/-- A run, seen from the scopes that were there before. -/
theorem run_outer (env : Environment) (steps : List ScopeStep)
    (level : levelAfter? steps d = some d') (inside : d + 1 < env.depth) :
    (env.run steps).depth + d = env.depth + d' ∧
      ∀ i n,
        ((env.run steps).slot? (d' + 1 + i) n).isSome = (env.slot? (d + 1 + i) n).isSome ∧
        ((env.run steps).slot? (d' + 1 + i) n = env.slot? (d + 1 + i) n ∨
          ∃ v, env.WrittenThrough (env.depth - (d + 1)) steps n v ∧
            (env.run steps).slot? (d' + 1 + i) n = some v) := by
  induction steps generalizing env d with
  | nil =>
    cases level
    exact ⟨rfl, fun i n => ⟨rfl, .inl rfl⟩⟩
  | cons s steps ih =>
    rw [levelAfter?_cons, Option.bind_eq_some_iff] at level
    obtain ⟨d₁, first, rest⟩ := level
    obtain ⟨depth₁, entry₁⟩ := step_outer s first inside
    obtain ⟨depth, entry⟩ := ih (env.step s) rest (by omega)
    have bottom : (env.step s).depth - (d₁ + 1) = env.depth - (d + 1) := by omega
    rw [bottom] at entry
    refine ⟨by change (env.run (s :: steps)).depth + d₁ = _ at depth; omega, fun i n => ?_⟩
    obtain ⟨names, value⟩ := entry i n
    rcases entry₁ i n with kept | ⟨v, through, some, written⟩
    · rw [kept] at names value
      exact ⟨names, value.imp_right fun ⟨v, written, now⟩ => ⟨v, written.later, now⟩⟩
    · refine ⟨names.trans (by rw [written, some]; rfl), .inr ?_⟩
      rcases value with kept | ⟨w, written, now⟩
      · have entered : env.depth - (env.depth - (d + 1)) = d + 1 := by omega
        exact ⟨v, ⟨[], s, steps, rfl, by rw [← entered] at through; exact through⟩,
          kept.trans written⟩
      · exact ⟨w, written.later, now⟩

/-- A scope is entered, a balanced run is made, and the scope is left again. -/
theorem balanced_outer {steps : List ScopeStep} (balanced : Balanced steps) (env : Environment) :
    let after := (env.push.run steps).pop
    after.depth = env.depth ∧
      ∀ i n,
        (after.slot? i n).isSome = (env.slot? i n).isSome ∧
        (after.slot? i n = env.slot? i n ∨
          ∃ v, env.push.WrittenThrough env.depth steps n v ∧ after.slot? i n = some v) := by
  have inside : 0 + 1 < env.push.depth := Nat.succ_lt_succ env.depth_pos
  obtain ⟨depth, entry⟩ := run_outer env.push steps balanced inside
  rw [depth_push] at depth
  have around : 1 < (env.push.run steps).depth := by
    have := env.depth_pos
    omega
  refine ⟨by rw [depth_pop]; omega, fun i n => ?_⟩
  have place : 0 + 1 + i = i + 1 := by omega
  have here := entry i n
  rw [place, slot?_push_succ] at here
  rw [slot?_pop _ around]
  exact here

/-- Names that are visible after the scope is left were visible before it was entered. -/
theorem isDefined_of_slots {env env' : Environment}
    (same : ∀ i n, (env'.slot? i n).isSome = (env.slot? i n).isSome) (n : Name) :
    env'.isDefined n = env.isDefined n := by
  have absent : env'.Absent n ↔ env.Absent n := by
    refine forall_congr' fun i => ?_
    rw [← Option.isNone_iff_eq_none, ← Option.isNone_iff_eq_none, ← Option.not_isSome,
      ← Option.not_isSome, same]
  rw [absent_iff, absent_iff] at absent
  exact Bool.eq_iff_iff.2 (by rw [← Bool.not_eq_false, absent, Bool.not_eq_false])

/-- The scopes as a stack of maps, with the entry that each operation sets. -/
structure StackOfMaps (env : Environment) : Prop where
  /-- A name is read in the nearest scope that has it. -/
  lookup (n : Name) (v : Value) : env.lookup? n = some v ↔
    ∃ i, env.slot? i n = some v ∧ ∀ j < i, env.slot? j n = none
  distinct : (env.capture.map Prod.fst).Nodup
  captured (n : Name) (v : Value) : (n, v) ∈ env.capture ↔ env.lookup? n = some v
  nonempty : 1 ≤ env.depth
  /-- The outermost scope is never left. -/
  last (one : env.depth = 1) : env.pop = env
  left (inner : 1 < env.depth) (i : Nat) (n : Name) : env.pop.slot? i n = env.slot? (i + 1) n
  entered (n : Name) : env.push.slot? 0 n = none
  around (i : Nat) (n : Name) : env.push.slot? (i + 1) n = env.slot? i n
  defined (n : Name) (v : Value) : env.SetsOne 0 n v (env.define n v)
  declared (n : Name) : env.isDefined n = true ∧ env.declare n = env ∨
    env.isDefined n = false ∧ env.SetsOne 0 n .nil (env.declare n)
  assigned (n : Name) (v : Value) :
    (∃ i, env.Nearest n i ∧ (env.assign n v).1 = none ∧ env.SetsOne i n v (env.assign n v).2) ∨
      env.Absent n ∧ env.assign n v = (some v, env)
  committed (n : Name) (v : Value) :
    (∃ i, env.Nearest n i ∧ env.SetsOne i n v (env.commit n v)) ∨
      env.Absent n ∧ env.SetsOne 0 n v (env.commit n v)
  visible (n : Name) (v : Value) : (env.commit n v).lookup? n = some v

theorem Tidy.stackOfMaps (tidy : env.Tidy) : env.StackOfMaps := by
  obtain ⟨distinct, captured⟩ := tidy.capture
  exact {
    lookup := env.lookup?_eq_some_iff
    distinct
    captured := fun n v => by rw [mem_iff_lookup distinct, captured]
    nonempty := env.depth_pos
    last := env.pop_of_depth
    left := env.slot?_pop
    entered := env.slot?_push_zero
    around := env.slot?_push_succ
    defined := env.define_sets
    declared := env.declare_cases
    assigned := env.assign_cases
    committed := env.commit_nearest
    visible := env.lookup?_commit_self }

/-- What steps inside of a scope leave behind when it is left again. -/
structure ChangedThrough (env : Environment) (between : List ScopeStep) (after : Environment) :
    Prop where
  depth : after.depth = env.depth
  /-- Names that are new inside are gone. -/
  visible (n : Name) : after.isDefined n = env.isDefined n
  names (i : Nat) (n : Name) : (after.slot? i n).isSome = (env.slot? i n).isSome
  values (i : Nat) (n : Name) : after.slot? i n = env.slot? i n ∨
    ∃ v, env.push.WrittenThrough env.depth between n v ∧ after.slot? i n = some v

/-- After any steps from the empty environment, the scopes are a stack of maps. A name is read in the
nearest scope that has it, alone or with all others that are visible. Each step that is no entering
or leaving sets one entry at most, and which one is the matter of the step. Between entering a scope
and leaving it, outer variables change only by writing through the scopes entered since, and names
that are new inside are gone afterwards. -/
theorem scopes_are_stack_of_maps (steps : List ScopeStep) :
    let env := Environment.empty.run steps
    env.StackOfMaps ∧
      ∀ between, Balanced between → env.ChangedThrough between (env.push.run between).pop := by
  intro env
  have tidy : env.Tidy := tidy_empty.run steps
  refine ⟨tidy.stackOfMaps, fun between balanced => ?_⟩
  obtain ⟨depth, entry⟩ := balanced_outer balanced env
  exact ⟨depth, isDefined_of_slots fun i n => (entry i n).1, fun i n => (entry i n).1,
    fun i n => (entry i n).2⟩

end Environment

/-- A variable is written through one scope, and hidden from a write by another. -/
theorem scopes_are_stack_of_maps_sample :
    let x : Name := ⟨1⟩
    let y : Name := ⟨2⟩
    let env := Environment.empty.run [.define x (.int 1)]
    let between : List ScopeStep := [.define y (.int 7), .commit x (.int 2), .push,
      .define x (.int 9), .assign x (.int 3), .pop, .commit y (.int 8)]
    let after := (env.push.run between).pop
    ScopeStep.Balanced between ∧ after.isDefined y = false ∧ after.slot? 0 x = some (.int 2) ∧
      ∃ v, env.push.WrittenThrough env.depth between x v ∧ after.slot? 0 x = some v := by
  intro x y env between after
  have balanced : ScopeStep.Balanced between := by decide
  obtain ⟨-, runs⟩ := Environment.scopes_are_stack_of_maps [.define x (.int 1)]
  have changed := runs between balanced
  have now : after.slot? 0 x = some (.int 2) := rfl
  refine ⟨balanced, changed.visible y, now, (changed.values 0 x).resolve_left fun same => ?_⟩
  have one : env.slot? 0 x = some (.int 1) := rfl
  have equal : (2 : Int64) = 1 := by
    simpa only [Option.some.injEq, Value.int.injEq] using now.symm.trans (same.trans one)
  exact absurd equal (by decide)

end PatternDispatch
