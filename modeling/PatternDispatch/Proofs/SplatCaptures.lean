import PatternDispatch.Proofs.SharedBindings

/-! What list patterns do with the items of a sequence. Patterns that stand side by side each match
the item at their own place; a splat is bound to a new array. Where a rest stands between leading
and trailing patterns, it gets the items between theirs, after what the leading patterns bind and
before what the trailing ones do. -/
namespace PatternDispatch

open Dialogue

namespace Engine

variable {σ : Type} (e : Engine σ)

/-- What a splat binds where the host is in a given state: a new array, if it has a name. -/
def captured (splat : Splat) (items : List Value) (world : σ) : Bound :=
  match splat with
  | .anonymous => []
  | .named t => [(t, .array (e.host.fresh world).1 items)]

/-- The state after a splat. -/
def afterSplat (splat : Splat) (items : List Value) (s : MatchState σ) : MatchState σ :=
  match splat with
  | .anonymous => s
  | .named t =>
    let (id, world) := e.host.fresh s.session.world
    ⟨s.session.withWorld world, s.bindings.push t (.array id items), s.cache⟩

/-- Patterns have matched the items from a place on, one after the other, each the item at its own
place. -/
def MatchesFrom (ps : List Pattern) (items : List Value) (place : Nat) (s s' : MatchState σ) :
    Prop :=
  ∃ states : Nat → MatchState σ, states 0 = s ∧ states ps.length = s' ∧
    ∀ i (hi : i < ps.length), ∃ v, items[place + i]? = some v ∧
      e.matchNode ps[i] v (states i) = (.ok true, states (i + 1))

/-- A rest form has matched: the patterns at both ends have, and the rest has got all items between
them. -/
structure RestTaken (leading : List Pattern) (rest : Splat) (trailing : List Pattern)
    (items : List Value) (s s' : MatchState σ) : Prop where
  enough : leading.length + trailing.length ≤ items.length
  taken : ∃ middle front own own',
    items = items.take leading.length ++ middle ++ items.drop (items.length - trailing.length) ∧
    e.MatchesFrom leading items 0 s front ∧
    e.MatchesFrom trailing items (items.length - trailing.length)
      (e.afterSplat rest middle front) s' ∧
    front.bindings.toList = s.bindings.toList ++ own ∧
    s'.bindings.toList =
      s.bindings.toList ++ own ++ e.captured rest middle front.session.world ++ own'

variable {e} {v : Value} {items : List Value} {s s₁ s' : MatchState σ}

theorem bindSplat_apply (splat : Splat) (items : List Value) (s : MatchState σ) :
    e.bindSplat splat items s = (.ok (), e.afterSplat splat items s) := by
  cases splat <;> rfl

theorem toList_afterSplat (splat : Splat) (items : List Value) (s : MatchState σ) :
    (e.afterSplat splat items s).bindings.toList =
      s.bindings.toList ++ e.captured splat items s.session.world := by
  cases splat with
  | anonymous => exact (List.append_nil _).symm
  | named t => exact Bindings.toList_push _ _ _

theorem matchEach_grown {ps : List Pattern} {vs : List Value} {matched : Bool}
    (h : e.matchEach ps vs s = (.ok matched, s')) : s.bindings.toList <+: s'.bindings.toList := by
  have refines : Refines e.cached (e.matchEach ps vs) _ :=
    e.matchEach_refines (fun p _ => e.matchNode_refines p) vs
  have agrees := refines s
  rw [h] at agrees
  exact agrees.grown

/-- Items beyond the patterns are not looked at. -/
theorem matchEach_take (ps : List Pattern) (vs : List Value) :
    e.matchEach ps (vs.take ps.length) = e.matchEach ps vs := by
  induction ps generalizing vs with
  | nil => simp [matchEach]
  | cons p ps ih =>
    cases vs with
    | nil => rfl
    | cons v vs => simp only [List.length_cons, List.take_succ_cons, matchEach, ih]

theorem matchesFrom_nil {place : Nat} : e.MatchesFrom [] items place s s' ↔ s = s' := by
  constructor
  · rintro ⟨states, rfl, rfl, -⟩
    rfl
  · rintro rfl
    exact ⟨fun _ => s, rfl, rfl, fun i hi => absurd hi (Nat.not_lt_zero i)⟩

theorem matchesFrom_cons {p : Pattern} {ps : List Pattern} {place : Nat} :
    e.MatchesFrom (p :: ps) items place s s' ↔
      ∃ v t, items[place]? = some v ∧ e.matchNode p v s = (.ok true, t) ∧
        e.MatchesFrom ps items (place + 1) t s' := by
  constructor
  · rintro ⟨states, rfl, rfl, each⟩
    obtain ⟨v, here, matched⟩ := each 0 (Nat.succ_pos _)
    refine ⟨v, states 1, here, matched, fun i => states (i + 1), rfl, rfl, fun i hi => ?_⟩
    obtain ⟨u, there, later⟩ := each (i + 1) (Nat.succ_lt_succ hi)
    exact ⟨u, by rw [← there]; congr 1; omega, later⟩
  · rintro ⟨v, t, here, matched, states, rfl, rfl, each⟩
    refine ⟨fun i => Nat.casesOn i s states, rfl, rfl, fun i hi => ?_⟩
    cases i with
    | zero => exact ⟨v, here, matched⟩
    | succ i =>
      obtain ⟨u, there, later⟩ := each i (Nat.lt_of_succ_lt_succ hi)
      exact ⟨u, by rw [← there]; congr 1; omega, later⟩

/-- Side by side, patterns match if each matches the item at its place, after those before it. -/
theorem matchEach_eq_true {ps : List Pattern} {place : Nat}
    (long : place + ps.length ≤ items.length) :
    e.matchEach ps (items.drop place) s = (.ok true, s') ↔ e.MatchesFrom ps items place s s' := by
  induction ps generalizing place s with
  | nil =>
    rw [matchesFrom_nil]
    have done : e.matchEach [] (items.drop place) s = (.ok true, s) := by
      cases items.drop place <;> rfl
    rw [done]
    constructor
    · intro same
      cases same
      rfl
    · rintro rfl
      rfl
  | cons p ps ih =>
    rw [List.length_cons] at long
    have here : place < items.length := by omega
    rw [matchesFrom_cons, List.drop_eq_getElem_cons here, List.getElem?_eq_getElem here, matchEach]
    have later (t : MatchState σ) : e.matchEach ps (items.drop (place + 1)) t = (.ok true, s') ↔
        e.MatchesFrom ps items (place + 1) t s' := ih (by omega)
    rw [HostM.both_eq_true]
    constructor
    · rintro ⟨t, matched, rest⟩
      exact ⟨_, t, rfl, matched, (later t).1 rest⟩
    · rintro ⟨v, t, found, matched, rest⟩
      cases found
      exact ⟨t, matched, (later t).2 rest⟩

theorem sequence_bindings {answer : Except EvalError (Deconstructed (List Value))}
    (asked : e.sequence v s = (answer, s₁)) : s₁.bindings = s.bindings := by
  have read := e.sequence_reads v s
  rw [asked] at read
  exact congrArg (fun x => x.2.bindings) read

theorem itemsFor?_of_sequence (asked : e.sequence v s = (.ok (.supported items), s₁))
    (shape : ListPattern) :
    e.itemsFor? shape v s =
      (.ok (if items.length < shape.minLen then none else some items), s₁) :=
  HostM.bind_of_ok asked _

/-- A sequence that is too short does not match. -/
theorem matchNode_list_short {shape : ListPattern}
    (asked : e.sequence v s = (.ok (.supported items), s₁))
    (short : items.length < shape.minLen) :
    e.matchNode (.list shape) v s = (.ok false, s₁) := by
  have refused : e.itemsFor? shape v s = (.ok none, s₁) := by
    rw [itemsFor?_of_sequence asked, if_pos short]
  obtain ⟨leading, _ | ⟨before, elements, after⟩, _ | rest, trailing, openEnd⟩ := shape
  all_goals
    rw [matchNode, matchList]
    exact HostM.bind_of_ok refused _

theorem itemsFor?_of_enough {shape : ListPattern}
    (asked : e.sequence v s = (.ok (.supported items), s₁)) (enough : shape.minLen ≤ items.length) :
    e.itemsFor? shape v s = (.ok (some items), s₁) := by
  rw [itemsFor?_of_sequence asked, if_neg (Nat.not_lt.2 enough)]

/-- A rest form: the leading patterns, the rest, and the trailing patterns. -/
theorem matchNode_rest {leading : List Pattern} {rest : Splat} {trailing : List Pattern}
    {openEnd : Bool} (asked : e.sequence v s = (.ok (.supported items), s₁))
    (enough : leading.length + trailing.length ≤ items.length) :
    e.matchNode (.list ⟨leading, none, some rest, trailing, openEnd⟩) v s =
      (e.matchEach leading items >>= fun found =>
        if found = true then
          e.bindSplat rest ((items.take (items.length - trailing.length)).drop leading.length)
            >>= fun _ => e.matchEach trailing (items.drop (items.length - trailing.length))
        else pure false) s₁ := by
  let shape : ListPattern := ⟨leading, none, some rest, trailing, openEnd⟩
  have opened : e.itemsFor? shape v s = (.ok (some items), s₁) := itemsFor?_of_enough asked enough
  rw [matchNode, matchList]
  refine (HostM.bind_of_ok opened _).trans ?_
  simp only [matchEach_take]

/-- A rest form that has matched took the sequence apart. -/
theorem restTaken_of_matched {leading : List Pattern} {rest : Splat} {trailing : List Pattern}
    {openEnd : Bool} (asked : e.sequence v s = (.ok (.supported items), s₁))
    (matched : e.matchNode (.list ⟨leading, none, some rest, trailing, openEnd⟩) v s =
      (.ok true, s')) : e.RestTaken leading rest trailing items s₁ s' := by
  by_cases short : items.length < leading.length + trailing.length
  · let shape : ListPattern := ⟨leading, none, some rest, trailing, openEnd⟩
    have refused : e.matchNode (.list shape) v s = (.ok false, s₁) :=
      matchNode_list_short asked short
    cases refused.symm.trans matched
  have enough : leading.length + trailing.length ≤ items.length := by omega
  rw [matchNode_rest asked enough] at matched
  let last := items.length - trailing.length
  let middle := (items.take last).drop leading.length
  obtain ⟨front, entered, both⟩ := HostM.both_eq_true.1 matched
  have back : e.matchEach trailing (items.drop last) (e.afterSplat rest middle front) =
      (.ok true, s') := (HostM.bind_of_ok (bindSplat_apply rest middle front) _).symm.trans both
  obtain ⟨own, grown⟩ := matchEach_grown entered
  obtain ⟨own', grown'⟩ := matchEach_grown back
  have apart : items = items.take leading.length ++ middle ++ items.drop last := by
    have first : (items.take last).take leading.length = items.take leading.length := by
      rw [List.take_take]
      congr 1
      omega
    rw [← first, List.take_append_drop, List.take_append_drop]
  refine ⟨enough, middle, front, own, own', apart, ?_, ?_, grown.symm, ?_⟩
  · exact (matchEach_eq_true (by omega)).1 entered
  · exact (matchEach_eq_true (by omega)).1 back
  · rw [← grown', toList_afterSplat, ← grown]

end Engine

end PatternDispatch
