import PatternDispatch.Proofs.WindowSearch

/-! List forms that say the same. A form that is open at its end is a rest without a name and with
nothing after it. A window with nothing named around it stands for alternatives, one for each start:
as many wildcards as there are items before it, the elements, and a rest. The alternatives open the
value again and again, but it is asked once: from then on its answer is kept, and all that is
counted besides is hits. -/
namespace PatternDispatch

open Dialogue

namespace Cache

/-- With more hits counted. -/
def addHits (c : Cache) (m : Nat) : Cache := { c with hits := c.hits + m }

theorem countHit_addHits (c : Cache) (m : Nat) : (c.addHits m).countHit = c.countHit.addHits m := by
  simp only [addHits, countHit, Cache.mk.injEq, true_and]
  omega

theorem learnSequence_addHits (c : Cache) (m : Nat) (v : Value)
    (r : Except EvalError (Deconstructed (List Value))) :
    (c.addHits m).learnSequence v r = (c.learnSequence v r).addHits m := by
  unfold learnSequence
  split <;> rfl

theorem learnMapping_addHits (c : Cache) (m : Nat) (key : Option MappingKey)
    (r : Except EvalError (Deconstructed Mapping)) :
    (c.addHits m).learnMapping key r = (c.learnMapping key r).addHits m := by
  unfold learnMapping
  split <;> rfl

end Cache

namespace Standing

variable {σ : Type}

def addHits (t : Standing σ) (m : Nat) : Standing σ := ⟨t.session, t.cache.addHits m⟩

theorem addHits_addHits (t : Standing σ) (m n : Nat) :
    (t.addHits m).addHits n = t.addHits (m + n) := by
  simp only [addHits, Cache.addHits, Nat.add_assoc]

/-- One run ends as another one does, with more hits counted. -/
def WithHits {α : Type} (x y : Except EvalError α × Standing σ) : Prop :=
  ∃ n, x = (y.1, y.2.addHits n)

end Standing

namespace Dialogue

/-- What every question keeps, a dialogue keeps. -/
theorem run_preserves {α τ : Type} {h : Answerer τ} {I : τ → Prop}
    (step : ∀ q t, I t → I (h q t).2) (d : Dialogue α) {t : τ} (start : I t) :
    I (run h d t).2 := by
  induction d generalizing t with
  | done a => exact start
  | fail error => exact start
  | ask q next ih =>
    have kept := step q t start
    rcases answered : h q t with ⟨error | a, t'⟩
    · rw [answered] at kept
      rw [run_ask_error answered]
      exact kept
    · rw [answered] at kept
      rw [run_ask_ok answered]
      exact ih a kept

end Dialogue

namespace Engine

variable {σ : Type} (e : Engine σ)

/-- Hits are counted, and nothing else is done with them. -/
theorem cached_addHits (m : Nat) (q : Question) (t : Standing σ) :
    e.cached q (t.addHits m) = ((e.cached q t).1, (e.cached q t).2.addHits m) := by
  rcases q.opens_cases with ⟨v, rfl⟩ | ⟨p, v, rfl⟩ | plain
  · cases kept : t.cache.sequence? v with
    | some a =>
      have kept' : (t.addHits m).cache.sequence? v = some a := kept
      rw [e.cached_sequence_kept kept, e.cached_sequence_kept kept']
      simp only [Standing.addHits, Cache.countHit_addHits]
    | none =>
      have missing : (t.addHits m).cache.sequence? v = none := kept
      rw [e.cached_sequence_asked kept, e.cached_sequence_asked missing]
      simp only [Standing.addHits, Cache.learnSequence_addHits]
      rfl
  · cases kept : t.cache.mapping? (e.mappingKey? v p.requestedKeys) with
    | some a =>
      have kept' : (t.addHits m).cache.mapping? (e.mappingKey? v p.requestedKeys) = some a := kept
      rw [e.cached_mapping_kept kept, e.cached_mapping_kept kept']
      simp only [Standing.addHits, Cache.countHit_addHits]
    | none =>
      have missing : (t.addHits m).cache.mapping? (e.mappingKey? v p.requestedKeys) = none := kept
      rw [e.cached_mapping_asked kept, e.cached_mapping_asked missing]
      simp only [Standing.addHits, Cache.learnMapping_addHits]
      rfl
  · rw [e.cached_of_plain plain]
    rfl

theorem run_addHits {α : Type} (m : Nat) (d : Dialogue α) (t : Standing σ) :
    run e.cached d (t.addHits m) = ((run e.cached d t).1, (run e.cached d t).2.addHits m) :=
  run_agrees (e.cached_addHits m) d t

variable {e} {v : Value} {items : List Value} {t t₁ : Standing σ}

/-- A sequence that is kept stays kept. -/
theorem cached_keeps_sequence {a : Deconstructed (List Value)} (q : Question)
    (kept : t.cache.sequence? v = some a) : (e.cached q t).2.cache.sequence? v = some a := by
  rcases q.opens_cases with ⟨u, rfl⟩ | ⟨p, u, rfl⟩ | plain
  · cases found : t.cache.sequence? u with
    | some b =>
      rw [e.cached_sequence_kept found]
      exact kept
    | none =>
      rw [e.cached_sequence_asked found]
      exact (Cache.sequence?_learnSequence _ found).2 (.inl kept)
  · cases found : t.cache.mapping? (e.mappingKey? u p.requestedKeys) with
    | some b =>
      rw [e.cached_mapping_kept found]
      exact kept
    | none =>
      rw [e.cached_mapping_asked found]
      exact (t.cache.sequence?_learnMapping _ _ v).trans kept
  · rw [e.cached_of_plain plain]
    exact kept

theorem run_keeps_sequence {α : Type} {a : Deconstructed (List Value)} {d : Dialogue α}
    {r : Except EvalError α} (kept : t.cache.sequence? v = some a)
    (ran : run e.cached d t = (r, t₁)) : t₁.cache.sequence? v = some a := by
  have left : (run e.cached d t).2.cache.sequence? v = some a :=
    run_preserves (I := fun t : Standing σ => t.cache.sequence? v = some a)
      (fun q _ kept => cached_keeps_sequence q kept) d kept
  rw [ran] at left
  exact left

/-- The answer of a value that can keep one is kept. -/
theorem sequence?_of_cached {a : Deconstructed (List Value)}
    (identified : v.identity?.isSome = true)
    (asked : e.cached (.sequence v) t = (.ok a, t₁)) : t₁.cache.sequence? v = some a := by
  obtain ⟨id, hid⟩ := Option.isSome_iff_exists.1 identified
  cases kept : t.cache.sequence? v with
  | some b =>
    cases (e.cached_sequence_kept kept).symm.trans asked
    exact kept
  | none =>
    have answered := (e.cached_sequence_asked kept).symm.trans asked
    have answer : (e.host.deconstruct v t.session.world).1 = .ok a := congrArg Prod.fst answered
    have left : t.cache.learnSequence v (e.host.deconstruct v t.session.world).1 = t₁.cache :=
      congrArg (fun x => x.2.cache) answered
    rw [← left]
    exact (Cache.sequence?_learnSequence _ kept).2 (.inr ⟨⟨id, hid, hid⟩, answer⟩)

end Engine

/-- The alternative of a window for one start. -/
def ListPattern.startingAt (elements : List Pattern) (k : Nat) : ListPattern :=
  .withRest (List.replicate k .wildcard ++ elements) .anonymous []

namespace Persistent

variable {names : Interner} {τ : Type} {h : Answerer τ} {v : Value} {items : List Value} {s t : τ}

/-- Wildcards step over their items. -/
theorem matchEach_wildcards (k : Nat) (ps : List Pattern) (vs : List Value) (bs : Bound)
    (long : k ≤ vs.length) :
    matchEach names (List.replicate k .wildcard ++ ps) vs bs =
      matchEach names ps (vs.drop k) bs := by
  induction k generalizing vs with
  | zero => rfl
  | succ k ih =>
    cases vs with
    | nil => exact absurd long (Nat.not_succ_le_zero k)
    | cons v vs => exact ih vs (Nat.le_of_succ_le_succ long)

theorem run_itemsFor? {shape : ListPattern}
    (answer : h (.sequence v) s = (.ok (.supported items), t))
    (enough : shape.minLen ≤ items.length) :
    run h (itemsFor? shape v) s = (.ok (some items), t) := by
  have opened : run h (itemsFor? shape v) s =
      (.ok (if items.length < shape.minLen then none else some items), t) := run_ask_ok answer
  rw [opened, if_neg (Nat.not_lt.2 enough)]

theorem run_window {before after : Splat} {elements : List Pattern} (bs : Bound)
    (answer : h (.sequence v) s = (.ok (.supported items), t))
    (enough : elements.length ≤ items.length) :
    run h (matchNode names (.list (.window before elements after)) v bs) s =
      run h (windows before after elements.length (fun window => matchEach names elements window)
        items bs (items.length + 1 - elements.length) 0) t := by
  have opened : run h (itemsFor? (.window before elements after) v) s = (.ok (some items), t) :=
    run_itemsFor? answer enough
  have starts : items.length + 1 - elements.length = items.length - elements.length + 1 := by omega
  rw [starts, matchNode]
  simp only [ListPattern.window, matchList, run_bind]
  exact HostM.bind_of_ok opened _

/-- An alternative is its start, once the sequence is there. -/
theorem run_startingAt {elements : List Pattern} {k : Nat} (bs : Bound)
    (answer : h (.sequence v) s = (.ok (.supported items), t))
    (inside : k + elements.length ≤ items.length) :
    run h (matchNode names (.list (.startingAt elements k)) v bs) s =
      run h (matchEach names elements ((items.drop k).take elements.length) bs) t := by
  let ps := List.replicate k Pattern.wildcard ++ elements
  have size : ps.length = k + elements.length := by simp [ps]
  have opened : run h (itemsFor? (.startingAt elements k) v) s = (.ok (some items), t) := by
    refine run_itemsFor? answer ?_
    change ps.length + 0 ≤ items.length
    omega
  have window : matchEach names ps (items.take ps.length) bs =
      matchEach names elements ((items.drop k).take elements.length) bs := by
    rw [matchEach_wildcards k elements _ bs (by rw [List.length_take]; omega), List.drop_take]
    congr 1
    congr 1
    omega
  rw [matchNode]
  simp only [ListPattern.startingAt, ListPattern.withRest, matchList]
  rw [run_bind]
  refine (HostM.bind_of_ok opened _).trans ?_
  refine congrArg (fun d => run h d t) ?_
  -- the rest has no name, and nothing comes after it
  refine (bind_congr fun found => ?_).trans ((bind_pure _).trans window)
  cases found <;> rfl

end Persistent

/-- The alternatives for all starts of a window, from left to right. -/
def ListPattern.startsOf (elements : List Pattern) (n : Nat) : List Pattern :=
  (List.range (n + 1 - elements.length)).map fun k => .list (.startingAt elements k)

namespace Engine

variable {σ : Type} {e : Engine σ} {v : Value} {items : List Value} {t t₁ : Standing σ}
  {elements : List Pattern} {bs : Bound}

/-- The windows that are left, with nothing named around them. -/
def askWindows (names : Interner) (elements : List Pattern) (items : List Value) (bs : Bound)
    (remaining start : Nat) : Dialogue (Option Bound) :=
  Persistent.windows .anonymous .anonymous elements.length
    (fun window => Persistent.matchEach names elements window) items bs remaining start

/-- The alternatives for the starts that are left. -/
def askStarts (names : Interner) (elements : List Pattern) (v : Value) (bs : Bound)
    (remaining start : Nat) : Dialogue (Option Bound) :=
  Persistent.matchAny names
    ((List.range' start remaining).map fun k => .list (.startingAt elements k)) v bs

theorem run_askWindows_succ (remaining start : Nat) (t : Standing σ) :
    run e.silent.cached (askWindows e.names elements items bs (remaining + 1) start) t =
      match run e.silent.cached
        (Persistent.matchEach e.names elements ((items.drop start).take elements.length) bs) t with
      | (.ok (some bs'), t') => (.ok (some bs'), t')
      | (.ok none, t') =>
        run e.silent.cached (askWindows e.names elements items bs remaining (start + 1)) t'
      | (.error error, t') => (.error error, t') := by
  rw [askWindows, Persistent.windows]
  simp only [Persistent.bindSplat, pure_bind]
  rw [run_bind, HostM.bind_apply]
  rcases run e.silent.cached (Persistent.matchEach e.names elements _ bs) t with ⟨_ | _ | _, t'⟩
  · rfl
  · rfl
  · rfl

theorem run_askStarts_succ (remaining start : Nat) (t : Standing σ) :
    run e.silent.cached (askStarts e.names elements v bs (remaining + 1) start) t =
      match run e.silent.cached
        (Persistent.matchNode e.names (.list (.startingAt elements start)) v bs) t with
      | (.ok (some bs'), t') => (.ok (some bs'), t')
      | (.ok none, t') =>
        run e.silent.cached (askStarts e.names elements v bs remaining (start + 1)) t'
      | (.error error, t') => (.error error, t') := by
  rw [askStarts, List.range'_succ, List.map_cons, Persistent.matchAny, run_bind, HostM.bind_apply]
  rcases run e.silent.cached (Persistent.matchNode e.names _ v bs) t with ⟨_ | _ | _, t'⟩
  · rfl
  · rfl
  · rfl

/-- One start, as an alternative and as a window. If they go on alike, they are alike from here. -/
theorem starts_step {remaining start : Nat}
    (first : Standing.WithHits
      (run e.silent.cached
        (Persistent.matchNode e.names (.list (.startingAt elements start)) v bs) t)
      (run e.silent.cached
        (Persistent.matchEach e.names elements ((items.drop start).take elements.length) bs) t₁))
    (later : ∀ t', t'.cache.sequence? v = some (.supported items) → Standing.WithHits
      (run e.silent.cached (askStarts e.names elements v bs remaining (start + 1)) t')
      (run e.silent.cached (askWindows e.names elements items bs remaining (start + 1)) t'))
    (kept : t₁.cache.sequence? v = some (.supported items)) : Standing.WithHits
      (run e.silent.cached (askStarts e.names elements v bs (remaining + 1) start) t)
      (run e.silent.cached (askWindows e.names elements items bs (remaining + 1) start) t₁) := by
  obtain ⟨m, first⟩ := first
  rw [run_askStarts_succ, run_askWindows_succ, first]
  rcases tried : run e.silent.cached (Persistent.matchEach e.names elements
    ((items.drop start).take elements.length) bs) t₁ with ⟨error | _ | bs', t'⟩
  · exact ⟨m, rfl⟩
  · obtain ⟨n, same⟩ := later t' (run_keeps_sequence kept tried)
    refine ⟨n + m, ?_⟩
    simp only [run_addHits, same, Standing.addHits_addHits]
  · exact ⟨m, rfl⟩

/-- While the sequence is kept, alternatives and windows are alike. -/
theorem starts_withHits (remaining : Nat) {start : Nat}
    (room : start + remaining + elements.length ≤ items.length + 1)
    (kept : t.cache.sequence? v = some (.supported items)) : Standing.WithHits
      (run e.silent.cached (askStarts e.names elements v bs remaining start) t)
      (run e.silent.cached (askWindows e.names elements items bs remaining start) t) := by
  induction remaining generalizing start t with
  | zero => exact ⟨0, rfl⟩
  | succ remaining ih =>
    -- asking again costs a hit
    have answer : e.silent.cached (.sequence v) t = (.ok (.supported items), t.addHits 1) :=
      e.silent.cached_sequence_kept kept
    refine starts_step ⟨1, ?_⟩ (fun t' kept' => ih (by omega) kept') kept
    rw [Persistent.run_startingAt bs answer (by omega), run_addHits]

/-- The first alternative asks for the sequence, as the window does before it starts. -/
theorem either_withHits (answer : e.silent.cached (.sequence v) t = (.ok (.supported items), t₁))
    (kept : t₁.cache.sequence? v = some (.supported items))
    (enough : elements.length ≤ items.length) : Standing.WithHits
      (run e.silent.cached (Persistent.matchNode e.names
        (.either (ListPattern.startsOf elements items.length)) v bs) t)
      (run e.silent.cached (Persistent.matchNode e.names
        (.list (.window .anonymous elements .anonymous)) v bs) t) := by
  have more : items.length + 1 - elements.length = items.length - elements.length + 1 := by omega
  have alternatives : Persistent.matchNode e.names
      (.either (ListPattern.startsOf elements items.length)) v bs =
      askStarts e.names elements v bs (items.length - elements.length + 1) 0 := by
    rw [Persistent.matchNode, ListPattern.startsOf, List.range_eq_range', more]
    rfl
  rw [alternatives, Persistent.run_window bs answer enough, more]
  refine starts_step ⟨0, ?_⟩ (fun t' kept' => starts_withHits _ (by omega) kept') kept
  exact Persistent.run_startingAt bs answer (by omega)

/-- Alternatives without success leave nothing bound. -/
theorem matchAny_of_false {ps : List Pattern} {s s' : MatchState σ}
    (missed : e.matchAny ps v s = (.ok false, s')) : s'.bindings = s.bindings := by
  induction ps generalizing s with
  | nil =>
    cases missed
    rfl
  | cons p ps ih =>
    rw [matchAny, HostM.bind_apply, (e.matchNode_refines p v).branch_apply] at missed
    rcases tried : e.matchNode p v s with ⟨error | _ | _, t⟩
    · rw [tried] at missed
      cases missed
    · rw [tried] at missed
      have later : e.matchAny ps v { t with bindings := s.bindings } = (.ok false, s') := missed
      rw [ih later]
    · rw [tried] at missed
      cases missed

/-- With an open end, or with a rest that has no name and nothing after it. -/
theorem openEnded_eq_withRest (e : Engine σ) (ps : List Pattern) (v : Value) :
    e.matchNode (.list (.openEnded ps)) v = e.matchNode (.list (.withRest ps .anonymous [])) v := by
  rw [matchNode, matchNode]
  simp only [ListPattern.openEnded, ListPattern.withRest, matchList]
  refine congrArg (e.itemsFor? _ v >>= ·) (funext fun items? => ?_)
  cases items? with
  | none => rfl
  | some items =>
    refine Eq.trans (bind_pure _).symm (congrArg (_ >>= ·) (funext fun found => ?_))
    cases found with
    | true => rfl
    | false => rfl

/-- Both match, or neither does, or both end in the same error. The variables and the host are left
alike, and so are the bindings, which an attempt that ended in an error does not have. Of the kept
answers, hits are counted apart. -/
structure SameButHits (x y : Except EvalError Bool × MatchState σ) : Prop where
  result : x.1 = y.1
  session : x.2.session = y.2.session
  bindings : ∀ matched, y.1 = .ok matched → x.2.bindings = y.2.bindings
  cache : ∃ n, x.2.cache = y.2.cache.addHits n

/-- Runs that are alike but for hits, each with the bindings on entry if nothing matched. -/
theorem sameButHits_of_agrees {entry : Bound} {x x' : Except EvalError Bool × MatchState σ}
    {y y' : Except EvalError (Option Bound) × Standing σ} (agrees : Agrees entry x y)
    (agrees' : Agrees entry x' y') (same : Standing.WithHits y y')
    (restored : x.1 = .ok false → x'.1 = .ok false → x.2.bindings = x'.2.bindings) :
    SameButHits x x' := by
  obtain ⟨n, rfl⟩ := same
  have result : x.1 = x'.1 := agrees.result_eq.trans agrees'.result_eq.symm
  obtain ⟨r, s⟩ := x
  obtain ⟨r', s'⟩ := x'
  obtain rfl : r = r' := result
  have left : s.standing = y'.2.addHits n := agrees.standing_eq
  have left' : s'.standing = y'.2 := agrees'.standing_eq
  rw [← left'] at left
  refine ⟨rfl, congrArg Standing.session left, ?_, n, congrArg Standing.cache left⟩
  rintro matched rfl
  cases matched with
  | false => exact restored rfl rfl
  | true =>
    have bound : y'.1 = .ok (some s.bindings.toList) := agrees.bindings_eq
    rw [agrees'.bindings_eq] at bound
    rw [← s.bindings.ofList_toList, ← s'.bindings.ofList_toList]
    exact congrArg Bindings.ofList (Option.some.inj (Except.ok.inj bound)).symm

/-- The alternatives for its starts agree with a window. -/
theorem either_agrees_window {s s₁ : MatchState σ} (identified : v.identity?.isSome = true)
    (asked : e.silent.sequence v s = (.ok (.supported items), s₁))
    (enough : elements.length ≤ items.length) :
    SameButHits
      (e.silent.matchNode (.either (ListPattern.startsOf elements items.length)) v s)
      (e.silent.matchNode (.list (.window .anonymous elements .anonymous)) v s) := by
  have answer : e.silent.cached (.sequence v) s.standing =
      (.ok (.supported items), s₁.standing) := by
    have read := e.silent.sequence_reads v s
    rw [asked, run_put] at read
    rcases answered : e.silent.cached (.sequence v) s.standing with ⟨r, t⟩
    rw [answered] at read
    cases read
    rfl
  have kept := sequence?_of_cached identified answer
  refine sameButHits_of_agrees (e.silent.matchNode_refines _ v s)
    (e.silent.matchNode_refines _ v s) (either_withHits answer kept enough) ?_
  intro missed missed'
  have searched : e.silent.matchNode (.list (.window .anonymous elements .anonymous)) v s =
      e.silent.searchFrom ⟨.anonymous, elements, .anonymous⟩ items 0 s₁ := matchNode_window asked
  rw [searched] at missed' ⊢
  rw [searchFrom_of_false (Prod.ext missed' rfl), sequence_bindings asked]
  exact matchAny_of_false (Prod.ext missed rfl)

/-- An open end says what a rest does that has no name and nothing after it. A window with nothing
named around it says what the alternatives for all its starts do, and if the items are too few for
it, what no alternatives do, once the sequence is there. The calls are on record, so they are the
same as well. -/
theorem list_forms_agree (e : Engine σ) :
    (∀ ps v, e.recorded.matchNode (.list (.openEnded ps)) v =
      e.recorded.matchNode (.list (.withRest ps .anonymous [])) v) ∧
    ∀ (elements : List Pattern) (v : Value) (items : List Value)
      (s s₁ : MatchState (Recorded σ)), v.identity?.isSome = true →
      e.recorded.silent.sequence v s = (.ok (.supported items), s₁) →
      (elements.length ≤ items.length → SameButHits
        (e.recorded.silent.matchNode (.either (ListPattern.startsOf elements items.length)) v s)
        (e.recorded.silent.matchNode (.list (.window .anonymous elements .anonymous)) v s)) ∧
      (items.length < elements.length →
        e.recorded.silent.matchNode (.either []) v s₁ =
          e.recorded.silent.matchNode (.list (.window .anonymous elements .anonymous)) v s) := by
  refine ⟨e.recorded.openEnded_eq_withRest, fun elements v items s s₁ identified asked => ?_⟩
  refine ⟨either_agrees_window identified asked, fun short => ?_⟩
  let shape : ListPattern := .window .anonymous elements .anonymous
  have refused : e.recorded.silent.matchNode (.list shape) v s = (.ok false, s₁) :=
    matchNode_list_short asked short
  exact refused.symm

end Engine

/-- An array of two items, a window that finds the second one, and one that is too wide. -/
theorem list_forms_agree_sample :
    let e : Engine Nat := ⟨.reading .nil, .new, .standard⟩
    let array : Value := .array ⟨0⟩ [.bool true, .nil]
    let s : MatchState (Recorded Nat) := ⟨⟨.empty, ⟨0, []⟩⟩, .empty, .empty⟩
    let window (elements : List Pattern) : Pattern :=
      .list (.window .anonymous elements .anonymous)
    Engine.SameButHits
      (e.recorded.silent.matchNode (.either (ListPattern.startsOf [.literal .nil] 2)) array s)
      (e.recorded.silent.matchNode (window [.literal .nil]) array s) ∧
    (e.recorded.silent.matchNode (window [.wildcard, .wildcard, .wildcard]) array s).1 =
      .ok false := by
  intro e array s window
  obtain ⟨s₁, asked⟩ : ∃ s₁, e.recorded.silent.sequence array s =
      (.ok (.supported [.bool true, .nil]), s₁) :=
    ⟨_, e.recorded.silent.sequence_asked (Cache.sequence?_empty _)⟩
  have agree (elements : List Pattern) :=
    e.list_forms_agree.2 elements array [.bool true, .nil] s s₁ rfl asked
  constructor
  · exact (agree [.literal .nil]).1 (by decide)
  · have none := (agree [.wildcard, .wildcard, .wildcard]).2 (by decide)
    rw [← none]
    rfl

end PatternDispatch
