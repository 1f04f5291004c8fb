import PatternDispatch.Proofs.PersistentMatching
import PatternDispatch.Proofs.Recording

/-! One list of bindings, written to by all parts of a pattern and cut back at branches and windows,
does the work of bindings that are handed down. A part that fails may leave bindings behind; what it
found is still a first part of what it leaves, so cutting back to the old size restores it. -/
namespace PatternDispatch

open Dialogue

namespace Bindings

theorem rollback_of_isPrefix {b b' : Bindings} (h : b.toList <+: b'.toList) :
    b'.rollback b.size = b := by
  obtain ⟨later, hl⟩ := h
  have hb' : b'.latestFirst = later.reverse ++ b.latestFirst := by
    have := congrArg List.reverse hl
    simpa [toList] using this.symm
  have hsize : b'.size - b.size = later.reverse.length := by
    simp [size, hb']
  cases b
  simp only [rollback, hsize, hb', List.drop_left]

theorem get?_eq_last? (b : Bindings) (t : BindTarget) : b.get? t = Bound.last? b.toList t := by
  simp [get?, Bound.last?, toList]

def ofList (bs : Bound) : Bindings := ⟨bs.reverse⟩

@[simp]
theorem toList_ofList (bs : Bound) : (ofList bs).toList = bs := by
  simp [ofList, toList]

@[simp]
theorem ofList_toList (b : Bindings) : ofList b.toList = b := by
  simp [ofList, toList]

end Bindings

/-- The outcome of a match with persistent bindings. -/
def MatchOutcome.ofResult : Except EvalError (Option Bound) → MatchOutcome
  | .ok (some bs) => .matched (.ofList bs)
  | .ok none => .unmatched
  | .error error => .failed error

section

variable {σ α : Type}

/-- How an attempt to match agrees with a dialogue that was given the bindings `entry`. -/
inductive Agrees (entry : Bound) :
    Except EvalError Bool × MatchState σ → Except EvalError (Option Bound) × Standing σ → Prop where
  | matched (s : MatchState σ) (grown : entry <+: s.bindings.toList) :
    Agrees entry (.ok true, s) (.ok (some s.bindings.toList), s.standing)
  | unmatched (s : MatchState σ) (grown : entry <+: s.bindings.toList) :
    Agrees entry (.ok false, s) (.ok none, s.standing)
  | failed (error : EvalError) (s : MatchState σ) :
    Agrees entry (.error error, s) (.error error, s.standing)

theorem Agrees.weaken {entry entry' : Bound} (h : entry <+: entry')
    {x : Except EvalError Bool × MatchState σ} {y : Except EvalError (Option Bound) × Standing σ}
    (agrees : Agrees entry' x y) : Agrees entry x y := by
  cases agrees with
  | matched s grown => exact .matched s (h.trans grown)
  | unmatched s grown => exact .unmatched s (h.trans grown)
  | failed error s => exact .failed error s

/-- Whoever comes to an answer has added bindings at most. -/
theorem Agrees.grown {entry : Bound} {matched : Bool} {s : MatchState σ}
    {y : Except EvalError (Option Bound) × Standing σ} (agrees : Agrees entry (.ok matched, s) y) :
    entry <+: s.bindings.toList := by
  cases agrees with
  | matched s grown => exact grown
  | unmatched s grown => exact grown

theorem Agrees.bindings_eq {entry : Bound} {s : MatchState σ}
    {y : Except EvalError (Option Bound) × Standing σ} (agrees : Agrees entry (.ok true, s) y) :
    y.1 = .ok (some s.bindings.toList) := by
  cases agrees
  rfl

theorem Agrees.result_eq {entry : Bound} {x : Except EvalError Bool × MatchState σ}
    {y : Except EvalError (Option Bound) × Standing σ} (agrees : Agrees entry x y) :
    x.1 = y.1.map Option.isSome := by
  cases agrees <;> rfl

theorem Agrees.standing_eq {entry : Bound} {x : Except EvalError Bool × MatchState σ}
    {y : Except EvalError (Option Bound) × Standing σ} (agrees : Agrees entry x y) :
    x.2.standing = y.2 := by
  cases agrees <;> rfl

/-- From every state, an attempt agrees with a dialogue. -/
def Refines (h : Answerer (Standing σ)) (m : MatchM σ Bool)
    (d : Bound → Dialogue (Option Bound)) : Prop :=
  ∀ s, Agrees s.bindings.toList (m s) (run h (d s.bindings.toList) s.standing)

/-- A step that reads the bindings at most, and answers as a dialogue does. -/
def Reads (h : Answerer (Standing σ)) (m : MatchM σ α) (d : Bound → Dialogue α) : Prop :=
  ∀ s, m s =
    let (r, t) := run h (d s.bindings.toList) s.standing
    (r, t.withBindings s.bindings)

namespace Refines

variable {h : Answerer (Standing σ)} {m m' k : MatchM σ Bool}
  {d d' dk : Bound → Dialogue (Option Bound)}

theorem success : Refines h (pure true) fun bs => .done (some bs) :=
  fun s => .matched s (List.prefix_refl _)

theorem failure : Refines h (pure false) fun _ => .done none :=
  fun s => .unmatched s (List.prefix_refl _)

theorem push (hr : Refines h m d) (t : BindTarget) (v : Value) :
    Refines h (MatchM.bind t v >>= fun _ => m) fun bs => d (bs ++ [(t, v)]) := by
  intro s
  have grown := hr { s with bindings := s.bindings.push t v }
  rw [Bindings.toList_push] at grown
  exact grown.weaken (List.prefix_append _ _)

theorem reading {a : MatchM σ α} {da : Bound → Dialogue α} {k : α → MatchM σ Bool}
    {dk : α → Bound → Dialogue (Option Bound)} (ha : Reads h a da)
    (hk : ∀ x, Refines h (k x) (dk x)) :
    Refines h (a >>= k) fun bs => da bs >>= fun x => dk x bs := by
  intro s
  rw [HostM.bind_apply, run_bind, HostM.bind_apply, ha s]
  rcases run h (da s.bindings.toList) s.standing with ⟨_ | x, t⟩
  · exact .failed _ (t.withBindings s.bindings)
  · exact hk x (t.withBindings s.bindings)

theorem onlyIf (hm : Refines h m d) (b : Bool) :
    Refines h (if b = true then m else pure false) fun bs =>
      if b = true then d bs else pure none := by
  cases b with
  | true => exact hm
  | false => exact failure

/-- Two parts one after the other. -/
theorem both (hm : Refines h m d) (hk : Refines h k dk) :
    Refines h (m >>= fun found => if found = true then k else pure false) fun bs =>
      d bs >>= fun
        | some bs' => dk bs'
        | none => pure none := by
  intro s
  rw [HostM.bind_apply, run_bind, HostM.bind_apply]
  have part := hm s
  generalize m s = x, run h (d s.bindings.toList) s.standing = y at part
  cases part with
  | matched s' grown => exact (hk s').weaken grown
  | unmatched s' grown => exact .unmatched s' grown
  | failed error s' => exact .failed error s'

/-- A branch that fails leaves the bindings as they were. -/
theorem branch_apply (hm : Refines h m d) (s : MatchState σ) :
    MatchM.branch m s =
      match m s with
      | (.ok true, s') => (.ok true, s')
      | (.ok false, s') => (.ok false, { s' with bindings := s.bindings })
      | (.error error, s') => (.error error, s') := by
  have cut : MatchM.branch m s =
      match m s with
      | (.ok true, s') => (.ok true, s')
      | (.ok false, s') => (.ok false, { s' with bindings := s'.bindings.rollback s.bindings.size })
      | (.error error, s') => (.error error, s') := by
    simp only [MatchM.branch, HostM.bind_apply, MatchM.getBindings]
    rcases m s with ⟨_ | _ | _, s'⟩ <;> rfl
  rw [cut]
  have part := hm s
  generalize m s = x, run h (d s.bindings.toList) s.standing = y at part
  cases part with
  | matched s' grown => rfl
  | unmatched s' grown =>
    -- there may be new bindings, but only after those the branch began with
    simp only [Bindings.rollback_of_isPrefix grown]
  | failed error s' => rfl

/-- A branch, then the rest of the pattern or another branch. The other branch starts from the
bindings with which the first one began. -/
theorem branch (hm : Refines h m d) (hk : Refines h k dk) (hm' : Refines h m' d') :
    Refines h (MatchM.branch m >>= fun found => if found = true then k else m') fun bs =>
      d bs >>= fun
        | some bs' => dk bs'
        | none => d' bs := by
  intro s
  rw [HostM.bind_apply, run_bind, HostM.bind_apply, hm.branch_apply]
  have part := hm s
  generalize m s = x, run h (d s.bindings.toList) s.standing = y at part
  cases part with
  | matched s' grown => exact (hk s').weaken grown
  | unmatched s' grown => exact hm' { s' with bindings := s.bindings }
  | failed error s' => exact .failed error s'

end Refines

namespace Reads

variable {β : Type} {h : Answerer (Standing σ)}

theorem bind {a : MatchM σ α} {da : Bound → Dialogue α} {k : α → MatchM σ β}
    {dk : α → Bound → Dialogue β} (ha : Reads h a da) (hk : ∀ x, Reads h (k x) (dk x)) :
    Reads h (a >>= k) fun bs => da bs >>= fun x => dk x bs := by
  intro s
  rw [HostM.bind_apply, run_bind, HostM.bind_apply, ha s]
  rcases run h (da s.bindings.toList) s.standing with ⟨_ | x, t⟩
  · rfl
  · exact hk x (t.withBindings s.bindings)

theorem pure (a : α) : Reads h (Pure.pure a) fun _ => .done a := fun _ => rfl

/-- A step that looks at the bindings first. -/
theorem looking {k : Bindings → MatchM σ α} {dk : Bound → Dialogue α}
    (hk : ∀ b, Reads h (k b) fun _ => dk b.toList) : Reads h (MatchM.getBindings >>= k) dk :=
  fun s => hk s.bindings s

end Reads

namespace Engine

variable (e : Engine σ)

/-- A question that no kept answer is used for. -/
theorem direct_reads (q : Question) (plain : e.cached q = Standing.ofEval (e.direct q)) :
    Reads e.cached (.ofEval (e.direct q)) fun _ => put q := by
  intro s
  rw [run_put, plain]
  rfl

theorem resolve_reads (r : ValueRef) :
    Reads e.cached (e.resolve r) fun bs => Persistent.resolve e.names bs r := by
  cases r with
  | localVar n =>
    refine .looking fun b => ?_
    simp only [Persistent.resolve, ← Bindings.get?_eq_last?]
    cases b.get? (.localVar n) with
    | some v => exact .pure v
    | none =>
      dsimp only
      intro s
      have asked : e.cached (.visible n) s.standing =
          (.ok (s.session.env.lookup? n), s.standing) := rfl
      rw [HostM.bind_apply, put_bind, run_ask_ok asked]
      simp only [MatchM.ofEval, EvalM.getEnv]
      cases s.session.env.lookup? n <;> rfl
  | external r =>
    refine .looking fun b => ?_
    simp only [Persistent.resolve, ← Bindings.get?_eq_last?]
    cases b.get? (.external r) with
    | some v => exact .pure v
    | none => exact e.direct_reads (.external r) rfl
  | expr x =>
    refine .looking fun b => ?_
    exact e.direct_reads (.evalWith b.toList x) rfl
  | inline v => exact .pure v

theorem caseEq_reads (p v : Value) : Reads e.cached (e.caseEq p v) fun _ => put (.caseEq p v) :=
  e.direct_reads (.caseEq p v) rfl

theorem fresh_reads : Reads e.cached e.fresh fun _ => put .fresh :=
  e.direct_reads .fresh rfl

theorem observe_reads (event : Event) :
    Reads e.cached (.ofEval (e.observe event)) fun _ => put (.report event) :=
  e.direct_reads (.report event) rfl

theorem sequence_reads (v : Value) : Reads e.cached (e.sequence v) fun _ => put (.sequence v) := by
  intro s
  rw [run_put]
  cases kept : s.cache.sequence? v with
  | some a =>
    rw [e.sequence_kept kept, e.cached_sequence_kept (t := s.standing) kept]
    rfl
  | none =>
    rw [e.sequence_asked kept, e.cached_sequence_asked (t := s.standing) kept]
    rfl

theorem mapping_reads (p : HashPattern) (v : Value) :
    Reads e.cached (e.mapping p v) fun _ => put (.mapping p v) := by
  intro s
  rw [run_put]
  cases kept : s.cache.mapping? (e.mappingKey? v p.requestedKeys) with
  | some a =>
    rw [e.mapping_kept kept, e.cached_mapping_kept (t := s.standing) kept]
    rfl
  | none =>
    rw [e.mapping_asked kept, e.cached_mapping_asked (t := s.standing) kept]
    rfl

/-- A capability answer of the wrong shape ends the attempt. -/
theorem fold_reads (answer : Deconstructed α) :
    Reads e.cached (liftM answer.fold) fun _ => ofExcept answer.fold := by
  cases answer with
  | supported a => exact .pure (some a)
  | unsupported => exact .pure none
  | wrongShape error => exact fun _ => rfl

theorem itemsFor?_reads (p : ListPattern) (v : Value) :
    Reads e.cached (e.itemsFor? p v) fun _ => Persistent.itemsFor? p v := by
  refine (e.sequence_reads v).bind fun answer => (e.fold_reads answer).bind fun items? => ?_
  cases items? with
  | some items => exact .pure _
  | none => exact .pure none

variable {m : MatchM σ Bool} {d : Bound → Dialogue (Option Bound)}

/-- A named splat is bound like any other target. -/
theorem bindSplat_refines (s : Splat) (items : List Value) (hm : Refines e.cached m d) :
    Refines e.cached (e.bindSplat s items >>= fun _ => m) fun bs =>
      Persistent.bindSplat s items bs >>= d := by
  cases s with
  | anonymous => exact hm
  | named t =>
    simp only [bindSplat, bind_assoc]
    exact .reading e.fresh_reads fun id => hm.push t (.array id items)

theorem observe_refines (event : Event) (hm : Refines e.cached m d) :
    Refines e.cached (.ofEval (e.observe event) >>= fun _ => m) fun bs =>
      put (.report event) >>= fun _ => d bs :=
  .reading (e.observe_reads event) fun _ => hm

theorem tryWindows_refines (before after : Splat) (width : Nat)
    {attempt : List Value → MatchM σ Bool}
    {attempt' : List Value → Bound → Dialogue (Option Bound)}
    (hm : ∀ window, Refines e.cached (attempt window) (attempt' window)) (items : List Value)
    (remaining start : Nat) :
    Refines e.cached (e.tryWindows before after width attempt items remaining start) fun bs =>
      Persistent.windows before after width attempt' items bs remaining start := by
  induction remaining generalizing start with
  | zero => exact e.observe_refines _ .failure
  | succ remaining ih =>
    have opened := e.bindSplat_refines before (items.take start)
      (hm ((items.drop start).take width))
    have closed := e.observe_refines (.windowMatched start width)
      (e.bindSplat_refines after (items.drop (start + width)) .success)
    -- the next window plays the part of the other branch
    have whole := opened.branch closed (ih (start + 1))
    simp only [bind_assoc] at whole
    exact whole

theorem matchRest_refines (p : HashPattern) (pairs : Pairs) :
    Refines e.cached (e.matchRest p pairs) (Persistent.matchRest p pairs) := by
  unfold matchRest Persistent.matchRest
  cases p.rest with
  | absent => exact .success
  | ignored => exact .success
  | closed =>
    cases pairs.length == p.entries.length with
    | true => exact .success
    | false => exact .failure
  | named t => exact .reading e.fresh_reads fun id => Refines.success.push t _

/-- A test that binds nothing. -/
theorem caseEq_refines (p v : Value) :
    Refines e.cached (e.caseEq p v) fun bs =>
      put (.caseEq p v) >>= fun found => pure (if found = true then some bs else none) := by
  rw [← bind_pure (e.caseEq p v)]
  refine .reading (e.caseEq_reads p v) fun found => ?_
  cases found with
  | true => exact .success
  | false => exact .failure

/-- A pattern agrees with its dialogue on every value. -/
def NodeRefines (p : Pattern) : Prop :=
  ∀ v, Refines e.cached (e.matchNode p v) fun bs => Persistent.matchNode e.names p v bs

theorem matchAny_refines {ps : List Pattern} (hps : ∀ p ∈ ps, e.NodeRefines p) (v : Value) :
    Refines e.cached (e.matchAny ps v) fun bs => Persistent.matchAny e.names ps v bs := by
  induction ps with
  | nil => exact .failure
  | cons p ps ih =>
    have first := hps p List.mem_cons_self v
    have later := ih fun q hq => hps q (List.mem_cons_of_mem p hq)
    simp only [matchAny, Persistent.matchAny]
    exact first.branch .success later

theorem matchEach_refines {ps : List Pattern} (hps : ∀ p ∈ ps, e.NodeRefines p) (vs : List Value) :
    Refines e.cached (e.matchEach ps vs) fun bs => Persistent.matchEach e.names ps vs bs := by
  induction ps generalizing vs with
  | nil => exact .success
  | cons p ps ih =>
    cases vs with
    | nil => exact .success
    | cons v vs =>
      have first := hps p List.mem_cons_self v
      have later := ih (fun q hq => hps q (List.mem_cons_of_mem p hq)) vs
      simp only [matchEach, Persistent.matchEach]
      exact first.both later

theorem matchEntries_refines {entries : List (Name × Pattern)}
    (hes : ∀ entry ∈ entries, e.NodeRefines entry.2) (pairs : Pairs) :
    Refines e.cached (e.matchEntries entries pairs) fun bs =>
      Persistent.matchEntries e.names entries pairs bs := by
  induction entries with
  | nil => exact .success
  | cons entry entries ih =>
    obtain ⟨n, p⟩ := entry
    have later := ih fun other ho => hes other (List.mem_cons_of_mem _ ho)
    simp only [matchEntries, Persistent.matchEntries]
    cases pairs.getSymbol? n with
    | none => exact .failure
    | some v => exact (hes (n, p) List.mem_cons_self v).both later

theorem matchList_refines (shape : ListPattern) (hl : ∀ p ∈ shape.leading, e.NodeRefines p)
    (hw : ∀ w ∈ shape.find, ∀ p ∈ w.elements, e.NodeRefines p)
    (ht : ∀ p ∈ shape.trailing, e.NodeRefines p) (v : Value) :
    Refines e.cached (e.matchList shape v) fun bs => Persistent.matchList e.names shape v bs := by
  obtain ⟨leading, find, rest, trailing, openEnd⟩ := shape
  dsimp only at hl hw ht
  have items := e.itemsFor?_reads ⟨leading, find, rest, trailing, openEnd⟩ v
  rcases find with _ | ⟨before, elements, after⟩
  · cases rest with
    | none =>
      simp only [matchList, Persistent.matchList]
      refine .reading items fun items? => ?_
      cases items? with
      | none => exact .failure
      | some items => exact (e.matchEach_refines hl (items.take leading.length)).onlyIf _
    | some rest =>
      simp only [matchList, Persistent.matchList]
      refine .reading items fun items? => ?_
      cases items? with
      | none => exact .failure
      | some items =>
        have back := e.matchEach_refines ht (items.drop (items.length - trailing.length))
        exact (e.matchEach_refines hl (items.take leading.length)).both
          (e.bindSplat_refines rest _ back)
  · simp only [matchList, Persistent.matchList]
    refine .reading items fun items? => ?_
    cases items? with
    | none => exact .failure
    | some items =>
      exact e.tryWindows_refines before after elements.length (e.matchEach_refines (hw _ rfl)) items
        (items.length - elements.length + 1) 0

theorem matchHash_refines (shape : HashPattern)
    (hes : ∀ entry ∈ shape.entries, e.NodeRefines entry.2) (v : Value) :
    Refines e.cached (e.matchHash shape v) fun bs => Persistent.matchHash e.names shape v bs := by
  obtain ⟨entries, rest⟩ := shape
  simp only [matchHash, Persistent.matchHash]
  refine .reading (e.mapping_reads ⟨entries, rest⟩ v) fun answer =>
    .reading (e.fold_reads answer) fun m? => ?_
  cases m? with
  | none => exact .failure
  | some m =>
    exact (e.matchEntries_refines hes m.pairs).both (e.matchRest_refines ⟨entries, rest⟩ m.pairs)

theorem matchNode_refines (p : Pattern) : e.NodeRefines p := by
  induction p using Pattern.induction with
  | literal l =>
    intro v
    exact e.caseEq_refines l v
  | binding t =>
    intro v
    exact Refines.success.push t v
  | wildcard =>
    intro v
    exact .success
  | discard n =>
    intro v
    exact .success
  | pin r =>
    intro v
    exact .reading (e.resolve_reads r) fun operand => e.caseEq_refines operand v
  | either branches ih =>
    intro v
    exact e.matchAny_refines ih v
  | capture inner t ih =>
    intro v
    exact (ih v).both (Refines.success.push t v)
  | constant r inner ih =>
    intro v
    have innerRefines : Refines e.cached (e.matchInner inner v)
        (Persistent.matchInner e.names inner v) := by
      cases inner with
      | none => exact .success
      | some p => exact ih p rfl v
    exact .reading (e.resolve_reads r) fun operand =>
      .reading (e.caseEq_reads operand v) fun found => innerRefines.onlyIf found
  | list shape hl hw ht =>
    intro v
    exact e.matchList_refines shape hl hw ht v
  | hash shape ih =>
    intro v
    exact e.matchHash_refines shape ih v

/-- One attempt to match with persistent bindings. -/
def persistentAttempt (p : Pattern) (v : Value) (cache : Cache) :
    StateM (Session σ) (MatchOutcome × Cache) := fun session =>
  let (r, t) := run e.cached (Persistent.matchNode e.names p v []) ⟨session, cache⟩
  ((.ofResult r, t.cache), t.session)

theorem attempt_eq (p : Pattern) (v : Value) (cache : Cache) :
    e.attempt p v cache = e.persistentAttempt p v cache := by
  funext session
  have agrees := e.matchNode_refines p v ⟨session, .empty, cache⟩
  simp only [Bindings.toList_empty] at agrees
  simp only [attempt, persistentAttempt]
  change Agrees [] _ (run e.cached (Persistent.matchNode e.names p v []) ⟨session, cache⟩) at agrees
  generalize e.matchNode p v ⟨session, .empty, cache⟩ = x at agrees ⊢
  generalize run e.cached (Persistent.matchNode e.names p v []) ⟨session, cache⟩ = y at agrees ⊢
  cases agrees with
  | matched s grown => simp [MatchOutcome.ofResult, MatchState.standing]
  | unmatched s grown => rfl
  | failed error s => rfl

theorem attempt_eq_run (p : Pattern) (v : Value) (t : Standing σ) :
    e.attempt p v t.cache t.session =
      ((.ofResult (run e.cached (Persistent.matchNode e.names p v []) t).1,
        (run e.cached (Persistent.matchNode e.names p v []) t).2.cache),
        (run e.cached (Persistent.matchNode e.names p v []) t).2.session) := by
  rw [attempt_eq]
  rfl

theorem attempt_forget (keep : Call → Bool) (p : Pattern) (v : Value) (cache : Cache)
    (session : Session (Recorded σ)) :
    e.attempt p v cache session.forget =
      (((e.recording keep).attempt p v cache session).1,
        ((e.recording keep).attempt p v cache session).2.forget) := by
  simp only [attempt_eq, persistentAttempt]
  have forgotten := e.run_forget keep (Persistent.matchNode e.names p v []) ⟨session, cache⟩
  change run e.cached _ ⟨session.forget, cache⟩ = _ at forgotten
  rw [forgotten]
  rfl

/-- An attempt with one shared list of bindings makes the calls, leaves the variables, the host and
the kept answers, and comes to the outcome that it would with persistent bindings. So does every
node, from whatever has been bound before it. Keeping the calls changes nothing else. -/
theorem shared_bindings_refine_persistent (p : Pattern) (v : Value) :
    (∀ cache session,
      e.recorded.attempt p v cache session = e.recorded.persistentAttempt p v cache session) ∧
    (∀ s : MatchState (Recorded σ),
      Agrees s.bindings.toList (e.recorded.matchNode p v s)
        (run e.recorded.cached (Persistent.matchNode e.names p v s.bindings.toList) s.standing)) ∧
    ∀ cache (session : Session (Recorded σ)),
      e.attempt p v cache session.forget =
        ((e.recorded.attempt p v cache session).1,
          (e.recorded.attempt p v cache session).2.forget) :=
  ⟨fun cache session => congrFun (e.recorded.attempt_eq p v cache) session,
    fun s => e.recorded.matchNode_refines p v s,
    fun cache session => e.attempt_forget _ p v cache session⟩

end Engine

end

end PatternDispatch
