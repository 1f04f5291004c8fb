import PatternDispatch.Proofs.FaultyAnswers
import PatternDispatch.Proofs.RecordedDispatch

/-! The calls of a step and how they account for what it comes to. Of the calls that a step makes only
the last one can have failed, and then the step fails with its error; for any other error there is
another cause. An attempt to match makes no calls but those that its pattern leads to. -/
namespace PatternDispatch

open Dialogue

/-- The error of a step that failed. -/
def failure? {α : Type} : Except EvalError α → Option EvalError
  | .ok _ => none
  | .error error => some error

namespace Call

/-- The error with which a call failed. -/
def error? : Call → Option EvalError
  | .eval _ _ answer => failure? answer
  | .resolveExternal _ answer => failure? answer
  | .assignExternal _ _ answer => failure? answer
  | .caseEq _ _ answer => failure? answer
  | .deconstruct _ answer => failure? answer
  | .deconstructKeys _ _ answer => failure? answer
  | .render _ _ => none

/-- Calls that the host may get for a question. -/
inductive MadeFor : Question → Call → Prop where
  | eval (x : ExprId) (env : Environment) (answer : Except EvalError Value) :
    MadeFor (.eval x) (.eval x env answer)
  | evalWith (bs : Bound) (x : ExprId) (env : Environment) (answer : Except EvalError Value) :
    MadeFor (.evalWith bs x) (.eval x env answer)
  | external (r : ExternalRef) (answer : Except EvalError Value) :
    MadeFor (.external r) (.resolveExternal r answer)
  | caseEq (p v : Value) (answer : Except EvalError Bool) :
    MadeFor (.caseEq p v) (.caseEq p v answer)
  | sequence (v : Value) (answer : Except EvalError (Deconstructed (List Value))) :
    MadeFor (.sequence v) (.deconstruct v answer)
  | mapping (p : HashPattern) (v : Value) (answer : Except EvalError (Deconstructed Mapping)) :
    MadeFor (.mapping p v) (.deconstructKeys v p.requestedKeys answer)
  | store (r : ExternalRef) (v : Value) (answer : Except EvalError Unit) :
    MadeFor (.store (.external r) v) (.assignExternal r v answer)
  | render (v : Value) (text : String) : MadeFor (.render v) (.render v text)

/-- Calls that matching a pattern may make: they test, open or resolve what the pattern says. -/
def Probes (p : Pattern) : Call → Prop
  | .eval x _ _ => p.Mentions (.expr x)
  | .resolveExternal r _ => p.Mentions (.external r)
  | .caseEq a _ _ => (Pattern.literal a).Within p ∨ ∃ r, p.Mentions r
  | .deconstruct _ _ => ∃ shape, (Pattern.list shape).Within p
  | .deconstructKeys _ requested _ =>
    ∃ shape, (Pattern.hash shape).Within p ∧ shape.requestedKeys = requested
  | .assignExternal _ _ _ => False
  | .render _ _ => False

/-- A question of a pattern leads to no other calls. -/
theorem probes_of_asks {p : Pattern} {q : Question} (asked : p.Asks q) {call : Call}
    (made : MadeFor q call) : call.Probes p := by
  cases made with
  | eval x env answer => exact asked.elim
  | evalWith bs x env answer => exact asked
  | external r answer => exact asked
  | caseEq a v answer => exact asked
  | sequence v answer => exact asked
  | mapping shape v answer => exact ⟨shape, asked, rfl⟩
  | store r v answer => exact asked.elim
  | render v text => exact asked.elim

end Call

section

variable {σ α β : Type}

/-- Calls of a kind, none of which failed. -/
def Fine (kind : Call → Prop) (calls : List Call) : Prop :=
  ∀ call ∈ calls, kind call ∧ call.error? = none

/-- What may come of a step that makes calls of a kind. Of these only the last one may have failed,
and then the step fails with its error; any other error has a cause of its own. -/
inductive Accounted (kind : Call → Prop) (cause : EvalError → Session (Recorded σ) → Prop)
    (s : Session (Recorded σ)) : Except EvalError α × Session (Recorded σ) → Prop where
  | done {a : α} {s' : Session (Recorded σ)} (calls : List Call)
    (made : s'.world.calls = s.world.calls ++ calls) (fine : Fine kind calls) :
    Accounted kind cause s (.ok a, s')
  | called {s' : Session (Recorded σ)} {error : EvalError} (calls : List Call) (call : Call)
    (made : s'.world.calls = s.world.calls ++ (calls ++ [call])) (fine : Fine kind calls)
    (last : kind call) (failed : call.error? = some error) :
    Accounted kind cause s (.error error, s')
  | caused {s' : Session (Recorded σ)} {error : EvalError} (calls : List Call)
    (made : s'.world.calls = s.world.calls ++ calls) (fine : Fine kind calls)
    (h : cause error s') : Accounted kind cause s (.error error, s')

variable {kind kind' : Call → Prop} {cause cause' : EvalError → Session (Recorded σ) → Prop}
  {s s' : Session (Recorded σ)} {r : Except EvalError α × Session (Recorded σ)}

theorem Fine.nil : Fine kind [] := by
  simp [Fine]

theorem Fine.append {calls later : List Call} (h : Fine kind calls) (h' : Fine kind later) :
    Fine kind (calls ++ later) := by
  intro call hc
  rcases List.mem_append.1 hc with old | new
  · exact h call old
  · exact h' call new

theorem Fine.mono {calls : List Call} (h : Fine kind calls)
    (himp : ∀ call, kind call → kind' call) :
    Fine kind' calls :=
  fun call hc => ⟨himp call (h call hc).1, (h call hc).2⟩

/-- Of whatever kind the calls are, none failed. -/
theorem Fine.any {calls : List Call} (h : Fine kind calls) : Fine (fun _ => True) calls :=
  h.mono fun _ _ => trivial

namespace Accounted

/-- Calls without failure may come before. -/
theorem after {earlier : List Call} (made : s'.world.calls = s.world.calls ++ earlier)
    (fine : Fine kind earlier) (h : Accounted kind cause s' r) : Accounted kind cause s r := by
  cases h with
  | done calls made' fine' =>
    refine .done (earlier ++ calls) ?_ (fine.append fine')
    rw [made', made, List.append_assoc]
  | called calls call made' fine' last failed =>
    refine .called (earlier ++ calls) call ?_ (fine.append fine') last failed
    rw [made', made, List.append_assoc, List.append_assoc]
  | caused calls made' fine' h =>
    refine .caused (earlier ++ calls) ?_ (fine.append fine') h
    rw [made', made, List.append_assoc]

/-- An error is accounted for whatever the step would have come to without it. -/
theorem failing {error : EvalError} (h : Accounted kind cause s ((.error error : Except _ α), s')) :
    Accounted kind cause s ((.error error : Except _ β), s') := by
  cases h with
  | called calls call made fine last failed => exact .called calls call made fine last failed
  | caused calls made fine h => exact .caused calls made fine h

theorem bind {m : EvalM (Recorded σ) α} {f : α → EvalM (Recorded σ) β}
    (hm : Accounted kind cause s (m s))
    (hf : ∀ a s', m s = (.ok a, s') → Accounted kind cause s' (f a s')) :
    Accounted kind cause s ((m >>= f) s) := by
  rw [HostM.bind_apply]
  rcases ended : m s with ⟨error | a, s'⟩
  · rw [ended] at hm
    exact hm.failing
  · rw [ended] at hm
    cases hm with
    | done calls made fine => exact (hf a s' ended).after made fine

/-- A step may be followed by another one that makes no call. -/
theorem andThen {r : Except EvalError α} {s'' : Session (Recorded σ)}
    (h : Accounted kind cause s (r, s')) (same : s''.world.calls = s'.world.calls)
    (calls : ∀ call, kind call → kind' call) (causes : ∀ error, cause error s' → cause' error s'') :
    Accounted kind' cause' s (r, s'') := by
  cases h with
  | done _ made fine => exact .done _ (same.trans made) (fine.mono calls)
  | called _ call made fine last failed =>
    exact .called _ call (same.trans made) (fine.mono calls) (calls call last) failed
  | caused _ made fine h => exact .caused _ (same.trans made) (fine.mono calls) (causes _ h)

theorem mono (h : Accounted kind cause s r) (calls : ∀ call, kind call → kind' call)
    (causes : ∀ error s', cause error s' → cause' error s') : Accounted kind' cause' s r :=
  h.andThen rfl calls fun error => causes error r.2

theorem calls_of_ok {a : α} (h : Accounted kind cause s (.ok a, s')) :
    ∃ calls, s'.world.calls = s.world.calls ++ calls ∧ Fine kind calls := by
  cases h with
  | done calls made fine => exact ⟨calls, made, fine⟩

/-- A call that failed is the last one, and its error is passed on. -/
theorem last_of_failed (h : Accounted kind cause s r) (start : s.world.calls = [])
    {past later : List Call} {call : Call} {error : EvalError}
    (made : r.2.world.calls = past ++ call :: later) (failed : call.error? = some error) :
    later = [] ∧ r.1 = .error error := by
  have absurdIn {calls : List Call} (fine : Fine kind calls) (hc : call ∈ calls) : False := by
    rw [(fine call hc).2] at failed
    cases failed
  cases h with
  | done calls made' fine =>
    rw [start, List.nil_append] at made'
    have inside : call ∈ calls := by
      rw [← made', made]
      simp
    exact (absurdIn fine inside).elim
  | caused calls made' fine =>
    rw [start, List.nil_append] at made'
    have inside : call ∈ calls := by
      rw [← made', made]
      simp
    exact (absurdIn fine inside).elim
  | called calls call' made' fine last failed' =>
    rw [start, List.nil_append] at made'
    have split : past ++ call :: later = calls ++ [call'] := made.symm.trans made'
    rcases List.eq_nil_or_concat later with rfl | ⟨init, z, rfl⟩
    · obtain ⟨-, same⟩ := List.append_inj' split rfl
      cases same
      rw [failed'] at failed
      cases failed
      exact ⟨rfl, rfl⟩
    · rw [List.concat_eq_append, ← List.cons_append, ← List.append_assoc] at split
      obtain ⟨rfl, -⟩ := List.append_inj' split rfl
      exact (absurdIn fine (by simp)).elim

/-- Where no call failed, an error has another cause. -/
theorem cause_of_fine {error : EvalError}
    (h : Accounted kind cause s ((.error error : Except _ α), s'))
    (fine : ∀ call ∈ s'.world.calls, call.error? = none) : cause error s' := by
  cases h with
  | caused calls made _ h => exact h
  | called calls call made _ _ failed =>
    have unfailed := fine call (by simp [made])
    rw [failed] at unfailed
    cases unfailed

/-- A step that makes no call. -/
theorem quiet {a : α} (made : s'.world.calls = s.world.calls) :
    Accounted kind cause s (.ok a, s') :=
  .done [] (made.trans (List.append_nil _).symm) .nil

/-- A step that makes one call and fails when that call does. -/
theorem one {r : Except EvalError α} (call : Call)
    (made : s'.world.calls = s.world.calls ++ [call]) (hk : kind call)
    (same : call.error? = failure? r) : Accounted kind cause s (r, s') := by
  cases r with
  | error error => exact .called [] call made .nil hk same
  | ok a =>
    refine .done [call] made fun other ho => ?_
    obtain rfl := List.mem_singleton.1 ho
    exact ⟨hk, same⟩

theorem map {r : Except EvalError α} (f : α → β) (h : Accounted kind cause s (r, s')) :
    Accounted kind cause s (r.map f, s') := by
  cases r with
  | error error => exact h.failing
  | ok a =>
    cases h with
    | done calls made fine => exact .done calls made fine

end Accounted

end

/-- What an attempt has come to, with the bindings of a match. -/
def MatchOutcome.result : MatchOutcome → Except EvalError (Option Bindings)
  | .matched b => .ok (some b)
  | .unmatched => .ok none
  | .failed error => .error error

theorem MatchOutcome.result_ofResult (r : Except EvalError (Option Bound)) :
    (MatchOutcome.ofResult r).result = r.map (Option.map .ofList) := by
  rcases r with error | _ | bs
  · rfl
  · rfl
  · rfl

namespace Engine

variable {σ α : Type} (e : Engine σ) {kind : Call → Prop}
  {cause : EvalError → Session (Recorded σ) → Prop}

/-- Reports are no calls. -/
theorem reported_accounted {s : Session (Recorded σ)}
    {r : Except EvalError α × Session (Recorded σ)} (event : Event)
    (h : Accounted kind cause (e.recorded.reported event s) r) : Accounted kind cause s r := by
  have made : (e.recorded.reported event s).world.calls = s.world.calls ++ [] :=
    (List.append_nil s.world.calls).symm
  exact h.after made .nil

/-- A question fails when the host does, and for no other cause. -/
theorem direct_accounted (q : Question) (s : Session (Recorded σ)) :
    Accounted (Call.MadeFor q) cause s (e.recorded.direct q s) := by
  cases q with
  | eval x => exact .one _ rfl (.eval x s.env _) rfl
  | evalWith bs x => exact .one _ rfl (.evalWith bs x (bs.scopeIn s.env) _) rfl
  | external r => exact .one _ rfl (.external r _) rfl
  | caseEq p v => exact .one _ rfl (.caseEq p v _) rfl
  | sequence v => exact .one _ rfl (.sequence v _) rfl
  | mapping p v =>
    refine Accounted.bind (.one _ rfl (.mapping p v _) rfl) fun answer s' _ => ?_
    exact .quiet rfl
  | store t v =>
    cases t with
    | localVar n => exact .quiet rfl
    | external r => exact .one _ rfl (.store r v _) rfl
  | render v => exact .one _ rfl (.render v _) rfl
  | _ => exact .quiet rfl

/-- So it does when a kept answer may serve. -/
theorem cached_accounted (q : Question) (t : Standing (Recorded σ)) :
    Accounted (Call.MadeFor q) cause t.session
      ((e.recorded.cached q t).1, (e.recorded.cached q t).2.session) := by
  rcases q.opens_cases with ⟨v, rfl⟩ | ⟨p, v, rfl⟩ | plain
  · cases kept : t.cache.sequence? v with
    | some a =>
      rw [cached_sequence_kept _ kept]
      exact .quiet rfl
    | none =>
      rw [cached_sequence_asked _ kept]
      exact .one _ rfl (.sequence v _) rfl
  · cases kept : t.cache.mapping? (e.mappingKey? v p.requestedKeys) with
    | some a =>
      rw [e.recorded.cached_mapping_kept (t := t) kept]
      exact .quiet rfl
    | none =>
      rw [e.recorded.cached_mapping_asked (t := t) kept]
      exact (Accounted.one _ rfl (.mapping p v _) rfl).map _
  · rw [e.recorded.cached_of_plain plain]
    exact e.direct_accounted q t.session

/-- A dialogue fails when the host does, or at an answer with an error in it. -/
theorem run_accounted {asks : Question → Prop} {Q : α → Prop}
    (hk : ∀ q, asks q → ∀ call, Call.MadeFor q call → kind call) {d : Dialogue α}
    (keeps : d.Keeps (.only asks) Q) (fails : d.FailsAtFaults e.names) (t : Standing (Recorded σ)) :
    Accounted kind (fun error _ => EndAtFault e.names (transcript e.recorded.cached d t) error)
      t.session ((run e.recorded.cached d t).1, (run e.recorded.cached d t).2.session) := by
  induction d generalizing t with
  | done a => exact .quiet rfl
  | fail error => exact fails.elim
  | ask q next ih =>
    have asked : Accounted kind
        (fun error _ => EndAtFault e.names (transcript e.recorded.cached (.ask q next) t) error)
        t.session ((e.recorded.cached q t).1, (e.recorded.cached q t).2.session) :=
      (e.cached_accounted q t).mono (hk q keeps.1) fun _ _ h => h
    rcases answered : e.recorded.cached q t with ⟨error | a, t'⟩
    · rw [answered] at asked
      rw [run_ask_error answered]
      exact asked.failing
    · rw [answered] at asked
      rw [run_ask_ok answered, transcript_ask_ok answered]
      cases asked with
      | done calls made fine =>
        have here := fails a
        cases fault : q.fault? e.names a with
        | some error =>
          simp only [fault] at here
          rw [here]
          exact .caused calls made fine ⟨[], ⟨q, .ok a, t'⟩, a, rfl, rfl, fault⟩
        | none =>
          simp only [fault] at here
          refine (((ih a (keeps.2 a trivial) here t').mono (fun _ h => h) ?_).after made fine)
          -- the last of the later questions is the last of all
          rintro error s' ⟨past, x, b, ended, found⟩
          exact ⟨_ :: past, x, b, congrArg _ ended, found⟩

/-- An attempt to match makes calls for its pattern only, and fails for the same reasons. -/
theorem attempt_accounted (p : Pattern) (v : Value) (t : Standing (Recorded σ)) :
    Accounted (Call.Probes p)
      (fun error _ => EndAtFault e.names (e.recorded.moments p v t) error) t.session
      ((e.recorded.attempt p v t.cache t.session).1.1.result,
        (e.recorded.attempt p v t.cache t.session).2) := by
  rw [attempt_eq_run, MatchOutcome.result_ofResult]
  exact (e.run_accounted (fun _ asked _ made => Call.probes_of_asks asked made)
    (Persistent.matchNode_binds p (fun _ asked => asked) v []) (Persistent.matchNode_fails p v [])
    t).map _

section

variable {p : Pattern} {v : Value} {t : Standing (Recorded σ)} {outcome : MatchOutcome}
  {cache : Cache} {s : Session (Recorded σ)}

theorem attempt_fine {found : Option Bindings}
    (attempted : e.recorded.attempt p v t.cache t.session = ((outcome, cache), s))
    (came : outcome.result = .ok found) :
    ∃ calls, s.world.calls = t.session.world.calls ++ calls ∧ Fine (Call.Probes p) calls := by
  have accounted := e.attempt_accounted p v t
  rw [attempted] at accounted
  dsimp only at accounted
  rw [came] at accounted
  exact accounted.calls_of_ok

theorem attempt_failed {error : EvalError}
    (attempted : e.recorded.attempt p v t.cache t.session = ((.failed error, cache), s)) :
    Accounted (Call.Probes p)
      (fun error _ => EndAtFault e.names (e.recorded.moments p v t) error) t.session
      ((.error error : Except _ Value), s) := by
  have accounted := e.attempt_accounted p v t
  rw [attempted] at accounted
  exact accounted.failing

end

/-- For steps of which it does not matter what calls they make. -/
theorem answer_accounted (q : Question) (s : Session (Recorded σ)) :
    Accounted (fun _ => True) cause s (e.recorded.direct q s) :=
  (e.direct_accounted q s).mono (fun _ _ => trivial) fun _ _ h => h

theorem guardPasses_accounted (guard : Option Guard) (b : Bindings) (s : Session (Recorded σ)) :
    Accounted (fun _ => True) cause s (e.recorded.guardPasses guard b s) := by
  cases guard with
  | none => exact .quiet rfl
  | some g =>
    have evaluated : Accounted (fun _ => True) cause s
        (EvalM.inScope b.scopeIn (e.recorded.host.eval g.expr) s) :=
      e.answer_accounted (.evalWith b.toList g.expr) s
    exact evaluated.bind fun condition s' _ => .quiet rfl

theorem commit_accounted (bs : Bound) (s : Session (Recorded σ)) :
    Accounted (fun _ => True) cause s (e.recorded.commit bs s) := by
  induction bs generalizing s with
  | nil => exact .quiet rfl
  | cons b bs ih =>
    obtain ⟨t, v⟩ := b
    cases t with
    | localVar n => exact .bind (.quiet rfl) fun _ s' _ => ih s'
    | external r =>
      refine .bind (.quiet rfl) fun _ s' _ => .bind ?_ fun _ s'' _ => ih s''
      exact e.answer_accounted (.store (.external r) v) s'

theorem eval_accounted (x : ExprId) (s : Session (Recorded σ)) :
    Accounted (fun _ => True) cause s (e.recorded.host.eval x s) :=
  e.answer_accounted (.eval x) s

theorem noMatch_accounted (v : Value) (s : Session (Recorded σ))
    (h : ∀ text past s', s'.world.calls = past ++ [.render v text] →
      cause (.noMatchingPattern text) s') :
    Accounted (fun _ => True) cause s (e.recorded.noMatch v s) := by
  have made : (e.recorded.noMatch v s).2.world.calls = s.world.calls ++
      [.render v (e.host.render v s.world.world).1] := rfl
  refine .caused _ made (fun call hc => ?_) (h _ _ _ made)
  obtain rfl := List.mem_singleton.1 hc
  exact ⟨trivial, rfl⟩

end Engine

end PatternDispatch
