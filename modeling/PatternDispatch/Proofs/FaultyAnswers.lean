import PatternDispatch.Proofs.Composition
import PatternDispatch.Proofs.Parts

/-! Where an attempt to match fails: at a question that gets no answer, because the host fails, or
that gets one with which no pattern can go on. Everything asked before was answered well, and
nothing is asked after it. -/
namespace PatternDispatch

/-- The error in an answer of the wrong shape. -/
def Deconstructed.fault? {α : Type} : Deconstructed α → Option EvalError
  | .supported _ => none
  | .unsupported => none
  | .wrongShape error => some error.toError

/-- The error in an answer with which no pattern can go on: a value opened itself in the wrong
shape, or there is no variable of the name. -/
def Question.fault? (names : Interner) : (q : Question) → q.Answer → Option EvalError
  | .sequence _, answer => answer.fault?
  | .mapping _ _, answer => answer.fault?
  | .visible n, found => if found.isNone then some (.undefinedVariable (names.text n)) else none
  | _, _ => none

theorem ShapeError.isTypeError_toError (error : ShapeError) : error.toError.isTypeError = true := by
  cases error <;> rfl

namespace Deconstructed

variable {α : Type} {answer : Deconstructed α} {error : EvalError}

theorem exists_shape_of_fault (h : answer.fault? = some error) :
    ∃ shape : ShapeError, shape.toError = error := by
  cases answer with
  | wrongShape shape => exact ⟨shape, Option.some.inj h⟩
  | _ => cases h

theorem isTypeError_of_fault (h : answer.fault? = some error) : error.isTypeError = true := by
  obtain ⟨shape, rfl⟩ := exists_shape_of_fault h
  exact shape.isTypeError_toError

theorem message_of_fault (h : answer.fault? = some error) : error.message = error.kind.message := by
  obtain ⟨shape, rfl⟩ := exists_shape_of_fault h
  exact shape.message_toError

end Deconstructed

/-- Only two kinds of questions have faulty answers, each with an error of its own. -/
theorem Question.fault?_cases {names : Interner} {q : Question} {a : q.Answer} {error : EvalError}
    (h : q.fault? names a = some error) :
    (q.opens = true ∧ error.isTypeError = true) ∨
      ∃ n, q = .visible n ∧ error = .undefinedVariable (names.text n) := by
  cases q with
  | sequence v => exact .inl ⟨rfl, Deconstructed.isTypeError_of_fault h⟩
  | mapping p v => exact .inl ⟨rfl, Deconstructed.isTypeError_of_fault h⟩
  | visible n =>
    cases a with
    | none =>
      cases h
      exact .inr ⟨n, rfl, rfl⟩
    | some v => cases h
  | _ => cases h

/-- The error in a faulty answer has the text of its kind. -/
theorem Question.message_of_fault {names : Interner} {q : Question} {a : q.Answer}
    {error : EvalError} (h : q.fault? names a = some error) :
    error.message = error.kind.message := by
  cases q with
  | sequence v => exact Deconstructed.message_of_fault h
  | mapping p v => exact Deconstructed.message_of_fault h
  | visible n =>
    cases a with
    | none =>
      cases h
      rfl
    | some v => cases h
  | _ => cases h

/-- The error with which a question ends the dialogue it stands in. -/
def Exchange.error? {τ : Type} (names : Interner) (x : Exchange τ) : Option EvalError :=
  match x.answer with
  | .ok a => x.question.fault? names a
  | .error error => some error

/-- The last one of some questions has an answer with an error in it. -/
def EndAtFault {τ : Type} (names : Interner) (xs : List (Exchange τ)) (error : EvalError) : Prop :=
  ∃ past x a, xs = past ++ [x] ∧ x.answer = .ok a ∧ x.question.fault? names a = some error

namespace Dialogue

variable {α β τ : Type} {names : Interner}

/-- A dialogue ends at every fault, with the error in it, and fails nowhere else. -/
def FailsAtFaults (names : Interner) : Dialogue α → Prop
  | .done _ => True
  | .fail _ => False
  | .ask q next => ∀ a,
    match q.fault? names a with
    | some error => next a = .fail error
    | none => (next a).FailsAtFaults names

theorem FailsAtFaults.bind {d : Dialogue α} {f : α → Dialogue β} (hd : d.FailsAtFaults names)
    (hf : ∀ a, (f a).FailsAtFaults names) : (d >>= f).FailsAtFaults names := by
  induction d with
  | done a => exact hf a
  | fail error => exact hd.elim
  | ask q next ih =>
    intro a
    have here := hd a
    cases fault : q.fault? names a with
    | some error =>
      simp only [fault] at here ⊢
      rw [here]
      rfl
    | none =>
      simp only [fault] at here ⊢
      exact ih a here

/-- A question with any answer to which a pattern can go on. -/
theorem failsAtFaults_ask {q : Question} {next : q.Answer → Dialogue α}
    (harmless : ∀ a, q.fault? names a = none) (hn : ∀ a, (next a).FailsAtFaults names) :
    (ask q next).FailsAtFaults names := by
  intro a
  rw [harmless a]
  exact hn a

variable {h : Answerer τ} {d : Dialogue α} {s s' : τ} {error : EvalError}

/-- A question that ends its dialogue is the last one, and the error is passed on. -/
theorem FailsAtFaults.last (hd : d.FailsAtFaults names) {past future : List (Exchange τ)}
    {x : Exchange τ} (moment : transcript h d s = past ++ x :: future)
    (failed : x.error? names = some error) :
    future = [] ∧ run h d s = (.error error, x.after) := by
  induction d generalizing s past with
  | done a => simp [transcript] at moment
  | fail error => exact hd.elim
  | ask q next ih =>
    rcases answered : h q s with ⟨error' | a, t⟩
    · rw [transcript_ask_error answered] at moment
      cases past with
      | nil =>
        obtain ⟨rfl, rfl⟩ := List.cons.inj moment
        cases failed
        exact ⟨rfl, run_ask_error answered⟩
      | cons y past => simp at moment
    · rw [transcript_ask_ok answered] at moment
      rw [run_ask_ok answered]
      have here := hd a
      cases past with
      | nil =>
        obtain ⟨rfl, rfl⟩ := List.cons.inj moment
        have fault : q.fault? names a = some error := failed
        simp only [fault] at here
        rw [here]
        exact ⟨rfl, rfl⟩
      | cons y past =>
        obtain ⟨-, later⟩ := List.cons.inj moment
        cases fault : q.fault? names a with
        | some error' =>
          -- after a fault there are no more questions, so `x` cannot come later
          simp only [fault] at here
          rw [here] at later
          simp [transcript] at later
        | none =>
          simp only [fault] at here
          exact ih a here later

/-- Every question of a dialogue is one that it may ask. -/
theorem Keeps.asks_of_mem {asks : Question → Prop} {Q : α → Prop} (keeps : d.Keeps (.only asks) Q)
    {x : Exchange τ} (hx : x ∈ transcript h d s) : asks x.question := by
  induction d generalizing s with
  | done a => cases hx
  | fail error => cases hx
  | ask q next ih =>
    rcases answered : h q s with ⟨error | a, t⟩
    · rw [transcript_ask_error answered] at hx
      obtain rfl := List.mem_singleton.1 hx
      exact keeps.1
    · rw [transcript_ask_ok answered] at hx
      rcases List.mem_cons.1 hx with rfl | later
      · exact keeps.1
      · exact ih a (keeps.2 a trivial) later

end Dialogue

namespace Persistent

open Dialogue

variable {names : Interner}

/-- Only a look at an answer finds a fault, and nothing else fails. -/
theorem fails_composes (names : Interner) :
    Composes names fun _ d => d.FailsAtFaults names where
  done _ := trivial
  bind := FailsAtFaults.bind
  lookUp n := by
    intro found
    cases found with
    | none => rfl
    | some v => trivial
  openSequence v := by
    intro answer
    cases answer with
    | supported items => trivial
    | unsupported => trivial
    | wrongShape error => rfl
  matchHash p v bs inside := by
    rw [matchHash_eq_ask]
    intro answer
    cases answer with
    | supported m => exact inside m.pairs
    | unsupported => trivial
    | wrongShape error => rfl
  external r := failsAtFaults_ask (fun _ => rfl) fun _ => trivial
  evalWith bs x := failsAtFaults_ask (fun _ => rfl) fun _ => trivial
  caseEq p v := failsAtFaults_ask (fun _ => rfl) fun _ => trivial
  fresh := failsAtFaults_ask (fun _ => rfl) fun _ => trivial
  report event _ := failsAtFaults_ask (fun _ => rfl) fun _ => trivial

/-- A pattern fails at faulty answers only, and at each of them. -/
theorem matchNode_fails (p : Pattern) (v : Value) (bs : Bound) :
    (matchNode names p v bs).FailsAtFaults names :=
  (fails_composes names).matchNode p v bs

end Persistent

namespace Engine

open Dialogue

variable {σ : Type} (e : Engine σ) {p : Pattern} {v : Value} {t : Standing σ} {error : EvalError}

/-- All questions of an attempt to match, with their answers. -/
def moments (p : Pattern) (v : Value) (t : Standing σ) : List (Exchange (Standing σ)) :=
  transcript e.cached (Persistent.matchNode e.names p v []) t

/-- The questions belong to parts of the pattern. -/
theorem asks_of_moment {x : Exchange (Standing σ)} (hx : x ∈ e.moments p v t) : p.Asks x.question :=
  (Persistent.matchNode_binds p (fun _ asked => asked) v []).asks_of_mem hx

theorem attempt_of_failed_moment {past future : List (Exchange (Standing σ))}
    {x : Exchange (Standing σ)} (moment : e.moments p v t = past ++ x :: future)
    (failed : x.error? e.names = some error) :
    future = [] ∧
      e.attempt p v t.cache t.session = ((.failed error, x.after.cache), x.after.session) := by
  obtain ⟨last, ended⟩ := (Persistent.matchNode_fails p v []).last moment failed
  rw [attempt_eq_run, ended]
  exact ⟨last, rfl⟩

end Engine

end PatternDispatch
