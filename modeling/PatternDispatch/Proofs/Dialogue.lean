import PatternDispatch.Deconstruction

/-! A dispatch as a dialogue with its surroundings. The dialogue says which questions are asked, in
which order, and what is made of the answers; who answers them, and at the price of which state, is
left to an answerer. A question that fails ends the dialogue. -/
namespace PatternDispatch

/-- Bindings in the order in which they were made. -/
abbrev Bound := List (BindTarget × Value)

namespace Bound

/-- The value bound last to a target. -/
def last? (bs : Bound) (t : BindTarget) : Option Value := bs.reverse.lookup t

/-- An environment with a new scope that holds the local bindings. -/
def scopeIn (bs : Bound) (env : Environment) : Environment :=
  (bs.filterMap Bindings.localBinding?).foldl (fun env p => env.define p.1 p.2) env.push

end Bound

/-- What a dispatch may want to know or to have done. -/
inductive Question where
  | eval (x : ExprId)
  /-- Evaluates in a temporary scope that holds local bindings. -/
  | evalWith (bs : Bound) (x : ExprId)
  | visible (n : Name)
  | external (r : ExternalRef)
  | caseEq (p v : Value)
  | sequence (v : Value)
  /-- The mapping of a value, checked against the keys of a pattern. -/
  | mapping (p : HashPattern) (v : Value)
  | fresh
  | declare (ns : List Name)
  | store (t : BindTarget) (v : Value)
  | render (v : Value)
  | report (event : Event)

abbrev Question.Answer : Question → Type
  | .eval _ => Value
  | .evalWith _ _ => Value
  | .visible _ => Option Value
  | .external _ => Value
  | .caseEq _ _ => Bool
  | .sequence _ => Deconstructed (List Value)
  | .mapping _ _ => Deconstructed Mapping
  | .fresh => Identity
  | .declare _ => Unit
  | .store _ _ => Unit
  | .render _ => String
  | .report _ => Unit

namespace Question

/-- Whether a value is to be opened. -/
def opens : Question → Bool
  | .sequence _ => true
  | .mapping _ _ => true
  | _ => false

theorem opens_cases (q : Question) :
    (∃ v, q = .sequence v) ∨ (∃ p v, q = .mapping p v) ∨ q.opens = false := by
  cases q with
  | sequence v => exact .inl ⟨v, rfl⟩
  | mapping p v => exact .inr (.inl ⟨p, v, rfl⟩)
  | _ => exact .inr (.inr rfl)

end Question

inductive Dialogue (α : Type) where
  | done (a : α)
  | fail (error : EvalError)
  | ask (q : Question) (next : q.Answer → Dialogue α)

/-- Answers questions in steps on a state of its own. -/
abbrev Answerer (τ : Type) := (q : Question) → HostM τ q.Answer

namespace Dialogue

variable {α β γ τ : Type}

def bind : Dialogue α → (α → Dialogue β) → Dialogue β
  | .done a, f => f a
  | .fail error, _ => .fail error
  | .ask q next, f => .ask q fun a => (next a).bind f

instance : Monad Dialogue where
  pure := .done
  bind := .bind

/-- The dialogue of one question. -/
def put (q : Question) : Dialogue q.Answer := .ask q .done

def ofExcept : Except EvalError α → Dialogue α
  | .ok a => .done a
  | .error error => .fail error

@[simp]
theorem done_bind (a : α) (f : α → Dialogue β) : (Dialogue.done a >>= f) = f a := rfl

@[simp]
theorem ask_bind (q : Question) (next : q.Answer → Dialogue α) (f : α → Dialogue β) :
    (Dialogue.ask q next >>= f) = .ask q fun a => next a >>= f := rfl

@[simp]
theorem put_bind (q : Question) (f : q.Answer → Dialogue α) : (put q >>= f) = .ask q f := rfl

theorem bind_done (d : Dialogue α) : d >>= .done = d := by
  induction d with
  | done a => rfl
  | fail error => rfl
  | ask q next ih => exact congrArg (Dialogue.ask q) (funext ih)

theorem bind_bind (d : Dialogue α) (f : α → Dialogue β) (g : β → Dialogue γ) :
    d >>= f >>= g = d >>= fun a => f a >>= g := by
  induction d with
  | done a => rfl
  | fail error => rfl
  | ask q next ih => exact congrArg (Dialogue.ask q) (funext ih)

instance : LawfulMonad Dialogue := .mk' Dialogue bind_done (fun _ _ => rfl) bind_bind

/-- What comes of a dialogue when an answerer is asked. -/
def run (h : Answerer τ) : Dialogue α → HostM τ α
  | .done a => pure a
  | .fail error => throw error
  | .ask q next => h q >>= fun a => run h (next a)

@[simp]
theorem run_done (h : Answerer τ) (a : α) : run h (.done a) = pure a := rfl

theorem run_ask (h : Answerer τ) (q : Question) (next : q.Answer → Dialogue α) :
    run h (.ask q next) = h q >>= fun a => run h (next a) := rfl

@[simp]
theorem run_put (h : Answerer τ) (q : Question) : run h (put q) = h q := bind_pure (h q)

theorem run_bind (h : Answerer τ) (d : Dialogue α) (f : α → Dialogue β) :
    run h (d >>= f) = run h d >>= fun a => run h (f a) := by
  induction d with
  | done a => rw [done_bind, run_done, pure_bind]
  | fail error => rfl
  | ask q next ih =>
    rw [ask_bind, run_ask, run_ask, bind_assoc]
    exact congrArg (h q >>= ·) (funext ih)

theorem run_ask_ok {h : Answerer τ} {q : Question} {next : q.Answer → Dialogue α} {s s' : τ}
    {a : q.Answer} (answer : h q s = (.ok a, s')) : run h (.ask q next) s = run h (next a) s' :=
  HostM.bind_of_ok answer _

theorem run_ask_error {h : Answerer τ} {q : Question} {next : q.Answer → Dialogue α} {s s' : τ}
    {error : EvalError} (answer : h q s = (.error error, s')) :
    run h (.ask q next) s = (.error error, s') :=
  HostM.bind_of_error answer _

end Dialogue

/-- Which questions may be asked, and what may be taken for granted of their answers. -/
structure Contract where
  asks : Question → Prop
  answers : (q : Question) → q.Answer → Prop

namespace Dialogue

variable {α β τ τ₁ τ₂ : Type}

/-- As long as the answers keep a contract, so do the questions, and what comes of them satisfies
`Q`. -/
def Keeps (c : Contract) (Q : α → Prop) : Dialogue α → Prop
  | .done a => Q a
  | .fail _ => True
  | .ask q next => c.asks q ∧ ∀ a, c.answers q a → Keeps c Q (next a)

theorem Keeps.bind {c : Contract} {P : α → Prop} {Q : β → Prop} {d : Dialogue α}
    {f : α → Dialogue β} (h : d.Keeps c P) (rest : ∀ a, P a → (f a).Keeps c Q) :
    (d >>= f).Keeps c Q := by
  induction d with
  | done a => exact rest a h
  | fail error => trivial
  | ask q next ih => exact ⟨h.1, fun a ha => ih a (h.2 a ha)⟩

theorem keeps_done {c : Contract} {Q : α → Prop} {a : α} (h : Q a) :
    (.done a : Dialogue α).Keeps c Q := h

theorem keeps_put {c : Contract} {q : Question} (h : c.asks q) : (put q).Keeps c (c.answers q) :=
  ⟨h, fun _ ha => ha⟩

/-- Two answerers give one dialogue the same end, and keep their states related, if they do so for
each question. Only questions that the dialogue may ask count, and only answers that are given. -/
theorem run_related {h₁ : Answerer τ₁} {h₂ : Answerer τ₂} {R : τ₁ → τ₂ → Prop} {c : Contract}
    (step : ∀ q s t, c.asks q → R s t →
      (h₁ q s).1 = (h₂ q t).1 ∧ R (h₁ q s).2 (h₂ q t).2 ∧
        ∀ a, (h₁ q s).1 = .ok a → c.answers q a)
    {Q : α → Prop} {d : Dialogue α} (keeps : d.Keeps c Q) {s : τ₁} {t : τ₂} (related : R s t) :
    (run h₁ d s).1 = (run h₂ d t).1 ∧ R (run h₁ d s).2 (run h₂ d t).2 ∧
      ∀ a, (run h₁ d s).1 = .ok a → Q a := by
  induction d generalizing s t with
  | done a => exact ⟨rfl, related, fun b hb => by cases hb; exact keeps⟩
  | fail error => exact ⟨rfl, related, fun b hb => by cases hb⟩
  | ask q next ih =>
    obtain ⟨asked, after⟩ := keeps
    obtain ⟨same, related', good⟩ := step q s t asked related
    rcases h₁s : h₁ q s with ⟨r, s'⟩
    rcases h₂t : h₂ q t with ⟨r', t'⟩
    rw [h₁s, h₂t] at same related'
    rw [h₁s] at good
    obtain rfl : r = r' := same
    cases r with
    | error error =>
      rw [run_ask_error h₁s, run_ask_error h₂t]
      exact ⟨rfl, related', fun b hb => by cases hb⟩
    | ok a =>
      rw [run_ask_ok h₁s, run_ask_ok h₂t]
      exact ih a (after a (good a rfl)) related'

/-- As `run_related`, when the answerers agree on all questions. -/
theorem run_agrees {h₁ : Answerer τ₁} {h₂ : Answerer τ₂} {f : τ₁ → τ₂}
    (step : ∀ q s, h₂ q (f s) = ((h₁ q s).1, f (h₁ q s).2)) (d : Dialogue α) (s : τ₁) :
    run h₂ d (f s) = ((run h₁ d s).1, f (run h₁ d s).2) := by
  induction d generalizing s with
  | done a => rfl
  | fail error => rfl
  | ask q next ih =>
    have asked := step q s
    rcases answered : h₁ q s with ⟨_ | a, s'⟩
    · rw [answered] at asked
      rw [run_ask_error asked, run_ask_error answered]
    · rw [answered] at asked
      rw [run_ask_ok asked, run_ask_ok answered]
      exact ih a s'

/-- A dialogue keeps what each of its questions keeps. -/
theorem run_invariant {h : Answerer τ} {I : τ → Prop} {c : Contract}
    (step : ∀ q s, c.asks q → I s → I (h q s).2 ∧ ∀ a, (h q s).1 = .ok a → c.answers q a)
    {Q : α → Prop} {d : Dialogue α} (keeps : d.Keeps c Q) {s : τ} (start : I s) :
    I (run h d s).2 ∧ ∀ a, (run h d s).1 = .ok a → Q a := by
  have step' : ∀ q s t, c.asks q → (s = t ∧ I s) →
      (h q s).1 = (h q t).1 ∧ ((h q s).2 = (h q t).2 ∧ I (h q s).2) ∧
        ∀ a, (h q s).1 = .ok a → c.answers q a := by
    rintro q s t asked ⟨rfl, hs⟩
    obtain ⟨hi, ha⟩ := step q s asked hs
    exact ⟨rfl, ⟨rfl, hi⟩, ha⟩
  obtain ⟨-, ⟨-, kept⟩, good⟩ :=
    run_related (R := fun s t => s = t ∧ I s) step' keeps ⟨rfl, start⟩
  exact ⟨kept, good⟩

end Dialogue

/-- A question with its answer, and the state in which the answerer was left. -/
structure Exchange (τ : Type) where
  question : Question
  answer : Except EvalError question.Answer
  after : τ

namespace Dialogue

variable {α τ : Type}

/-- All questions of a run, in their order. -/
def transcript (h : Answerer τ) : Dialogue α → τ → List (Exchange τ)
  | .done _, _ => []
  | .fail _, _ => []
  | .ask q next, s =>
    ⟨q, (h q s).1, (h q s).2⟩ ::
      match h q s with
      | (.ok a, s) => transcript h (next a) s
      | (.error _, _) => []

theorem transcript_ask_ok {h : Answerer τ} {q : Question} {next : q.Answer → Dialogue α} {s s' : τ}
    {a : q.Answer} (answer : h q s = (.ok a, s')) :
    transcript h (.ask q next) s = ⟨q, .ok a, s'⟩ :: transcript h (next a) s' := by
  rw [transcript, answer]

theorem transcript_ask_error {h : Answerer τ} {q : Question} {next : q.Answer → Dialogue α}
    {s s' : τ} {error : EvalError} (answer : h q s = (.error error, s')) :
    transcript h (.ask q next) s = [⟨q, .error error, s'⟩] := by
  rw [transcript, answer]

/-- The last question leaves the answerer as the run does. -/
theorem getLastD_transcript (h : Answerer τ) (d : Dialogue α) (s : τ) :
    ((transcript h d s).map Exchange.after).getLastD s = (run h d s).2 := by
  induction d generalizing s with
  | done a => rfl
  | fail error => rfl
  | ask q next ih =>
    rcases answered : h q s with ⟨_ | a, s'⟩
    · rw [run_ask_error answered]
      simp [transcript, answered]
    · rw [run_ask_ok answered, ← ih a s', transcript, List.map_cons, List.getLastD_cons]
      simp only [answered]

/-- What holds at every moment of a run. While answers are given, `I` passes from one moment to the
next; `P` is what a question leaves behind, whether it is answered or not. -/
theorem transcript_invariant {h : Answerer τ} {I P : List (Exchange τ) → τ → Prop}
    (step : ∀ past q s, I past s →
      P (past ++ [⟨q, (h q s).1, (h q s).2⟩]) (h q s).2 ∧
        ∀ a, (h q s).1 = .ok a → I (past ++ [⟨q, (h q s).1, (h q s).2⟩]) (h q s).2)
    {d : Dialogue α} {s : τ} {before : List (Exchange τ)} (start : I before s)
    {past future : List (Exchange τ)} {x : Exchange τ}
    (moment : transcript h d s = past ++ x :: future) : P (before ++ past ++ [x]) x.after := by
  induction d generalizing s before past with
  | done a => simp [transcript] at moment
  | fail error => simp [transcript] at moment
  | ask q next ih =>
    obtain ⟨left, go⟩ := step before q s start
    rw [transcript] at moment
    cases past with
    | nil =>
      obtain ⟨rfl, -⟩ := List.cons.inj moment
      simpa using left
    | cons y past =>
      obtain ⟨rfl, later⟩ := List.cons.inj moment
      rcases hs : h q s with ⟨_ | a, s'⟩
      · simp [hs] at later
      · simp only [hs] at later go
        simpa [hs] using ih a (go a rfl) later

/-- What is true of each question asked in a state that every question keeps. -/
theorem forall_mem_transcript {h : Answerer τ} {I : τ → Prop} {P : Exchange τ → Prop}
    (step : ∀ q s, I s → P ⟨q, (h q s).1, (h q s).2⟩ ∧ I (h q s).2) (d : Dialogue α) {s : τ}
    (start : I s) {x : Exchange τ} (hx : x ∈ transcript h d s) : P x := by
  induction d generalizing s with
  | done a => cases hx
  | fail error => cases hx
  | ask q next ih =>
    obtain ⟨here, kept⟩ := step q s start
    rcases answered : h q s with ⟨error | a, s'⟩
    · rw [answered] at here
      rw [transcript_ask_error answered] at hx
      obtain rfl := List.mem_singleton.1 hx
      exact here
    · rw [answered] at here kept
      rw [transcript_ask_ok answered] at hx
      rcases List.mem_cons.1 hx with rfl | later
      · exact here
      · exact ih a kept later

end Dialogue

end PatternDispatch
