import PatternDispatch.Proofs.Dialogue

/-! Two runs of one dialogue side by side. As long as each question gets the same answer in both,
the next question is the same as well; so what is to be shown of the whole runs is shown of one
question that is asked in both. -/
namespace PatternDispatch

namespace Dialogue

variable {α β τ τ₁ τ₂ : Type}

/-- The questions of a run, in their order. -/
def questions (h : Answerer τ) (d : Dialogue α) (s : τ) : List Question :=
  (transcript h d s).map Exchange.question

theorem questions_ask_ok {h : Answerer τ} {q : Question} {next : q.Answer → Dialogue α} {s s' : τ}
    {a : q.Answer} (answer : h q s = (.ok a, s')) :
    questions h (.ask q next) s = q :: questions h (next a) s' := by
  rw [questions, transcript_ask_ok answer, List.map_cons, questions]

theorem questions_ask_error {h : Answerer τ} {q : Question} {next : q.Answer → Dialogue α}
    {s s' : τ} {error : EvalError} (answer : h q s = (.error error, s')) :
    questions h (.ask q next) s = [q] := by
  rw [questions, transcript_ask_error answer, List.map_cons, List.map_nil]

/-- Nothing is asked to change what a dialogue comes to. -/
theorem questions_map (h : Answerer τ) (d : Dialogue α) (f : α → β) (s : τ) :
    questions h (d >>= fun a => .done (f a)) s = questions h d s := by
  induction d generalizing s with
  | done a => rfl
  | fail error => rfl
  | ask q next ih =>
    rw [ask_bind]
    rcases answered : h q s with ⟨error | a, s'⟩
    · rw [questions_ask_error answered, questions_ask_error answered]
    · rw [questions_ask_ok answered, questions_ask_ok answered, ih a s']

/-- As long as the answers keep a contract, all questions are allowed by it. -/
theorem Keeps.asks_questions {h : Answerer τ} {I : τ → Prop} {c : Contract} {Q : α → Prop}
    {d : Dialogue α} (keeps : d.Keeps c Q)
    (step : ∀ q s, c.asks q → I s → I (h q s).2 ∧ ∀ a, (h q s).1 = .ok a → c.answers q a) {s : τ}
    (start : I s) {q : Question} (asked : q ∈ questions h d s) : c.asks q := by
  induction d generalizing s with
  | done a => cases asked
  | fail error => cases asked
  | ask q' next ih =>
    obtain ⟨allowed, after⟩ := keeps
    obtain ⟨kept, good⟩ := step q' s allowed start
    rcases answered : h q' s with ⟨error | a, s'⟩
    · rw [questions_ask_error answered] at asked
      obtain rfl := List.mem_singleton.1 asked
      exact allowed
    · rw [answered] at kept good
      rw [questions_ask_ok answered] at asked
      rcases List.mem_cons.1 asked with rfl | later
      · exact allowed
      · exact ih a (after a (good a rfl)) kept later

/-- Two answerers lead a dialogue through the same questions to the same end, and keep their states
related, if they do so for each question that is asked. -/
theorem run_side_by_side {h₁ : Answerer τ₁} {h₂ : Answerer τ₂} {R : τ₁ → τ₂ → Prop}
    {P : Question → Prop}
    (step : ∀ q s t, P q → R s t → (h₁ q s).1 = (h₂ q t).1 ∧ R (h₁ q s).2 (h₂ q t).2)
    {d : Dialogue α} {s : τ₁} {t : τ₂} (asked : ∀ q ∈ questions h₁ d s, P q) (related : R s t) :
    (run h₁ d s).1 = (run h₂ d t).1 ∧ R (run h₁ d s).2 (run h₂ d t).2 ∧
      questions h₁ d s = questions h₂ d t := by
  induction d generalizing s t with
  | done a => exact ⟨rfl, related, rfl⟩
  | fail error => exact ⟨rfl, related, rfl⟩
  | ask q next ih =>
    have here : q ∈ questions h₁ (.ask q next) s := by
      rw [questions, transcript]
      exact List.mem_cons_self
    obtain ⟨same, related'⟩ := step q s t (asked q here) related
    rcases h₁s : h₁ q s with ⟨r, s'⟩
    rcases h₂t : h₂ q t with ⟨r', t'⟩
    rw [h₁s, h₂t] at same related'
    obtain rfl : r = r' := same
    cases r with
    | error error =>
      rw [run_ask_error h₁s, run_ask_error h₂t, questions_ask_error h₁s, questions_ask_error h₂t]
      exact ⟨rfl, related', rfl⟩
    | ok a =>
      rw [questions_ask_ok h₁s] at asked
      rw [run_ask_ok h₁s, run_ask_ok h₂t, questions_ask_ok h₁s, questions_ask_ok h₂t]
      obtain ⟨same, related'', asked'⟩ :=
        ih a (fun q hq => asked q (List.mem_cons_of_mem _ hq)) related'
      exact ⟨same, related'', congrArg (q :: ·) asked'⟩

/-- What goes up by one at each question of a kind counts these questions. -/
theorem run_counts {h : Answerer τ} (count : τ → Nat) {kind : Question → Bool}
    (step : ∀ q s, count (h q s).2 = count s + if kind q then 1 else 0) (d : Dialogue α) (s : τ) :
    count (run h d s).2 = count s + (questions h d s).countP kind := by
  induction d generalizing s with
  | done a => rfl
  | fail error => rfl
  | ask q next ih =>
    have here := step q s
    rcases answered : h q s with ⟨error | a, s'⟩
    · rw [answered] at here
      rw [run_ask_error answered, questions_ask_error answered, here, List.countP_singleton]
    · rw [answered] at here
      rw [run_ask_ok answered, questions_ask_ok answered, ih a s', here, List.countP_cons]
      omega

/-- What every question keeps, whatever it is, a run keeps. -/
theorem run_keeps {h : Answerer τ} {I : τ → Prop} (step : ∀ q s, I s → I (h q s).2)
    (d : Dialogue α) {s : τ} (start : I s) : I (run h d s).2 := by
  have step' : ∀ q s t, True → s = t ∧ I s →
      (h q s).1 = (h q t).1 ∧ (h q s).2 = (h q t).2 ∧ I (h q s).2 := by
    rintro q s t - ⟨rfl, hs⟩
    exact ⟨rfl, rfl, step q s hs⟩
  exact (run_side_by_side (R := fun s t => s = t ∧ I s) step' (fun _ _ => trivial)
    ⟨rfl, start⟩).2.1.2

end Dialogue

end PatternDispatch
