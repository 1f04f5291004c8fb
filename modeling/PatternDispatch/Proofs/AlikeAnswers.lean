import PatternDispatch.Proofs.Composition
import PatternDispatch.Proofs.Questions

/-! Mappings that a hash pattern cannot tell apart. Of the pairs it gets, a pattern looks at the
values of its own keys and at the number; only with a named rest does it look at all pairs and their
order. The identity of a mapping does not matter. So two answerers may differ in all the rest and
still lead a pattern to the same end. -/
namespace PatternDispatch

/-- What a hash pattern sees of two answers is the same. -/
inductive HashPattern.Alike (p : HashPattern) :
    Deconstructed Mapping → Deconstructed Mapping → Prop where
  | same (answer : Deconstructed Mapping) : Alike p answer answer
  | mappings {m m' : Mapping}
    (values : ∀ n ∈ p.keys, m.pairs.getSymbol? n = m'.pairs.getSymbol? n)
    (size : m.pairs.length = m'.pairs.length)
    (all : p.requestedKeys = none → m.pairs = m'.pairs) : Alike p (.supported m) (.supported m')

/-- Only answers to requests for mappings may differ. -/
def Question.Alike : (q : Question) → q.Answer → q.Answer → Prop
  | .mapping p _, answer, answer' => p.Alike answer answer'
  | _, answer, answer' => answer = answer'

/-- The same failure, or answers that are alike. -/
inductive Question.Agree (q : Question) :
    Except EvalError q.Answer → Except EvalError q.Answer → Prop where
  | error (error : EvalError) : Agree q (.error error) (.error error)
  | ok {a b : q.Answer} (alike : q.Alike a b) : Agree q (.ok a) (.ok b)

theorem Question.Alike.rfl {q : Question} {a : q.Answer} : q.Alike a a := by
  cases q with
  | mapping p v => exact .same a
  | _ => exact Eq.refl a

theorem Question.Agree.rfl {q : Question} {r : Except EvalError q.Answer} : q.Agree r r := by
  cases r with
  | error error => exact .error error
  | ok a => exact .ok .rfl

namespace Dialogue

variable {α β τ₁ τ₂ : Type}

/-- A dialogue goes on in the same way after answers that are alike. -/
def Indifferent : Dialogue α → Prop
  | .done _ => True
  | .fail _ => True
  | .ask q next => (∀ a b, q.Alike a b → next a = next b) ∧ ∀ a, (next a).Indifferent

theorem Indifferent.bind {d : Dialogue α} {f : α → Dialogue β} (hd : d.Indifferent)
    (hf : ∀ a, (f a).Indifferent) : (d >>= f).Indifferent := by
  induction d with
  | done a => exact hf a
  | fail error => trivial
  | ask q next ih =>
    obtain ⟨alike, later⟩ := hd
    constructor
    · intro a b hab
      exact congrArg (· >>= f) (alike a b hab)
    · exact fun a => ih a (later a)

/-- A question that is answered in one way only. -/
theorem indifferent_ask {q : Question} {next : q.Answer → Dialogue α}
    (one : ∀ a b, q.Alike a b → a = b) (hn : ∀ a, (next a).Indifferent) :
    (ask q next).Indifferent :=
  ⟨fun a b hab => congrArg next (one a b hab), hn⟩

/-- Answerers whose answers are alike lead an indifferent dialogue to the same end. Only questions
that the dialogue may ask count. -/
theorem run_alike {h₁ : Answerer τ₁} {h₂ : Answerer τ₂} {R : τ₁ → τ₂ → Prop} {c : Contract}
    (step : ∀ q s t, c.asks q → R s t →
      q.Agree (h₁ q s).1 (h₂ q t).1 ∧ R (h₁ q s).2 (h₂ q t).2 ∧
        ∀ a, (h₁ q s).1 = .ok a → c.answers q a)
    {Q : α → Prop} {d : Dialogue α} (keeps : d.Keeps c Q) (indifferent : d.Indifferent) {s : τ₁}
    {t : τ₂} (related : R s t) :
    (run h₁ d s).1 = (run h₂ d t).1 ∧ R (run h₁ d s).2 (run h₂ d t).2 := by
  induction d generalizing s t with
  | done a => exact ⟨rfl, related⟩
  | fail error => exact ⟨rfl, related⟩
  | ask q next ih =>
    obtain ⟨asked, after⟩ := keeps
    obtain ⟨alike, later⟩ := indifferent
    obtain ⟨agree, related', good⟩ := step q s t asked related
    rcases h₁s : h₁ q s with ⟨r, s'⟩
    rcases h₂t : h₂ q t with ⟨r', t'⟩
    rw [h₁s, h₂t] at agree related'
    rw [h₁s] at good
    cases agree with
    | error error =>
      rw [run_ask_error h₁s, run_ask_error h₂t]
      exact ⟨rfl, related'⟩
    | @ok a b hab =>
      rw [run_ask_ok h₁s, run_ask_ok h₂t, ← alike a b hab]
      exact ih a (after a (good a rfl)) (later a) related'

end Dialogue

namespace Persistent

open Dialogue

variable {names : Interner}

/-- Entries only look up their own keys. -/
theorem matchEntries_congr {entries : List (Name × Pattern)} {pairs pairs' : Pairs}
    (values : ∀ n ∈ entries.map Prod.fst, pairs.getSymbol? n = pairs'.getSymbol? n) (bs : Bound) :
    matchEntries names entries pairs bs = matchEntries names entries pairs' bs := by
  induction entries generalizing bs with
  | nil => rfl
  | cons entry entries ih =>
    obtain ⟨n, p⟩ := entry
    simp only [List.map_cons, List.forall_mem_cons] at values
    obtain ⟨here, later⟩ := values
    simp only [matchEntries, here]
    cases pairs'.getSymbol? n with
    | none => rfl
    | some v =>
      refine congrArg (matchNode names p v bs >>= ·) (funext fun found => ?_)
      cases found with
      | none => rfl
      | some bs' => exact ih later bs'

theorem matchRest_congr {p : HashPattern} {pairs pairs' : Pairs}
    (size : pairs.length = pairs'.length) (all : p.requestedKeys = none → pairs = pairs')
    (bs : Bound) : matchRest p pairs bs = matchRest p pairs' bs := by
  unfold matchRest
  cases rest : p.rest with
  | absent => rfl
  | ignored => rfl
  | closed => simp only [size]
  | named t =>
    have everything : p.requestedKeys = none := by simp [HashPattern.requestedKeys, rest]
    rw [all everything]

theorem matchPairs_congr {p : HashPattern} {pairs pairs' : Pairs}
    (values : ∀ n ∈ p.keys, pairs.getSymbol? n = pairs'.getSymbol? n)
    (size : pairs.length = pairs'.length) (all : p.requestedKeys = none → pairs = pairs')
    (bs : Bound) : matchPairs names p pairs bs = matchPairs names p pairs' bs := by
  rw [matchPairs, matchPairs, matchEntries_congr values bs]
  refine congrArg (_ >>= ·) (funext fun found => ?_)
  cases found with
  | none => rfl
  | some bs' => exact matchRest_congr size all bs'

/-- Only what is found in the pairs is opened. -/
theorem matchPairs_keeps {S : Value → Prop} (p : HashPattern) {pairs : Pairs}
    (parts : ∀ entry ∈ pairs, S entry.2) (bs : Bound) :
    (matchPairs names p pairs bs).Keeps (.matching S fun _ => True) fun _ => True := by
  have each : ∀ entry ∈ p.entries, NodeKeeps names S (fun _ => True) entry.2 :=
    fun entry _ => matchNode_keeps entry.2 fun _ _ => trivial
  exact (matchEntries_keeps each parts bs).both fun bs' => matchRest_keeps p pairs bs'

/-- Whatever is open about the answers to a pattern does not show. -/
theorem indifferent_composes (names : Interner) :
    Composes names fun _ d => d.Indifferent where
  done _ := trivial
  bind := Indifferent.bind
  lookUp n := by
    apply indifferent_ask
    · exact fun _ _ same => same
    intro found
    cases found <;> trivial
  openSequence v := by
    apply indifferent_ask
    · exact fun _ _ same => same
    intro answer
    cases answer <;> trivial
  matchHash p v bs inside := by
    rw [matchHash_eq_ask]
    constructor
    · intro answer answer' alike
      cases alike with
      | same => rfl
      | mappings values size all => exact matchPairs_congr values size all bs
    · intro answer
      cases answer with
      | supported m => exact inside m.pairs
      | unsupported => trivial
      | wrongShape error => trivial
  external r := indifferent_ask (fun _ _ same => same) fun _ => trivial
  evalWith bs x := indifferent_ask (fun _ _ same => same) fun _ => trivial
  caseEq p v := indifferent_ask (fun _ _ same => same) fun _ => trivial
  fresh := indifferent_ask (fun _ _ same => same) fun _ => trivial
  report event _ := indifferent_ask (fun _ _ same => same) fun _ => trivial

theorem matchPairs_indifferent (p : HashPattern) (pairs : Pairs) (bs : Bound) :
    (matchPairs names p pairs bs).Indifferent := by
  have whole := indifferent_composes names
  exact whole.matchPairs (fun entry _ => whole.matchNode entry.2) pairs bs

end Persistent

end PatternDispatch
