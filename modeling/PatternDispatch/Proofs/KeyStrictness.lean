import PatternDispatch.Proofs.CacheTransparency
import PatternDispatch.Proofs.CallAccounts

/-! Strictness about keys. A strict dispatch goes along with a lenient one, question by question,
until a hash pattern gets a mapping in which a text spells one of its keys. There the lenient
dispatch goes on as if nothing were the matter, and the strict one ends. Kept answers are judged
like new ones, anew for each pattern. -/
namespace PatternDispatch

open Dialogue

/-- A key that is a text and spells one of the keys of a pattern. -/
def HashPattern.SpelledBy (names : Interner) (p : HashPattern) (k : Value) (text : String) : Prop :=
  k = .str text ∧ ∃ n ∈ p.keys, names.text n = text

/-- A hash pattern gets a mapping that is not the payload of the hash it is matched against, and the
text `key` is the first one among its keys that spells a key of the pattern. -/
inductive Offends {τ : Type} (names : Interner) : Exchange τ → String → Prop where
  | intro {p : HashPattern} {v k w : Value} {m : Mapping} {before later : Pairs} {key : String}
    {after : τ} (foreign : ∀ pairs, v ≠ .hash m.id pairs)
    (found : m.pairs = before ++ (k, w) :: later) (spelled : p.SpelledBy names k key)
    (first : ∀ entry ∈ before, ∀ text, ¬ p.SpelledBy names entry.1 text) :
    Offends names ⟨.mapping p v, .ok (.supported m), after⟩ key

namespace Dialogue

variable {α β : Type} {names : Interner}

/-- A dialogue ends at every fault, with the error in it; it may fail elsewhere as well. -/
def HeedsFaults (names : Interner) : Dialogue α → Prop
  | .done _ => True
  | .fail _ => True
  | .ask q next => ∀ a,
    match q.fault? names a with
    | some error => next a = .fail error
    | none => (next a).HeedsFaults names

theorem FailsAtFaults.heeds {d : Dialogue α} (h : d.FailsAtFaults names) : d.HeedsFaults names := by
  induction d with
  | done a => trivial
  | fail error => trivial
  | ask q next ih =>
    intro a
    have here := h a
    cases fault : q.fault? names a with
    | some error =>
      simp only [fault] at here ⊢
      exact here
    | none =>
      simp only [fault] at here ⊢
      exact ih a here

theorem HeedsFaults.bind {d : Dialogue α} {f : α → Dialogue β} (hd : d.HeedsFaults names)
    (hf : ∀ a, (f a).HeedsFaults names) : (d >>= f).HeedsFaults names := by
  induction d with
  | done a => exact hf a
  | fail error => trivial
  | ask q next ih =>
    intro a
    have here := hd a
    cases fault : q.fault? names a with
    | some error =>
      simp only [fault] at here ⊢
      rw [here]
      rfl
    | none =>
      simp only [fault] at here ⊢
      exact ih a here

theorem heedsFaults_ask {q : Question} {next : q.Answer → Dialogue α}
    (harmless : ∀ a, q.fault? names a = none) (hn : ∀ a, (next a).HeedsFaults names) :
    (ask q next).HeedsFaults names := by
  intro a
  rw [harmless a]
  exact hn a

variable {τ : Type} {h : Answerer τ}

/-- After a question that was answered, a run goes on from where the answer left it. -/
theorem run_of_transcript {d : Dialogue α} {s : τ} {past future : List (Exchange τ)} {q : Question}
    {a : q.Answer} {after : τ} (moment : transcript h d s = past ++ ⟨q, .ok a, after⟩ :: future) :
    ∃ d' : Dialogue α, run h d s = run h d' after := by
  induction d generalizing s past with
  | done b => simp [transcript] at moment
  | fail error => simp [transcript] at moment
  | ask q' next ih =>
    rcases answered : h q' s with ⟨error | b, s'⟩
    · rw [transcript_ask_error answered] at moment
      cases past with
      | nil => cases moment
      | cons y past => simp at moment
    · rw [transcript_ask_ok answered] at moment
      rw [run_ask_ok answered]
      cases past with
      | nil =>
        cases moment
        exact ⟨_, rfl⟩
      | cons y past => exact ih b (List.cons.inj moment).2

end Dialogue

namespace Persistent

variable {names : Interner}

theorem commit_heeds (bs : Bound) : (commit bs).HeedsFaults names := by
  induction bs with
  | nil => trivial
  | cons b bs ih => exact heedsFaults_ask (fun _ => rfl) fun _ => ih

theorem declareAll_heeds (arms : List CaseArm) : (declareAll arms).HeedsFaults names := by
  induction arms with
  | nil => trivial
  | cons arm arms ih => exact heedsFaults_ask (fun _ => rfl) fun _ => ih

theorem guardPasses_heeds (guard : Option Guard) (bs : Bound) :
    (guardPasses guard bs).HeedsFaults names := by
  cases guard with
  | none => trivial
  | some g => exact heedsFaults_ask (fun _ => rfl) fun _ => trivial

theorem otherwise_heeds (v : Value) (elseBody : Option ExprId) :
    (otherwise v elseBody).HeedsFaults names := by
  cases elseBody with
  | none => exact heedsFaults_ask (fun _ => rfl) fun _ => trivial
  | some body => exact heedsFaults_ask (fun _ => rfl) fun _ => trivial

theorem tryArms_heeds (v : Value) (elseBody : Option ExprId) (arms : List CaseArm) :
    (tryArms names v elseBody arms).HeedsFaults names := by
  induction arms with
  | nil => exact otherwise_heeds v elseBody
  | cons arm arms ih =>
    refine (matchNode_fails arm.pattern v []).heeds.bind fun found => ?_
    cases found with
    | none => exact ih
    | some bs =>
      refine (guardPasses_heeds arm.guard bs).bind fun passed => ?_
      cases passed with
      | false => exact ih
      | true =>
        exact (commit_heeds bs).bind fun _ => heedsFaults_ask (fun _ => rfl) fun _ => trivial

/-- A case expression ends at the first answer with an error in it. -/
theorem evalCase_heeds (c : CaseExpr) : (evalCase names c).HeedsFaults names :=
  heedsFaults_ask (fun _ => rfl) fun v =>
    (declareAll_heeds c.arms).bind fun _ => tryArms_heeds v c.elseBody c.arms

end Persistent

section

variable {σ α : Type} {kind : Call → Prop} {cause : EvalError → Session (Recorded σ) → Prop}
  {s : Session (Recorded σ)} {r : Except EvalError α × Session (Recorded σ)}

theorem Accounted.calls_grow (h : Accounted kind cause s r) :
    s.world.calls <+: r.2.world.calls := by
  cases h with
  | done calls made => exact ⟨calls, made.symm⟩
  | called calls call made => exact ⟨calls ++ [call], made.symm⟩
  | caused calls made => exact ⟨calls, made.symm⟩

end

namespace Engine

variable {σ α : Type}

/-- The same engine, strict about keys or not. -/
def withStrictness (strict : Bool) (e : Engine σ) : Engine σ :=
  { e with config := { e.config with strictKeyShape := strict } }

/-- All questions of a case expression, with their answers. -/
def course (e : Engine σ) (c : CaseExpr) (s : Session σ) : List (Exchange (Standing σ)) :=
  transcript e.cached (Persistent.evalCase e.names c) ⟨s, .empty⟩

variable {e : Engine σ} {t : Standing σ}

theorem misspelledKey?_eq_some {p : HashPattern} {pairs : Pairs} {key : String} :
    e.misspelledKey? p pairs = some key ↔
      ∃ before k w later, pairs = before ++ (k, w) :: later ∧ p.SpelledBy e.names k key ∧
        ∀ entry ∈ before, ∀ text, ¬ p.SpelledBy e.names entry.1 text := by
  have spelled (k : Value) (text : String) :
      (k.str?.filter fun text => p.keys.any fun n => e.names.text n == text) = some text ↔
        p.SpelledBy e.names k text := by
    cases k with
    | str s =>
      simp only [Value.str?, Option.filter_eq_some_iff, HashPattern.SpelledBy, List.any_eq_true,
        beq_iff_eq, Value.str.injEq, Option.some.injEq]
    | _ => simp [Value.str?, HashPattern.SpelledBy]
  have unspelled (k : Value) :
      (k.str?.filter fun text => p.keys.any fun n => e.names.text n == text) = none ↔
        ∀ text, ¬ p.SpelledBy e.names k text := by
    rw [Option.eq_none_iff_forall_not_mem]
    exact forall_congr' fun text => not_congr (spelled k text)
  rw [misspelledKey?, List.findSome?_eq_some_iff]
  constructor
  · rintro ⟨before, ⟨k, w⟩, later, rfl, here, earlier⟩
    exact ⟨before, k, w, later, rfl, (spelled k key).1 here,
      fun entry he => (unspelled entry.1).1 (earlier entry he)⟩
  · rintro ⟨before, k, w, later, rfl, here, earlier⟩
    exact ⟨before, (k, w), later, rfl, (spelled k key).2 here,
      fun entry he => (unspelled entry.1).2 (earlier entry he)⟩

/-- How a strict engine takes an answer that a lenient one takes as it is. -/
def judge (e : Engine σ) : (q : Question) → q.Answer → q.Answer
  | .mapping p v, answer => (e.withStrictness true).checkKeys p v answer
  | _, answer => answer

/-- A hash is its own answer and is never refused. -/
theorem checkKeys_own (e : Engine σ) (p : HashPattern) (id : Identity) (pairs pairs' : Pairs) :
    e.checkKeys p (.hash id pairs) (.supported ⟨id, pairs'⟩) = .supported ⟨id, pairs'⟩ := by
  simp [checkKeys]

theorem checkKeys_foreign {p : HashPattern} {v : Value} {m : Mapping}
    (foreign : ∀ pairs, v ≠ .hash m.id pairs) :
    (e.withStrictness true).checkKeys p v (.supported m) =
      match e.misspelledKey? p m.pairs with
      | some key => .wrongShape (.nonSymbolKey key)
      | none => .supported m := by
  cases v with
  | hash id pairs =>
    have different : id ≠ m.id := by
      rintro rfl
      exact foreign pairs rfl
    simp only [checkKeys, withStrictness, beq_eq_false_iff_ne.2 different]
    rfl
  | _ => rfl

/-- Where there is no offence, a strict engine takes the answer as it is as well. -/
theorem judge_of_not_offends {q : Question} {a : q.Answer} {after : Standing σ}
    (clean : ∀ key, ¬ Offends e.names ⟨q, .ok a, after⟩ key) : e.judge q a = a := by
  cases q with
  | mapping p v =>
    cases a with
    | supported m =>
      by_cases own : ∃ pairs, v = .hash m.id pairs
      · obtain ⟨pairs, rfl⟩ := own
        exact checkKeys_own _ p m.id pairs m.pairs
      · have foreign : ∀ pairs, v ≠ .hash m.id pairs := fun pairs same => own ⟨pairs, same⟩
        have unspelled : e.misspelledKey? p m.pairs = none := by
          rw [Option.eq_none_iff_forall_not_mem]
          intro key spelled
          obtain ⟨before, k, w, later, found, here, first⟩ := misspelledKey?_eq_some.1 spelled
          exact clean key (.intro foreign found here first)
        rw [judge, checkKeys_foreign foreign, unspelled]
    | unsupported => rfl
    | wrongShape error => rfl
  | _ => rfl

/-- An offence is a fault to a strict engine. -/
theorem fault_of_offends {q : Question} {a : q.Answer} {after : Standing σ} {key : String}
    (offends : Offends e.names ⟨q, .ok a, after⟩ key) :
    q.fault? e.names (e.judge q a) = some (ShapeError.nonSymbolKey key).toError := by
  cases offends with
  | intro foreign found spelled first =>
    rw [judge, checkKeys_foreign foreign,
      misspelledKey?_eq_some.2 ⟨_, _, _, _, found, spelled, first⟩]
    rfl

/-- Strict or not, the same is asked for, and the same is kept. -/
theorem cached_strict (e : Engine σ) (q : Question) (t : Standing σ) :
    (e.withStrictness true).cached q t =
      (((e.withStrictness false).cached q t).1.map (e.judge q),
        ((e.withStrictness false).cached q t).2) := by
  have lenient (p : HashPattern) (v : Value) :
      (e.withStrictness false).checkKeys p v = fun answer => answer := by
    funext answer
    cases answer <;> rfl
  rcases q.opens_cases with ⟨v, rfl⟩ | ⟨p, v, rfl⟩ | plain
  · cases kept : t.cache.sequence? v with
    | some a =>
      rw [cached_sequence_kept _ kept, cached_sequence_kept _ kept]
      rfl
    | none =>
      rw [cached_sequence_asked _ kept, cached_sequence_asked _ kept]
      exact Prod.ext (congrFun Except.map_id _).symm rfl
  · cases kept : t.cache.mapping? (e.mappingKey? v p.requestedKeys) with
    | some a =>
      rw [(e.withStrictness true).cached_mapping_kept kept,
        (e.withStrictness false).cached_mapping_kept kept, lenient]
      rfl
    | none =>
      rw [(e.withStrictness true).cached_mapping_asked kept,
        (e.withStrictness false).cached_mapping_asked kept, lenient]
      refine Prod.ext (congrArg (Except.map _) ?_) rfl
      exact (congrFun Except.map_id _).symm
  · have same : (e.withStrictness true).direct q = (e.withStrictness false).direct q := by
      cases q with
      | mapping p v => cases plain
      | store target v => cases target <;> rfl
      | _ => rfl
    have taken : e.judge q = fun a => a := by
      cases q with
      | mapping p v => cases plain
      | _ => rfl
    rw [cached_of_plain _ plain, cached_of_plain _ plain, same, taken]
    exact Prod.ext (congrFun Except.map_id _).symm rfl

/-- Without an offence, a strict run is the lenient one. -/
theorem run_strict {d : Dialogue α}
    (clean : ∀ x ∈ transcript (e.withStrictness false).cached d t, ∀ key, ¬ Offends e.names x key) :
    run (e.withStrictness true).cached d t = run (e.withStrictness false).cached d t := by
  induction d generalizing t with
  | done a => rfl
  | fail error => rfl
  | ask q next ih =>
    have strict := e.cached_strict q t
    rcases answered : (e.withStrictness false).cached q t with ⟨error | a, t'⟩
    · rw [answered] at strict
      rw [run_ask_error answered, run_ask_error strict]
    · rw [transcript_ask_ok answered] at clean
      rw [answered] at strict
      have taken : e.judge q a = a := judge_of_not_offends (clean _ List.mem_cons_self)
      change _ = (Except.ok (e.judge q a), t') at strict
      rw [taken] at strict
      rw [run_ask_ok answered, run_ask_ok strict]
      exact ih a fun x hx => clean x (List.mem_cons_of_mem _ hx)

/-- A strict run goes along with the lenient one up to the first offence, and ends there. -/
theorem run_strict_of_offends {d : Dialogue α} (heeds : d.HeedsFaults e.names)
    {past future : List (Exchange (Standing σ))} {x : Exchange (Standing σ)} {key : String}
    (moment : transcript (e.withStrictness false).cached d t = past ++ x :: future)
    (clean : ∀ y ∈ past, ∀ key, ¬ Offends e.names y key) (offends : Offends e.names x key) :
    run (e.withStrictness true).cached d t =
      (.error (ShapeError.nonSymbolKey key).toError, x.after) := by
  induction d generalizing t past with
  | done a => simp [transcript] at moment
  | fail error => simp [transcript] at moment
  | ask q next ih =>
    have strict := e.cached_strict q t
    rcases answered : (e.withStrictness false).cached q t with ⟨error | a, t'⟩
    · -- a question that fails is the last one, and no offence
      rw [transcript_ask_error answered] at moment
      cases past with
      | nil =>
        obtain ⟨rfl, -⟩ := List.cons.inj moment
        cases offends
      | cons y past => simp at moment
    · rw [transcript_ask_ok answered] at moment
      rw [answered] at strict
      change _ = (Except.ok (e.judge q a), t') at strict
      rw [run_ask_ok strict]
      have here := heeds (e.judge q a)
      cases past with
      | nil =>
        obtain ⟨rfl, -⟩ := List.cons.inj moment
        simp only [fault_of_offends offends] at here
        rw [here]
        rfl
      | cons y past =>
        obtain ⟨rfl, later⟩ := List.cons.inj moment
        have taken : e.judge q a = a := judge_of_not_offends (clean _ List.mem_cons_self)
        rw [taken] at here ⊢
        cases fault : q.fault? e.names a with
        | some error =>
          -- a fault is the last answer of the lenient run as well
          simp only [fault] at here
          rw [here] at later
          simp [transcript] at later
        | none =>
          simp only [fault] at here
          exact ih a here later fun z hz => clean z (List.mem_cons_of_mem _ hz)

/-- Mappings are kept for hashes only, as their own payloads. -/
def OwnPayloads (c : Cache) : Prop :=
  ∀ key a, c.mapping? (some key) = some a → ∃ pairs, a = .supported ⟨key.id, pairs⟩

theorem ownPayloads_empty : OwnPayloads .empty := by
  intro key a kept
  simp at kept

/-- A hash that answers for itself gets through with its own payload, kept or not. -/
theorem cached_native
    (own : ∀ id pairs requested w,
      (e.host.deconstructKeys (.hash id pairs) requested w).1 = .ok (.supported ⟨id, pairs⟩))
    (payloads : OwnPayloads t.cache) (p : HashPattern) (id : Identity) (pairs : Pairs) :
    ∃ pairs' t', e.cached (.mapping p (.hash id pairs)) t = (.ok (.supported ⟨id, pairs'⟩), t') ∧
      OwnPayloads t'.cache := by
  cases kept : t.cache.mapping? (e.mappingKey? (.hash id pairs) p.requestedKeys) with
  | some a =>
    obtain ⟨key, hkey, found⟩ := Option.bind_eq_some_iff.1 kept
    have hid : some id = some key.id := (e.mappingKey?_eq_some.1 hkey).1
    obtain ⟨pairs', rfl⟩ := payloads key a found
    cases hid
    have answered := e.cached_mapping_kept (t := t) kept
    rw [checkKeys_own] at answered
    exact ⟨pairs', _, answered, payloads⟩
  | none =>
    have answered := e.cached_mapping_asked (t := t) kept
    have answer := own id pairs p.requestedKeys t.session.world
    rcases asked : e.host.deconstructKeys (.hash id pairs) p.requestedKeys t.session.world with
      ⟨r, world⟩
    rw [asked] at answered answer
    obtain rfl : r = .ok (.supported ⟨id, pairs⟩) := answer
    change _ = (Except.ok (e.checkKeys p (.hash id pairs) (.supported ⟨id, pairs⟩)), _) at answered
    rw [checkKeys_own] at answered
    refine ⟨pairs, _, answered, ?_⟩
    intro key a kept'
    rcases (Cache.mapping?_learnMapping _ kept).1 kept' with old | ⟨⟨key', hkey, same⟩, answer⟩
    · exact payloads key a old
    · cases same
      have hid : some id = some key.id := (e.mappingKey?_eq_some.1 hkey).1
      cases hid
      cases answer
      exact ⟨pairs, rfl⟩

/-- No other question changes which mappings are kept. -/
theorem cached_payloads (payloads : OwnPayloads t.cache) {q : Question}
    (other : ∀ p v, q ≠ .mapping p v) : OwnPayloads (e.cached q t).2.cache := by
  rcases q.opens_cases with ⟨v, rfl⟩ | ⟨p, v, rfl⟩ | plain
  · cases kept : t.cache.sequence? v with
    | some a =>
      rw [e.cached_sequence_kept kept]
      exact payloads
    | none =>
      rw [e.cached_sequence_asked kept]
      intro key a found
      exact payloads key a ((Cache.mapping?_learnSequence _ v _ _).symm.trans found)
  · exact absurd rfl (other p v)
  · rw [e.cached_of_plain plain]
    exact payloads

/-- Where a hash pattern gets to a hash that answers for itself, strictness makes no difference, and
there is no fault. -/
theorem cached_strict_native
    (own : ∀ id pairs requested w,
      (e.host.deconstructKeys (.hash id pairs) requested w).1 = .ok (.supported ⟨id, pairs⟩))
    (payloads : OwnPayloads t.cache) {q : Question}
    (native : ∀ p v, q = .mapping p v → ∃ id pairs, v = .hash id pairs) :
    (e.withStrictness true).cached q t = (e.withStrictness false).cached q t ∧
    OwnPayloads ((e.withStrictness false).cached q t).2.cache ∧
    ∀ r after, (e.withStrictness false).cached q t = (r, after) →
      (∀ key, ¬ Offends e.names ⟨q, r, after⟩ key) ∧
      ∀ p v, q = .mapping p v → (Exchange.mk q r after).error? e.names = none := by
  rw [cached_strict]
  by_cases opened : ∃ p v, q = .mapping p v
  · obtain ⟨p, v, rfl⟩ := opened
    obtain ⟨id, pairs, rfl⟩ := native p v rfl
    obtain ⟨pairs', t', answered, payloads'⟩ :=
      cached_native (e := e.withStrictness false) own payloads p id pairs
    rw [answered]
    have taken : e.judge (.mapping p (.hash id pairs)) (.supported ⟨id, pairs'⟩) =
        .supported ⟨id, pairs'⟩ := checkKeys_own _ p id pairs pairs'
    refine ⟨congrArg (fun a => (Except.ok a, t')) taken, payloads', ?_⟩
    rintro r after ⟨⟩
    constructor
    · intro key offends
      cases offends with
      | intro foreign => exact foreign pairs rfl
    · intro p' v' asked
      rfl
  · have other : ∀ p v, q ≠ .mapping p v := fun p v same => opened ⟨p, v, same⟩
    have taken : e.judge q = fun a => a := by
      cases q with
      | mapping p v => exact absurd rfl (other p v)
      | _ => rfl
    rw [taken]
    refine ⟨Prod.ext (congrFun Except.map_id _) rfl, cached_payloads payloads other, ?_⟩
    intro r after answered
    constructor
    · intro key offends
      cases offends with
      | intro => exact other _ _ rfl
    · intro p v asked
      exact absurd asked (other p v)

/-- As long as hash patterns get to hashes only, and these answer for themselves, there is no
offence, and no hash pattern ends a run. -/
theorem native_clean
    (own : ∀ id pairs requested w,
      (e.host.deconstructKeys (.hash id pairs) requested w).1 = .ok (.supported ⟨id, pairs⟩))
    {d : Dialogue α} (payloads : OwnPayloads t.cache)
    (native : ∀ x ∈ transcript (e.withStrictness true).cached d t, ∀ p v,
      x.question = .mapping p v → ∃ id pairs, v = .hash id pairs) :
    (∀ x ∈ transcript (e.withStrictness false).cached d t, ∀ key, ¬ Offends e.names x key) ∧
    ∀ x ∈ transcript (e.withStrictness true).cached d t, ∀ p v,
      x.question = .mapping p v → x.error? e.names = none := by
  induction d generalizing t with
  | done a => simp [transcript]
  | fail error => simp [transcript]
  | ask q next ih =>
    have hash : ∀ p v, q = .mapping p v → ∃ id pairs, v = .hash id pairs :=
      native _ (by rw [transcript]; exact List.mem_cons_self)
    obtain ⟨strict, payloads', harmless⟩ := cached_strict_native own payloads hash
    rcases answered : (e.withStrictness false).cached q t with ⟨error | a, t'⟩
    · rw [answered] at strict
      obtain ⟨clean, unfailed⟩ := harmless _ _ answered
      rw [transcript_ask_error answered, transcript_ask_error strict]
      simp only [List.forall_mem_singleton]
      exact ⟨clean, unfailed⟩
    · rw [answered] at strict payloads'
      obtain ⟨clean, unfailed⟩ := harmless _ _ answered
      rw [transcript_ask_ok strict] at native ⊢
      obtain ⟨cleanLater, unfailedLater⟩ :=
        ih a payloads' fun x hx => native x (List.mem_cons_of_mem _ hx)
      rw [transcript_ask_ok answered]
      simp only [List.forall_mem_cons]
      exact ⟨⟨clean, cleanLater⟩, unfailed, unfailedLater⟩

/-- A run adds to the record and takes nothing away. -/
theorem record_grows (e : Engine σ) (d : Dialogue α) (t : Standing (Recorded σ)) :
    t.session.world.calls <+: (run e.recorded.cached d t).2.session.world.calls := by
  induction d generalizing t with
  | done a => exact List.prefix_refl _
  | fail error => exact List.prefix_refl _
  | ask q next ih =>
    have accounted : Accounted (Call.MadeFor q) (fun _ _ => True) t.session
        ((e.recorded.cached q t).1, (e.recorded.cached q t).2.session) := e.cached_accounted q t
    have asked := accounted.calls_grow
    rcases answered : e.recorded.cached q t with ⟨error | a, t'⟩
    · rw [answered] at asked
      rw [run_ask_error answered]
      exact asked
    · rw [answered] at asked
      rw [run_ask_ok answered]
      exact asked.trans (ih a t')

/-- The calls made up to an answer are the first ones of the dispatch. -/
theorem calls_of_course (e : Engine σ) {c : CaseExpr} {s : Session (Recorded σ)}
    {past future : List (Exchange (Standing (Recorded σ)))} {q : Question} {a : q.Answer}
    {after : Standing (Recorded σ)}
    (moment : e.recorded.silent.course c s = past ++ ⟨q, .ok a, after⟩ :: future) :
    after.session.world.calls <+: (e.recorded.silent.evalCase c s).2.world.calls := by
  obtain ⟨d, rest⟩ := run_of_transcript moment
  have later : after.session.world.calls <+:
      (run e.recorded.silent.cached d after).2.session.world.calls := record_grows e.silent d after
  rw [evalCase_eq_ending, ending]
  exact (congrArg (·.2.session.world.calls) rest).symm ▸ later

/-- A dispatch without an offence is the same to a strict engine. -/
theorem evalCase_strict {c : CaseExpr} {s : Session σ}
    (clean : ∀ x ∈ (e.withStrictness false).silent.course c s, ∀ key, ¬ Offends e.names x key) :
    (e.withStrictness true).silent.evalCase c s = (e.withStrictness false).silent.evalCase c s := by
  have same :
      run (e.silent.withStrictness true).cached (Persistent.evalCase e.names c) ⟨s, .empty⟩ =
        run (e.silent.withStrictness false).cached (Persistent.evalCase e.names c) ⟨s, .empty⟩ :=
    run_strict clean
  rw [evalCase_eq_ending, evalCase_eq_ending]
  exact congrArg (fun r => (r.1, r.2.session)) same

/-- To a strict engine, a dispatch ends with the first offence in it. -/
theorem evalCase_strict_of_offends {c : CaseExpr} {s : Session σ}
    {past future : List (Exchange (Standing σ))} {x : Exchange (Standing σ)} {key : String}
    (moment : (e.withStrictness false).silent.course c s = past ++ x :: future)
    (clean : ∀ y ∈ past, ∀ key, ¬ Offends e.names y key) (offends : Offends e.names x key) :
    (e.withStrictness true).silent.evalCase c s =
      (.error (ShapeError.nonSymbolKey key).toError, x.after.session) := by
  have aborted : run (e.silent.withStrictness true).cached (Persistent.evalCase e.names c)
      ⟨s, .empty⟩ = (.error (ShapeError.nonSymbolKey key).toError, x.after) :=
    run_strict_of_offends (Persistent.evalCase_heeds c) moment clean offends
  rw [evalCase_eq_ending]
  exact congrArg (fun r => (r.1, r.2.session)) aborted

/-- Strictness about keys only adds aborts. Suppose that in the lenient dispatch no hash pattern
gets a foreign mapping in which a text spells one of its keys. Then the strict dispatch is the same:
its result, the variables, the host and the calls. Otherwise the strict dispatch goes along with the
lenient one up to the first such answer and ends there, with the error that names the first such
text and after no other calls than the lenient dispatch has made so far. So hashes that answer for
themselves never cause that error. The record of the calls changes nothing else. -/
theorem strictness_only_aborts (e : Engine σ) (c : CaseExpr) (s : Session σ) :
    let lenient := (e.withStrictness false).recorded.silent
    let strict := (e.withStrictness true).recorded.silent
    let start := s.withRecord []
    ((∀ x ∈ lenient.course c start, ∀ key, ¬ Offends e.names x key) →
      strict.evalCase c start = lenient.evalCase c start) ∧
    (∀ past x future key, lenient.course c start = past ++ x :: future →
      (∀ y ∈ past, ∀ key, ¬ Offends e.names y key) → Offends e.names x key →
        strict.evalCase c start =
          (.error (ShapeError.nonSymbolKey key).toError, x.after.session) ∧
        x.after.session.world.calls <+: (lenient.evalCase c start).2.world.calls) ∧
    (∀ methods, (∀ v requested, e.host.deconstructKeys v requested =
        ExceptT.lift (v.deconstructKeys methods requested)) →
      (∀ x ∈ strict.course c start, ∀ p v, x.question = .mapping p v →
        ∃ id pairs, v = .hash id pairs) →
      strict.evalCase c start = lenient.evalCase c start ∧
      ∀ x ∈ strict.course c start, ∀ p v, x.question = .mapping p v →
        x.error? e.names = none) ∧
    ∀ b, (e.withStrictness b).silent.evalCase c s =
      (((e.withStrictness b).recorded.silent.evalCase c start).1,
        ((e.withStrictness b).recorded.silent.evalCase c start).2.forget) := by
  intro lenient strict start
  have alike (clean : ∀ x ∈ lenient.course c start, ∀ key, ¬ Offends e.names x key) :
      strict.evalCase c start = lenient.evalCase c start :=
    evalCase_strict (e := e.recorded) clean
  refine ⟨alike, ?_, ?_, fun b => (e.withStrictness b).evalCase_forget _ c start⟩
  · intro past x future key moment clean offends
    constructor
    · exact evalCase_strict_of_offends (e := e.recorded) moment clean offends
    · cases offends with
      | intro => exact (e.withStrictness false).calls_of_course moment
  · intro methods default native
    have own (id : Identity) (pairs : Pairs) (requested : Option (List Name)) (w : Recorded σ) :
        (e.recorded.silent.host.deconstructKeys (.hash id pairs) requested w).1 =
          .ok (.supported ⟨id, pairs⟩) := by
      change (e.host.deconstructKeys _ _ _).1 = _
      rw [default]
      rfl
    obtain ⟨clean, unfailed⟩ := native_clean (e := e.recorded.silent) own ownPayloads_empty native
    exact ⟨alike clean, unfailed⟩

end Engine

/-- An object answers with a text in the place of a symbol: the arm is reached, its hook is called
once, and the strict dispatch ends with the text in the error. -/
theorem strictness_only_aborts_sample :
    let names : Interner := ⟨["", "a"], by simp, rfl⟩
    let host : Host Nat := { Host.reading (.object ⟨7⟩ ⟨0⟩ []) with
      deconstructKeys := fun _ _ w => (.ok (.supported ⟨⟨0⟩, [(.str "a", .nil)]⟩), w + 1) }
    let e : Engine Nat := ⟨host, names, ⟨.uncached, true⟩⟩
    let c : CaseExpr := ⟨⟨0⟩, [⟨.hash ⟨[(⟨1⟩, .wildcard)], .ignored⟩, none, ⟨0⟩⟩], none⟩
    let strict := (e.withStrictness true).recorded.silent
    (strict.evalCase c ⟨.empty, ⟨0, []⟩⟩).1 = .error (ShapeError.nonSymbolKey "a").toError ∧
    (strict.evalCase c ⟨.empty, ⟨0, []⟩⟩).2.world.world = 1 := by
  intro names host e c strict
  have offends (after : Standing (Recorded Nat)) : Offends names
      ⟨.mapping ⟨[(⟨1⟩, .wildcard)], .ignored⟩ (.object ⟨7⟩ ⟨0⟩ []),
        .ok (.supported ⟨⟨0⟩, [(.str "a", .nil)]⟩), after⟩ "a" := by
    apply @Offends.intro _ _ _ _ _ .nil _ [] []
    · intro pairs same
      cases same
    · rfl
    · exact ⟨rfl, ⟨1⟩, List.mem_singleton.2 rfl, rfl⟩
    · intro entry absent
      cases absent
  -- the scrutinee and the declaration of the variables come before
  have aborted := (e.strictness_only_aborts c ⟨.empty, 0⟩).2.1 [_, _] _ _ "a" rfl
    (by
      intro y hy key bad
      obtain rfl | rfl := List.mem_pair.1 hy
      · cases bad
      · cases bad)
    (offends _)
  exact ⟨(congrArg Prod.fst aborted.1).trans rfl, (congrArg (·.2.world.world) aborted.1).trans rfl⟩

end PatternDispatch
