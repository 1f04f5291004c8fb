import PatternDispatch.Proofs.CacheTransparency
import PatternDispatch.Proofs.HookDiscipline
import PatternDispatch.Proofs.ReportedCounts
import PatternDispatch.Proofs.SideBySide

/-! What a policy costs. Where hooks are pure and blind to the requested keys, dispatches under two
policies go through the same questions, and what the finer one has kept the coarser one has as well.
So the coarser one never calls a hook where the finer one does not. -/
namespace PatternDispatch

open Dialogue

namespace KeysCachePolicy

/-- Requests that share an answer under the finer policy share it under the coarser one. -/
def Coarser (policy finer : KeysCachePolicy) : Prop :=
  ∀ requested requested', finer.Shares requested requested' → policy.Shares requested requested'

theorem perValue_coarser (finer : KeysCachePolicy) : perValue.Coarser finer :=
  fun _ _ _ => trivial

theorem coarser_uncached (policy : KeysCachePolicy) : policy.Coarser .uncached :=
  fun _ _ shares => shares.elim

end KeysCachePolicy

namespace Question

/-- Whether a value is to be opened as a mapping, which is the first question of a hash pattern. -/
def isMapping : Question → Bool
  | .mapping _ _ => true
  | _ => false

end Question

namespace Call

def opensSequence : Call → Bool
  | .deconstruct _ _ => true
  | _ => false

def opensMapping : Call → Bool
  | .deconstructKeys _ _ _ => true
  | _ => false

/-- Calls of hooks are of two kinds. -/
theorem countP_of_noHooks {calls : List Call} (none : ∀ call ∈ calls, call.isHook = false) :
    calls.countP opensSequence = 0 ∧ calls.countP opensMapping = 0 := by
  simp only [List.countP_eq_zero]
  constructor
  · intro call made opens
    have other := none call made
    cases call <;> simp [isHook, opensSequence] at other opens
  · intro call made opens
    have other := none call made
    cases call <;> simp [isHook, opensMapping] at other opens

end Call

/-- What a value is asked for does not matter. -/
def Hooks.Blind (hooks : Hooks) : Prop :=
  ∀ v requested requested', hooks.pairs v requested = hooks.pairs v requested'

theorem Hooks.Blind.suits {hooks : Hooks} (blind : hooks.Blind) (policy : KeysCachePolicy) :
    policy.Suits hooks :=
  fun v requested requested' _ => blind v requested requested'

namespace Cache

/-- What is kept and counted after a request for a sequence. -/
def requestSequence (c : Cache) (v : Value)
    (answer : Except EvalError (Deconstructed (List Value))) : Cache :=
  if (c.sequence? v).isSome then c.countHit else c.learnSequence v answer

/-- What is kept and counted after a request for a mapping. -/
def requestMapping (c : Cache) (key : Option MappingKey)
    (answer : Except EvalError (Deconstructed Mapping)) : Cache :=
  if (c.mapping? key).isSome then c.countHit else c.learnMapping key answer

variable (c : Cache) (v : Value) (r : Except EvalError (Deconstructed (List Value)))
  (key : Option MappingKey) (r' : Except EvalError (Deconstructed Mapping))

@[simp]
theorem mapping?_requestSequence (key : Option MappingKey) :
    (c.requestSequence v r).mapping? key = c.mapping? key := by
  unfold requestSequence
  split
  · rfl
  · exact c.mapping?_learnSequence v r key

@[simp]
theorem sequence?_requestMapping : (c.requestMapping key r').sequence? v = c.sequence? v := by
  unfold requestMapping
  split
  · rfl
  · exact c.sequence?_learnMapping key r' v

@[simp]
theorem mappingCalls_requestSequence :
    (c.requestSequence v r).mappingCalls = c.mappingCalls := by
  unfold requestSequence learnSequence
  split
  · rfl
  · split <;> rfl

@[simp]
theorem sequenceCalls_requestMapping :
    (c.requestMapping key r').sequenceCalls = c.sequenceCalls := by
  unfold requestMapping learnMapping
  split
  · rfl
  · split <;> rfl

theorem sequenceCalls_requestSequence :
    (c.requestSequence v r).sequenceCalls =
      c.sequenceCalls + if (c.sequence? v).isSome then 0 else 1 := by
  unfold requestSequence learnSequence
  split
  · rfl
  · split <;> rfl

theorem mappingCalls_requestMapping :
    (c.requestMapping key r').mappingCalls =
      c.mappingCalls + if (c.mapping? key).isSome then 0 else 1 := by
  unfold requestMapping learnMapping
  split
  · rfl
  · split <;> rfl

/-- Each request is either a call or a hit. -/
theorem requests_requestSequence :
    (c.requestSequence v r).hookCalls + (c.requestSequence v r).hits =
      c.hookCalls + c.hits + 1 := by
  unfold requestSequence
  split
  · rfl
  · rw [hookCalls_learnSequence, hits_learnSequence]
    omega

theorem requests_requestMapping :
    (c.requestMapping key r').hookCalls + (c.requestMapping key r').hits =
      c.hookCalls + c.hits + 1 := by
  unfold requestMapping
  split
  · rfl
  · rw [hookCalls_learnMapping, hits_learnMapping]
    omega

variable {c}

theorem sequence?_requestSequence_congr {c' : Cache}
    (same : ∀ u, c.sequence? u = c'.sequence? u) (u : Value) :
    (c.requestSequence v r).sequence? u = (c'.requestSequence v r).sequence? u := by
  unfold requestSequence
  rw [← same v]
  cases kept : c.sequence? v with
  | some a => exact same u
  | none => exact sequence?_learnSequence_congr r kept (same v ▸ kept) (same u)

/-- A request leaves an answer for itself, if there is one, and for those that share it. -/
theorem kept_requestMapping (key' : Option MappingKey) :
    ((c.requestMapping key r').mapping? key').isSome ↔
      (c.mapping? key').isSome ∨ Shared key key' ∧ ∃ a, r' = .ok a := by
  unfold requestMapping
  cases kept : c.mapping? key with
  | some a =>
    have served : Shared key key' → (c.mapping? key').isSome := by
      rintro ⟨k, rfl, rfl⟩
      exact Option.isSome_of_mem kept
    exact ⟨.inl, fun h => h.elim id fun h => served h.1⟩
  | none =>
    simp only [Option.isSome_none, Bool.false_eq_true, if_false, Option.isSome_iff_exists,
      mapping?_learnMapping r' kept, exists_or, exists_and_left]

end Cache

namespace Engine

variable {σ : Type} (e : Engine σ)

/-- The engine with another policy. -/
def under (policy : KeysCachePolicy) : Engine σ :=
  { e with config := { e.config with keysCache := policy } }

theorem direct_under (policy : KeysCachePolicy) (q : Question) :
    (e.under policy).silent.direct q = e.silent.direct q := by
  cases q with
  | store t v => cases t <;> rfl
  | _ => rfl

theorem mappingKey?_uncached (v : Value) (requested : Option (List Name)) :
    (e.under .uncached).mappingKey? v requested = none := by
  unfold mappingKey?
  cases v.identity? <;> rfl

theorem cached_sequence_cache (v : Value) (t : Standing σ) :
    (e.cached (.sequence v) t).2.cache =
      t.cache.requestSequence v (e.host.deconstruct v t.session.world).1 := by
  unfold Cache.requestSequence
  cases kept : t.cache.sequence? v with
  | some a =>
    rw [e.cached_sequence_kept kept]
    rfl
  | none =>
    rw [e.cached_sequence_asked kept]
    rfl

theorem cached_mapping_cache (p : HashPattern) (v : Value) (t : Standing σ) :
    (e.cached (.mapping p v) t).2.cache =
      t.cache.requestMapping (e.mappingKey? v p.requestedKeys)
        (e.host.deconstructKeys v p.requestedKeys t.session.world).1 := by
  unfold Cache.requestMapping
  cases kept : t.cache.mapping? (e.mappingKey? v p.requestedKeys) with
  | some a =>
    rw [e.cached_mapping_kept kept]
    rfl
  | none =>
    rw [e.cached_mapping_asked kept]
    rfl

theorem cached_plain_cache {q : Question} (plain : q.opens = false) (t : Standing σ) :
    (e.cached q t).2.cache = t.cache := by
  rw [e.cached_of_plain plain]
  rfl

/-- A dispatch under a policy, with what it leaves kept and counted. -/
def endedUnder (policy : KeysCachePolicy) (c : CaseExpr) (s : Session σ) :
    Except EvalError Value × Standing σ :=
  run (e.under policy).silent.cached (Persistent.evalCase e.names c) ⟨s, .empty⟩

/-- The questions of a dispatch under a policy. -/
def askedUnder (policy : KeysCachePolicy) (c : CaseExpr) (s : Session σ) : List Question :=
  questions (e.under policy).silent.cached (Persistent.evalCase e.names c) ⟨s, .empty⟩

/-- How the answers kept under a coarser policy stand to those kept under a finer one. -/
structure NoDearer (policy finer : KeysCachePolicy) (cache cache' : Cache) : Prop where
  sequences (v : Value) : cache.sequence? v = cache'.sequence? v
  sequenceCalls : cache.sequenceCalls = cache'.sequenceCalls
  /-- What is kept under the finer policy is kept under the coarser one. -/
  mappings (v : Value) (requested : Option (List Name)) :
    (cache'.mapping? ((e.under finer).mappingKey? v requested)).isSome →
      (cache.mapping? ((e.under policy).mappingKey? v requested)).isSome
  mappingCalls : cache.mappingCalls ≤ cache'.mappingCalls

variable {e} {policy finer : KeysCachePolicy}

theorem shared_of_coarser (coarser : policy.Coarser finer) {v u : Value}
    {requested requested' : Option (List Name)}
    (shared : Shared ((e.under finer).mappingKey? v requested)
      ((e.under finer).mappingKey? u requested')) :
    Shared ((e.under policy).mappingKey? v requested)
      ((e.under policy).mappingKey? u requested') := by
  obtain ⟨sameValue, sameScope⟩ := shared_mappingKey? _ |>.1 shared
  have shares : finer.Shares requested requested' := (finer.shared_scope? _ _).1 sameScope
  exact (shared_mappingKey? _).2
    ⟨sameValue, (policy.shared_scope? _ _).2 (coarser _ _ shares)⟩

namespace NoDearer

variable {cache cache' : Cache}

theorem empty : e.NoDearer policy finer .empty .empty where
  sequences _ := rfl
  sequenceCalls := rfl
  mappings v requested kept := by simp at kept
  mappingCalls := Nat.le_refl _

theorem requestSequence (h : e.NoDearer policy finer cache cache') (v : Value)
    (r : Except EvalError (Deconstructed (List Value))) :
    e.NoDearer policy finer (cache.requestSequence v r) (cache'.requestSequence v r) where
  sequences := Cache.sequence?_requestSequence_congr v r h.sequences
  sequenceCalls := by
    rw [Cache.sequenceCalls_requestSequence, Cache.sequenceCalls_requestSequence, h.sequences v,
      h.sequenceCalls]
  mappings u requested := by
    rw [Cache.mapping?_requestSequence, Cache.mapping?_requestSequence]
    exact h.mappings u requested
  mappingCalls := by
    rw [Cache.mappingCalls_requestSequence, Cache.mappingCalls_requestSequence]
    exact h.mappingCalls

theorem requestMapping (coarser : policy.Coarser finer) (h : e.NoDearer policy finer cache cache')
    (v : Value) (requested : Option (List Name)) (r : Except EvalError (Deconstructed Mapping)) :
    e.NoDearer policy finer
      (cache.requestMapping ((e.under policy).mappingKey? v requested) r)
      (cache'.requestMapping ((e.under finer).mappingKey? v requested) r) where
  sequences u := by
    rw [Cache.sequence?_requestMapping, Cache.sequence?_requestMapping, h.sequences u]
  sequenceCalls := by
    rw [Cache.sequenceCalls_requestMapping, Cache.sequenceCalls_requestMapping, h.sequenceCalls]
  mappings u requested' := by
    rw [Cache.kept_requestMapping, Cache.kept_requestMapping]
    rintro (old | ⟨shared, answered⟩)
    · exact .inl (h.mappings u requested' old)
    · exact .inr ⟨shared_of_coarser coarser shared, answered⟩
  mappingCalls := by
    rw [Cache.mappingCalls_requestMapping, Cache.mappingCalls_requestMapping]
    have fewer := h.mappingCalls
    have kept := h.mappings v requested
    split
    · omega
    · next missing =>
      rw [if_neg fun kept' => missing (kept kept')]
      omega

end NoDearer

/-- Two dispatches, under a coarser and under a finer policy, at the same point. -/
structure InStep (e : Engine σ) (hooks : Hooks) (root : Value) (policy finer : KeysCachePolicy)
    (t t' : Standing σ) : Prop where
  session : t.session = t'.session
  faithful : (e.under policy).Faithful hooks root t.cache
  faithful' : (e.under finer).Faithful hooks root t'.cache
  noDearer : e.NoDearer policy finer t.cache t'.cache

section Runs

variable {hooks : Hooks} {root : Value}

theorem inStep_asked (pure : e.host.PureHooks hooks) (blind : hooks.Blind)
    (respect : hooks.RespectIdentity root) (coarser : policy.Coarser finer) {q : Question}
    {t t' : Standing σ} (asked : (Contract.opening (hooks.Reaches root)).asks q)
    (h : e.InStep hooks root policy finer t t') :
    ((e.under policy).silent.cached q t).1 = ((e.under finer).silent.cached q t').1 ∧
      e.InStep hooks root policy finer ((e.under policy).silent.cached q t).2
        ((e.under finer).silent.cached q t').2 := by
  obtain ⟨cache, here, faithful⟩ := cached_eq_direct (e := e.under policy) pure respect
    (blind.suits policy) asked h.faithful
  obtain ⟨cache', here', faithful'⟩ := cached_eq_direct (e := e.under finer) pure respect
    (blind.suits finer) asked h.faithful'
  have noDearer : e.NoDearer policy finer ((e.under policy).silent.cached q t).2.cache
      ((e.under finer).silent.cached q t').2.cache := by
    rcases q.opens_cases with ⟨v, rfl⟩ | ⟨p, v, rfl⟩ | plain
    · have answer (policy : KeysCachePolicy) (w : σ) :
          ((e.under policy).silent.host.deconstruct v w).1 = hooks.items v :=
        congrArg Prod.fst (pure.deconstruct v w)
      rw [cached_sequence_cache, cached_sequence_cache, answer, answer]
      exact h.noDearer.requestSequence v _
    · have answer (policy : KeysCachePolicy) (w : σ) :
          ((e.under policy).silent.host.deconstructKeys v p.requestedKeys w).1 =
            hooks.pairs v p.requestedKeys :=
        congrArg Prod.fst (pure.deconstructKeys v p.requestedKeys w)
      rw [cached_mapping_cache, cached_mapping_cache, answer, answer]
      exact h.noDearer.requestMapping coarser v p.requestedKeys _
    · rw [cached_plain_cache _ plain, cached_plain_cache _ plain]
      exact h.noDearer
  rw [here, here'] at noDearer
  rw [here, here', direct_under, direct_under, h.session]
  exact ⟨rfl, rfl, faithful, faithful', noDearer⟩

/-- Dialogues about subjects go through the same questions to the same end under both policies. -/
theorem run_in_step {α : Type} (pure : e.host.PureHooks hooks) (blind : hooks.Blind)
    (respect : hooks.RespectIdentity root) (coarser : policy.Coarser finer) {d : Dialogue α}
    {Q : α → Prop} (keeps : d.Keeps (.opening (hooks.Reaches root)) Q) {t t' : Standing σ}
    (h : e.InStep hooks root policy finer t t') :
    (run (e.under policy).silent.cached d t).1 = (run (e.under finer).silent.cached d t').1 ∧
      e.InStep hooks root policy finer (run (e.under policy).silent.cached d t).2
        (run (e.under finer).silent.cached d t').2 ∧
      questions (e.under policy).silent.cached d t =
        questions (e.under finer).silent.cached d t' := by
  have subjects : ∀ q ∈ questions (e.under policy).silent.cached d t,
      (Contract.opening (hooks.Reaches root)).asks q := by
    intro q asked
    refine keeps.asks_questions (I := fun t => (e.under policy).Faithful hooks root t.cache)
      (fun q t asked faithful => ?_) h.faithful asked
    -- answers are the hooks' own, so what is found in a subject is a subject
    obtain ⟨cache, agrees, faithful'⟩ := cached_eq_direct (e := e.under policy) pure respect
      (blind.suits policy) asked faithful
    rw [agrees]
    exact ⟨faithful', fun a => direct_answers (silent_pureHooks (e := e.under policy) pure) asked⟩
  exact run_side_by_side (fun q t t' asked h => inStep_asked pure blind respect coarser asked h)
    subjects h

/-- So do whole dispatches. -/
theorem evalCase_in_step (pure : e.host.PureHooks hooks) (blind : hooks.Blind)
    (coarser : policy.Coarser finer) (c : CaseExpr) (s : Session σ)
    (respect : ∀ v s', e.host.eval c.scrutinee s = (.ok v, s') → hooks.RespectIdentity v) :
    (e.endedUnder policy c s).1 = (e.endedUnder finer c s).1 ∧
      (e.endedUnder policy c s).2.session = (e.endedUnder finer c s).2.session ∧
      e.NoDearer policy finer (e.endedUnder policy c s).2.cache (e.endedUnder finer c s).2.cache ∧
      e.askedUnder policy c s = e.askedUnder finer c s := by
  have asked (policy : KeysCachePolicy) :
      (e.under policy).silent.cached (.eval c.scrutinee) ⟨s, .empty⟩ =
        ((e.host.eval c.scrutinee s).1, ⟨(e.host.eval c.scrutinee s).2, .empty⟩) := rfl
  simp only [endedUnder, askedUnder, Persistent.evalCase_eq_ask]
  rcases scrutinee : e.host.eval c.scrutinee s with ⟨error | v, s'⟩
  · rw [scrutinee] at asked
    rw [run_ask_error (asked policy), run_ask_error (asked finer),
      questions_ask_error (asked policy), questions_ask_error (asked finer)]
    exact ⟨rfl, rfl, .empty, rfl⟩
  · rw [scrutinee] at asked
    rw [run_ask_ok (asked policy), run_ask_ok (asked finer), questions_ask_ok (asked policy),
      questions_ask_ok (asked finer)]
    have start : e.InStep hooks v policy finer ⟨s', .empty⟩ ⟨s', .empty⟩ :=
      ⟨rfl, faithful_empty, faithful_empty, .empty⟩
    obtain ⟨result, after, same⟩ :=
      run_in_step pure blind (respect v s' scrutinee) coarser
        (Persistent.arms_keep .root c.elseBody c.arms) start
    exact ⟨result, after.session, after.noDearer, congrArg (_ :: ·) same⟩

end Runs

section Counts

variable (e) {α : Type}

/-- Requests are answered by calls and by hits. -/
theorem requests_counted (d : Dialogue α) (t : Standing σ) :
    (run e.cached d t).2.cache.hookCalls + (run e.cached d t).2.cache.hits =
      t.cache.hookCalls + t.cache.hits + (questions e.cached d t).countP Question.opens := by
  refine run_counts (fun t => t.cache.hookCalls + t.cache.hits) (fun q t => ?_) d t
  rcases q.opens_cases with ⟨v, rfl⟩ | ⟨p, v, rfl⟩ | plain
  · rw [cached_sequence_cache, Cache.requests_requestSequence]
    rfl
  · rw [cached_mapping_cache, Cache.requests_requestMapping]
    rfl
  · rw [cached_plain_cache _ plain, plain]
    rfl

/-- Without kept answers, each hash pattern that is reached is a call. -/
theorem uncached_counted (d : Dialogue α) (t : Standing σ) :
    (run (e.under .uncached).silent.cached d t).2.cache.mappingCalls =
      t.cache.mappingCalls +
        (questions (e.under .uncached).silent.cached d t).countP Question.isMapping := by
  refine run_counts (fun t => t.cache.mappingCalls) (fun q t => ?_) d t
  rcases q.opens_cases with ⟨v, rfl⟩ | ⟨p, v, rfl⟩ | plain
  · rw [cached_sequence_cache, Cache.mappingCalls_requestSequence]
    rfl
  · have missing : t.cache.mapping?
        ((e.under .uncached).silent.mappingKey? v p.requestedKeys) = none := by
      rw [show (e.under .uncached).silent.mappingKey? v p.requestedKeys = none from
        e.mappingKey?_uncached v p.requestedKeys]
      rfl
    rw [cached_mapping_cache, Cache.mappingCalls_requestMapping, missing]
    rfl
  · have other : q.isMapping = false := by
      cases q with
      | mapping p v => cases plain
      | _ => rfl
    rw [cached_plain_cache _ plain, other]
    rfl

/-- The calls counted are those on record. -/
def CountsCalls (t : Standing (Recorded σ)) : Prop :=
  t.cache.sequenceCalls = t.session.world.calls.countP Call.opensSequence ∧
    t.cache.mappingCalls = t.session.world.calls.countP Call.opensMapping

theorem countsCalls_asked (q : Question) (t : Standing (Recorded σ)) (h : CountsCalls t) :
    CountsCalls (e.recorded.silent.cached q t).2 := by
  obtain ⟨sequences, mappings⟩ := h
  rcases q.opens_cases with ⟨v, rfl⟩ | ⟨p, v, rfl⟩ | plain
  · cases kept : t.cache.sequence? v with
    | some a =>
      rw [cached_sequence_kept _ kept]
      exact ⟨sequences, mappings⟩
    | none =>
      have made : (e.recorded.silent.cached (.sequence v) t).2.session.world.calls =
          t.session.world.calls ++
            [.deconstruct v (e.host.deconstruct v t.session.world.world).1] := by
        rw [cached_sequence_asked _ kept]
        rfl
      rw [CountsCalls, made, cached_sequence_cache, Cache.sequenceCalls_requestSequence,
        Cache.mappingCalls_requestSequence, kept, List.countP_append, List.countP_append,
        ← sequences, ← mappings]
      exact ⟨rfl, rfl⟩
  · cases kept : t.cache.mapping? (e.recorded.silent.mappingKey? v p.requestedKeys) with
    | some a =>
      rw [cached_mapping_kept _ kept]
      exact ⟨sequences, mappings⟩
    | none =>
      have made : (e.recorded.silent.cached (.mapping p v) t).2.session.world.calls =
          t.session.world.calls ++ [.deconstructKeys v p.requestedKeys
            (e.host.deconstructKeys v p.requestedKeys t.session.world.world).1] := by
        rw [cached_mapping_asked _ kept]
        rfl
      rw [CountsCalls, made, cached_mapping_cache, Cache.sequenceCalls_requestMapping,
        Cache.mappingCalls_requestMapping, kept, List.countP_append, List.countP_append,
        ← sequences, ← mappings]
      exact ⟨rfl, rfl⟩
  · obtain ⟨more, made, none⟩ := direct_calls (e := e) plain t.session
    obtain ⟨noSequence, noMapping⟩ := Call.countP_of_noHooks none
    have after : (e.recorded.silent.cached q t).2.session.world.calls =
        t.session.world.calls ++ more := by
      rw [e.recorded.silent.cached_of_plain plain]
      exact made
    rw [CountsCalls, after, cached_plain_cache _ plain, List.countP_append, List.countP_append,
      noSequence, noMapping]
    exact ⟨sequences, mappings⟩

theorem calls_counted (policy : KeysCachePolicy) (c : CaseExpr) (s : Session σ) :
    let counts := (e.endedUnder policy c s).2.cache
    let calls := ((e.under policy).recorded.silent.evalCase c (s.withRecord [])).2.world.calls
    counts.sequenceCalls = calls.countP Call.opensSequence ∧
      counts.mappingCalls = calls.countP Call.opensMapping := by
  have counted := run_keeps (I := CountsCalls) (e.under policy).countsCalls_asked
    (Persistent.evalCase e.names c) (s := ⟨s.withRecord [], .empty⟩) ⟨rfl, rfl⟩
  have forgotten := (e.under policy).silent.run_forget (fun _ => true)
    (Persistent.evalCase e.names c) ⟨s.withRecord [], .empty⟩
  intro counts calls
  have same : counts = (run (e.under policy).recorded.silent.cached (Persistent.evalCase e.names c)
      ⟨s.withRecord [], .empty⟩).2.cache := congrArg (·.2.cache) forgotten
  have made : calls = (run (e.under policy).recorded.silent.cached (Persistent.evalCase e.names c)
      ⟨s.withRecord [], .empty⟩).2.session.world.calls :=
    congrArg (·.2.world.calls) ((e.under policy).recorded.evalCase_eq_ending c (s.withRecord []))
  rw [same, made]
  exact counted

end Counts

/-- With pure hooks that are blind to the requested keys, the policy shows in the number of calls
only. Dispatches under all policies come to the same end through the same questions, with the same
calls for sequences and the same number of requests. A coarser policy makes no more calls for
mappings, and without kept ones there is a call for each hash pattern that is reached. The counts
are those that the dispatch reports, and those of the calls on record. -/
theorem coarser_policies_call_no_more (e : Engine σ) (hooks : Hooks) (pure : e.host.PureHooks hooks)
    (blind : hooks.Blind) (c : CaseExpr) (s : Session σ)
    (respect : ∀ v s', e.host.eval c.scrutinee s = (.ok v, s') → hooks.RespectIdentity v) :
    let ended := fun policy => e.endedUnder policy c s
    let counts := fun policy => (ended policy).2.cache
    let asked := fun policy => e.askedUnder policy c s
    let calls := fun policy =>
      ((e.under policy).recorded.silent.evalCase c (s.withRecord [])).2.world.calls
    (∀ policy, (e.under policy).silent.evalCase c s =
        ((ended policy).1, (ended policy).2.session) ∧
      Told [] ((e.under policy).heard.evalCase c s.heard) (ended policy) ∧
      (counts policy).sequenceCalls = (calls policy).countP Call.opensSequence ∧
      (counts policy).mappingCalls = (calls policy).countP Call.opensMapping) ∧
    (∀ policy policy', (ended policy).1 = (ended policy').1 ∧
      (ended policy).2.session = (ended policy').2.session ∧ asked policy = asked policy' ∧
      (counts policy).sequenceCalls = (counts policy').sequenceCalls ∧
      (counts policy).hookCalls + (counts policy).hits =
        (counts policy').hookCalls + (counts policy').hits) ∧
    (counts .perValue).mappingCalls ≤ (counts .perKeySet).mappingCalls ∧
    (counts .perKeySet).mappingCalls ≤ (counts .uncached).mappingCalls ∧
    (counts .uncached).mappingCalls = (asked .uncached).countP Question.isMapping := by
  intro ended counts asked calls
  have step (policy finer : KeysCachePolicy) (coarser : policy.Coarser finer) :=
    evalCase_in_step pure blind coarser c s respect
  have requests (policy : KeysCachePolicy) :
      (counts policy).hookCalls + (counts policy).hits =
        (asked policy).countP Question.opens := by
    have counted := (e.under policy).silent.requests_counted (Persistent.evalCase e.names c)
      ⟨s, .empty⟩
    rwa [show Cache.empty.hookCalls + Cache.empty.hits = 0 from rfl, Nat.zero_add] at counted
  refine ⟨fun policy => ⟨(e.under policy).evalCase_eq_ending c s, (e.under policy).evalCase_told c s,
    e.calls_counted policy c s⟩, fun policy policy' => ?_, ?_, ?_, ?_⟩
  · -- both are in step with the dispatch that keeps no mapping
    obtain ⟨result, session, costs, same⟩ := step policy .uncached policy.coarser_uncached
    obtain ⟨result', session', costs', same'⟩ := step policy' .uncached policy'.coarser_uncached
    have same'' : asked policy = asked policy' := same.trans same'.symm
    exact ⟨result.trans result'.symm, session.trans session'.symm, same'',
      costs.sequenceCalls.trans costs'.sequenceCalls.symm, by rw [requests, requests, same'']⟩
  · exact (step .perValue .perKeySet (KeysCachePolicy.perValue_coarser _)).2.2.1.mappingCalls
  · exact (step .perKeySet .uncached (KeysCachePolicy.coarser_uncached _)).2.2.1.mappingCalls
  · exact (e.uncached_counted (Persistent.evalCase e.names c) ⟨s, .empty⟩).trans (Nat.zero_add _)

end Engine

namespace Hooks

/-- A hash of two symbols. -/
def two : Value := .hash ⟨0⟩ [(.symbol ⟨1⟩, .nil), (.symbol ⟨2⟩, .nil)]

theorem own_reaches_two {v : Value} (h : own.Reaches two v) : v = two ∨ v = .nil := by
  induction h with
  | root => exact .inl rfl
  | item inside answer hu ih =>
    rcases ih with rfl | rfl
    · cases answer
    · cases answer
  | entry inside answer hpair ih =>
    rcases ih with rfl | rfl
    · cases answer
      rcases List.mem_pair.1 hpair with rfl | rfl
      · exact .inr rfl
      · exact .inr rfl
    · cases answer

theorem own_respects_two : own.RespectIdentity two := by
  have one {v u : Value} (hv : own.Reaches two v) (hu : own.Reaches two u)
      (same : Shared v.identity? u.identity?) : v = u := by
    obtain ⟨id, hid, hid'⟩ := same
    rcases own_reaches_two hv with rfl | rfl
    · rcases own_reaches_two hu with rfl | rfl
      · rfl
      · cases hid'
    · cases hid
  exact .of_one one

end Hooks

/-- Three arms open one hash: two of them ask for one key, and the one between them for another. -/
def CaseExpr.reopening : CaseExpr where
  scrutinee := ⟨0⟩
  arms := [⟨.hash ⟨[(⟨1⟩, .literal (.bool true))], .ignored⟩, none, ⟨1⟩⟩,
    ⟨.hash ⟨[(⟨2⟩, .literal (.bool true))], .ignored⟩, none, ⟨1⟩⟩,
    ⟨.hash ⟨[(⟨1⟩, .literal .nil)], .ignored⟩, none, ⟨1⟩⟩]
  elseBody := none

theorem coarser_policies_call_no_more_sample :
    let e : Engine Nat := ⟨.reading Hooks.two, .new, .standard⟩
    let counts := fun policy => (e.endedUnder policy .reopening ⟨.empty, 0⟩).2.cache
    (counts .perValue).mappingCalls ≤ (counts .perKeySet).mappingCalls ∧
    (counts .perKeySet).mappingCalls ≤ (counts .uncached).mappingCalls ∧
    (counts .uncached).mappingCalls =
      (e.askedUnder .uncached .reopening ⟨.empty, 0⟩).countP Question.isMapping := by
  intro e counts
  have blind : Hooks.own.Blind := fun v _ _ => by cases v <;> rfl
  have respect : ∀ v s', e.host.eval CaseExpr.reopening.scrutinee ⟨.empty, 0⟩ = (.ok v, s') →
      Hooks.own.RespectIdentity v := by
    intro v s' evaluated
    cases evaluated
    exact Hooks.own_respects_two
  have costs := e.coarser_policies_call_no_more .own ⟨fun _ _ => rfl, fun _ _ _ => rfl⟩ blind
    .reopening ⟨.empty, 0⟩ respect
  dsimp only at costs
  exact costs.2.2

end PatternDispatch
