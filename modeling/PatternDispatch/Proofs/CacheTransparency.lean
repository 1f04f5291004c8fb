import PatternDispatch.Proofs.Requests
import PatternDispatch.Proofs.Questions

/-! Kept answers cannot be told from new ones where the hooks are pure. Every kept answer is what
the hooks answer for each value of its identity, so a dispatch that asks the host anew at every list
and hash pattern comes to the same end. Keys are checked after an answer was found, kept or not. -/
namespace PatternDispatch

open Dialogue

/-- What hooks answer that neither keep state nor change any. -/
structure Hooks where
  items : Value → Except EvalError (Deconstructed (List Value))
  pairs : Value → Option (List Name) → Except EvalError (Deconstructed Mapping)

namespace Hooks

variable (hooks : Hooks)

/-- Values that may be opened when `root` is matched: the root, and what is found in them. -/
inductive Reaches (root : Value) : Value → Prop where
  | root : Reaches root root
  | item {v u : Value} {items : List Value} (inside : Reaches root v)
    (answer : hooks.items v = .ok (.supported items)) (h : u ∈ items) : Reaches root u
  | entry {v : Value} {requested : Option (List Name)} {m : Mapping} {pair : Value × Value}
    (inside : Reaches root v) (answer : hooks.pairs v requested = .ok (.supported m))
    (h : pair ∈ m.pairs) : Reaches root pair.2

/-- Values inside `root` that share an identity are opened alike, being one value. -/
structure RespectIdentity (root : Value) : Prop where
  items {v u : Value} (hv : hooks.Reaches root v) (hu : hooks.Reaches root u)
    (same : Shared v.identity? u.identity?) : hooks.items v = hooks.items u
  pairs {v u : Value} (hv : hooks.Reaches root v) (hu : hooks.Reaches root u)
    (same : Shared v.identity? u.identity?) (requested : Option (List Name)) :
    hooks.pairs v requested = hooks.pairs u requested

end Hooks

/-- The hooks of a host are pure. -/
structure Host.PureHooks {σ : Type} (h : Host σ) (hooks : Hooks) : Prop where
  deconstruct (v : Value) (w : σ) : h.deconstruct v w = (hooks.items v, w)
  deconstructKeys (v : Value) (requested : Option (List Name)) (w : σ) :
    h.deconstructKeys v requested w = (hooks.pairs v requested, w)

/-- Requests that share an answer under a policy have the same answer. -/
def KeysCachePolicy.Suits (policy : KeysCachePolicy) (hooks : Hooks) : Prop :=
  ∀ v requested requested', policy.Shares requested requested' →
    hooks.pairs v requested = hooks.pairs v requested'

namespace Engine

variable {σ α : Type} (e : Engine σ)

/-- A dispatch without kept answers: the host is asked at every list and hash pattern. -/
def evalCaseDirect (c : CaseExpr) : EvalM σ Value := run e.direct (Persistent.evalCase e.names c)

/-- Every kept answer is the hooks' own, for all values that it may serve. -/
structure Faithful (hooks : Hooks) (root : Value) (cache : Cache) : Prop where
  items {v : Value} {a : Deconstructed (List Value)} (hv : hooks.Reaches root v)
    (kept : cache.sequence? v = some a) : hooks.items v = .ok a
  pairs {p : HashPattern} {v : Value} {a : Deconstructed Mapping} (hv : hooks.Reaches root v)
    (kept : cache.mapping? (e.mappingKey? v p.requestedKeys) = some a) :
    hooks.pairs v p.requestedKeys = .ok a

variable {e} {hooks : Hooks} {root : Value} {cache : Cache}

theorem faithful_empty : e.Faithful hooks root .empty where
  items _ kept := by simp at kept
  pairs _ kept := by simp at kept

theorem Faithful.countHit (faithful : e.Faithful hooks root cache) :
    e.Faithful hooks root cache.countHit where
  items := faithful.items
  pairs := faithful.pairs

theorem Faithful.learnSequence (faithful : e.Faithful hooks root cache)
    (respect : hooks.RespectIdentity root) {v : Value} (hv : hooks.Reaches root v)
    (missing : cache.sequence? v = none) :
    e.Faithful hooks root (cache.learnSequence v (hooks.items v)) where
  items hu kept := by
    rcases (Cache.sequence?_learnSequence _ missing).1 kept with old | ⟨same, answer⟩
    · exact faithful.items hu old
    · -- the answer may have been given for another value, but not for another identity
      rw [← respect.items hv hu same, answer]
  pairs hu kept := faithful.pairs hu (by simpa using kept)

theorem Faithful.learnMapping (faithful : e.Faithful hooks root cache)
    (respect : hooks.RespectIdentity root) (suits : e.config.keysCache.Suits hooks) {v : Value}
    (hv : hooks.Reaches root v) {p : HashPattern}
    (missing : cache.mapping? (e.mappingKey? v p.requestedKeys) = none) :
    e.Faithful hooks root
      (cache.learnMapping (e.mappingKey? v p.requestedKeys) (hooks.pairs v p.requestedKeys)) where
  items hu kept := faithful.items hu (by simpa using kept)
  pairs {p' u a} hu kept := by
    rcases (Cache.mapping?_learnMapping _ missing).1 kept with old | ⟨same, answer⟩
    · exact faithful.pairs hu old
    · obtain ⟨sameValue, sameScope⟩ := e.shared_mappingKey?.1 same
      rw [← respect.pairs hv hu sameValue, ← answer]
      exact (suits v _ _ ((e.config.keysCache.shared_scope? _ _).1 sameScope)).symm

/-- The check of the keys refuses an answer or leaves it as it is. -/
theorem checkKeys_cases (e : Engine σ) (p : HashPattern) (v : Value)
    (answer : Deconstructed Mapping) :
    e.checkKeys p v answer = answer ∨ ∃ error, e.checkKeys p v answer = .wrongShape error := by
  cases answer with
  | supported m =>
    cases spelled : e.misspelledKey? p m.pairs with
    | none =>
      left
      simp only [checkKeys, spelled, ite_self]
    | some key =>
      simp only [checkKeys, spelled]
      exact (ite_eq_or_eq _ _ _).symm.imp id fun refused => ⟨_, refused⟩
  | unsupported => exact .inl rfl
  | wrongShape error => exact .inl rfl

theorem checkKeys_supported {p : HashPattern} {v : Value} {answer : Deconstructed Mapping}
    {m : Mapping} (h : e.checkKeys p v answer = .supported m) : answer = .supported m := by
  rcases e.checkKeys_cases p v answer with same | ⟨error, refused⟩
  · exact same.symm.trans h
  · cases refused.symm.trans h

theorem silent_pureHooks (pure : e.host.PureHooks hooks) : e.silent.host.PureHooks hooks :=
  ⟨pure.deconstruct, pure.deconstructKeys⟩

theorem direct_sequence (pure : e.host.PureHooks hooks) (v : Value) (s : Session σ) :
    e.direct (.sequence v) s = (hooks.items v, s) := by
  simp only [direct, EvalM.ofHost, pure.deconstruct]

theorem direct_mapping (pure : e.host.PureHooks hooks) (p : HashPattern) (v : Value)
    (s : Session σ) :
    e.direct (.mapping p v) s = ((hooks.pairs v p.requestedKeys).map (e.checkKeys p v), s) := by
  simp only [direct, HostM.bind_apply, EvalM.ofHost, pure.deconstructKeys]
  cases hooks.pairs v p.requestedKeys <;> rfl

/-- A sequence is the hooks' own answer, kept or not. -/
theorem cached_sequence (pure : e.host.PureHooks hooks) (respect : hooks.RespectIdentity root)
    {v : Value} (hv : hooks.Reaches root v) {t : Standing σ}
    (faithful : e.Faithful hooks root t.cache) :
    ∃ cache, e.silent.cached (.sequence v) t = (hooks.items v, ⟨t.session, cache⟩) ∧
      e.Faithful hooks root cache := by
  cases kept : t.cache.sequence? v with
  | some a =>
    refine ⟨t.cache.countHit, ?_, faithful.countHit⟩
    rw [e.silent.cached_sequence_kept kept, faithful.items hv kept]
    rfl
  | none =>
    refine ⟨t.cache.learnSequence v (hooks.items v), ?_, faithful.learnSequence respect hv kept⟩
    rw [e.silent.cached_sequence_asked kept, (silent_pureHooks pure).deconstruct]
    rfl

/-- So is a mapping, up to the check of the keys. -/
theorem cached_mapping (pure : e.host.PureHooks hooks) (respect : hooks.RespectIdentity root)
    (suits : e.config.keysCache.Suits hooks) (p : HashPattern) {v : Value}
    (hv : hooks.Reaches root v) {t : Standing σ} (faithful : e.Faithful hooks root t.cache) :
    ∃ cache, e.silent.cached (.mapping p v) t =
        ((hooks.pairs v p.requestedKeys).map (e.checkKeys p v), ⟨t.session, cache⟩) ∧
      e.Faithful hooks root cache := by
  cases kept : t.cache.mapping? (e.mappingKey? v p.requestedKeys) with
  | some a =>
    refine ⟨t.cache.countHit, ?_, faithful.countHit⟩
    rw [e.silent.cached_mapping_kept kept, faithful.pairs hv kept]
    rfl
  | none =>
    refine ⟨t.cache.learnMapping (e.mappingKey? v p.requestedKeys)
      (hooks.pairs v p.requestedKeys), ?_, faithful.learnMapping respect suits hv kept⟩
    rw [e.silent.cached_mapping_asked kept, (silent_pureHooks pure).deconstructKeys]
    rfl

/-- What the hooks answer for a subject holds subjects. -/
theorem direct_answers (pure : e.host.PureHooks hooks) {q : Question} {s : Session σ}
    (asked : (Contract.opening (hooks.Reaches root)).asks q) {a : q.Answer}
    (answer : (e.direct q s).1 = .ok a) : (Contract.opening (hooks.Reaches root)).answers q a := by
  rcases q.opens_cases with ⟨v, rfl⟩ | ⟨p, v, rfl⟩ | plain
  · rw [direct_sequence pure] at answer
    rintro items rfl u hu
    exact .item asked answer hu
  · rw [direct_mapping pure] at answer
    rintro m rfl pair hpair
    cases found : hooks.pairs v p.requestedKeys with
    | error error =>
      rw [found] at answer
      cases answer
    | ok raw =>
      rw [found] at answer
      rw [checkKeys_supported (Except.ok.inj answer)] at found
      exact .entry asked found hpair
  · cases q with
    | sequence v => cases plain
    | mapping p v => cases plain
    | _ => trivial

/-- Asked for a subject, kept answers and the host agree, and what is kept stays faithful. -/
theorem cached_eq_direct (pure : e.host.PureHooks hooks) (respect : hooks.RespectIdentity root)
    (suits : e.config.keysCache.Suits hooks) {q : Question} {t : Standing σ}
    (asked : (Contract.opening (hooks.Reaches root)).asks q)
    (faithful : e.Faithful hooks root t.cache) :
    ∃ cache, e.silent.cached q t =
        ((e.silent.direct q t.session).1, ⟨(e.silent.direct q t.session).2, cache⟩) ∧
      e.Faithful hooks root cache := by
  rcases q.opens_cases with ⟨v, rfl⟩ | ⟨p, v, rfl⟩ | plain
  · rw [direct_sequence (silent_pureHooks pure)]
    exact cached_sequence pure respect asked faithful
  · rw [direct_mapping (silent_pureHooks pure)]
    exact cached_mapping pure respect suits p asked faithful
  · exact ⟨t.cache, by rw [e.silent.cached_of_plain plain]; rfl, faithful⟩

/-- So a dialogue about subjects comes to the same end with kept answers and without. -/
theorem run_cached_eq_direct (pure : e.host.PureHooks hooks) (respect : hooks.RespectIdentity root)
    (suits : e.config.keysCache.Suits hooks) {d : Dialogue α} {Q : α → Prop}
    (keeps : d.Keeps (.opening (hooks.Reaches root)) Q) {t : Standing σ}
    (faithful : e.Faithful hooks root t.cache) :
    ∃ cache, run e.silent.cached d t =
        ((run e.silent.direct d t.session).1, ⟨(run e.silent.direct d t.session).2, cache⟩) ∧
      e.Faithful hooks root cache := by
  have step : ∀ (q : Question) (t : Standing σ) (s : Session σ),
      (Contract.opening (hooks.Reaches root)).asks q →
      t.session = s ∧ e.Faithful hooks root t.cache →
      (e.silent.cached q t).1 = (e.silent.direct q s).1 ∧
        ((e.silent.cached q t).2.session = (e.silent.direct q s).2 ∧
          e.Faithful hooks root (e.silent.cached q t).2.cache) ∧
        ∀ a, (e.silent.cached q t).1 = .ok a →
          (Contract.opening (hooks.Reaches root)).answers q a := by
    rintro q t s asked ⟨rfl, faithful⟩
    obtain ⟨cache, agrees, faithful'⟩ := cached_eq_direct pure respect suits asked faithful
    rw [agrees]
    exact ⟨rfl, ⟨rfl, faithful'⟩, fun a => direct_answers (silent_pureHooks pure) asked⟩
  obtain ⟨result, ⟨session, faithful'⟩, -⟩ := run_related step keeps ⟨rfl, faithful⟩
  exact ⟨_, Prod.ext result (by rw [← session]), faithful'⟩

theorem evalCase_eq_direct (pure : e.host.PureHooks hooks)
    (suits : e.config.keysCache.Suits hooks) (c : CaseExpr) (s : Session σ)
    (respect : ∀ v s', e.host.eval c.scrutinee s = (.ok v, s') → hooks.RespectIdentity v) :
    e.silent.evalCase c s = e.silent.evalCaseDirect c s := by
  have asked : e.silent.cached (.eval c.scrutinee) ⟨s, .empty⟩ =
      ((e.host.eval c.scrutinee s).1, ⟨(e.host.eval c.scrutinee s).2, .empty⟩) := rfl
  have asked' : e.silent.direct (.eval c.scrutinee) s = e.host.eval c.scrutinee s := rfl
  change _ = run e.silent.direct (Persistent.evalCase e.names c) s
  rw [evalCase_eq_ending, ending, Persistent.evalCase_eq_ask]
  rcases scrutinee : e.host.eval c.scrutinee s with ⟨error | v, s'⟩
  · rw [scrutinee] at asked asked'
    rw [run_ask_error asked, run_ask_error asked']
  · rw [scrutinee] at asked asked'
    rw [run_ask_ok asked, run_ask_ok asked']
    obtain ⟨cache, agrees, -⟩ := run_cached_eq_direct (t := ⟨s', .empty⟩) pure
      (respect v s' scrutinee) suits (Persistent.arms_keep .root c.elseBody c.arms) faithful_empty
    rw [agrees]
    rfl

/-- A record without the hooks does not see whether they were called. -/
theorem recording_pureHooks (pure : e.host.PureHooks hooks) :
    (e.recording fun call => !call.isHook).host.PureHooks hooks where
  deconstruct v w := by
    simp only [recording, Host.recording, Recorded.step, pure.deconstruct]
    rfl
  deconstructKeys v requested w := by
    simp only [recording, Host.recording, Recorded.step, pure.deconstructKeys]
    rfl

/-- With pure hooks, and a policy that shares only answers that are the same, a dispatch that keeps
answers comes to the result, leaves the variables and the host, and makes the calls other than of
hooks that a dispatch without kept answers does. -/
theorem kept_answers_unobservable (e : Engine σ) (hooks : Hooks) (pure : e.host.PureHooks hooks)
    (suits : e.config.keysCache.Suits hooks) (c : CaseExpr) (s : Session σ)
    (respect : ∀ v s', e.host.eval c.scrutinee s = (.ok v, s') → hooks.RespectIdentity v) :
    e.silent.evalCase c s = e.silent.evalCaseDirect c s ∧
    ∀ calls, (e.recording fun call => !call.isHook).silent.evalCase c (s.withRecord calls) =
      (e.recording fun call => !call.isHook).silent.evalCaseDirect c (s.withRecord calls) := by
  refine ⟨evalCase_eq_direct pure suits c s respect, fun calls => ?_⟩
  refine evalCase_eq_direct (recording_pureHooks pure) suits c _ fun v s' evaluated => ?_
  have inside : e.host.eval c.scrutinee s = (.ok v, s'.forget) := by
    have forgotten := e.direct_forget (fun call => !call.isHook) (.eval c.scrutinee)
      (s.withRecord calls)
    rw [Session.forget_withRecord] at forgotten
    refine forgotten.trans ?_
    change ((Host.eval _ _ _).1, (Host.eval _ _ _).2.forget) = _
    rw [evaluated]
  exact respect v s'.forget inside

end Engine

namespace Hooks

/-- Arrays and hashes open themselves, and nothing else can be opened. -/
def own : Hooks where
  items
    | .array _ items => .ok (.supported items)
    | _ => .ok .unsupported
  pairs
    | .hash id pairs, _ => .ok (.supported ⟨id, pairs⟩)
    | _, _ => .ok .unsupported

/-- Values that share an identity are opened alike if they are one value. -/
theorem RespectIdentity.of_one {hooks : Hooks} {root : Value}
    (one : ∀ {v u}, hooks.Reaches root v → hooks.Reaches root u →
      Shared v.identity? u.identity? → v = u) : hooks.RespectIdentity root where
  items hv hu same := by rw [one hv hu same]
  pairs hv hu same requested := by rw [one hv hu same]

/-- An array that holds an empty one twice. -/
def twice : Value := .array ⟨0⟩ [.array ⟨1⟩ [], .array ⟨1⟩ []]

theorem own_reaches_twice {v : Value} (h : own.Reaches twice v) :
    v = twice ∨ v = .array ⟨1⟩ [] := by
  induction h with
  | root => exact .inl rfl
  | item inside answer hu ih =>
    rcases ih with rfl | rfl
    · cases answer
      exact .inr (by simpa using hu)
    · cases answer
      simp at hu
  | entry inside answer hpair ih =>
    rcases ih with rfl | rfl
    · cases answer
    · cases answer

theorem own_respects_twice : own.RespectIdentity twice := by
  have one {v u : Value} (hv : own.Reaches twice v) (hu : own.Reaches twice u)
      (same : Shared v.identity? u.identity?) : v = u := by
    obtain ⟨id, hid, hid'⟩ := same
    rcases own_reaches_twice hv with rfl | rfl <;> rcases own_reaches_twice hu with rfl | rfl
    · rfl
    · cases hid
      cases hid'
    · cases hid
      cases hid'
    · rfl
  exact .of_one one

end Hooks

/-- A host whose first expression is a given value; the others read variables. It counts what it is
told to store, and the identities it hands out. -/
def Host.reading (root : Value) : Host Nat where
  eval x := fun s =>
    match x.index with
    | 0 => (.ok root, s)
    | n + 1 => (.ok ((s.env.lookup? ⟨n⟩).getD .nil), s)
  resolveExternal _ := pure .nil
  assignExternal _ _ := fun w => (.ok (), w + 1)
  caseEq p v := pure (p.isNil && v.isNil)
  deconstruct v := fun w => (Hooks.own.items v, w)
  deconstructKeys v requested := fun w => (Hooks.own.pairs v requested, w)
  render _ := pure ""
  fresh := fun w => (⟨w⟩, w + 1)
  observe _ := pure ()

/-- Two arms open one array, and the second one opens its first item as well. -/
def CaseExpr.sample : CaseExpr where
  scrutinee := ⟨0⟩
  arms := [⟨.list (.exact [.literal .nil, .wildcard]), none, ⟨1⟩⟩,
    ⟨.list (.exact [.list (.exact []), .binding (.localVar ⟨1⟩)]), some ⟨false, ⟨2⟩⟩, ⟨2⟩⟩]
  elseBody := none

theorem kept_answers_unobservable_sample :
    let e : Engine Nat := ⟨.reading Hooks.twice, .new, .standard⟩
    e.silent.evalCase .sample ⟨.empty, 0⟩ = e.silent.evalCaseDirect .sample ⟨.empty, 0⟩ ∧
    (e.recording fun call => !call.isHook).silent.evalCase .sample ⟨.empty, ⟨0, []⟩⟩ =
      (e.recording fun call => !call.isHook).silent.evalCaseDirect .sample ⟨.empty, ⟨0, []⟩⟩ := by
  intro e
  have transparent := e.kept_answers_unobservable .own ⟨fun _ _ => rfl, fun _ _ _ => rfl⟩
    (fun v _ _ _ => by cases v <;> rfl) .sample ⟨.empty, 0⟩ fun v s' evaluated => by
      cases evaluated
      exact Hooks.own_respects_twice
  exact ⟨transparent.1, transparent.2 []⟩

end PatternDispatch
