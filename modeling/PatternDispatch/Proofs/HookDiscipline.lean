import PatternDispatch.Proofs.PersistentDispatch
import PatternDispatch.Proofs.Requests

/-! How often a dispatch opens a value, and what its patterns then see. Every call of a hook is on
record; no two of them are for the same key, and a request is answered by the one call made for its
key, however long ago that was and whatever the hook would answer now. -/
namespace PatternDispatch

open Dialogue

namespace KeysCachePolicy

theorem Shares.symm {policy : KeysCachePolicy} {requested requested' : Option (List Name)}
    (h : policy.Shares requested requested') : policy.Shares requested' requested :=
  (policy.shared_scope? _ _).1 ((policy.shared_scope? _ _).2 h).symm

theorem Shares.trans {policy : KeysCachePolicy} {first second third : Option (List Name)}
    (h : policy.Shares first second) (h' : policy.Shares second third) :
    policy.Shares first third :=
  (policy.shared_scope? _ _).1
    (((policy.shared_scope? _ _).2 h).trans ((policy.shared_scope? _ _).2 h'))

/-- Two calls of one hook for one key. -/
def Repeats (policy : KeysCachePolicy) : Call → Call → Prop
  | .deconstruct v _, .deconstruct u _ => Shared v.identity? u.identity?
  | .deconstructKeys v requested _, .deconstructKeys u requested' _ =>
    Shared v.identity? u.identity? ∧ policy.Shares requested requested'
  | _, _ => False

/-- Whether a call was made for the key of a request. -/
def Serves (policy : KeysCachePolicy) : Call → Question → Prop
  | .deconstruct v _, .sequence u => Shared v.identity? u.identity?
  | .deconstructKeys v requested _, .mapping p u =>
    Shared v.identity? u.identity? ∧ policy.Shares requested p.requestedKeys
  | _, _ => False

/-- Requests that have a key. -/
def Keeps (policy : KeysCachePolicy) : Question → Prop
  | .sequence v => v.identity?.isSome
  | .mapping _ v => v.identity?.isSome ∧ policy ≠ .uncached
  | _ => False

variable {policy : KeysCachePolicy} {a b : Call} {q : Question}

theorem Serves.repeats (ha : policy.Serves a q) (hb : policy.Serves b q) : policy.Repeats a b := by
  cases q with
  | sequence v =>
    cases a <;> cases b <;> first | exact ha.elim | exact hb.elim | exact ha.trans hb.symm
  | mapping p v =>
    cases a <;> cases b <;>
      first | exact ha.elim | exact hb.elim | exact ⟨ha.1.trans hb.1.symm, ha.2.trans hb.2.symm⟩
  | _ => cases a <;> exact ha.elim

theorem Serves.isHook (h : policy.Serves a q) : a.isHook = true := by
  cases a with
  | deconstruct v r => rfl
  | deconstructKeys v requested r => rfl
  | _ => cases q <;> exact h.elim

theorem Repeats.isHook (h : policy.Repeats a b) : b.isHook = true := by
  cases b with
  | deconstruct v r => rfl
  | deconstructKeys v requested r => rfl
  | _ => cases a <;> exact h.elim

/-- A policy that keeps answers lets a request share its own. -/
theorem Shares.refl (h : policy ≠ .uncached) (requested : Option (List Name)) :
    policy.Shares requested requested := by
  cases policy with
  | perValue => trivial
  | uncached => exact absurd rfl h
  | perKeySet =>
    cases requested with
    | none => trivial
    | some ks => exact fun _ => Iff.rfl

theorem Keeps.opens (h : policy.Keeps q) : q.opens = true := by
  cases q with
  | sequence v => rfl
  | mapping p v => rfl
  | _ => exact h.elim

end KeysCachePolicy

namespace Call

/-- Hooks that did not fail. -/
def Answered : Call → Prop
  | .deconstruct _ r => ∃ a, r = .ok a
  | .deconstructKeys _ _ r => ∃ a, r = .ok a
  | _ => True

end Call

namespace Engine

variable {σ τ : Type} (e : Engine σ)

/-- The answer that a pattern gets out of a call. The check of the keys is the pattern's own. -/
def Gives : Call → (q : Question) → Except EvalError q.Answer → Prop
  | .deconstruct _ r, .sequence _, answer => answer = r
  | .deconstructKeys _ _ r, .mapping p v, answer => answer = r.map (e.checkKeys p v)
  | _, _, _ => False

/-- A request with a key has the answer of the call that was made for it. -/
def Snapshot (calls : List Call) (x : Exchange τ) : Prop :=
  e.config.keysCache.Keeps x.question →
    (∃ call ∈ calls, e.config.keysCache.Serves call x.question) ∧
    ∀ call ∈ calls, e.config.keysCache.Serves call x.question → e.Gives call x.question x.answer

/-- What holds between the requests so far, the calls on record and the counts. -/
structure Moment (past : List (Exchange τ)) (calls : List Call) (cache : Cache) : Prop where
  once : calls.Pairwise fun a b => ¬ e.config.keysCache.Repeats a b
  counted : cache.hookCalls = calls.countP Call.isHook
  reached : cache.hookCalls + cache.hits = past.countP (·.question.opens)
  snapshot : ∀ x ∈ past, e.Snapshot calls x

/-- The answers kept are those on record, as long as no hook has failed. -/
structure Settled (calls : List Call) (cache : Cache) : Prop where
  sequences (v : Value) (a : Deconstructed (List Value)) :
    cache.sequence? v = some a ↔
      ∃ u, Shared u.identity? v.identity? ∧ .deconstruct u (.ok a) ∈ calls
  mappings (v : Value) (p : HashPattern) (a : Deconstructed Mapping) :
    cache.mapping? (e.mappingKey? v p.requestedKeys) = some a ↔
      ∃ u requested, (Shared u.identity? v.identity? ∧
        e.config.keysCache.Shares requested p.requestedKeys) ∧
        .deconstructKeys u requested (.ok a) ∈ calls
  answered : ∀ call ∈ calls, call.Answered

variable {e} {past : List (Exchange τ)} {calls : List Call} {cache : Cache}

theorem Snapshot.append {x : Exchange τ} (h : e.Snapshot calls x) {more : List Call}
    (others : e.config.keysCache.Keeps x.question →
      ∀ call ∈ more, ¬ e.config.keysCache.Serves call x.question) :
    e.Snapshot (calls ++ more) x := by
  intro keeps
  obtain ⟨⟨call, hc, serves⟩, gives⟩ := h keeps
  refine ⟨⟨call, List.mem_append_left more hc, serves⟩, fun other ho servesOther => ?_⟩
  rcases List.mem_append.1 ho with old | new
  · exact gives other old servesOther
  · exact absurd servesOther (others keeps other new)

theorem moment_empty : e.Moment ([] : List (Exchange τ)) [] .empty where
  once := List.Pairwise.nil
  counted := rfl
  reached := rfl
  snapshot := by simp

theorem settled_empty : e.Settled [] .empty where
  sequences := by simp
  mappings := by simp
  answered := by simp

/-- Calls that open nothing change nothing. -/
theorem Moment.quiet (m : e.Moment past calls cache) {x : Exchange τ}
    (plain : x.question.opens = false) {more : List Call}
    (noHooks : ∀ call ∈ more, call.isHook = false) :
    e.Moment (past ++ [x]) (calls ++ more) cache where
  once := by
    have fresh (old new : Call) (hn : new ∈ more) : ¬ e.config.keysCache.Repeats old new :=
      fun repeats => by simpa [noHooks new hn] using repeats.isHook
    have apart : more.Pairwise fun a b => ¬ e.config.keysCache.Repeats a b :=
      List.pairwise_of_forall_mem_list fun old _ new hn => fresh old new hn
    exact List.pairwise_append.2 ⟨m.once, apart, fun old _ new hn => fresh old new hn⟩
  counted := by
    have none : more.countP Call.isHook = 0 := List.countP_eq_zero.2 fun call hc => by
      simp [noHooks call hc]
    rw [List.countP_append, none, m.counted, Nat.add_zero]
  reached := by
    rw [m.reached, List.countP_append]
    simp [plain]
  snapshot y hy := by
    rcases List.mem_append.1 hy with old | new
    · refine (m.snapshot y old).append fun _ call hc serves => ?_
      simpa [noHooks call hc] using serves.isHook
    · obtain rfl := List.mem_singleton.1 new
      intro keeps
      simpa [plain] using keeps.opens

/-- A request may be answered by a call made before. -/
theorem Moment.hit (m : e.Moment past calls cache) {x : Exchange τ}
    (opens : x.question.opens = true) (found : e.Snapshot calls x) :
    e.Moment (past ++ [x]) calls cache.countHit where
  once := m.once
  counted := m.counted
  reached := by
    have before := m.reached
    have counted : cache.countHit.hookCalls + cache.countHit.hits =
        cache.hookCalls + cache.hits + 1 := rfl
    rw [counted, before, List.countP_append]
    simp [opens]
  snapshot y hy := by
    rcases List.mem_append.1 hy with old | new
    · exact m.snapshot y old
    · rw [List.mem_singleton.1 new]
      exact found

/-- Or else a call is made, the first one for its key. -/
theorem Moment.asked (m : e.Moment past calls cache) {x : Exchange τ}
    (opens : x.question.opens = true) {call : Call} (hook : call.isHook = true)
    (first : ∀ old ∈ calls, ¬ e.config.keysCache.Repeats old call)
    (gives : e.config.keysCache.Keeps x.question →
      e.config.keysCache.Serves call x.question ∧ e.Gives call x.question x.answer)
    {cache' : Cache} (calls' : cache'.hookCalls = cache.hookCalls + 1)
    (hits' : cache'.hits = cache.hits) :
    e.Moment (past ++ [x]) (calls ++ [call]) cache' where
  once := by
    refine List.pairwise_append.2 ⟨m.once, List.pairwise_singleton _ _, fun old ho new hn => ?_⟩
    rw [List.mem_singleton.1 hn]
    exact first old ho
  counted := by
    rw [calls', m.counted, List.countP_append]
    simp [hook]
  reached := by
    have before := m.reached
    have one : [x].countP (·.question.opens) = 1 := by simp [opens]
    rw [List.countP_append, one]
    omega
  snapshot y hy := by
    rcases List.mem_append.1 hy with old | new
    · -- an earlier request with the key of the new call has had a call already
      refine (m.snapshot y old).append fun keeps new hn serves => ?_
      obtain rfl := List.mem_singleton.1 hn
      obtain ⟨⟨earlier, he, servesEarlier⟩, -⟩ := m.snapshot y old keeps
      exact first earlier he (servesEarlier.repeats serves)
    · obtain rfl := List.mem_singleton.1 new
      intro keeps
      obtain ⟨serves, answer⟩ := gives keeps
      refine ⟨⟨call, by simp, serves⟩, fun other ho servesOther => ?_⟩
      rcases List.mem_append.1 ho with old | new
      · exact absurd (servesOther.repeats serves) (first other old)
      · rw [List.mem_singleton.1 new]
        exact answer

theorem Settled.quiet (settled : e.Settled calls cache) {more : List Call}
    (noHooks : ∀ call ∈ more, call.isHook = false) : e.Settled (calls ++ more) cache where
  sequences v a := by
    have others (u : Value) : Call.deconstruct u (.ok a) ∉ more := fun h => by
      simpa [Call.isHook] using noHooks _ h
    simp [settled.sequences v a, others]
  mappings v p a := by
    have others (u : Value) (requested : Option (List Name)) :
        Call.deconstructKeys u requested (.ok a) ∉ more := fun h => by
      simpa [Call.isHook] using noHooks _ h
    simp [settled.mappings v p a, others]
  answered call hc := by
    rcases List.mem_append.1 hc with old | new
    · exact settled.answered call old
    · have plain := noHooks call new
      cases call <;> trivial

theorem Settled.countHit (settled : e.Settled calls cache) : e.Settled calls cache.countHit where
  sequences := settled.sequences
  mappings := settled.mappings
  answered := settled.answered

theorem Settled.learnSequence (settled : e.Settled calls cache) {v : Value}
    (missing : cache.sequence? v = none) (a : Deconstructed (List Value)) :
    e.Settled (calls ++ [.deconstruct v (.ok a)]) (cache.learnSequence v (.ok a)) where
  sequences u b := by
    rw [Cache.sequence?_learnSequence _ missing, settled.sequences u b]
    constructor
    · rintro (⟨w, same, logged⟩ | ⟨same, answer⟩)
      · exact ⟨w, same, List.mem_append_left _ logged⟩
      · cases answer
        exact ⟨v, same, by simp⟩
    · rintro ⟨w, same, logged⟩
      rcases List.mem_append.1 logged with old | new
      · exact .inl ⟨w, same, old⟩
      · cases List.mem_singleton.1 new
        exact .inr ⟨same, rfl⟩
  mappings u p b := by
    rw [Cache.mapping?_learnSequence, settled.mappings u p b]
    simp
  answered := List.forall_mem_append.2 ⟨settled.answered, List.forall_mem_singleton.2 ⟨a, rfl⟩⟩

theorem Settled.learnMapping (settled : e.Settled calls cache) {v : Value} {p : HashPattern}
    (missing : cache.mapping? (e.mappingKey? v p.requestedKeys) = none)
    (a : Deconstructed Mapping) :
    e.Settled (calls ++ [.deconstructKeys v p.requestedKeys (.ok a)])
      (cache.learnMapping (e.mappingKey? v p.requestedKeys) (.ok a)) where
  sequences u b := by
    rw [Cache.sequence?_learnMapping, settled.sequences u b]
    simp
  mappings u p' b := by
    rw [Cache.mapping?_learnMapping _ missing, settled.mappings u p' b, shared_mappingKey?,
      KeysCachePolicy.shared_scope?]
    constructor
    · rintro (⟨w, requested, same, logged⟩ | ⟨same, answer⟩)
      · exact ⟨w, requested, same, List.mem_append_left _ logged⟩
      · cases answer
        exact ⟨v, p.requestedKeys, same, by simp⟩
    · rintro ⟨w, requested, same, logged⟩
      rcases List.mem_append.1 logged with old | new
      · exact .inl ⟨w, requested, same, old⟩
      · cases List.mem_singleton.1 new
        exact .inr ⟨same, rfl⟩
  answered := List.forall_mem_append.2 ⟨settled.answered, List.forall_mem_singleton.2 ⟨a, rfl⟩⟩

theorem Settled.sequence_snapshot (settled : e.Settled calls cache) {v : Value}
    {a : Deconstructed (List Value)} (kept : cache.sequence? v = some a) (after : τ) :
    e.Snapshot calls ⟨.sequence v, .ok a, after⟩ := by
  intro _
  obtain ⟨u, same, logged⟩ := (settled.sequences v a).1 kept
  refine ⟨⟨_, logged, same⟩, fun call hc serves => ?_⟩
  cases call with
  | deconstruct w r =>
    obtain ⟨b, rfl⟩ := settled.answered _ hc
    have kept' := (settled.sequences v b).2 ⟨w, serves, hc⟩
    exact congrArg Except.ok (Option.some.inj (kept.symm.trans kept'))
  | _ => exact serves.elim

theorem Settled.mapping_snapshot (settled : e.Settled calls cache) {v : Value} {p : HashPattern}
    {a : Deconstructed Mapping} (kept : cache.mapping? (e.mappingKey? v p.requestedKeys) = some a)
    (after : τ) : e.Snapshot calls ⟨.mapping p v, .ok (e.checkKeys p v a), after⟩ := by
  intro _
  obtain ⟨u, requested, same, logged⟩ := (settled.mappings v p a).1 kept
  refine ⟨⟨_, logged, same⟩, fun call hc serves => ?_⟩
  cases call with
  | deconstructKeys w requested' r =>
    obtain ⟨b, rfl⟩ := settled.answered _ hc
    have kept' := (settled.mappings v p b).2 ⟨w, requested', serves, hc⟩
    cases kept.symm.trans kept'
    rfl
  | _ => exact serves.elim

/-- No call has been made for a key under which nothing is kept. -/
theorem Settled.sequence_first (settled : e.Settled calls cache) {v : Value}
    (missing : cache.sequence? v = none) (r : Except EvalError (Deconstructed (List Value))) :
    ∀ old ∈ calls, ¬ e.config.keysCache.Repeats old (.deconstruct v r) := by
  intro old ho repeats
  cases old with
  | deconstruct u r' =>
    obtain ⟨a, rfl⟩ := settled.answered _ ho
    have kept := (settled.sequences v a).2 ⟨u, repeats, ho⟩
    cases missing.symm.trans kept
  | _ => exact repeats.elim

theorem Settled.mapping_first (settled : e.Settled calls cache) {v : Value} {p : HashPattern}
    (missing : cache.mapping? (e.mappingKey? v p.requestedKeys) = none)
    (r : Except EvalError (Deconstructed Mapping)) :
    ∀ old ∈ calls, ¬ e.config.keysCache.Repeats old (.deconstructKeys v p.requestedKeys r) := by
  intro old ho repeats
  cases old with
  | deconstructKeys u requested r' =>
    obtain ⟨a, rfl⟩ := settled.answered _ ho
    have kept := (settled.mappings v p a).2 ⟨u, requested, repeats, ho⟩
    cases missing.symm.trans kept
  | _ => exact repeats.elim

end Engine

namespace Engine

variable {σ : Type} (e : Engine σ)

/-- One question to a host that keeps a record. -/
def exchange (q : Question) (t : Standing (Recorded σ)) : Exchange (Standing (Recorded σ)) :=
  ⟨q, (e.recorded.silent.cached q t).1, (e.recorded.silent.cached q t).2⟩

/-- What a question makes of a moment. -/
def Passes (past : List (Exchange (Standing (Recorded σ)))) (x : Exchange (Standing (Recorded σ))) :
    Prop :=
  e.Moment (past ++ [x]) x.after.session.world.calls x.after.cache ∧
    ∀ a, x.answer = .ok a → e.Settled x.after.session.world.calls x.after.cache

variable {e} {past : List (Exchange (Standing (Recorded σ)))} {t : Standing (Recorded σ)}

theorem direct_calls {q : Question} (plain : q.opens = false) (s : Session (Recorded σ)) :
    ∃ more, (e.recorded.silent.direct q s).2.world.calls = s.world.calls ++ more ∧
      ∀ call ∈ more, call.isHook = false := by
  cases q with
  | sequence v => cases plain
  | mapping p v => cases plain
  | eval x => exact ⟨[_], rfl, by simp [Call.isHook]⟩
  | evalWith bs x => exact ⟨[_], rfl, by simp [Call.isHook]⟩
  | external r => exact ⟨[_], rfl, by simp [Call.isHook]⟩
  | caseEq p v => exact ⟨[_], rfl, by simp [Call.isHook]⟩
  | render v => exact ⟨[_], rfl, by simp [Call.isHook]⟩
  | store t v =>
    cases t with
    | localVar n => exact ⟨[], (List.append_nil _).symm, by simp⟩
    | external r => exact ⟨[_], rfl, by simp [Call.isHook]⟩
  | _ => exact ⟨[], (List.append_nil _).symm, by simp⟩

theorem recorded_deconstruct (v : Value) (world : Recorded σ) :
    e.recorded.silent.host.deconstruct v world =
      let (r, inside) := e.host.deconstruct v world.world
      (r, ⟨inside, world.calls ++ [.deconstruct v r]⟩) := rfl

theorem recorded_deconstructKeys (v : Value) (requested : Option (List Name))
    (world : Recorded σ) :
    e.recorded.silent.host.deconstructKeys v requested world =
      let (r, inside) := e.host.deconstructKeys v requested world.world
      (r, ⟨inside, world.calls ++ [.deconstructKeys v requested r]⟩) := rfl

theorem sequence_passes (m : e.Moment past t.session.world.calls t.cache)
    (settled : e.Settled t.session.world.calls t.cache) (v : Value) :
    e.Passes past (e.exchange (.sequence v) t) := by
  cases kept : t.cache.sequence? v with
  | some a =>
    simp only [Passes, exchange, e.recorded.silent.cached_sequence_kept kept]
    exact ⟨m.hit rfl (settled.sequence_snapshot kept _), fun _ _ => settled.countHit⟩
  | none =>
    simp only [Passes, exchange, e.recorded.silent.cached_sequence_asked kept,
      recorded_deconstruct]
    rcases e.host.deconstruct v t.session.world.world with ⟨r, inside⟩
    have gives (keeps : e.config.keysCache.Keeps (.sequence v)) :
        e.config.keysCache.Serves (.deconstruct v r) (.sequence v) ∧
          e.Gives (.deconstruct v r) (.sequence v) r := by
      obtain ⟨id, hid⟩ := Option.isSome_iff_exists.1 keeps
      exact ⟨⟨id, hid, hid⟩, rfl⟩
    refine ⟨m.asked rfl rfl (settled.sequence_first kept r) gives ?_ ?_, fun a answer => ?_⟩
    · exact t.cache.hookCalls_learnSequence v r
    · exact t.cache.hits_learnSequence v r
    · cases answer
      exact settled.learnSequence kept a

theorem mapping_passes (m : e.Moment past t.session.world.calls t.cache)
    (settled : e.Settled t.session.world.calls t.cache) (p : HashPattern) (v : Value) :
    e.Passes past (e.exchange (.mapping p v) t) := by
  cases kept : t.cache.mapping? (e.mappingKey? v p.requestedKeys) with
  | some a =>
    simp only [Passes, exchange, e.recorded.silent.cached_mapping_kept kept]
    exact ⟨m.hit rfl (settled.mapping_snapshot kept _), fun _ _ => settled.countHit⟩
  | none =>
    simp only [Passes, exchange, e.recorded.silent.cached_mapping_asked kept,
      recorded_deconstructKeys]
    rcases e.host.deconstructKeys v p.requestedKeys t.session.world.world with ⟨r, inside⟩
    have gives (keeps : e.config.keysCache.Keeps (.mapping p v)) :
        e.config.keysCache.Serves (.deconstructKeys v p.requestedKeys r) (.mapping p v) ∧
          e.Gives (.deconstructKeys v p.requestedKeys r) (.mapping p v)
            (r.map (e.checkKeys p v)) := by
      obtain ⟨id, hid⟩ := Option.isSome_iff_exists.1 keeps.1
      exact ⟨⟨⟨id, hid, hid⟩, .refl keeps.2 _⟩, rfl⟩
    refine ⟨m.asked rfl rfl (settled.mapping_first kept r) gives ?_ ?_, fun a answer => ?_⟩
    · exact t.cache.hookCalls_learnMapping _ r
    · exact t.cache.hits_learnMapping _ r
    · cases r with
      | error error => cases answer
      | ok a => exact settled.learnMapping kept a

/-- Every question passes on what holds at a moment. -/
theorem passes (m : e.Moment past t.session.world.calls t.cache)
    (settled : e.Settled t.session.world.calls t.cache) (q : Question) :
    e.Passes past (e.exchange q t) := by
  rcases q.opens_cases with ⟨v, rfl⟩ | ⟨p, v, rfl⟩ | plain
  · exact sequence_passes m settled v
  · exact mapping_passes m settled p v
  · obtain ⟨more, calls, noHooks⟩ := direct_calls (e := e) plain t.session
    have cache : (e.exchange q t).after.cache = t.cache := by
      simp only [exchange, e.recorded.silent.cached_of_plain plain]
      rfl
    have after : (e.exchange q t).after.session.world.calls = t.session.world.calls ++ more := by
      simp only [exchange, e.recorded.silent.cached_of_plain plain]
      exact calls
    rw [Passes, cache, after]
    exact ⟨m.quiet plain noHooks, fun _ _ => settled.quiet noHooks⟩

variable (e)

theorem moment_of_transcript {d : Dialogue Value} {s : Session (Recorded σ)}
    (start : s.world.calls = []) {future : List (Exchange _)} {x : Exchange _}
    (moment : transcript e.recorded.silent.cached d ⟨s, .empty⟩ = past ++ x :: future) :
    e.Moment (past ++ [x]) x.after.session.world.calls x.after.cache := by
  have step : ∀ past q (t : Standing (Recorded σ)),
      e.Moment past t.session.world.calls t.cache ∧ e.Settled t.session.world.calls t.cache →
      e.Moment (past ++ [e.exchange q t]) (e.exchange q t).after.session.world.calls
        (e.exchange q t).after.cache ∧
      ∀ a, (e.recorded.silent.cached q t).1 = .ok a →
        e.Moment (past ++ [e.exchange q t]) (e.exchange q t).after.session.world.calls
          (e.exchange q t).after.cache ∧
        e.Settled (e.exchange q t).after.session.world.calls (e.exchange q t).after.cache := by
    rintro past q t ⟨m, settled⟩
    obtain ⟨later, kept⟩ := passes m settled q
    exact ⟨later, fun a answer => ⟨later, kept a answer⟩⟩
  -- once a hook has failed nothing is asked any more, so only `Moment` is left behind
  have first : e.Moment ([] : List (Exchange (Standing (Recorded σ)))) s.world.calls .empty ∧
      e.Settled s.world.calls .empty := by
    rw [start]
    exact ⟨moment_empty, settled_empty⟩
  exact transcript_invariant
    (I := fun past t => e.Moment past t.session.world.calls t.cache ∧
      e.Settled t.session.world.calls t.cache)
    (P := fun past t => e.Moment past t.session.world.calls t.cache) step first moment

/-- At every moment of a dispatch, no two calls of a hook were for one key: a value was asked for
its sequence at most once, and for its mapping at most once for each set of requested keys, or at
most once at all, as the policy has it. Every request with a key so far got the answer of the one
call for its key, checked against the keys of its own pattern. The counts are those of the calls
made and of the list and hash patterns reached. The moments are those of the dispatch itself, up to
its end, and the record of its calls does not change it. -/
theorem hooks_called_once (c : CaseExpr) (s : Session σ) :
    let start : Standing (Recorded σ) := ⟨s.withRecord [], .empty⟩
    let moments := transcript e.recorded.silent.cached (Persistent.evalCase e.names c) start
    let ending := e.recorded.silent.evalCase c start.session
    e.silent.evalCase c s = (ending.1, ending.2.forget) ∧
    ((moments.map Exchange.after).getLastD start).session = ending.2 ∧
    ∀ past x future, moments = past ++ x :: future →
      e.Moment (past ++ [x]) x.after.session.world.calls x.after.cache := by
  intro start moments ending
  refine ⟨e.evalCase_forget _ c (s.withRecord []), ?_, fun past x future moment => ?_⟩
  · rw [getLastD_transcript]
    exact (congrArg Prod.snd (e.recorded.evalCase_eq_ending c (s.withRecord []))).symm
  · exact e.moment_of_transcript rfl moment

end Engine

end PatternDispatch
