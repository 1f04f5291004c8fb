import PatternDispatch.Proofs.CacheTransparency

/-! Where kept answers come from. A host may answer differently each time, and hooks may keep state.
Still every kept answer is one that the host gave, for a value that patterns have met and that
shares the key, and what is found in it are values that can be met. -/
namespace PatternDispatch

open Dialogue

/-- Values that can be met when patterns are matched against `roots`, in whatever states the host is
asked. -/
inductive Host.Meets {σ : Type} (h : Host σ) (roots : Value → Prop) : Value → Prop where
  | root {v : Value} (hv : roots v) : Meets h roots v
  | item {v u : Value} {items : List Value} {w w' : σ} (inside : Meets h roots v)
    (answer : h.deconstruct v w = (.ok (.supported items), w')) (hu : u ∈ items) : Meets h roots u
  | entry {v : Value} {requested : Option (List Name)} {m : Mapping} {pair : Value × Value}
    {w w' : σ} (inside : Meets h roots v)
    (answer : h.deconstructKeys v requested w = (.ok (.supported m), w')) (hp : pair ∈ m.pairs) :
    Meets h roots pair.2

namespace Engine

variable {σ : Type} (e : Engine σ) (roots : Value → Prop)

/-- The host has an answer to a request, or to one that shares its key. -/
def Offers (v : Value) (requested : Option (List Name)) (answer : Deconstructed Mapping) : Prop :=
  ∃ u requested' w w', e.host.Meets roots u ∧
    (u = v ∧ requested' = requested ∨
      Shared (e.mappingKey? u requested') (e.mappingKey? v requested)) ∧
    e.host.deconstructKeys u requested' w = (.ok answer, w')

/-- Every kept answer was given by the host for a value that was met. -/
structure Genuine (cache : Cache) : Prop where
  items {v : Value} {answer : Deconstructed (List Value)} (kept : cache.sequence? v = some answer) :
    ∃ u w w', e.host.Meets roots u ∧ e.host.deconstruct u w = (.ok answer, w')
  pairs {v : Value} {requested : Option (List Name)} {answer : Deconstructed Mapping}
    (kept : cache.mapping? (e.mappingKey? v requested) = some answer) :
    e.Offers roots v requested answer

variable {e roots} {cache : Cache} {t : Standing σ} {v : Value}

theorem genuine_empty : e.Genuine roots .empty where
  items kept := by simp at kept
  pairs kept := by simp at kept

theorem Genuine.countHit (genuine : e.Genuine roots cache) : e.Genuine roots cache.countHit where
  items := genuine.items
  pairs := genuine.pairs

theorem Genuine.learnSequence (genuine : e.Genuine roots cache) (met : e.host.Meets roots v)
    (missing : cache.sequence? v = none) {w w' : σ}
    {r : Except EvalError (Deconstructed (List Value))}
    (answer : e.host.deconstruct v w = (r, w')) :
    e.Genuine roots (cache.learnSequence v r) where
  items kept := by
    rcases (Cache.sequence?_learnSequence _ missing).1 kept with old | ⟨-, rfl⟩
    · exact genuine.items old
    · exact ⟨v, w, w', met, answer⟩
  pairs kept := genuine.pairs (by simpa using kept)

theorem Genuine.learnMapping (genuine : e.Genuine roots cache) (met : e.host.Meets roots v)
    {requested : Option (List Name)} (missing : cache.mapping? (e.mappingKey? v requested) = none)
    {w w' : σ} {r : Except EvalError (Deconstructed Mapping)}
    (answer : e.host.deconstructKeys v requested w = (r, w')) :
    e.Genuine roots (cache.learnMapping (e.mappingKey? v requested) r) where
  items kept := genuine.items (by simpa using kept)
  pairs kept := by
    rcases (Cache.mapping?_learnMapping _ missing).1 kept with old | ⟨shared, rfl⟩
    · exact genuine.pairs old
    · exact ⟨v, requested, w, w', met, .inr shared, answer⟩

/-- What the host gives holds values that can be met. -/
theorem Offers.meets {requested : Option (List Name)} {m : Mapping}
    (given : e.Offers roots v requested (.supported m)) :
    ∀ pair ∈ m.pairs, e.host.Meets roots pair.2 := by
  obtain ⟨u, requested', w, w', met, -, answer⟩ := given
  intro pair hp
  exact .entry met answer hp

theorem cached_sequence_genuine (genuine : e.Genuine roots t.cache) (met : e.host.Meets roots v) :
    e.Genuine roots (e.cached (.sequence v) t).2.cache ∧
    ∀ answer, (e.cached (.sequence v) t).1 = .ok answer →
      ∃ u w w', e.host.Meets roots u ∧ e.host.deconstruct u w = (.ok answer, w') := by
  cases kept : t.cache.sequence? v with
  | some a =>
    rw [e.cached_sequence_kept kept]
    constructor
    · exact genuine.countHit
    · rintro _ ⟨⟩
      exact genuine.items kept
  | none =>
    rw [e.cached_sequence_asked kept]
    rcases answer : e.host.deconstruct v t.session.world with ⟨r, w'⟩
    constructor
    · exact genuine.learnSequence met kept answer
    · rintro a rfl
      exact ⟨v, _, w', met, answer⟩

/-- The answer to a request for a mapping is one that the host gives, up to the check of the keys,
or the failure of the host. -/
theorem cached_mapping_genuine (genuine : e.Genuine roots t.cache) (met : e.host.Meets roots v)
    (p : HashPattern) :
    e.Genuine roots (e.cached (.mapping p v) t).2.cache ∧
    ((∃ raw, (e.cached (.mapping p v) t).1 = .ok (e.checkKeys p v raw) ∧
        e.Offers roots v p.requestedKeys raw) ∨
      ∃ error w', e.host.deconstructKeys v p.requestedKeys t.session.world = (.error error, w') ∧
        (e.cached (.mapping p v) t).1 = .error error) := by
  cases kept : t.cache.mapping? (e.mappingKey? v p.requestedKeys) with
  | some a =>
    rw [e.cached_mapping_kept kept]
    constructor
    · exact genuine.countHit
    · exact .inl ⟨a, rfl, genuine.pairs kept⟩
  | none =>
    rw [e.cached_mapping_asked kept]
    rcases answer : e.host.deconstructKeys v p.requestedKeys t.session.world with ⟨r, w'⟩
    constructor
    · exact genuine.learnMapping met kept answer
    · cases r with
      | error error => exact .inr ⟨error, w', rfl, rfl⟩
      | ok raw => exact .inl ⟨raw, rfl, v, _, _, w', met, .inl ⟨rfl, rfl⟩, answer⟩

/-- Asked for values that can be met, a standing with genuine answers stays one, and what is found
in its answers can be met. -/
theorem cached_genuine {q : Question} (genuine : e.Genuine roots t.cache)
    (asked : (Contract.opening (e.host.Meets roots)).asks q) :
    e.Genuine roots (e.cached q t).2.cache ∧
    ∀ a, (e.cached q t).1 = .ok a → (Contract.opening (e.host.Meets roots)).answers q a := by
  rcases q.opens_cases with ⟨v, rfl⟩ | ⟨p, v, rfl⟩ | plain
  · obtain ⟨kept, given⟩ := cached_sequence_genuine genuine asked
    refine ⟨kept, ?_⟩
    rintro answer found items rfl u hu
    obtain ⟨v', w, w', met, answer⟩ := given _ found
    exact .item met answer hu
  · obtain ⟨kept, given⟩ := cached_mapping_genuine genuine asked p
    refine ⟨kept, ?_⟩
    rintro answer found m rfl pair hp
    rcases given with ⟨raw, checked, given⟩ | ⟨error, w', -, failed⟩
    · rw [found] at checked
      have same : raw = .supported m := checkKeys_supported (Except.ok.inj checked).symm
      subst same
      exact given.meets pair hp
    · cases found.symm.trans failed
  · rw [e.cached_of_plain plain]
    refine ⟨genuine, fun a _ => ?_⟩
    cases q with
    | sequence v => cases plain
    | mapping p v => cases plain
    | _ => trivial

end Engine

end PatternDispatch
